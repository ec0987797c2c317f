import FederatedSearch.Index.Record
import FederatedSearch.SearchOptions

/-!
# Sorting

Results are sorted by the first value of a field. Records without one come last in both
directions, and records that compare equal keep their order.

* `FederatedSearch.Index.sortKey?`: the direction and field that a sort specification names.
* `FederatedSearch.Index.sortRecords`: the records in the order of a specification.
-/

namespace FederatedSearch.Index

/-- **The direction and the field of a sort specification**, if it is one. -/
def sortKey? (spec : String) : Option (SortOrder × String) :=
  match spec.toList with
  | mark :: '0' :: c :: rest =>
    if mark == '+' then some (.ascending, .ofList (c :: rest))
    else if mark == '-' then some (.descending, .ofList (c :: rest))
    else none
  | _ => none

/-- **The order of two values that may be missing.** A missing one comes last; values that cannot
be compared are level. -/
def compareKeys (kind : FieldKind) (order : SortOrder) : Option String → Option String → Ordering
  | some a, some b =>
    let o := (compareValues kind a b).getD .eq
    if order = .descending then o.swap else o
  | some _, none => .lt
  | none, some _ => .gt
  | none, none => .eq

/-- A record may stand before another one in the order of a field. -/
def mayPrecede (kind : FieldKind) (order : SortOrder) (field : String) (a b : Record) : Bool :=
  compareKeys kind order (a.values field).head? (b.values field).head? != .gt

/-- **The records in the order of a sort specification**; those that compare equal keep their
order. -/
def sortRecords (b : Backend) (spec : String) (records : List Record) : List Record :=
  match sortKey? spec with
  | none => records
  | some (order, field) => records.mergeSort (mayPrecede (b.kindOf field) order field)

/-- Sorting loses no record and adds none. -/
theorem sortRecords_perm (b : Backend) (spec : String) (records : List Record) :
    (sortRecords b spec records).Perm records := by
  unfold sortRecords
  split
  · exact .refl _
  · exact List.mergeSort_perm _ _

/-- Reading the specification of options gives back their direction and field. -/
theorem sortKey?_sortSpec {o : SearchOptions} {field : String} (h : o.sortBy = some field)
    (hne : field ≠ "") : sortKey? o.sortSpec = some (o.sortOrder, field) := by
  have hempty : field.isEmpty = false := by
    rw [Bool.eq_false_iff]
    exact fun hc => hne (String.isEmpty_iff.1 hc)
  obtain ⟨c, rest, hcs⟩ : ∃ c rest, field.toList = c :: rest := by
    cases hl : field.toList with
    | nil => exact absurd (String.toList_eq_nil_iff.1 hl) hne
    | cons c rest => exact ⟨c, rest, rfl⟩
  have hback : String.ofList (c :: rest) = field := by rw [← hcs, String.ofList_toList]
  simp only [SearchOptions.sortSpec, h, hempty, Bool.false_eq_true, if_false, sortKey?,
    String.toList_ofList, hcs]
  cases o.sortOrder <;> simp [SortOrder.mark, hback]

end FederatedSearch.Index
