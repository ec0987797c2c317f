import FederatedSearch.Index.Record
import FederatedSearch.Proofs.Number.Order
import FederatedSearch.Proofs.Text.Order

/-!
# The order of the values of a kind

A value is readable when it is what its field's kind says: any text, a number, or a text that
begins with a date. Two values can be compared if and only if both are readable
(`FederatedSearch.Index.isSome_compareValues_iff`), and among the readable ones the order is
oriented and transitive, whatever the kind.
-/

namespace FederatedSearch

/-! ### The order of days -/

instance : Std.TransCmp Calendar.Date.cmp :=
  inferInstanceAs <| Std.TransCmp <| compareLex (compareOn Calendar.Date.year) <|
    compareLex (compareOn Calendar.Date.month) (compareOn Calendar.Date.day)

namespace Index

/-! ### Readable values -/

/-- **The value is what the kind of its field says.** -/
def isReadable : FieldKind → String → Bool
  | .text, _ => true
  | .number, v => (number? v).any (· ≠ .nan)
  | .date, v => (Calendar.Date.ofField? v).isSome

@[simp] theorem isReadable_text (v : String) : isReadable .text v = true := rfl

@[simp] theorem isReadable_number (v : String) :
    isReadable .number v = (number? v).any (· ≠ .nan) := rfl

@[simp] theorem isReadable_date (v : String) :
    isReadable .date v = (Calendar.Date.ofField? v).isSome := rfl

variable {kind : FieldKind} {u v w : String}

/-- **Two values can be compared if and only if both are readable.** -/
theorem isSome_compareValues_iff :
    (compareValues kind v w).isSome = true ↔
      isReadable kind v = true ∧ isReadable kind w = true := by
  cases kind with
  | text => simp [compareValues]
  | number =>
    simp only [compareValues, isReadable_number]
    cases number? v with
    | none => simp
    | some x =>
      cases number? w with
      | none => simp
      | some y => simpa using Number.Binary64.isSome_compare?_iff
  | date =>
    simp only [compareValues, isReadable_date]
    cases Calendar.Date.ofField? v <;> cases Calendar.Date.ofField? w <;> simp

/-- Two readable values can be compared. -/
theorem exists_compareValues (hv : isReadable kind v = true) (hw : isReadable kind w = true) :
    ∃ o, compareValues kind v w = some o :=
  Option.isSome_iff_exists.1 (isSome_compareValues_iff.2 ⟨hv, hw⟩)

/-- **The order of values is oriented.** -/
theorem compareValues_swap (kind : FieldKind) (v w : String) :
    compareValues kind w v = (compareValues kind v w).map Ordering.swap := by
  cases kind with
  | text =>
    unfold compareValues
    rw [Option.map_some, ← Std.OrientedCmp.eq_swap]
  | number =>
    unfold compareValues
    cases number? v with
    | none => cases number? w <;> rfl
    | some x =>
      cases number? w with
      | none => rfl
      | some y => exact Number.Binary64.compare?_swap x y
  | date =>
    unfold compareValues
    cases Calendar.Date.ofField? v with
    | none => cases Calendar.Date.ofField? w <;> rfl
    | some x =>
      cases Calendar.Date.ofField? w with
      | none => rfl
      | some y => exact congrArg some Std.OrientedCmp.eq_swap

/-- **The order of values is transitive.** -/
theorem compareValues_trans {o p q : Ordering} (huv : compareValues kind u v = some o)
    (hvw : compareValues kind v w = some p) (huw : compareValues kind u w = some q)
    (ho : o.isLE) (hp : p.isLE) : q.isLE := by
  cases kind with
  | text =>
    simp only [compareValues, Option.some.injEq] at huv hvw huw
    subst huv hvw huw
    exact Std.TransCmp.isLE_trans ho hp
  | number =>
    simp only [compareValues, Option.bind_eq_bind, Option.bind_eq_some_iff] at huv hvw huw
    obtain ⟨x, hx, y, hy, hxy⟩ := huv
    obtain ⟨y', hy', z, hz, hyz⟩ := hvw
    obtain ⟨x', hx', z', hz', hxz⟩ := huw
    cases hx.symm.trans hx'
    cases hy.symm.trans hy'
    cases hz.symm.trans hz'
    exact Number.Binary64.compare?_trans hxy hyz hxz ho hp
  | date =>
    simp only [compareValues, Option.bind_eq_bind, Option.bind_eq_some_iff, pure,
      Option.some.injEq] at huv hvw huw
    obtain ⟨x, hx, y, hy, rfl⟩ := huv
    obtain ⟨y', hy', z, hz, rfl⟩ := hvw
    obtain ⟨x', hx', z', hz', rfl⟩ := huw
    cases hx.symm.trans hx'
    cases hy.symm.trans hy'
    cases hz.symm.trans hz'
    exact Std.TransCmp.isLE_trans ho hp

end Index

end FederatedSearch
