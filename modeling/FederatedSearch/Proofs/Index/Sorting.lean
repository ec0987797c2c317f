import FederatedSearch.Index.Demo
import FederatedSearch.Proofs.Engine.Hits
import FederatedSearch.Proofs.Index.Value

/-!
# Sorted results

The comparison of two values that may be missing is oriented for all texts. It is transitive on
the values that are readable, and where a text is not readable it is level with every present
value, so that two values on its two sides need not be in order
(`FederatedSearch.Index.compareKeys_lawful_iff`). Where all first values of the found records are
readable, the sort is a stable one: the records with a value in its order, then those without
(`FederatedSearch.Index.sortRecords_sorted`), and this is what an execution appends to a cursor
(`FederatedSearch.Server.execute_sorted`).

* `FederatedSearch.Index.InOrder`: a value may stand before another one.
* `FederatedSearch.Index.isLevel`: two values, one of which or both may be missing, are level.
* `FederatedSearch.Index.SortedBy`: a list of records is the stable sort of another one.
-/

namespace FederatedSearch.Index

/-! ### The order of values that may be missing -/

section Keys

variable {kind : FieldKind} {order : SortOrder} {u v w : String} {a b c : Option String}

/-- An order as it counts in a direction. -/
def directed (order : SortOrder) (o : Ordering) : Ordering :=
  if order = .descending then o.swap else o

@[simp] theorem directed_ascending (o : Ordering) : directed .ascending o = o := rfl

@[simp] theorem directed_descending (o : Ordering) : directed .descending o = o.swap := rfl

theorem directed_swap (order : SortOrder) (o : Ordering) :
    directed order o.swap = (directed order o).swap := by
  cases order <;> rfl

theorem directed_eq_eq {o : Ordering} : directed order o = .eq ↔ o = .eq := by
  cases order <;> cases o <;> simp

/-- Two present values compare in the direction as they do by themselves. -/
theorem compareKeys_some_some (kind : FieldKind) (order : SortOrder) (v w : String) :
    compareKeys kind order (some v) (some w) =
      directed order ((compareValues kind v w).getD .eq) := rfl

/-- **The comparison is oriented**, whatever the texts. -/
theorem compareKeys_swap (kind : FieldKind) (order : SortOrder) (a b : Option String) :
    compareKeys kind order b a = (compareKeys kind order a b).swap := by
  cases a with
  | none => cases b <;> rfl
  | some v =>
    cases b with
    | none => rfl
    | some w =>
      rw [compareKeys_some_some, compareKeys_some_some, compareValues_swap kind v w,
        ← directed_swap]
      cases compareValues kind v w <;> rfl

/-- A value that cannot be read is level with every present one. -/
theorem compareKeys_of_not_isReadable
    (h : isReadable kind v = false ∨ isReadable kind w = false) :
    compareKeys kind order (some v) (some w) = .eq := by
  have hnone : compareValues kind v w = none := by
    rw [← Option.not_isSome_iff_eq_none, isSome_compareValues_iff]
    rintro ⟨hv, hw⟩
    rcases h with h | h <;> simp_all
  rw [compareKeys_some_some, hnone]
  exact directed_eq_eq.2 rfl

/-- The order of values is transitive in both directions. -/
theorem directed_trans {o p q : Ordering} (huv : compareValues kind u v = some o)
    (hvw : compareValues kind v w = some p) (huw : compareValues kind u w = some q)
    (ho : (directed order o).isLE) (hp : (directed order p).isLE) : (directed order q).isLE := by
  cases order with
  | ascending => exact compareValues_trans huv hvw huw ho hp
  | descending =>
    have hback : ∀ {x y : String} {t : Ordering}, compareValues kind x y = some t →
        compareValues kind y x = some t.swap := fun h => by
      rw [compareValues_swap, h, Option.map_some]
    exact compareValues_trans (hback hvw) (hback huv) (hback huw) hp ho

/-- **The comparison is transitive on readable values**, with missing ones among them or not. -/
theorem compareKeys_trans (ha : ∀ v ∈ a, isReadable kind v = true)
    (hb : ∀ v ∈ b, isReadable kind v = true) (hc : ∀ v ∈ c, isReadable kind v = true)
    (hab : compareKeys kind order a b ≠ .gt) (hbc : compareKeys kind order b c ≠ .gt) :
    compareKeys kind order a c ≠ .gt := by
  cases c with
  | none => cases a <;> simp [compareKeys]
  | some w =>
    cases b with
    | none => simp [compareKeys] at hbc
    | some v =>
      cases a with
      | none => simp [compareKeys] at hab
      | some u =>
        obtain ⟨o, ho⟩ := exists_compareValues (ha u rfl) (hb v rfl)
        obtain ⟨p, hp⟩ := exists_compareValues (hb v rfl) (hc w rfl)
        obtain ⟨q, hq⟩ := exists_compareValues (ha u rfl) (hc w rfl)
        rw [compareKeys_some_some, ho] at hab
        rw [compareKeys_some_some, hp] at hbc
        rw [compareKeys_some_some, hq]
        exact Ordering.isLE_iff_ne_gt.1
          (directed_trans ho hp hq (Ordering.isLE_iff_ne_gt.2 hab) (Ordering.isLE_iff_ne_gt.2 hbc))

/-- Where all present values are level with each other, only the missing ones count. -/
theorem compareKeys_trans_of_level (hlevel : ∀ v ∈ a, ∀ w ∈ c,
      compareKeys kind order (some v) (some w) = .eq)
    (hab : compareKeys kind order a b ≠ .gt) (hbc : compareKeys kind order b c ≠ .gt) :
    compareKeys kind order a c ≠ .gt := by
  cases c with
  | none => cases a <;> simp [compareKeys]
  | some w =>
    cases a with
    | some v => simp [hlevel v rfl w rfl]
    | none =>
      cases b with
      | none => exact hbc
      | some u => simp [compareKeys] at hab

/-- Two present values are level where one of them cannot be read, or the readable ones are
level. -/
theorem compareKeys_eq_of_level (h : isReadable kind v = true → isReadable kind w = true →
    compareValues kind v w = some .eq) : compareKeys kind order (some v) (some w) = .eq := by
  by_cases hv : isReadable kind v = true
  · by_cases hw : isReadable kind w = true
    · rw [compareKeys_some_some, h hv hw]
      exact directed_eq_eq.2 rfl
    · exact compareKeys_of_not_isReadable (.inr (by simpa using hw))
  · exact compareKeys_of_not_isReadable (.inl (by simpa using hv))

/-- Two readable values that may come in either order are level. -/
theorem compareValues_eq_of_not_gt (hv : isReadable kind v = true) (hw : isReadable kind w = true)
    (hvw : compareKeys kind order (some v) (some w) ≠ .gt)
    (hwv : compareKeys kind order (some w) (some v) ≠ .gt) : compareValues kind v w = some .eq := by
  obtain ⟨o, ho⟩ := exists_compareValues hv hw
  rw [compareKeys_swap kind order (some v) (some w)] at hwv
  have heq : compareKeys kind order (some v) (some w) = .eq := by
    cases h : compareKeys kind order (some v) (some w) <;> simp_all
  rw [compareKeys_some_some, ho] at heq
  exact ho.trans (congrArg some (directed_eq_eq.1 heq))

/-- **When the comparison is a total preorder.** It is oriented for all texts. On a set of values,
some of which may be missing, it is transitive if and only if all present ones are readable, or
the readable ones are level with each other. -/
theorem compareKeys_lawful_iff (kind : FieldKind) (order : SortOrder) (S : Set (Option String)) :
    (∀ a b, compareKeys kind order b a = (compareKeys kind order a b).swap) ∧
      ((∀ a ∈ S, ∀ b ∈ S, ∀ c ∈ S, compareKeys kind order a b ≠ .gt →
          compareKeys kind order b c ≠ .gt → compareKeys kind order a c ≠ .gt) ↔
        (∀ v, some v ∈ S → isReadable kind v = true) ∨
          ∀ v w, some v ∈ S → some w ∈ S → isReadable kind v = true → isReadable kind w = true →
            compareValues kind v w = some .eq) := by
  refine ⟨compareKeys_swap kind order, ⟨fun htrans => ?_, ?_⟩⟩
  · refine or_iff_not_imp_left.2 fun hunread v w hv hw hrv hrw => ?_
    push Not at hunread
    obtain ⟨u, hu, hru⟩ := hunread
    replace hru : isReadable kind u = false := by simpa using hru
    -- a text that cannot be read lies between any two values, in both directions
    have hbetween : ∀ x y, some x ∈ S → some y ∈ S →
        compareKeys kind order (some x) (some y) ≠ .gt := fun x y hx hy =>
      htrans _ hx _ hu _ hy (by simp [compareKeys_of_not_isReadable (.inr hru)])
        (by simp [compareKeys_of_not_isReadable (.inl hru)])
    exact compareValues_eq_of_not_gt hrv hrw (hbetween v w hv hw) (hbetween w v hw hv)
  · rintro (hread | hlevel) a ha b hb c hc
    · exact compareKeys_trans (fun v hv => hread v (hv ▸ ha)) (fun v hv => hread v (hv ▸ hb))
        (fun v hv => hread v (hv ▸ hc))
    · exact compareKeys_trans_of_level fun v hv w hw =>
        compareKeys_eq_of_level (hlevel v w (hv ▸ ha) (hw ▸ hc))

/-- A text that is no date lies between a day and an earlier one. -/
theorem not_forall_compareKeys_lawful :
    ¬ ∀ (kind : FieldKind) (order : SortOrder) (a b c : Option String),
      compareKeys kind order b a = (compareKeys kind order a b).swap ∧
        (compareKeys kind order a b ≠ .gt → compareKeys kind order b c ≠ .gt →
          compareKeys kind order a c ≠ .gt) := fun h =>
  (h .date .ascending (some "2020-01-02") (some "unknown") (some "2020-01-01")).2
    (by decide +kernel) (by decide +kernel) (by decide +kernel)

end Keys

/-! ### Sorting with an order on the members -/

section MergeSort

variable {α : Type} {le : α → α → Bool} {l : List α}

/-- Sorting a list is sorting the list of its members. -/
theorem mergeSort_attach (le : α → α → Bool) (l : List α) :
    (l.attach.mergeSort fun a b => le a.1 b.1).map Subtype.val = l.mergeSort le := by
  rw [List.map_mergeSort (s := le) fun a _ b _ => rfl, List.attach_map_subtype_val]

variable (trans : ∀ a ∈ l, ∀ b ∈ l, ∀ c ∈ l, le a b = true → le b c = true → le a c = true)
  (total : ∀ a ∈ l, ∀ b ∈ l, (le a b || le b a) = true)

include trans total

/-- **The result is in order** where the order is transitive and total on the members. -/
theorem pairwise_mergeSort_of_mem : (l.mergeSort le).Pairwise fun a b => le a b = true := by
  rw [← mergeSort_attach, List.pairwise_map]
  exact List.pairwise_mergeSort (fun a b c => trans a.1 a.2 b.1 b.2 c.1 c.2)
    (fun a b => total a.1 a.2 b.1 b.2) l.attach

/-- A part of the list that is in order stands in the result in its order. -/
theorem sublist_mergeSort_of_mem {part : List α} (hpart : part.Sublist l)
    (hordered : part.Pairwise fun a b => le a b = true) : part.Sublist (l.mergeSort le) := by
  obtain ⟨m, hm, rfl⟩ := List.sublist_map_iff.1 (List.attach_map_subtype_val l ▸ hpart)
  have hmembers : m.Pairwise fun a b => le a.1 b.1 = true := List.pairwise_map.1 hordered
  rw [← mergeSort_attach]
  exact (List.sublist_mergeSort (fun a b c => trans a.1 a.2 b.1 b.2 c.1 c.2)
    (fun a b => total a.1 a.2 b.1 b.2) hmembers hm).map _

/-- **Members that are level with each other stay in their order.** -/
theorem filter_mergeSort_of_mem {p : α → Bool}
    (hlevel : ∀ a ∈ l, ∀ b ∈ l, p a = true → p b = true → le a b = true) :
    (l.mergeSort le).filter p = l.filter p := by
  have hordered : (l.filter p).Pairwise fun a b => le a b = true :=
    List.pairwise_of_forall_mem_list fun a ha b hb =>
      have ⟨hal, hpa⟩ := List.mem_filter.1 ha
      have ⟨hbl, hpb⟩ := List.mem_filter.1 hb
      hlevel a hal b hbl hpa hpb
  have hsublist : (l.filter p).Sublist ((l.mergeSort le).filter p) := by
    simpa using (sublist_mergeSort_of_mem trans total List.filter_sublist hordered).filter p
  exact (hsublist.eq_of_length ((List.mergeSort_perm l le).filter p).length_eq.symm).symm

omit trans total

/-- What must come first stands before the rest. -/
theorem eq_filter_append_of_pairwise {p : α → Bool}
    (h : l.Pairwise fun a b => p b = true → p a = true) :
    l = l.filter p ++ l.filter (!p ·) := by
  induction l with
  | nil => rfl
  | cons a l ih =>
    obtain ⟨hfirst, hrest⟩ := List.pairwise_cons.1 h
    cases ha : p a with
    | true => simpa [ha] using ih hrest
    | false =>
      have hnone : l.filter p = [] := List.filter_eq_nil_iff.2 fun b hb hpb => by
        simpa [ha] using hfirst b hb hpb
      have hall := ih hrest
      rw [hnone, List.nil_append] at hall
      simpa [ha, hnone] using hall

end MergeSort

/-! ### Records in the order of a field -/

/-- The value that a record is sorted by: the first one of the field. -/
def firstValue? (field : String) (r : Record) : Option String := (r.values field).head?

/-- **A value may stand before another one**: the two can be compared, and the other one is not
less when the least come first, and not greater when the greatest do. -/
def InOrder (kind : FieldKind) (order : SortOrder) (v w : String) : Prop :=
  ∃ o, compareValues kind v w = some o ∧
    match order with
    | .ascending => o ≠ .gt
    | .descending => o ≠ .lt

/-- Two values are level: both are missing, or both are present and compare equal. -/
def isLevel (kind : FieldKind) : Option String → Option String → Bool
  | some v, some w => compareValues kind v w == some .eq
  | none, none => true
  | _, _ => false

/-- **A list of records is the stable sort of another one** by the first value of a field. -/
structure SortedBy (kind : FieldKind) (order : SortOrder) (field : String)
    (given sorted : List Record) : Prop where
  /-- No record is lost and none is added. -/
  perm : sorted.Perm given
  /-- The records without a value come last, in the order in which they were given. -/
  missing_last : sorted = sorted.filter (fun r => (firstValue? field r).isSome) ++
    given.filter (fun r => (firstValue? field r).isNone)
  /-- The values of the others are in order. -/
  ordered : (sorted.filterMap (firstValue? field)).Pairwise (InOrder kind order)
  /-- Records whose values are level are in the order in which they were given. -/
  stable : ∀ key, sorted.filter (fun r => isLevel kind key (firstValue? field r)) =
    given.filter (fun r => isLevel kind key (firstValue? field r))

section Records

variable {kind : FieldKind} {order : SortOrder} {field : String} {records : List Record}

theorem mayPrecede_iff {r s : Record} : mayPrecede kind order field r s = true ↔
    compareKeys kind order (firstValue? field r) (firstValue? field s) ≠ .gt := by
  simp [mayPrecede, firstValue?]

/-- Two present values of which one may come first are in order. -/
theorem inOrder_of_compareKeys {v w : String} (hv : isReadable kind v = true)
    (hw : isReadable kind w = true) (h : compareKeys kind order (some v) (some w) ≠ .gt) :
    InOrder kind order v w := by
  obtain ⟨o, ho⟩ := exists_compareValues hv hw
  rw [compareKeys_some_some, ho] at h
  refine ⟨o, ho, ?_⟩
  cases order with
  | ascending => exact h
  | descending => exact fun hlt => h (by rw [hlt]; rfl)

/-- Two values that are level with a third one may come in either order. -/
theorem compareKeys_of_isLevel {a b key : Option String}
    (ha : ∀ v ∈ a, isReadable kind v = true) (hb : ∀ v ∈ b, isReadable kind v = true)
    (hka : isLevel kind key a = true) (hkb : isLevel kind key b = true) :
    compareKeys kind order a b ≠ .gt := by
  cases key with
  | none => cases a <;> cases b <;> simp_all [isLevel, compareKeys]
  | some k =>
    cases a with
    | none => simp [isLevel] at hka
    | some v =>
      cases b with
      | none => simp [isLevel] at hkb
      | some w =>
        simp only [isLevel, beq_iff_eq] at hka hkb
        have hk : isReadable kind k = true :=
          (isSome_compareValues_iff.1 (Option.isSome_of_eq_some hka)).1
        have hvk : compareKeys kind order (some v) (some k) = .eq := by
          rw [compareKeys_some_some, compareValues_swap, hka]
          exact directed_eq_eq.2 rfl
        have hkw : compareKeys kind order (some k) (some w) = .eq := by
          rw [compareKeys_some_some, hkb]
          exact directed_eq_eq.2 rfl
        refine compareKeys_trans (b := some k) ha (fun x hx => ?_) hb (by simp [hvk])
          (by simp [hkw])
        exact Option.mem_some.1 hx ▸ hk

/-- Any two records may be put in one of the two orders. -/
theorem mayPrecede_total (r s : Record) :
    (mayPrecede kind order field r s || mayPrecede kind order field s r) = true := by
  rw [Bool.or_eq_true, mayPrecede_iff, mayPrecede_iff,
    compareKeys_swap kind order (firstValue? field r)]
  cases compareKeys kind order (firstValue? field r) (firstValue? field s) <;> simp

/-- A record with a value never comes after one without. -/
theorem isSome_of_mayPrecede {r s : Record} (h : mayPrecede kind order field r s = true)
    (hs : (firstValue? field s).isSome = true) : (firstValue? field r).isSome = true := by
  rw [mayPrecede_iff] at h
  cases hr : firstValue? field r with
  | some v => rfl
  | none =>
    obtain ⟨w, hw⟩ := Option.isSome_iff_exists.1 hs
    simp [hr, hw, compareKeys] at h

theorem isLevel_none (kind : FieldKind) (a : Option String) : isLevel kind none a = a.isNone := by
  cases a <;> rfl

/-- **Sorting by readable values is a stable sort** with the missing ones last. -/
theorem mergeSort_sorted
    (hread : ∀ r ∈ records, ∀ v ∈ firstValue? field r, isReadable kind v = true) :
    SortedBy kind order field records (records.mergeSort (mayPrecede kind order field)) := by
  have htrans : ∀ r ∈ records, ∀ s ∈ records, ∀ t ∈ records,
      mayPrecede kind order field r s = true → mayPrecede kind order field s t = true →
        mayPrecede kind order field r t = true := by
    simp only [mayPrecede_iff]
    exact fun r hr s hs t ht => compareKeys_trans (hread r hr) (hread s hs) (hread t ht)
  have htotal : ∀ r ∈ records, ∀ s ∈ records,
      (mayPrecede kind order field r s || mayPrecede kind order field s r) = true :=
    fun r _ s _ => mayPrecede_total r s
  have hperm := List.mergeSort_perm records (mayPrecede kind order field)
  have hordered := pairwise_mergeSort_of_mem htrans htotal
  have hstable : ∀ key, (records.mergeSort (mayPrecede kind order field)).filter
        (fun r => isLevel kind key (firstValue? field r)) =
      records.filter (fun r => isLevel kind key (firstValue? field r)) := fun key =>
    filter_mergeSort_of_mem htrans htotal fun r hr s hs hkr hks =>
      mayPrecede_iff.2 (compareKeys_of_isLevel (hread r hr) (hread s hs) hkr hks)
  generalize records.mergeSort (mayPrecede kind order field) = sorted at hperm hordered hstable ⊢
  refine ⟨hperm, ?_, ?_, hstable⟩
  · have hmissing := hstable none
    simp only [isLevel_none] at hmissing
    rw [← hmissing]
    simpa using eq_filter_append_of_pairwise (p := fun r => (firstValue? field r).isSome)
      (hordered.imp isSome_of_mayPrecede)
  · refine List.pairwise_filterMap.2 (hordered.imp_of_mem fun {r s} hr hs hrs v hv w hw => ?_)
    rw [mayPrecede_iff, hv, hw] at hrs
    exact inOrder_of_compareKeys (hread r (hperm.mem_iff.1 hr) v hv)
      (hread s (hperm.mem_iff.1 hs) w hw) hrs

/-- **The records in the order of a specification** that names a direction and a field. -/
theorem sortRecords_sorted {b : Backend} {spec : String}
    (hspec : sortKey? spec = some (order, field))
    (hread : ∀ r ∈ records, ∀ v ∈ firstValue? field r, isReadable (b.kindOf field) v = true) :
    SortedBy (b.kindOf field) order field records (sortRecords b spec records) := by
  unfold sortRecords
  rw [hspec]
  exact mergeSort_sorted hread

end Records

end FederatedSearch.Index

/-! ### What an execution appends -/

namespace FederatedSearch.Server

open Index Query

/-- **An execution that is sorted by a field appends the stable sort of the records it finds.**
The backend is up and answers, the session is open, and the first values of the field, where the
found records have one, are what the field's kind says. Then the hits that the execution appends
are those of the found records, sorted by exactly the field and the direction of the options. -/
theorem execute_sorted {s : Server} {p : Plan} {o : SearchOptions} {session field : String}
    {i : BackendIndex} {c : Cursor} (hfield : o.sortBy = some field) (hne : field ≠ "")
    (hindex : s.index? p.backend = some i) (havailable : s.available p.backend = true)
    (hanswers : s.silent.contains p.backend = false) (hcursor : s.cursor? session = some c)
    (hread : ∀ r ∈ i.records, (p.execution s.catalog o session).finds i.backend r = true →
      ∀ v ∈ firstValue? field r, isReadable (i.backend.kindOf field) v = true) :
    sortKey? o.sortSpec = some (o.sortOrder, field) ∧
      ∃ sorted s' c', s.execute (p.execution s.catalog o session) =
          (.ok (some ⟨s.elapsedOn p.backend, sorted.length⟩), s') ∧
        s'.cursor? session = some c' ∧
        c'.hits = c.hits ++ sorted.map (fun r => ⟨p.backend, r.id⟩) ∧
        SortedBy (i.backend.kindOf field) o.sortOrder field
          (i.records.filter ((p.execution s.catalog o session).finds i.backend)) sorted := by
  have hkey := sortKey?_sortSpec hfield hne
  have hsorted := sortRecords_sorted (b := i.backend) hkey fun r hr =>
    have ⟨hmem, hfinds⟩ := List.mem_filter.1 hr
    hread r hmem hfinds
  obtain ⟨x, hx⟩ : ∃ x, x = p.execution s.catalog o session := ⟨_, rfl⟩
  have hbackend : x.backend = p.backend := by rw [hx]; rfl
  have hsession : x.session = session := by rw [hx]; rfl
  have hcx : s.cursor? x.session = some c := by rw [hsession, hcursor]
  have hexecute : s.execute x =
      (.ok (some ⟨s.elapsedOn p.backend, (x.hits i).length⟩), s.afterExecution x i c) := by
    simp only [execute, hbackend, hanswers, havailable, hindex, hcx, Bool.false_eq_true, if_false,
      Bool.not_true]
  obtain ⟨c', hc', hhits⟩ := (afterExecution_extends (i := i) hcx).cursor c hcx
  rw [hsession] at hc'
  rw [Execution.hits, List.length_map] at hexecute
  rw [Execution.hits, hbackend] at hhits
  rw [← hx]
  refine ⟨hkey, x.found i, _, c', hexecute, hc', hhits, ?_⟩
  rw [Execution.found]
  subst hx
  exact hsorted

/-- All photos, the latest first. The story has no date, so it comes last. -/
theorem execute_sorted_of_photos :
    let s : Server :=
      { Server.ofDataset Demo.dataset with sessions := [("mem-00000001", .empty 1)] }
    let o : SearchOptions := { sortBy := some "ShotDate", sortOrder := .descending }
    let x := Plan.execution ⟨1, [10, 11], ⟨"all", .all, false⟩⟩ s.catalog o "mem-00000001"
    ∃ sorted s' c', s.execute x = (.ok (some ⟨.zero false, sorted.length⟩), s') ∧
      s'.cursor? "mem-00000001" = some c' ∧ c'.hits = sorted.map (fun r => ⟨1, r.id⟩) ∧
      SortedBy .date .descending "ShotDate" Demo.photosRecords sorted := by
  intro s o x
  have hread : ∀ r ∈ Demo.photosRecords, x.finds Demo.photosBackend r = true →
      ∀ v ∈ firstValue? "ShotDate" r, isReadable .date v = true := by
    have hall : (Demo.photosRecords.all fun r =>
        (firstValue? "ShotDate" r).all (isReadable .date)) = true := by decide +kernel
    intro r hr _ v hv
    simpa [Option.mem_def.1 hv] using List.all_eq_true.1 hall r hr
  have hfound : Demo.photosRecords.filter (x.finds Demo.photosBackend) = Demo.photosRecords :=
    List.filter_eq_self.2 (List.all_eq_true.1 (by decide +kernel))
  have hcursor : s.cursor? "mem-00000001" = some (.empty 1) := rfl
  obtain ⟨-, sorted, s', c', hexecute, hc', happended, hsorted⟩ :=
    execute_sorted (s := s) (p := ⟨1, [10, 11], ⟨"all", .all, false⟩⟩) (o := o)
      (i := ⟨Demo.photosBackend, some Demo.photosThesaurus, Demo.photosRecords⟩)
      rfl (by decide) rfl rfl rfl hcursor hread
  have hindexed := congrArg (SortedBy .date .descending "ShotDate" · sorted) hfound
  exact ⟨sorted, s', c', hexecute, hc', happended, hindexed.mp hsorted⟩

end FederatedSearch.Server
