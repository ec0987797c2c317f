import FederatedSearch.Index.Server

/-!
# Indexes that lost records

Records are removed by their ids, one after the other, each from the first index of its backend.
What is left can be said of all removals at once: every index keeps the records that none of them
names, and a record is found by its id exactly as before unless it was removed.

* `FederatedSearch.BackendIndex.without`: an index that lost some records.
* `FederatedSearch.dropHits`: the indexes after some removals.
* `FederatedSearch.find?_dropHits`: the index of a backend after them.
* `FederatedSearch.BackendIndex.record?_without`: the record with an id after them.
-/

namespace FederatedSearch

/-! ### Lists whose first match is changed -/

namespace Server

section UpdateFirst

variable {α κ : Type} {f : α → α} {l : List α}

/-- Nothing changes where the first match is left as it is. -/
theorem updateFirst_eq_self {p : α → Bool} (h : ∀ a, l.find? p = some a → f a = a) :
    updateFirst p f l = l := by
  induction l with
  | nil => rfl
  | cons a rest ih =>
    rw [List.find?_cons] at h
    rw [updateFirst]
    cases hp : p a with
    | true =>
      rw [hp] at h
      rw [if_pos rfl, h a rfl]
    | false =>
      rw [hp] at h
      rw [if_neg (by decide), ih h]

/-- What a change leaves as it is of each element stays as it is of the list. -/
theorem map_updateFirst {key : α → κ} (hf : ∀ a, key (f a) = key a) (p : α → Bool) :
    (updateFirst p f l).map key = l.map key := by
  induction l with
  | nil => rfl
  | cons a rest ih =>
    rw [updateFirst]
    split
    · rw [List.map_cons, hf, List.map_cons]
    · rw [List.map_cons, ih, List.map_cons]

/-- **The first element with a key** after the one of some key was changed. -/
theorem find?_updateFirst [DecidableEq κ] (key : α → κ) (hf : ∀ a, key (f a) = key a) (k k' : κ) :
    (updateFirst (key · == k) f l).find? (key · == k') =
      if k = k' then (l.find? (key · == k')).map f else l.find? (key · == k') := by
  induction l with
  | nil => simp [updateFirst]
  | cons a rest ih =>
    rw [updateFirst]
    by_cases hk : key a = k
    · rw [if_pos (beq_iff_eq.2 hk), List.find?_cons, List.find?_cons, hf, hk]
      by_cases hkk' : k = k'
      · simp [hkk']
      · simp [hkk', beq_false_of_ne hkk']
    · rw [if_neg (by simpa using hk), List.find?_cons, ih, List.find?_cons]
      by_cases hk' : key a = k'
      · have hne : k ≠ k' := fun h => hk (hk'.trans h.symm)
        simp [hk', hne]
      · simp only [beq_false_of_ne hk']

end UpdateFirst

end Server

/-! ### Indexes that lost records -/

/-- The index without the records that some hits stand for. -/
def BackendIndex.without (removed : List Hit) (i : BackendIndex) : BackendIndex :=
  { i with records := i.records.filter fun r => ⟨i.backend.id, r.id⟩ ∉ removed }

/-- **The indexes after removals**, the last one first. -/
def dropHits (removed : List Hit) (indexes : List BackendIndex) : List BackendIndex :=
  removed.foldr
    (fun h => Server.updateFirst (·.backend.id == h.backend) (Server.dropRecord h.record)) indexes

/-- Removals leave the descriptions of the backends as they are. -/
theorem backends_dropHits (removed : List Hit) (indexes : List BackendIndex) :
    (dropHits removed indexes).map (·.backend) = indexes.map (·.backend) := by
  induction removed with
  | nil => rfl
  | cons h rest ih =>
    exact (Server.map_updateFirst (f := Server.dropRecord h.record) (fun _ => rfl) _).trans ih

namespace BackendIndex

variable {i : BackendIndex} {removed : List Hit}

/-- One more record is removed. -/
theorem without_cons (h : Hit) (removed : List Hit) (i : BackendIndex) :
    i.without (h :: removed) =
      if h.backend = i.backend.id then Server.dropRecord h.record (i.without removed)
      else i.without removed := by
  obtain ⟨backend, record⟩ := h
  by_cases hb : backend = i.backend.id
  · rw [if_pos hb]
    subst hb
    simp only [without, Server.dropRecord, List.filter_filter, List.mem_cons, Hit.mk.injEq,
      true_and, not_or, Bool.decide_and]
    refine congrArg (BackendIndex.mk _ _) (congrArg (List.filter · _) (funext fun r => ?_))
    by_cases hr : r.id = record <;> simp [hr]
  · rw [if_neg hb]
    simp only [without, List.mem_cons, Hit.mk.injEq, Ne.symm hb, false_and, false_or]

/-- **The record with an id after removals.** -/
theorem record?_without (id : Nat) : (i.without removed).record? id =
    if ⟨i.backend.id, id⟩ ∈ removed then none else i.record? id := by
  simp only [record?, without, List.find?_filter]
  split
  · rename_i hmem
    refine List.find?_eq_none.2 fun r _ => ?_
    simp only [decide_eq_true_eq, beq_iff_eq, not_and]
    rintro hr rfl
    exact hr hmem
  · rename_i hmem
    refine congrArg (List.find? · _) (funext fun r => ?_)
    by_cases hr : r.id = id
    · simp [hr, hmem]
    · simp [hr]

theorem without_nil (i : BackendIndex) : i.without [] = i :=
  congrArg (BackendIndex.mk _ _) (List.filter_eq_self.2 fun _ _ => by simp)

end BackendIndex

/-- **The index of a backend after removals** has lost all records that were removed. -/
theorem find?_dropHits (removed : List Hit) (indexes : List BackendIndex) (backend : Nat) :
    (dropHits removed indexes).find? (·.backend.id == backend) =
      (indexes.find? (·.backend.id == backend)).map (BackendIndex.without removed) := by
  induction removed with
  | nil =>
    rw [funext BackendIndex.without_nil]
    exact (congrFun Option.map_id _).symm
  | cons h rest ih =>
    refine (Server.find?_updateFirst (f := Server.dropRecord h.record)
      (fun i : BackendIndex => i.backend.id) (fun _ => rfl) _ _).trans ?_
    change (if h.backend = backend then
      Option.map _ ((dropHits rest indexes).find? (·.backend.id == backend)) else
        (dropHits rest indexes).find? (·.backend.id == backend)) = _
    rw [ih]
    cases hi : indexes.find? (·.backend.id == backend) with
    | none => simp
    | some i =>
      have hbackend : i.backend.id = backend := by simpa using List.find?_some hi
      simp only [Option.map_some, BackendIndex.without_cons, hbackend]
      split <;> rfl

end FederatedSearch
