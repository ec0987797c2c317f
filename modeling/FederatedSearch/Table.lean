/-!
# Tables

A table holds values under keys, in ascending order of its keys. What was put under a key is found
there (`FederatedSearch.Table.find?_insert`), and what was taken away is not.
-/

namespace FederatedSearch

/-- **A table**: keys in ascending order, each with a value. -/
abbrev Table (κ α : Type) := List (κ × α)

namespace Table

variable {κ α : Type}

/-- Put a value under a key, in place of the one that is there. -/
def insert (cmp : κ → κ → Ordering) (key : κ) (value : α) : Table κ α → Table κ α
  | [] => [(key, value)]
  | (k, v) :: rest =>
    match cmp key k with
    | .lt => (key, value) :: (k, v) :: rest
    | .eq => (key, value) :: rest
    | .gt => (k, v) :: insert cmp key value rest

variable [DecidableEq κ]

/-- The value under a key. -/
def find? (key : κ) : Table κ α → Option α
  | [] => none
  | (k, v) :: rest => if k = key then some v else find? key rest

/-- The table without a key. -/
def erase (key : κ) (t : Table κ α) : Table κ α := t.filter (·.1 ≠ key)

/-- The key is in the table. -/
def has (key : κ) (t : Table κ α) : Bool := (find? key t).isSome

@[simp] theorem find?_nil (key : κ) : find? key ([] : Table κ α) = none := rfl

@[simp] theorem find?_cons (key k : κ) (v : α) (rest : Table κ α) :
    find? key ((k, v) :: rest) = if k = key then some v else find? key rest := rfl

/-- **What was put under a key is found there**, and nothing changes under other keys. -/
theorem find?_insert {cmp : κ → κ → Ordering} (hcmp : ∀ a b, cmp a b = .eq ↔ a = b)
    (key k : κ) (v : α) (t : Table κ α) :
    find? key (insert cmp k v t) = if k = key then some v else find? key t := by
  induction t with
  | nil => simp [insert]
  | cons m rest ih =>
    obtain ⟨l, w⟩ := m
    unfold insert
    split
    · simp
    · rename_i h
      have heq : k = l := (hcmp k l).1 h
      subst heq
      simp only [find?_cons]
      split <;> rfl
    · rename_i h
      have hne : ¬ k = l := fun hk => by simp [(hcmp k l).2 hk] at h
      simp only [find?_cons, ih]
      split
      · rename_i hl
        have hk : ¬ k = key := fun hk => hne (hk.trans hl.symm)
        simp [hk]
      · rfl

/-- **What was taken away is not found**, and nothing changes under other keys. -/
theorem find?_erase (key k : κ) (t : Table κ α) :
    find? key (erase k t) = if k = key then none else find? key t := by
  induction t with
  | nil => simp [erase]
  | cons m rest ih =>
    obtain ⟨l, w⟩ := m
    unfold erase at ih ⊢
    by_cases h : l = k
    · subst h
      simp only [List.filter, ne_eq, not_true_eq_false, decide_false, find?_cons]
      rw [ih]
      split <;> simp_all
    · simp only [List.filter, ne_eq, h, not_false_eq_true, decide_true, find?_cons]
      rw [ih]
      by_cases hl : l = key
      · subst hl
        simp [Ne.symm h]
      · simp [hl]

end Table

end FederatedSearch
