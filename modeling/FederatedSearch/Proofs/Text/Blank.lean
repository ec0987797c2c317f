import FederatedSearch.Text.Blank
import Mathlib.Data.List.TakeWhile

/-!
# Words between blanks

The words of a text are not empty and hold no blank, and words like that, with one space between
them, are the words of the text that they make. So a text whose blanks have been collapsed is not
changed when they are collapsed again.

* `FederatedSearch.Text.splitBlank_intercalate`: **the words of words with spaces between them**.
* `FederatedSearch.Text.collapse_collapse`: collapsing once is enough.
* `FederatedSearch.Text.mem_of_mem_collapse`: collapsing adds nothing but spaces.
-/

namespace FederatedSearch.Text

/-! ### The blanks one by one -/

/-- The numbers of the blanks. -/
def blankNumbers : List Nat :=
  List.range' 9 5 ++ [0x20, 0x85, 0xA0, 0x1680] ++ List.range' 0x2000 11 ++
    [0x2028, 0x2029, 0x202F, 0x205F, 0x3000]

theorem toNat_mem_blankNumbers {c : Char} (h : isBlank c = true) :
    c.toNat ∈ blankNumbers := by
  simp only [isBlank, Bool.or_eq_true, Bool.and_eq_true, decide_eq_true_eq, beq_iff_eq] at h
  simp only [blankNumbers, List.mem_append, List.mem_range'_1, List.mem_cons, List.not_mem_nil]
  omega

/-- **What holds of the 25 blanks holds of every blank.** -/
theorem forall_isBlank {P : Char → Prop} (h : ∀ n ∈ blankNumbers, P (Char.ofNat n)) (c : Char)
    (hc : isBlank c = true) : P c := by
  rw [← Char.ofNat_toNat c]
  exact h c.toNat (toNat_mem_blankNumbers hc)

theorem isBlankText_append (s t : String) :
    isBlankText (s ++ t) = (isBlankText s && isBlankText t) := by
  simp only [isBlankText, String.toList_append, List.all_append]

/-- **A run without blanks**, and not an empty one. -/
structure IsRun (w : List Char) : Prop where
  ne_nil : w ≠ []
  not_blank : ∀ c ∈ w, isBlank c = false

/-! ### Splitting -/

/-- A text of blanks has no words. -/
theorem splitBlank_of_trimStart_eq_nil {cs : List Char} (h : trimStart cs = []) :
    splitBlank cs = [] := by
  rw [splitBlank]
  split
  · rfl
  · rename_i hcons
    rw [h] at hcons
    cases hcons

/-- The first word of a text starts where the blanks before it end. -/
theorem splitBlank_of_trimStart_eq_cons {cs rest : List Char} {c : Char}
    (h : trimStart cs = c :: rest) :
    splitBlank cs =
      (c :: rest.takeWhile (!isBlank ·)) :: splitBlank (rest.dropWhile (!isBlank ·)) := by
  rw [splitBlank]
  split
  · rename_i hnil
    rw [h] at hnil
    cases hnil
  · rename_i hcons
    obtain ⟨rfl, rfl⟩ := List.cons.inj (h.symm.trans hcons)
    rfl

/-- What is left after the blanks at the start of a text starts with no blank. -/
theorem isBlank_of_trimStart_eq_cons {cs rest : List Char} {c : Char}
    (h : trimStart cs = c :: rest) : isBlank c = false := by
  have hhead := List.head?_dropWhile_not isBlank cs
  rw [show cs.dropWhile isBlank = c :: rest from h] at hhead
  exact hhead

theorem splitBlank_nil : splitBlank [] = [] := splitBlank_of_trimStart_eq_nil rfl

/-- A blank before a text is no part of its words. -/
theorem splitBlank_cons_of_isBlank {c : Char} (hc : isBlank c = true) (cs : List Char) :
    splitBlank (c :: cs) = splitBlank cs := by
  have htrim : trimStart (c :: cs) = trimStart cs := List.dropWhile_cons_of_pos hc
  rcases h : trimStart cs with - | ⟨d, rest⟩
  · rw [splitBlank_of_trimStart_eq_nil h, splitBlank_of_trimStart_eq_nil (htrim.trans h)]
  · rw [splitBlank_of_trimStart_eq_cons h, splitBlank_of_trimStart_eq_cons (htrim.trans h)]

/-- **The words of a text are runs of its characters.** -/
theorem isRun_of_mem_splitBlank {cs w : List Char} (h : w ∈ splitBlank cs) :
    IsRun w ∧ w ⊆ cs := by
  induction cs using splitBlank.induct with
  | case1 cs htrim =>
    rw [splitBlank_of_trimStart_eq_nil htrim] at h
    cases h
  | case2 cs c rest htrim ih =>
    have hsub : c :: rest ⊆ cs := by
      rw [← htrim]
      exact (List.dropWhile_sublist isBlank).subset
    obtain ⟨hc, hrest⟩ := List.cons_subset.1 hsub
    rw [splitBlank_of_trimStart_eq_cons htrim] at h
    rcases List.mem_cons.1 h with rfl | hlater
    · refine ⟨⟨List.cons_ne_nil _ _, List.forall_mem_cons.2 ⟨?_, fun x hx => ?_⟩⟩,
        List.cons_subset.2 ⟨hc, fun x hx => ?_⟩⟩
      · exact isBlank_of_trimStart_eq_cons htrim
      · simpa using List.mem_takeWhile_imp hx
      · exact hrest ((List.takeWhile_sublist _).subset hx)
    · obtain ⟨hrun, hmem⟩ := ih hlater
      exact ⟨hrun, fun x hx => hrest ((List.dropWhile_sublist _).subset (hmem hx))⟩

/-- A run at the start of a text that goes on with a blank, or not at all, is its first word. -/
theorem splitBlank_append {w ds : List Char} (hw : IsRun w)
    (hds : ∀ d ∈ ds.head?, isBlank d = true) : splitBlank (w ++ ds) = w :: splitBlank ds := by
  rcases w with - | ⟨c, w⟩
  · exact absurd rfl hw.ne_nil
  · obtain ⟨hc, hblank⟩ := List.forall_mem_cons.1 hw.not_blank
    have hrun : ∀ x ∈ w, (!isBlank x) = true := fun x hx => by simp [hblank x hx]
    have htrim : trimStart (c :: w ++ ds) = c :: (w ++ ds) :=
      List.dropWhile_cons_of_neg (by simp [hc])
    rw [splitBlank_of_trimStart_eq_cons htrim, List.takeWhile_append_of_pos hrun,
      List.dropWhile_append_of_pos hrun]
    rcases ds with - | ⟨d, ds⟩
    · simp
    · simp [hds d rfl]

/-! ### Collapsing -/

/-- **The words of runs with spaces between them** are the runs. -/
theorem splitBlank_intercalate :
    ∀ ws : List (List Char), (∀ w ∈ ws, IsRun w) → splitBlank (List.intercalate [' '] ws) = ws
  | [], _ => splitBlank_nil
  | [w], hws => by
    have hword : splitBlank (w ++ []) = w :: splitBlank [] :=
      splitBlank_append (hws w List.mem_cons_self) (by simp)
    rw [List.append_nil, splitBlank_nil] at hword
    rw [List.intercalate_singleton, hword]
  | w :: v :: ws, hws => by
    obtain ⟨hw, hrest⟩ := List.forall_mem_cons.1 hws
    rw [List.intercalate_cons_cons, List.append_assoc, List.singleton_append,
      splitBlank_append hw (by simp), splitBlank_cons_of_isBlank isBlank_space,
      splitBlank_intercalate (v :: ws) hrest]

/-- **Collapsing once is enough.** -/
theorem collapse_collapse (cs : List Char) : collapse (collapse cs) = collapse cs := by
  rw [collapse, collapse, splitBlank_intercalate _ fun w hw => (isRun_of_mem_splitBlank hw).1]

/-- Putting spaces between words adds nothing but spaces. -/
theorem mem_of_mem_intercalate {c : Char} :
    ∀ ws : List (List Char), c ∈ List.intercalate [' '] ws → (∃ w ∈ ws, c ∈ w) ∨ c = ' '
  | [], h => by cases h
  | [w], h => by
    rw [List.intercalate_singleton] at h
    exact .inl ⟨w, List.mem_cons_self, h⟩
  | w :: v :: ws, h => by
    rw [List.intercalate_cons_cons, List.mem_append, List.mem_append, List.mem_singleton] at h
    rcases h with (hfirst | hspace) | hrest
    · exact .inl ⟨w, List.mem_cons_self, hfirst⟩
    · exact .inr hspace
    · rcases mem_of_mem_intercalate (v :: ws) hrest with ⟨u, hu, hc⟩ | hspace
      · exact .inl ⟨u, List.mem_cons_of_mem w hu, hc⟩
      · exact .inr hspace

/-- **Collapsing adds nothing but spaces.** -/
theorem mem_of_mem_collapse {cs : List Char} {c : Char} (h : c ∈ collapse cs) :
    c ∈ cs ∨ c = ' ' := by
  rcases mem_of_mem_intercalate _ h with ⟨w, hw, hc⟩ | hspace
  · exact .inl ((isRun_of_mem_splitBlank hw).2 hc)
  · exact .inr hspace

end FederatedSearch.Text
