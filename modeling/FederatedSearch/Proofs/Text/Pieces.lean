import FederatedSearch.Text.Pieces
import Mathlib.Data.List.Chain

/-!
# Runs of a text

A character outside a class cuts a text: no run of the class goes across it, and what stands on its
two sides falls apart into runs on its own. This one equation, `FederatedSearch.Text.runs_break`,
says where a run ends. What a run is made of follows from the other one,
`FederatedSearch.Text.flatten_runs`: the runs together are the characters of the class, in order.

* `FederatedSearch.Text.runs_break`: **runs end at a character outside the class**.
* `FederatedSearch.Text.runs_eq_singleton`: a text of characters of the class is one run.
* `FederatedSearch.Text.runs_between`: a text that stands between characters outside the class keeps
  its runs.
* `FederatedSearch.Text.isCut_iff`: **there is one cut into maximal runs**.
* `FederatedSearch.Text.flatten_runs`: **the runs hold the characters of the class**.
-/

namespace FederatedSearch.Text

variable {p : Char → Bool} {c : Char} {cs ds run : List Char}

/-! ### Where runs end -/

/-- A character of the class does not reach across one outside the class. -/
theorem joinWord_append_between (d : Char) (ps qs : List Piece) :
    joinWord c (ps ++ .between d :: qs) = joinWord c ps ++ .between d :: qs := by
  rcases ps with - | ⟨run | e, ps⟩ <;> rfl

/-- The pieces before and after a character outside the class. -/
theorem pieces_break (hc : p c = false) (cs ds : List Char) :
    pieces p (cs ++ c :: ds) = pieces p cs ++ .between c :: pieces p ds := by
  induction cs with
  | nil => simp [pieces, hc]
  | cons d cs ih =>
    rw [List.cons_append, pieces, pieces, ih]
    split
    · exact joinWord_append_between c _ _
    · rfl

/-- **Runs end at a character outside the class.** -/
theorem runs_break (hc : p c = false) (cs ds : List Char) :
    runs p (cs ++ c :: ds) = runs p cs ++ runs p ds := by
  rw [runs, pieces_break hc, List.filterMap_append, List.filterMap_cons_none rfl, runs, runs]

/-- A text of characters of the class is one piece. -/
theorem pieces_eq_singleton (hne : cs ≠ []) (h : ∀ c ∈ cs, p c = true) :
    pieces p cs = [.word cs] := by
  induction cs with
  | nil => exact absurd rfl hne
  | cons c cs ih =>
    obtain ⟨hc, hcs⟩ := List.forall_mem_cons.1 h
    rw [pieces, if_pos hc]
    rcases cs with - | ⟨d, cs⟩
    · rfl
    · rw [ih (List.cons_ne_nil _ _) hcs]
      rfl

/-- A text of characters of the class is one run. -/
theorem runs_eq_singleton (hne : cs ≠ []) (h : ∀ c ∈ cs, p c = true) : runs p cs = [cs] := by
  rw [runs, pieces_eq_singleton hne h]
  rfl

/-- The runs of a text before one that starts outside the class. -/
theorem runs_append (h : ∀ d ∈ ds.head?, p d = false) :
    runs p (cs ++ ds) = runs p cs ++ runs p ds := by
  rcases ds with - | ⟨d, ds⟩
  · rw [List.append_nil, runs_nil, List.append_nil]
  · have hd : p d = false := h d rfl
    have halone : runs p (d :: ds) = runs p ds := runs_break hd [] ds
    rw [runs_break hd, halone]

/-- **A text between characters outside the class keeps its runs.** -/
theorem runs_between {before after : List Char} (hbefore : ∀ d ∈ before.getLast?, p d = false)
    (hafter : ∀ d ∈ after.head?, p d = false) :
    runs p (before ++ (cs ++ after)) = runs p before ++ (runs p cs ++ runs p after) := by
  rw [← runs_append hafter]
  rcases List.eq_nil_or_concat before with rfl | ⟨before, d, rfl⟩
  · rw [List.nil_append, runs_nil, List.nil_append]
  · have hd : p d = false := hbefore d (by simp)
    have hlast : runs p (before ++ [d]) = runs p before := by
      rw [runs_break hd, runs_nil, List.append_nil]
    rw [List.concat_eq_append, hlast, List.append_assoc, List.singleton_append, runs_break hd]

/-! ### The one cut -/

/-- **A text cut into maximal runs** of characters of a class, and the characters between them. -/
structure IsCut (p : Char → Bool) (cs : List Char) (ps : List Piece) : Prop where
  /-- The pieces are the text, in order. -/
  flatten : ps.flatMap Piece.chars = cs
  /-- There are characters in a run, all of them of the class. -/
  word : ∀ run, .word run ∈ ps → run ≠ [] ∧ ∀ c ∈ run, p c = true
  /-- The characters between runs are not of the class. -/
  between : ∀ c, .between c ∈ ps → p c = false
  /-- No two runs stand side by side, so no run can be made longer. -/
  apart : ps.IsChain fun x y => x.word? = none ∨ y.word? = none

/-- What follows the first piece of a cut is a cut of the rest. -/
theorem IsCut.tail {x : Piece} {ps : List Piece} (h : IsCut p cs (x :: ps)) :
    IsCut p (ps.flatMap Piece.chars) ps where
  flatten := rfl
  word run hrun := h.word run (List.mem_cons_of_mem _ hrun)
  between c hc := h.between c (List.mem_cons_of_mem _ hc)
  apart := h.apart.tail

/-- What follows a run in a cut does not start with a character of the class. -/
theorem IsCut.head_after_word {ps : List Piece} (h : IsCut p cs (.word run :: ps)) :
    ∀ d ∈ (ps.flatMap Piece.chars).head?, p d = false := by
  rcases ps with - | ⟨next | d, ps⟩
  · simp
  · have hnone := (List.isChain_cons_cons.1 h.apart).1
    simp [Piece.word?] at hnone
  · have hd := h.between d (by simp)
    simpa [Piece.chars] using hd

/-- The pieces of a run and of what follows it. -/
theorem pieces_word_append (hne : run ≠ []) (hrun : ∀ c ∈ run, p c = true)
    (hafter : ∀ d ∈ ds.head?, p d = false) : pieces p (run ++ ds) = .word run :: pieces p ds := by
  rcases ds with - | ⟨d, ds⟩
  · rw [List.append_nil, pieces_eq_singleton hne hrun, pieces_nil]
  · have hd : p d = false := hafter d rfl
    rw [pieces_break hd, pieces_eq_singleton hne hrun, pieces, if_neg (Bool.eq_false_iff.1 hd)]
    rfl

/-- One more character of the class in front of a cut. -/
theorem IsCut.joinWord {ps : List Piece} (hc : p c = true) (h : IsCut p cs ps) :
    IsCut p (c :: cs) (joinWord c ps) := by
  have hflat : (Text.joinWord c ps).flatMap Piece.chars = c :: cs := by
    rw [flatten_joinWord, h.flatten]
  rcases ps with - | ⟨run | d, ps⟩
  · exact ⟨hflat, by simp [Text.joinWord, hc], by simp [Text.joinWord], by simp [Text.joinWord]⟩
  · obtain ⟨-, hrun⟩ := h.word run List.mem_cons_self
    refine ⟨hflat, fun r hr => ?_, fun d hd => ?_, ?_⟩
    · rcases List.mem_cons.1 hr with heq | hr
      · obtain rfl : r = c :: run := by injection heq
        exact ⟨List.cons_ne_nil _ _, List.forall_mem_cons.2 ⟨hc, hrun⟩⟩
      · exact h.word r (List.mem_cons_of_mem _ hr)
    · exact h.between d (List.mem_cons_of_mem _ (by simpa [Text.joinWord] using hd))
    · -- the run has become longer, and is still the only one there
      have hchain := h.apart
      rw [List.isChain_cons] at hchain
      exact List.isChain_cons.2 ⟨fun y hy => (hchain.1 y hy).imp_left nofun, hchain.2⟩
  · refine ⟨hflat, fun r hr => ?_, fun e he => ?_, List.isChain_cons_cons.2 ⟨.inr rfl, h.apart⟩⟩
    · rcases List.mem_cons.1 hr with heq | hr
      · obtain rfl : r = [c] := by injection heq
        simpa using hc
      · exact h.word r hr
    · exact h.between e (by simpa [Text.joinWord] using he)

/-- One more character outside of the class in front of a cut. -/
theorem IsCut.cons_between {ps : List Piece} (hc : p c = false) (h : IsCut p cs ps) :
    IsCut p (c :: cs) (.between c :: ps) where
  flatten := by rw [List.flatMap_cons, h.flatten]; rfl
  word run hrun := h.word run (by simpa using hrun)
  between d hd := by
    rcases List.mem_cons.1 hd with heq | hd
    · obtain rfl : d = c := by injection heq
      exact hc
    · exact h.between d hd
  apart := List.isChain_cons.2 ⟨fun _ _ => .inl rfl, h.apart⟩

/-- The pieces of a text are a cut of it. -/
theorem isCut_pieces (p : Char → Bool) (cs : List Char) : IsCut p cs (pieces p cs) := by
  induction cs with
  | nil => exact ⟨rfl, by simp, by simp, .nil⟩
  | cons c cs ih =>
    rw [pieces]
    split
    · next hc => exact ih.joinWord hc
    · next hc => exact ih.cons_between (Bool.eq_false_iff.2 hc)

/-- **The pieces of a text are the only cut of it.** -/
theorem isCut_iff {ps : List Piece} : IsCut p cs ps ↔ pieces p cs = ps := by
  refine ⟨fun h => ?_, fun h => h ▸ isCut_pieces p cs⟩
  induction ps generalizing cs with
  | nil => rw [← h.flatten, List.flatMap_nil, pieces_nil]
  | cons x ps ih =>
    have htail := ih h.tail
    have hflat := h.flatten
    rw [List.flatMap_cons] at hflat
    rcases x with run | c
    · obtain ⟨hne, hrun⟩ := h.word run List.mem_cons_self
      rw [← hflat, Piece.chars, pieces_word_append hne hrun h.head_after_word, htail]
    · have hc := h.between c List.mem_cons_self
      rw [← hflat, Piece.chars, List.singleton_append, pieces, if_neg (Bool.eq_false_iff.1 hc),
        htail]

/-! ### What runs are made of -/

/-- The runs are the pieces that are words. -/
theorem mem_runs_iff : run ∈ runs p cs ↔ .word run ∈ pieces p cs := by
  rw [runs, List.mem_filterMap]
  constructor
  · rintro ⟨x, hx, hrun⟩
    rcases x with word | c
    · obtain rfl : word = run := by injection hrun
      exact hx
    · cases hrun
  · exact fun h => ⟨.word run, h, rfl⟩

theorem flatten_runs_joinWord (c : Char) (ps : List Piece) :
    ((joinWord c ps).filterMap Piece.word?).flatten = c :: (ps.filterMap Piece.word?).flatten := by
  rcases ps with - | ⟨run | d, ps⟩ <;> rfl

/-- **The runs hold the characters of the class**, in order. -/
theorem flatten_runs (p : Char → Bool) (cs : List Char) : (runs p cs).flatten = cs.filter p := by
  induction cs with
  | nil => rfl
  | cons c cs ih =>
    rw [runs] at ih
    rw [runs, pieces]
    split
    · next hc => rw [flatten_runs_joinWord, ih, List.filter_cons_of_pos hc]
    · next hc => rw [List.filterMap_cons_none rfl, ih, List.filter_cons_of_neg hc]

/-- A run is made of characters of the text that are of the class. -/
theorem sublist_of_mem_runs (h : run ∈ runs p cs) : run.Sublist (cs.filter p) := by
  rw [← flatten_runs]
  exact List.sublist_flatten_of_mem h

/-- A text with a character of the class has a run. -/
theorem runs_ne_nil (h : ∃ c ∈ cs, p c = true) : runs p cs ≠ [] := by
  intro hnil
  obtain ⟨c, hc, hp⟩ := h
  have hmem : c ∈ (runs p cs).flatten := by
    rw [flatten_runs]
    exact List.mem_filter.2 ⟨hc, hp⟩
  rw [hnil] at hmem
  cases hmem

end FederatedSearch.Text
