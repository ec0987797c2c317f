import FederatedSearch.Index.Highlight
import FederatedSearch.Proofs.Index.Phrase

/-!
# What highlighting marks

A value is highlighted piece by piece: its maximal runs of alphanumeric characters, some of them
between markers, and the characters between the runs. Nothing else is done to the value, so it is
there again when the markers are taken out.

A search makes words of the same runs, and compares them with the word of a query as it is written,
while highlighting takes the words of the query apart. For one word, with an asterisk behind it or
not, it comes to the same: the asterisk has no case, and it has no part in the case of the letters
before it. So a word is marked in a value exactly when it is found there.

* `FederatedSearch.Index.IsMarked`: a run matches some pattern of the terms.
* `FederatedSearch.Index.toList_highlight`: a value is written piece by piece.
* `FederatedSearch.Index.filter_highlight`: **without the markers, the value is there again**.
* `FederatedSearch.Index.termPatterns_of_isOneWord`: a term of one word is one pattern.
* `FederatedSearch.Index.Matcher.hasTerm_iff_isMarked`: **what is found is what is marked**.
-/

namespace FederatedSearch.Index

open Text

variable {stemmer : Option Stemmer} {terms : List String} {value : String}

/-! ### What is written -/

/-- **A run of a value is marked**: its lowercase form matches some pattern of the terms. -/
def IsMarked (stemmer : Option Stemmer) (terms : List String) (run : List Char) : Prop :=
  ∃ term ∈ terms, ∃ p ∈ termPatterns term, wordMatches stemmer (lowercase run) p = true

instance : DecidablePred (IsMarked stemmer terms) := fun run =>
  inferInstanceAs (Decidable (∃ term ∈ terms, ∃ p ∈ termPatterns term,
    wordMatches stemmer (lowercase run) p = true))

/-- **A piece as it is written**: a marked run between the markers, all else as it is. -/
def Markers.write (m : Markers) (marked : List Char → Prop) [DecidablePred marked] :
    Piece → List Char
  | .word run => if marked run then m.opening.toList ++ run ++ m.closing.toList else run
  | .between c => [c]

theorem highlightPiece_eq_write (m : Markers) (x : Piece) :
    highlightPiece stemmer (terms.flatMap termPatterns) m x =
      m.write (IsMarked stemmer terms) x := by
  cases x with
  | word run =>
    have hany : (terms.flatMap termPatterns).any (wordMatches stemmer (lowercase run)) = true ↔
        IsMarked stemmer terms run := by
      simp only [IsMarked, List.any_flatMap, List.any_eq_true]
    rw [highlightPiece, Markers.write]
    exact if_congr hany rfl rfl
  | between c => rfl

/-- **A value is written piece by piece.** -/
theorem toList_highlight (stemmer : Option Stemmer) (terms : List String) (m : Markers)
    (value : String) : (highlight stemmer terms m value).toList =
      (pieces isAlphanumeric value.toList).flatMap (m.write (IsMarked stemmer terms)) := by
  rw [highlight, String.toList_ofList]
  exact congrArg List.flatten (List.map_congr_left fun x _ => highlightPiece_eq_write m x)

/-- A piece is there again when the characters of the markers are taken out, and it has none of
them itself. -/
theorem filter_write {m : Markers} {marked : List Char → Prop} [DecidablePred marked] {x : Piece}
    (hx : ∀ c ∈ x.chars, c ∉ m.opening.toList ++ m.closing.toList) :
    (m.write marked x).filter (· ∉ m.opening.toList ++ m.closing.toList) = x.chars := by
  have hkeep : x.chars.filter (· ∉ m.opening.toList ++ m.closing.toList) = x.chars :=
    List.filter_eq_self.2 fun c hc => decide_eq_true (hx c hc)
  have hopening : m.opening.toList.filter (· ∉ m.opening.toList ++ m.closing.toList) = [] :=
    List.filter_eq_nil_iff.2 fun c hc => by simp [hc]
  have hclosing : m.closing.toList.filter (· ∉ m.opening.toList ++ m.closing.toList) = [] :=
    List.filter_eq_nil_iff.2 fun c hc => by simp [hc]
  cases x with
  | word run =>
    rw [Piece.chars] at hkeep ⊢
    rw [Markers.write]
    split
    · rw [List.filter_append, List.filter_append, hopening, hkeep, hclosing, List.nil_append,
        List.append_nil]
    · exact hkeep
  | between c => exact hkeep

/-- **Without the markers, the value is there again**, if it has none of their characters itself. -/
theorem filter_highlight {m : Markers}
    (h : ∀ c ∈ m.opening.toList ++ m.closing.toList, c ∉ value.toList) :
    (highlight stemmer terms m value).toList.filter
      (· ∉ m.opening.toList ++ m.closing.toList) = value.toList := by
  rw [toList_highlight, List.filter_flatMap]
  conv_rhs => rw [← flatten_pieces isAlphanumeric value.toList]
  refine congrArg List.flatten (List.map_congr_left fun x hx => filter_write fun c hc hmarker => ?_)
  have hvalue : c ∈ (pieces isAlphanumeric value.toList).flatMap Piece.chars :=
    List.mem_flatMap_of_mem hx hc
  rw [flatten_pieces] at hvalue
  exact h c hmarker hvalue

/-! ### Terms of one word -/

/-- **A term of one word**: alphanumeric characters, with one asterisk behind them or none. -/
def IsOneWord (term : String) : Prop :=
  ∃ word star, term.toList = word ++ star ∧ word ≠ [] ∧ (∀ c ∈ word, isAlphanumeric c = true) ∧
    (star = [] ∨ star = ['*'])

/-- The asterisk is not alphanumeric. -/
theorem isAlphanumeric_asterisk : isAlphanumeric '*' = false := by decide +kernel

/-- **A term of one word is one pattern**: its lowercase form. -/
theorem termPatterns_of_isOneWord {term : String} (h : IsOneWord term) :
    termPatterns term = [lowercase term.toList] := by
  obtain ⟨word, star, hterm, hne, hword, rfl | rfl⟩ := h
  · rw [List.append_nil] at hterm
    have hlast : term.toList.getLast? ≠ some '*' := by
      intro hstar
      have halnum := hword '*' (hterm ▸ List.mem_of_getLast? hstar)
      rw [isAlphanumeric_asterisk] at halnum
      cases halnum
    have hwords : words term = [lowercase term.toList] :=
      words_eq_singleton (hterm ▸ hne) (hterm ▸ hword)
    rw [termPatterns, if_neg hlast, hwords]
  · have hlast : term.toList.getLast? = some '*' := by rw [hterm, List.getLast?_concat]
    have hwords : words term = [lowercase word] := by
      rw [words, hterm, runs_break isAlphanumeric_asterisk, runs_eq_singleton hne hword, runs_nil,
        List.append_nil, List.map_singleton]
    rw [termPatterns, if_pos hlast, hwords, starLast, hterm, lowercase_concat_asterisk]

/-- A run is marked for a term of one word when it matches the word of a query. -/
theorem isMarked_singleton_iff {term : String} (h : IsOneWord term) (run : List Char) :
    IsMarked stemmer [term] run ↔
      wordMatches stemmer (lowercase run) (lowercase term.toList) = true := by
  simp [IsMarked, termPatterns_of_isOneWord h]

/-- **What is found is what is marked**: a term of one word is found in a record exactly when a run
of a value that is searched is marked for it. -/
theorem Matcher.hasTerm_iff_isMarked {term : String} (h : IsOneWord term) (m : Matcher)
    (scope : Option (List String)) : m.hasTerm scope term = true ↔
      ∃ value ∈ m.searchable scope, ∃ run ∈ runs isAlphanumeric value.toList,
        IsMarked m.stemmer [term] run := by
  simp only [hasTerm, words, List.any_map, List.any_eq_true, Function.comp_apply,
    isMarked_singleton_iff h]

/-! ### Highlighting and searching -/

/-- **Highlighting loses nothing, and agrees with searching.** There is one cut of a value into its
maximal runs of alphanumeric characters and the characters between them. Whatever the terms and the
markers, the highlighted value is made of these pieces, in order and as they are, but for the
markers around each run whose lowercase form matches a pattern of the terms. With the markers taken
out, the value is there again. For a term of alphanumeric characters, with one asterisk behind them
or none, some run is marked exactly when the term is found where the value is searched. -/
theorem highlight_lossless_agrees (stemmer : Option Stemmer) (value : String) :
    (∃! cut, IsCut isAlphanumeric value.toList cut) ∧
    ∀ cut, IsCut isAlphanumeric value.toList cut →
      (∀ (terms : List String) (m : Markers), (highlight stemmer terms m value).toList =
        cut.flatMap (m.write (IsMarked stemmer terms))) ∧
      (∀ (terms : List String) (m : Markers),
        (∀ c ∈ m.opening.toList ++ m.closing.toList, c ∉ value.toList) →
          (highlight stemmer terms m value).toList.filter
            (· ∉ m.opening.toList ++ m.closing.toList) = value.toList) ∧
      ∀ term, IsOneWord term → ∀ (m : Matcher) (scope : Option (List String)),
        m.stemmer = stemmer → m.searchable scope = [value] →
          ((∃ run, .word run ∈ cut ∧ IsMarked stemmer [term] run) ↔
            m.hasTerm scope term = true) := by
  refine ⟨⟨_, isCut_pieces _ _, fun cut h => (isCut_iff.1 h).symm⟩, fun cut h => ?_⟩
  obtain rfl := isCut_iff.1 h
  refine ⟨fun terms m => toList_highlight stemmer terms m value, fun terms m => filter_highlight,
    fun term hterm m scope hstemmer hvalue => ?_⟩
  subst hstemmer
  rw [m.hasTerm_iff_isMarked hterm scope, hvalue]
  simp only [List.mem_singleton, exists_eq_left, mem_runs_iff]

/-- By English stems, `boats` is marked in a title where only one boat is. -/
theorem highlight_lossless_agrees_boats :
    let m : Matcher :=
      { Matcher.ofValue "Title" "Boat-race, 1950" with stemmer := some .english }
    let cut : List Piece := [.word "Boat".toList, .between '-', .word "race".toList, .between ',',
      .between ' ', .word "1950".toList]
    IsCut isAlphanumeric "Boat-race, 1950".toList cut ∧
      (highlight m.stemmer ["boats"] ⟨"[", "]"⟩ "Boat-race, 1950").toList =
        "[Boat]-race, 1950".toList ∧
      (highlight m.stemmer ["boats"] ⟨"[", "]"⟩ "Boat-race, 1950").toList.filter
        (· ∉ "[".toList ++ "]".toList) = "Boat-race, 1950".toList ∧
      m.hasTerm none "boats" = true := by
  intro m cut
  have hcut : IsCut isAlphanumeric "Boat-race, 1950".toList cut := isCut_iff.2 (by decide +kernel)
  have hterm : IsOneWord "boats" :=
    ⟨"boats".toList, [], rfl, by decide, List.all_eq_true.1 (by decide +kernel), .inl rfl⟩
  have hmarked : IsMarked m.stemmer ["boats"] "Boat".toList := by decide +kernel
  have hvalue : m.searchable none = ["Boat-race, 1950"] := by decide +kernel
  obtain ⟨hwritten, hfilter, hfound⟩ :=
    (highlight_lossless_agrees m.stemmer "Boat-race, 1950").2 cut hcut
  refine ⟨hcut, ?_, hfilter ["boats"] ⟨"[", "]"⟩ (by simp), ?_⟩
  · rw [hwritten]
    decide +kernel
  · exact (hfound "boats" hterm m none rfl hvalue).1 ⟨"Boat".toList, List.mem_cons_self, hmarked⟩

/-- Two words joined by a hyphen are found nowhere as one word of a query, and marked one by one. -/
example :
    (Matcher.ofValue "Title" "X-ray").hasTerm none "x-ray" = false ∧
      highlight none ["x-ray"] ⟨"[", "]"⟩ "X-ray" = "[X]-[ray]" := by
  decide +kernel

end FederatedSearch.Index
