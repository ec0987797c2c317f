import FederatedSearch.Proofs.Query.Composing
import FederatedSearch.Proofs.Text.Blank
import Mathlib.Data.List.Chain

/-!
# What a token is written as

A word that is scanned holds word characters only and is no keyword, and a phrase that is scanned
holds no quote and has its blanks collapsed. A word or a phrase like that can be written back: it is
scanned as itself, where what follows a word does not go on with it.

* `FederatedSearch.Query.TokenKind.Proper`: the tokens that can be written.
* `FederatedSearch.Query.Scans.proper`: **the tokens of a text can be written**.
* `FederatedSearch.Query.IsWord.scans`, `FederatedSearch.Query.IsPhrase.scans`: a word and a phrase
  are scanned as they are written.
* `FederatedSearch.Query.BareValues`: every value of the tokens is a word.
-/

namespace FederatedSearch.Query

/-- **A word of a query**: it is plain, and no keyword. -/
structure IsWord (word : String) : Prop where
  plain : IsPlain word
  not_keyword : isKeyword word = false

/-- **A phrase of a query**: it holds no quote, and its blanks are collapsed. -/
structure IsPhrase (text : String) : Prop where
  no_quote : '"' ∉ text.toList
  collapsed : Text.collapse text.toList = text.toList

/-- **A token that can be written**: its word is a word of a query, or its phrase a phrase. -/
def TokenKind.Proper : TokenKind → Prop
  | .word w => IsWord w
  | .phrase t => IsPhrase t
  | _ => True

/-! ### The tokens of a text -/

/-- A run of word characters makes a token that can be written. -/
theorem TokenKind.proper_ofWord {word : String} (h : IsPlain word) :
    (TokenKind.ofWord word).Proper := by
  rcases ofWord_cases word with ⟨hkey, hword⟩ | ⟨-, hmem⟩
  · rw [hword]
    exact ⟨h, hkey⟩
  · simp only [List.mem_cons, List.not_mem_nil, or_false] at hmem
    rcases hmem with hk | hk | hk | hk <;> rw [hk] <;> trivial

/-- What is between two quotes makes a phrase that can be written. -/
theorem isPhrase_collapse {cs : List Char} (h : '"' ∉ cs) :
    IsPhrase (.ofList (Text.collapse cs)) := by
  refine ⟨?_, ?_⟩
  · rw [String.toList_ofList]
    intro hmem
    rcases Text.mem_of_mem_collapse hmem with hquote | hspace
    · exact h hquote
    · exact absurd hspace (by decide)
  · rw [String.toList_ofList, Text.collapse_collapse]

/-- **A token that starts at a character can be written.** -/
theorem proper_of_lexeme? {c : Char} {cs : List Char} {k : TokenKind} {n : Nat}
    (hc : Text.isBlank c = false) (h : lexeme? c cs = some (k, n)) : k.Proper := by
  unfold lexeme? at h
  dsimp only at h
  -- the marks and the comparisons hold no text
  iterate 4
    split at h
    · cases h
      trivial
  split at h
  · split at h <;> cases h <;> trivial
  split at h
  · split at h <;> cases h <;> trivial
  split at h
  · split at h
    · cases h
      refine isPhrase_collapse fun hmem => ?_
      simpa using List.mem_takeWhile_imp hmem
    · cases h
  · obtain ⟨rfl, -⟩ := Prod.mk.inj (Option.some.inj h)
    refine TokenKind.proper_ofWord ⟨by simp, fun d hd => ?_⟩
    rw [String.toList_ofList] at hd
    rcases List.mem_cons.1 hd with rfl | hrest
    · refine isWordChar_of_forall hc fun e he => ?_
      simp only [List.mem_cons, List.not_mem_nil, or_false] at he
      rcases he with rfl | rfl | rfl | rfl | rfl | rfl | rfl <;> simp_all
    · exact List.mem_takeWhile_imp hrest

/-- **The tokens of a text can be written.** -/
theorem Scans.proper {cs : List Char} {ks : List TokenKind} (h : Scans cs ks) :
    ∀ k ∈ ks, k.Proper := by
  induction h with
  | nil => simp
  | blank _ _ ih => exact ih
  | token hblank hlexeme _ ih =>
    exact List.forall_mem_cons.2 ⟨proper_of_lexeme? hblank hlexeme, ih⟩

/-! ### Writing tokens -/

section Writing

variable {ds : List Char} {ks : List TokenKind}

/-- **A word is scanned as it is written**, when what follows does not go on with it. -/
theorem IsWord.scans {word : String} (hword : IsWord word) (hnext : EndsWord ds)
    (h : Scans ds ks) : Scans (word.toList ++ ds) (.word word :: ks) := by
  have hscans := Scans.word (mt String.toList_eq_nil_iff.1 hword.plain.1) hword.plain.2 hnext h
  rwa [String.ofList_toList, ofWord_of_isKeyword_eq_false hword.not_keyword] at hscans

/-- A text that starts with a word starts with a word character. -/
theorem IsWord.exists_cons {word : String} (hword : IsWord word) :
    ∃ c cs, word.toList = c :: cs ∧ isWordChar c = true := by
  rcases hlist : word.toList with - | ⟨c, cs⟩
  · exact absurd (String.toList_eq_nil_iff.1 hlist) hword.plain.1
  · exact ⟨c, cs, rfl, hword.plain.2 c (by rw [hlist]; exact List.mem_cons_self)⟩

/-- **A phrase is scanned as it is written**, between quotes. -/
theorem IsPhrase.scans {text : String} (htext : IsPhrase text) (h : Scans ds ks) :
    Scans ('"' :: (text.toList ++ '"' :: ds)) (.phrase text :: ks) := by
  have hlexeme : lexeme? '"' (text.toList ++ '"' :: ds) =
      some (.phrase text, text.toList.length + 1) := by
    rw [lexeme?_quote htext.no_quote, htext.collapsed, String.ofList_toList]
  refine .token (by decide) hlexeme ?_
  rw [List.drop_append, List.drop_eq_nil_of_le (by omega)]
  simpa using h

theorem Scans.colon (h : Scans ds ks) : Scans (':' :: ds) (.colon :: ks) :=
  .token (by decide) rfl h

/-- **A comparison is scanned as it is written** before a word, as no word starts with a character
that a comparison could go on with. -/
theorem Scans.comparison_word (op : Comparison) {c : Char} (hc : isWordChar c = true)
    (h : Scans (c :: ds) ks) : Scans (op.symbol.toList ++ c :: ds) (.compare op :: ks) := by
  have hequals : c ≠ '=' := by
    rintro rfl
    exact absurd hc (by decide)
  have hgreater : c ≠ '>' := by
    rintro rfl
    exact absurd hc (by decide)
  have hless : lexeme? '<' (c :: ds) = some (.compare .lt, 0) := by
    simp [lexeme?, hequals, hgreater]
  have hmore : lexeme? '>' (c :: ds) = some (.compare .gt, 0) := by
    simp [lexeme?, hequals]
  cases op with
  | lt => exact .token (by decide) hless h
  | gt => exact .token (by decide) hmore h
  | _ => exact .token (by decide) rfl h

/-- A symbol of a comparison does not go on with a word. -/
theorem endsWord_symbol (op : Comparison) (cs : List Char) :
    EndsWord (op.symbol.toList ++ cs) := by
  cases op <;> exact endsWord_cons (by decide) _

end Writing

/-! ### Values -/

/-- A token that is a phrase. -/
def TokenKind.isPhrase : TokenKind → Bool
  | .phrase _ => true
  | _ => false

/-- **Every value is written as a word**: no phrase stands after a colon or a comparison. -/
def BareValues (ks : List TokenKind) : Prop :=
  ks.IsChain fun k k' => k.bindsWord = true → k'.isPhrase = false

instance (ks : List TokenKind) : Decidable (BareValues ks) :=
  inferInstanceAs (Decidable (ks.IsChain _))

theorem BareValues.left {js ks : List TokenKind} (h : BareValues (js ++ ks)) : BareValues js :=
  List.IsChain.left_of_append h

theorem BareValues.right {js ks : List TokenKind} (h : BareValues (js ++ ks)) : BareValues ks :=
  List.IsChain.right_of_append h

end FederatedSearch.Query
