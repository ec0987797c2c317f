import FederatedSearch.Index.Demo
import FederatedSearch.Proofs.Index.Word
import FederatedSearch.Proofs.Query.Spelling

/-!
# A word with and without quotes

The text between quotes is taken apart into words as the values are, so a phrase is found wherever
it stands. A word without quotes is not taken apart: it is compared as it is with the words of a
value. So a word with a hyphen or a dot in it is looked for among words that have none, and need not
be found where it stands. Leaving out the quotes makes no difference exactly for the words of
alphanumeric characters.

* `FederatedSearch.Index.Matcher.SameHits`: two expressions find the same records.
* `FederatedSearch.Index.Matcher.finds_phrase`: **a phrase is found where it stands**.
* `FederatedSearch.Index.Matcher.isAlphanumeric_of_finds`: the words that are found where they
  stand.
* `FederatedSearch.Index.Matcher.term_agrees_iff`: **for which words quotes make no difference**.
-/

namespace FederatedSearch.Index

open Query Text

/-! ### Words as they are -/

/-- A pattern without an asterisk matches itself only, where no stems are looked at. -/
theorem wordMatches_none_iff {w p : Word} (hstar : '*' ∉ p) :
    wordMatches none w p = true ↔ w = p := by
  have hlast : p.getLast? ≠ some '*' := fun hlast => hstar (List.mem_of_getLast? hlast)
  rw [wordMatches, if_neg hlast, sameWord, beq_iff_eq]

/-- A text with a character that is not alphanumeric is longer than its words. -/
theorem length_lt_of_mem_words {text : String} {c : Char} (hmem : c ∈ text.toList)
    (hc : isAlphanumeric c = false) {w : Word} (hw : w ∈ words text) :
    w.length < (lowercase text.toList).length := by
  obtain ⟨run, hrun, rfl⟩ := List.mem_map.1 hw
  have hsub := sublist_of_mem_runs hrun
  refine length_lowercase_lt (hsub.trans List.filter_sublist) hmem fun hin => ?_
  have hclass := (List.mem_filter.1 (hsub.subset hin)).2
  rw [hc] at hclass
  cases hclass

namespace Matcher

/-! ### Where phrases and words are found -/

/-- **The search of a record with one value**, in a backend that describes no field, with words
compared letter by letter. -/
def ofValue (name value : String) : Matcher where
  backend := { id := 1, name := "photos" }
  record := Demo.image 101 10 [(name, value)]
  business := false
  stemmer := none

theorem searchable_ofValue {scope : Option (List String)} {name : String}
    (h : inScope scope name = true) (value : String) :
    (ofValue name value).searchable scope = [value] := by
  simp [searchable, ofValue, Demo.image, mayLookAt, Backend.field?, h]

/-- **A phrase is found where it stands**, if it has a word. -/
theorem hasPhrase_of_standsIn {m : Matcher} {scope : Option (List String)} {text value : String}
    (hwords : words text ≠ []) (hvalue : value ∈ m.searchable scope) (hin : StandsIn text value) :
    m.hasPhrase scope text = true := by
  obtain ⟨before, after, hrow⟩ := words_of_standsIn hin
  rw [hasPhrase, Bool.and_eq_true, Bool.not_eq_true', List.isEmpty_eq_false_iff, List.any_eq_true]
  refine ⟨hwords, value, hvalue, ?_⟩
  rw [hrow]
  exact hasRow_between m.stemmer hwords before after

/-- **A word of alphanumeric characters is found where the phrase is.** -/
theorem hasTerm_eq_hasPhrase {word : String} (hne : word.toList ≠ [])
    (h : ∀ c ∈ word.toList, isAlphanumeric c = true) (m : Matcher)
    (scope : Option (List String)) : m.hasTerm scope word = m.hasPhrase scope word := by
  simp only [hasTerm, hasPhrase, words_eq_singleton hne h, hasRow_singleton, List.isEmpty_cons,
    Bool.not_false, Bool.true_and]

/-- **A word with any other character is not found in itself.** -/
theorem hasTerm_ofValue_self {word : String} (hstar : '*' ∉ word.toList) {c : Char}
    (hmem : c ∈ word.toList) (hc : isAlphanumeric c = false) {scope : Option (List String)}
    {name : String} (hscope : inScope scope name = true) :
    (ofValue name word).hasTerm scope word = false := by
  have hplain : '*' ∉ lowercase word.toList := mt (mem_lowercase_iff isUntouched_asterisk _).1 hstar
  rw [hasTerm, searchable_ofValue hscope, List.any_cons, List.any_nil, Bool.or_false,
    List.any_eq_false]
  intro w hw
  rw [ofValue, wordMatches_none_iff hplain]
  rintro rfl
  exact lt_irrefl _ (length_lt_of_mem_words hmem hc hw)

/-! ### With and without quotes -/

/-- **The two expressions find the same records**: any record, in any scope, whether or not business
fields are searchable and whatever stems words are compared by. -/
def SameHits (e e' : Expr) : Prop :=
  ∀ (m : Matcher) (scope : Option (List String)), m.holds scope e = m.holds scope e'

/-- **The expression finds the text**: every record with a searchable value in which the text
stands. -/
def Finds (e : Expr) (text : String) : Prop :=
  ∀ (m : Matcher) (scope : Option (List String)), ∀ value ∈ m.searchable scope,
    StandsIn text value → m.holds scope e = true

/-- An expression finds a text when one with the same hits does. -/
theorem Finds.of_sameHits {e e' : Expr} {text : String} (h : Finds e text) (hsame : SameHits e' e) :
    Finds e' text := by
  intro m scope value hvalue hin
  rw [hsame m scope, h m scope value hvalue hin]

variable {word : String}

/-- **A phrase finds its text**, if there is a word in it. -/
theorem finds_phrase (hword : ∃ c ∈ word.toList, isAlphanumeric c = true) :
    Finds (.phrase word) word := fun _ _ _ =>
  hasPhrase_of_standsIn (words_ne_nil hword)

/-- **A word that is found where it stands has no other than alphanumeric characters.** -/
theorem isAlphanumeric_of_finds (hstar : '*' ∉ word.toList) (h : Finds (.term word) word) :
    ∀ c ∈ word.toList, isAlphanumeric c = true := by
  intro c hmem
  by_contra hc
  -- a record that holds nothing but the word
  have hvalue : word ∈ (ofValue "Title" word).searchable none := by
    rw [searchable_ofValue rfl]
    exact List.mem_singleton_self word
  have hself := h (ofValue "Title" word) none word hvalue (standsIn_self word)
  rw [holds, hasTerm_ofValue_self hstar hmem (Bool.eq_false_iff.2 hc) rfl] at hself
  cases hself

/-- **For which words quotes make no difference.** Take a word without an asterisk and with an
alphanumeric character. Between quotes it finds itself. Without them it has the same hits exactly
when it has no other characters, and exactly then it finds itself. -/
theorem term_agrees_iff (hstar : '*' ∉ word.toList)
    (hword : ∃ c ∈ word.toList, isAlphanumeric c = true) :
    Finds (.phrase word) word ∧
      (SameHits (.term word) (.phrase word) ↔ ∀ c ∈ word.toList, isAlphanumeric c = true) ∧
        (Finds (.term word) word ↔ ∀ c ∈ word.toList, isAlphanumeric c = true) := by
  have hphrase := finds_phrase hword
  obtain ⟨d, hd, -⟩ := hword
  have hsame : (∀ c ∈ word.toList, isAlphanumeric c = true) →
      SameHits (.term word) (.phrase word) := hasTerm_eq_hasPhrase (List.ne_nil_of_mem hd)
  refine ⟨hphrase, ⟨fun h => ?_, hsame⟩, isAlphanumeric_of_finds hstar, fun h => ?_⟩
  · exact isAlphanumeric_of_finds hstar (hphrase.of_sameHits h)
  · exact hphrase.of_sameHits (hsame h)

/-- A word with a hyphen has other hits without quotes, and does not find itself without them. -/
theorem term_agrees_iff_of_hyphenated :
    ('*' ∉ "x-ray".toList ∧ ∃ c ∈ "x-ray".toList, isAlphanumeric c = true) ∧
      Finds (.phrase "x-ray") "x-ray" ∧
        ¬SameHits (.term "x-ray") (.phrase "x-ray") ∧ ¬Finds (.term "x-ray") "x-ray" := by
  have hstar : '*' ∉ "x-ray".toList := by decide
  have hword : ∃ c ∈ "x-ray".toList, isAlphanumeric c = true := ⟨'x', by decide, by decide⟩
  have hhyphen : ¬∀ c ∈ "x-ray".toList, isAlphanumeric c = true := fun h =>
    absurd (h '-' (by decide)) (by decide)
  obtain ⟨hphrase, hsame, hfinds⟩ := term_agrees_iff hstar hword
  exact ⟨⟨hstar, hword⟩, hphrase, mt hsame.1 hhyphen, mt hfinds.1 hhyphen⟩

/-- **Quotes can make a difference** for a word of a query that has letters and no asterisk: without
them `x-ray` is not found in a value that is nothing else. -/
theorem not_forall_term_agrees : ¬∀ word : String, IsWord word → '*' ∉ word.toList →
    (∃ c ∈ word.toList, isAlphanumeric c = true) → SameHits (.term word) (.phrase word) := by
  intro h
  have hsame := h "x-ray" ⟨⟨by decide, List.all_eq_true.1 (by decide)⟩, by decide⟩ (by decide)
    ⟨'x', by decide, by decide⟩ (ofValue "Title" "x-ray") none
  exact absurd hsame (by decide +kernel)

end Matcher

end FederatedSearch.Index
