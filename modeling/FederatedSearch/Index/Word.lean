import FederatedSearch.Text.Alphanumeric
import FederatedSearch.Text.Bytes
import FederatedSearch.Text.Case
import FederatedSearch.Text.Pieces

/-!
# Words and stems

A text is searched by its words, the maximal runs of alphanumeric characters in lowercase. A word
matches a pattern when it is the pattern, when their stems agree, or when the pattern ends with an
asterisk and the word starts with the rest of it.

* `FederatedSearch.Index.words`: the words of a text.
* `FederatedSearch.Index.Stemmer`: the languages whose suffixes can be cut off.
* `FederatedSearch.Index.wordMatches`: a word matches a pattern.
-/

namespace FederatedSearch.Index

/-- A word, as characters. -/
abbrev Word := List Char

/-- **The words of a text**, in order. -/
def words (s : String) : List Word := (Text.runs Text.isAlphanumeric s.toList).map Text.lowercase

/-! ### Stems -/

/-- A language of stems. -/
inductive Stemmer where
  | english
  | french
  /-- A language in which nothing is cut off. -/
  | identity
  deriving DecidableEq, Repr

namespace Stemmer

/-- The language of a locale, by its first two bytes. -/
def ofLocale (locale : String) : Stemmer :=
  match Text.takeBytes? 2 locale.toList with
  | none => .identity
  | some tag =>
    if Text.sameAscii (.ofList tag) "en" then .english
    else if Text.sameAscii (.ofList tag) "fr" then .french
    else .identity

/-- The suffixes of a language, in the order in which they are tried. -/
def suffixes : Stemmer → List Word
  | .english => ["ing".toList, "ed".toList, "es".toList, "s".toList]
  | .french => ["ment".toList, "es".toList, "s".toList, "x".toList, "e".toList]
  | .identity => []

/-- The word without a suffix, if it ends with it and more than two bytes remain. -/
def cut? (word suffix : Word) : Option Word :=
  if Text.byteLength suffix + 2 < Text.byteLength word && suffix.isSuffixOf word then
    some (word.take (word.length - suffix.length))
  else none

/-- **The stem of a word**: the word without the first of the suffixes that can be cut off. -/
def stem (s : Stemmer) (word : Word) : Word := (s.suffixes.findSome? (cut? word)).getD word

@[simp] theorem stem_identity (word : Word) : stem .identity word = word := rfl

end Stemmer

/-! ### Matching words -/

/-- The two words are the same up to their stems, if stems are looked at. -/
def sameWord (stemmer : Option Stemmer) (word pattern : Word) : Bool :=
  match stemmer with
  | none => word == pattern
  | some s => s.stem word == s.stem pattern

/-- **A word matches a pattern.** -/
def wordMatches (stemmer : Option Stemmer) (word pattern : Word) : Bool :=
  if pattern.getLast? = some '*' then pattern.dropLast.isPrefixOf word
  else sameWord stemmer word pattern

/-- A word is the same as itself, with and without stems. -/
@[simp] theorem sameWord_self (stemmer : Option Stemmer) (word : Word) :
    sameWord stemmer word word = true := by
  cases stemmer <;> simp [sameWord]

/-- **Stems only widen**: what matches without them matches with them. -/
theorem wordMatches_of_none {word pattern : Word} (h : wordMatches none word pattern = true)
    (stemmer : Option Stemmer) : wordMatches stemmer word pattern = true := by
  unfold wordMatches at h ⊢
  split
  · simp_all
  · rename_i hstar
    simp only [hstar, if_false] at h
    have heq : word = pattern := by simpa [sameWord] using h
    subst heq
    exact sameWord_self stemmer word

end FederatedSearch.Index
