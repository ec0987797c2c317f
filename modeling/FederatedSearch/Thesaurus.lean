import FederatedSearch.Text.Case

/-!
# Thesauri

A thesaurus is a list of concepts, each a preferred term with its synonyms and related terms. A
word belongs to the first concept that has it as its term or a synonym, up to the case of ASCII
letters, and the other values of that concept are offered as alternatives.

* `FederatedSearch.Thesaurus.concept?`: the concept of a word.
* `FederatedSearch.Thesaurus.alternatives`: what is offered in place of a word.
* `FederatedSearch.Thesaurus.mergedAlternatives`: what several thesauri offer together.
-/

namespace FederatedSearch

/-- **A concept**: a preferred term, the words that mean the same, the terms related to it, and the
number of records that are tagged with it. -/
structure Concept where
  term : String
  synonyms : List String
  related : List String
  hits : Nat
  deriving DecidableEq, Repr

/-- The word is the term of the concept or one of its synonyms. -/
def Concept.names (c : Concept) (word : String) : Bool :=
  Text.sameAscii c.term word || c.synonyms.any (Text.sameAscii · word)

/-- The values of the concept: its term, its synonyms, its related terms. -/
def Concept.values (c : Concept) : List String := c.term :: c.synonyms ++ c.related

/-- **A controlled vocabulary.** -/
structure Thesaurus where
  concepts : List Concept
  deriving DecidableEq, Repr

/-- A value offered in place of a word, with the number of records it is known to find. -/
structure Alternative where
  value : String
  hits : Nat
  deriving DecidableEq, Repr

namespace Alternative

/-- Some alternative of the list has the value. -/
def offered (value : String) (as : List Alternative) : Bool :=
  as.any (Text.sameAscii ·.value value)

/-- Put an alternative at the end, unless its value is offered already. -/
def add (as : List Alternative) (a : Alternative) : List Alternative :=
  if offered a.value as then as else as ++ [a]

end Alternative

namespace Thesaurus

/-- **The concept of a word**: the first that names it. -/
def concept? (t : Thesaurus) (word : String) : Option Concept := t.concepts.find? (·.names word)

/-- The records that are tagged with the concept whose preferred term is the value. -/
def hitsOf? (t : Thesaurus) (value : String) : Option Nat :=
  (t.concepts.find? (Text.sameAscii ·.term value)).map (·.hits)

/-- A value of a concept as an alternative: it counts the records of the concept that it is the
preferred term of, or else those of the concept it was found in. -/
def alternative (t : Thesaurus) (c : Concept) (value : String) : Alternative :=
  ⟨value, (t.hitsOf? value).getD c.hits⟩

/-- **What is offered in place of a word**: the values of its concept, in the order term, synonyms,
related terms, without the word itself and each only once. -/
def alternatives (t : Thesaurus) (word : String) : List Alternative :=
  match t.concept? word with
  | none => []
  | some c =>
    ((c.values.filter (!Text.sameAscii · word)).map (t.alternative c)).foldl Alternative.add []

/-- **What several thesauri offer together**: the alternatives of each in turn, each value once. -/
def mergedAlternatives (ts : List Thesaurus) (word : String) : List Alternative :=
  (ts.flatMap (·.alternatives word)).foldl Alternative.add []

end Thesaurus

end FederatedSearch
