import FederatedSearch.Index.Word

/-!
# Highlighting

The words of a value that match the terms of a search are put between two markers. All else is
left as it is.
-/

namespace FederatedSearch.Index

/-- **The markers around a matched word.** -/
structure Markers where
  opening : String
  closing : String
  deriving DecidableEq, Repr

/-- The words of a row with an asterisk at the end of the last one. -/
def starLast : List Word → List Word
  | [] => []
  | [w] => [w ++ ['*']]
  | w :: v :: ws => w :: starLast (v :: ws)

/-- The words of a term as patterns. The last one keeps an asterisk that ends the term. -/
def termPatterns (s : String) : List Word :=
  if s.toList.getLast? = some '*' then starLast (words s) else words s

/-- A piece of a value, between markers when it is a word that matches one of the patterns. -/
def highlightPiece (stemmer : Option Stemmer) (patterns : List Word) (m : Markers) :
    Text.Piece → List Char
  | .word run =>
    if patterns.any (wordMatches stemmer (Text.lowercase run)) then
      m.opening.toList ++ run ++ m.closing.toList
    else run
  | .between c => [c]

/-- **A value with the words that match some terms between markers.** -/
def highlight (stemmer : Option Stemmer) (terms : List String) (m : Markers) (value : String) :
    String :=
  .ofList ((Text.pieces Text.isAlphanumeric value.toList).flatMap
    (highlightPiece stemmer (terms.flatMap termPatterns) m))

end FederatedSearch.Index
