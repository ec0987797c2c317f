import FederatedSearch.Query.Comparison
import FederatedSearch.Text.Case

/-!
# Tokens of a query

A query is a text of words, quoted phrases, parentheses, colons, comparisons and four keywords. A
token is one of these together with the place where it starts, counted in bytes.
-/

namespace FederatedSearch.Query

/-- **The kinds of tokens.** -/
inductive TokenKind where
  /-- A word that is no keyword. -/
  | word (text : String)
  /-- A text between quotes, its blanks collapsed. -/
  | phrase (text : String)
  /-- An opening parenthesis. -/
  | openParen
  /-- A closing parenthesis. -/
  | closeParen
  /-- A colon. -/
  | colon
  /-- A comparison. -/
  | compare (op : Comparison)
  /-- The keyword `AND`. -/
  | conj
  /-- The keyword `OR`. -/
  | disj
  /-- The keyword `EXCEPT`. -/
  | except
  /-- The keyword `IN`. -/
  | within
  deriving DecidableEq, Repr

namespace TokenKind

/-- The kind of a run of word characters: a keyword in any case of letters, or a word. -/
def ofWord (word : String) : TokenKind :=
  let small := Text.asciiLower word
  if small == "and" then .conj
  else if small == "or" then .disj
  else if small == "except" then .except
  else if small == "in" then .within
  else .word word

/-- The description of a token in a message. -/
def describe : TokenKind → String
  | .word w => "word '" ++ w ++ "'"
  | .phrase q => "phrase \"" ++ q ++ "\""
  | .openParen => "'('"
  | .closeParen => "')'"
  | .colon => "':'"
  | .compare op => "'" ++ op.symbol ++ "'"
  | .conj => "AND"
  | .disj => "OR"
  | .except => "EXCEPT"
  | .within => "IN"

end TokenKind

/-- **A token** and the place where it starts, in bytes from the start of the query. -/
structure Token where
  position : Nat
  kind : TokenKind
  deriving DecidableEq, Repr

end FederatedSearch.Query
