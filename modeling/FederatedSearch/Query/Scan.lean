import FederatedSearch.Query.SyntaxError
import FederatedSearch.Text.Blank
import FederatedSearch.Text.Bytes

/-!
# Scanning a query

The tokens of a query, from left to right. Blanks separate and are otherwise passed over; at every
other character exactly one token starts, and it takes as many characters as it can.

* `FederatedSearch.Query.lexeme?`: the token that starts at a character.
* `FederatedSearch.Query.scan`: the tokens of a text, with their places.
-/

namespace FederatedSearch.Query

/-- **A character of a word**: any but a blank and the seven that stand for themselves. -/
def isWordChar (c : Char) : Bool :=
  !Text.isBlank c &&
    !(c == '(' || c == ')' || c == '"' || c == ':' || c == '=' || c == '<' || c == '>')

/-- **The token that starts at a character** that is not blank, and how many of the characters
after it belong to it. The only thing that can go wrong is a quote without a partner. -/
def lexeme? (c : Char) (rest : List Char) : Option (TokenKind × Nat) :=
  if c == '(' then some (.openParen, 0)
  else if c == ')' then some (.closeParen, 0)
  else if c == ':' then some (.colon, 0)
  else if c == '=' then some (.compare .eq, 0)
  else if c == '<' then
    match rest with
    | '=' :: _ => some (.compare .le, 1)
    | '>' :: _ => some (.compare .ne, 1)
    | _ => some (.compare .lt, 0)
  else if c == '>' then
    match rest with
    | '=' :: _ => some (.compare .ge, 1)
    | _ => some (.compare .gt, 0)
  else if c == '"' then
    let body := rest.takeWhile (· != '"')
    if body.length < rest.length then
      some (.phrase (.ofList (Text.collapse body)), body.length + 1)
    else none
  else
    let tail := rest.takeWhile isWordChar
    some (.ofWord (.ofList (c :: tail)), tail.length)

/-- The tokens of a text that starts at a place. -/
def scanFrom (position : Nat) (cs : List Char) : Except SyntaxError (List Token) :=
  match cs with
  | [] => .ok []
  | c :: rest =>
    if Text.isBlank c then scanFrom (position + c.utf8Size) rest
    else
      match lexeme? c rest with
      | none => .error ⟨position, .unterminatedPhrase⟩
      | some (kind, n) =>
        (scanFrom (position + Text.byteLength (c :: rest.take n)) (rest.drop n)).map
          (⟨position, kind⟩ :: ·)
termination_by cs.length
decreasing_by all_goals simp only [List.length_cons, List.length_drop]; omega

/-- **The tokens of a query.** -/
def scan (source : String) : Except SyntaxError (List Token) := scanFrom 0 source.toList

end FederatedSearch.Query
