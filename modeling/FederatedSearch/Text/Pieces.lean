/-!
# The pieces of a text

A class of characters cuts a text into its maximal runs of characters of the class and the single
characters between them. Both the words of an indexed value and the marking of matched words read
a text this way, so the cut is made in one place and loses nothing
(`FederatedSearch.Text.flatten_pieces`).
-/

namespace FederatedSearch.Text

/-- A piece of a text. -/
inductive Piece where
  /-- A maximal run of characters of the class. -/
  | word (run : List Char)
  /-- A character outside the class. -/
  | between (c : Char)
  deriving DecidableEq, Repr

/-- The characters that a piece covers. -/
def Piece.chars : Piece → List Char
  | .word run => run
  | .between c => [c]

/-- The run, if the piece is one. -/
def Piece.word? : Piece → Option (List Char)
  | .word run => some run
  | .between _ => none

/-- Put a character of the class in front of the pieces that follow it. -/
def joinWord (c : Char) : List Piece → List Piece
  | .word run :: rest => .word (c :: run) :: rest
  | rest => .word [c] :: rest

/-- **The pieces of a text**: its maximal runs of characters of the class, and the characters
between them one by one, in order. -/
def pieces (p : Char → Bool) : List Char → List Piece
  | [] => []
  | c :: cs => if p c then joinWord c (pieces p cs) else .between c :: pieces p cs

/-- The maximal runs of characters of the class. -/
def runs (p : Char → Bool) (cs : List Char) : List (List Char) :=
  (pieces p cs).filterMap Piece.word?

@[simp] theorem pieces_nil (p : Char → Bool) : pieces p [] = [] := rfl

@[simp] theorem runs_nil (p : Char → Bool) : runs p [] = [] := rfl

theorem flatten_joinWord (c : Char) (ps : List Piece) :
    (joinWord c ps).flatMap Piece.chars = c :: ps.flatMap Piece.chars := by
  unfold joinWord
  split <;> simp [Piece.chars]

/-- **Nothing is lost**: the pieces put together are the text. -/
theorem flatten_pieces (p : Char → Bool) (cs : List Char) :
    (pieces p cs).flatMap Piece.chars = cs := by
  induction cs with
  | nil => rfl
  | cons c cs ih =>
    by_cases h : p c
    · simp [pieces, h, flatten_joinWord, ih]
    · simp [pieces, h, Piece.chars, ih]

end FederatedSearch.Text
