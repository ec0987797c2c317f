import FederatedSearch.Text.Escaped
import Mathlib.Data.List.Basic

/-!
# What is written into markup

A page is made of fixed markup and of texts that are put into it. Where tags and the values of
attributes begin and end can be told from four characters, and an escaped text has none of them. So
a page has the marks of its markup only, whatever the texts are. And nothing of a text is lost: each
escaped text can be read back.

* `FederatedSearch.Markup.marks`: the marks of a page.
* `FederatedSearch.Markup.unescape_escape`: **a text is read back**.
* `FederatedSearch.Markup.Piece`: the pieces of a page, fixed or inserted.
* `FederatedSearch.Markup.marks_write_eq`: **pages with one frame have the same marks**.
-/

namespace FederatedSearch.Markup

/-! ### Marks -/

/-- The characters that tell where tags and the values of attributes begin and end. -/
def isMark (c : Char) : Bool := c == '<' || c == '>' || c == '"' || c == '\''

/-- **The marks of a page**: what is left of it when all other characters are deleted. -/
def marks (page : String) : String := .ofList (page.toList.filter isMark)

@[simp] theorem marks_empty : marks "" = "" := rfl

@[simp] theorem marks_append (s t : String) : marks (s ++ t) = marks s ++ marks t := by
  simp [marks]

/-- A character has a name, or is written as itself and is no mark. -/
theorem escapeChar_cases (c : Char) : c ∈ ['&', '<', '>', '"', '\''] ∨
    escapeChar c = [c] ∧ c ≠ '&' ∧ isMark c = false := by
  by_cases hnamed : c ∈ ['&', '<', '>', '"', '\'']
  · exact .inl hnamed
  · simp only [List.mem_cons, List.not_mem_nil, or_false, not_or] at hnamed
    exact .inr ⟨by simp [escapeChar, hnamed], hnamed.1, by simp [isMark, hnamed]⟩

theorem filter_escapeChar (c : Char) : (escapeChar c).filter isMark = [] := by
  rcases escapeChar_cases c with hnamed | ⟨hself, -, hmark⟩
  · simp only [List.mem_cons, List.not_mem_nil, or_false] at hnamed
    rcases hnamed with rfl | rfl | rfl | rfl | rfl <;> decide
  · rw [hself, List.filter_singleton, hmark]
    rfl

/-- **An escaped text has no marks.** -/
@[simp] theorem marks_escape (s : String) : marks (escape s) = "" := by
  rw [marks, escape, String.toList_ofList, List.filter_flatMap]
  simp [filter_escapeChar]

/-! ### Reading back -/

/-- The characters that were escaped. -/
def unescapeChars : List Char → List Char
  | '&' :: 'a' :: 'm' :: 'p' :: ';' :: cs => '&' :: unescapeChars cs
  | '&' :: 'l' :: 't' :: ';' :: cs => '<' :: unescapeChars cs
  | '&' :: 'g' :: 't' :: ';' :: cs => '>' :: unescapeChars cs
  | '&' :: 'q' :: 'u' :: 'o' :: 't' :: ';' :: cs => '"' :: unescapeChars cs
  | '&' :: '#' :: '3' :: '9' :: ';' :: cs => '\'' :: unescapeChars cs
  | c :: cs => c :: unescapeChars cs
  | [] => []

/-- **The text that was escaped**, with each of the five names read as its character. -/
def unescape (s : String) : String := .ofList (unescapeChars s.toList)

/-- A character that starts no name stands for itself. -/
theorem unescapeChars_cons {c : Char} (h : c ≠ '&') (cs : List Char) :
    unescapeChars (c :: cs) = c :: unescapeChars cs := by
  rw [unescapeChars] <;> simp [h]

/-- A character is read back, whatever comes after it. -/
theorem unescapeChars_escapeChar (c : Char) (cs : List Char) :
    unescapeChars (escapeChar c ++ cs) = c :: unescapeChars cs := by
  rcases escapeChar_cases c with hnamed | ⟨hself, hamp, -⟩
  · simp only [List.mem_cons, List.not_mem_nil, or_false] at hnamed
    rcases hnamed with rfl | rfl | rfl | rfl | rfl <;> rfl
  · rw [hself, List.singleton_append, unescapeChars_cons hamp]

/-- **A text is read back** from what it is escaped as. -/
theorem unescape_escape (s : String) : unescape (escape s) = s := by
  have hchars : ∀ cs : List Char, unescapeChars (cs.flatMap escapeChar) = cs := by
    intro cs
    induction cs with
    | nil => rfl
    | cons c cs ih => rw [List.flatMap_cons, unescapeChars_escapeChar, ih]
  rw [unescape, escape, String.toList_ofList, hchars, String.ofList_toList]

/-- A number is not changed by escaping. -/
theorem escape_toString (n : Nat) : escape (toString n) = toString n := by
  have hself : ∀ c ∈ (toString n).toList, escapeChar c = [c] := by
    intro c hc
    have hdigit : c.isDigit = true := by
      rw [Nat.toString_eq_repr, Nat.toList_repr] at hc
      exact Nat.isDigit_of_mem_toDigits (by decide) (by decide) hc
    rcases escapeChar_cases c with hnamed | ⟨hself, -, -⟩
    · simp only [List.mem_cons, List.not_mem_nil, or_false] at hnamed
      rcases hnamed with rfl | rfl | rfl | rfl | rfl <;> cases hdigit
    · exact hself
  rw [escape, List.flatMap_congr hself, List.flatMap_singleton', String.ofList_toList]

/-! ### Pieces of a page -/

/-- **A piece of a page.** -/
inductive Piece where
  /-- Markup, which stands as it is. -/
  | fixed (markup : String)
  /-- A text, which is escaped. -/
  | inserted (text : String)
  deriving DecidableEq, Repr

namespace Piece

/-- A piece as it is written. -/
def write : Piece → String
  | fixed markup => markup
  | inserted text => escape text

/-- The markup of a piece, if it is fixed. -/
def markup? : Piece → Option String
  | fixed markup => some markup
  | inserted _ => none

end Piece

/-- **The page that pieces make.** -/
def write (ps : List Piece) : String := String.join (ps.map Piece.write)

/-- **The frame of a page**: its fixed pieces, and the places where texts are inserted. -/
def frame (ps : List Piece) : List (Option String) := ps.map Piece.markup?

@[simp] theorem write_nil : write [] = "" := rfl

@[simp] theorem write_cons (p : Piece) (ps : List Piece) :
    write (p :: ps) = p.write ++ write ps := by
  simp [write]

@[simp] theorem write_append (ps qs : List Piece) : write (ps ++ qs) = write ps ++ write qs := by
  simp [write]

@[simp] theorem frame_cons (p : Piece) (ps : List Piece) :
    frame (p :: ps) = p.markup? :: frame ps := rfl

@[simp] theorem frame_append (ps qs : List Piece) : frame (ps ++ qs) = frame ps ++ frame qs :=
  List.map_append

/-- The marks of a page are those of its frame. -/
theorem marks_write (ps : List Piece) :
    marks (write ps) = String.join ((frame ps).map fun markup => marks (markup.getD "")) := by
  induction ps with
  | nil => rfl
  | cons p ps ih =>
    cases p with
    | fixed markup => simp [Piece.write, Piece.markup?, ih]
    | inserted text => simp [Piece.write, Piece.markup?, ih]

/-- **Pages with one frame have the same marks**, whatever texts are inserted. -/
theorem marks_write_eq {ps qs : List Piece} (h : frame ps = frame qs) :
    marks (write ps) = marks (write qs) := by
  rw [marks_write, marks_write, h]

end FederatedSearch.Markup
