/-!
# Blank characters

The characters that separate: those with the property `White_Space`. A text that holds no other is
blank, and the words of a text are what stands between its blanks.

* `FederatedSearch.Text.isBlank`: the class.
* `FederatedSearch.Text.trim`: a text without the blanks around it.
* `FederatedSearch.Text.splitBlank`: the words between the blanks.
* `FederatedSearch.Text.collapse`: the words with one space between them.
-/

namespace FederatedSearch.Text

/-- **A blank**: one of the 25 characters with the property `White_Space`. -/
def isBlank (c : Char) : Bool :=
  let n := c.toNat
  (9 ≤ n && n ≤ 13) || n == 0x20 || n == 0x85 || n == 0xA0 || n == 0x1680 ||
    (0x2000 ≤ n && n ≤ 0x200A) || n == 0x2028 || n == 0x2029 || n == 0x202F || n == 0x205F ||
    n == 0x3000

@[simp] theorem isBlank_space : isBlank ' ' = true := by decide

/-- Every character that the core library counts as white space is a blank. -/
theorem isBlank_of_isWhitespace {c : Char} (h : c.isWhitespace = true) : isBlank c = true := by
  simp only [Char.isWhitespace, Bool.or_eq_true, decide_eq_true_eq] at h
  rcases h with ((rfl | rfl) | rfl) | rfl <;> decide

/-! ### Trimming -/

/-- A text without the blanks before it. -/
def trimStart (cs : List Char) : List Char := cs.dropWhile isBlank

/-- A text without the blanks after it. -/
def trimEnd (cs : List Char) : List Char := (cs.reverse.dropWhile isBlank).reverse

/-- **A text without the blanks around it.** -/
def trim (s : String) : String := .ofList (trimEnd (trimStart s.toList))

/-- A text is blank when it holds nothing but blanks. -/
def isBlankText (s : String) : Bool := s.toList.all isBlank

@[simp] theorem isBlankText_empty : isBlankText "" = true := rfl

/-! ### Words between blanks -/

/-- **The words of a text**: its maximal runs of characters that are not blank. -/
def splitBlank (cs : List Char) : List (List Char) :=
  match _h : trimStart cs with
  | [] => []
  | c :: rest =>
    (c :: rest.takeWhile (!isBlank ·)) :: splitBlank (rest.dropWhile (!isBlank ·))
termination_by cs.length
decreasing_by
  have hlen : (trimStart cs).length ≤ cs.length := (List.dropWhile_sublist _).length_le
  have hrest : (rest.dropWhile (!isBlank ·)).length ≤ rest.length :=
    (List.dropWhile_sublist _).length_le
  rw [_h, List.length_cons] at hlen
  omega

/-- **The words of a text with one space between them.** -/
def collapse (cs : List Char) : List Char := List.intercalate [' '] (splitBlank cs)

end FederatedSearch.Text
