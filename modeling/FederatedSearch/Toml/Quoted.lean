import FederatedSearch.Json.Reader

/-!
# Texts in TOML

A text stands between quotes, in which a backslash starts an escape, or between apostrophes, in
which it does not. With three of either around it a text may go over several lines.

* `FederatedSearch.Toml.readText?`: a text of any of the four kinds.
* `FederatedSearch.Toml.readLineText?`: a text on one line.
-/

namespace FederatedSearch.Toml

/-! ### Characters -/

/-- A character that a text may hold as it is, line breaks aside. -/
def isTextChar (c : Char) : Bool :=
  c == '\t' || (32 ≤ c.toNat && c.toNat ≤ 126) || 128 ≤ c.toNat

/-- A space or a tab. -/
def isSpace (c : Char) : Bool := c == ' ' || c == '\t'

/-- The character that a letter after a backslash stands for. -/
def shortEscape? : Char → Option Char
  | 'b' => some '\x08'
  | 't' => some '\t'
  | 'n' => some '\n'
  | 'f' => some '\x0c'
  | 'r' => some '\r'
  | '"' => some '"'
  | '\\' => some '\\'
  | _ => none

/-- The character with a number in hexadecimal digits. -/
def character? (digits : List Char) : Option Char := do
  let values ← digits.mapM Json.hexValue?
  let n := values.foldl (fun n v => 16 * n + v) 0
  if n.isValidChar then some (.ofNat n) else none

/-- Put a character in front of a text that has been read. -/
def putFront (c : Char) (r : List Char × List Char) : List Char × List Char := (c :: r.1, r.2)

/-- An escape, the backslash aside: the character and the text after it. -/
def readEscape? : List Char → Option (Char × List Char)
  | 'u' :: a :: b :: c :: d :: rest => (character? [a, b, c, d]).map (·, rest)
  | 'U' :: a :: b :: c :: d :: e :: f :: g :: h :: rest =>
    (character? [a, b, c, d, e, f, g, h]).map (·, rest)
  | c :: rest => (shortEscape? c).map (·, rest)
  | [] => none

theorem length_readEscape? {cs : List Char} {r : Char × List Char} (h : readEscape? cs = some r) :
    r.2.length < cs.length := by
  unfold readEscape? at h
  split at h <;> simp only [Option.map_eq_some_iff, reduceCtorEq] at h
  all_goals
    obtain ⟨_, _, rfl⟩ := h
    simp only [List.length_cons]
    omega

/-! ### Texts on one line -/

/-- A text up to its closing quote. -/
def readBasic? : List Char → Option (List Char × List Char)
  | [] => none
  | '"' :: rest => some ([], rest)
  | '\\' :: rest =>
    match _h : readEscape? rest with
    | none => none
    | some (c, after) => (readBasic? after).map (putFront c)
  | c :: rest => if isTextChar c then (readBasic? rest).map (putFront c) else none
termination_by cs => cs.length
decreasing_by
  · have := length_readEscape? _h
    simp only [List.length_cons] at this ⊢
    omega
  · simp

/-- A text up to its closing apostrophe. -/
def readLiteral? : List Char → Option (List Char × List Char)
  | [] => none
  | '\'' :: rest => some ([], rest)
  | c :: rest => if isTextChar c then (readLiteral? rest).map (putFront c) else none

/-! ### Texts over several lines -/

/-- The text after a line break that comes first, if one does. -/
def afterLineBreak? : List Char → Option (List Char)
  | '\n' :: rest => some rest
  | '\r' :: '\n' :: rest => some rest
  | _ => none

/-- A line break right after the opening of a text is no part of it. -/
def dropFirstBreak (cs : List Char) : List Char := (afterLineBreak? cs).getD cs

/-- The end of a text after three closing marks: up to two more belong to the text. -/
def closing (mark : Char) : List Char → List Char × List Char
  | a :: b :: rest =>
    if a == mark && b == mark then ([a, b], rest)
    else if a == mark then ([a], b :: rest)
    else ([], a :: b :: rest)
  | [a] => if a == mark then ([a], []) else ([], [a])
  | [] => ([], [])

/-- Nothing but blanks stands before the end of the line. -/
def lineEnds (cs : List Char) : Bool := (afterLineBreak? (cs.dropWhile isSpace)).isSome

/-- A text up to three closing quotes. After a backslash at the end of a line, `skipping` passes
over all blanks and line breaks. -/
def readBasicLines? : Bool → List Char → Option (List Char × List Char)
  | _, [] => none
  | skipping, '\r' :: '\n' :: rest =>
    if skipping then readBasicLines? true rest
    else (readBasicLines? false rest).map (putFront '\n')
  | _, '"' :: '"' :: '"' :: rest => some (closing '"' rest)
  | _, '\\' :: rest =>
    if lineEnds rest then readBasicLines? true rest
    else match _h : readEscape? rest with
      | none => none
      | some (c, after) => (readBasicLines? false after).map (putFront c)
  | skipping, c :: rest =>
    if skipping && (isSpace c || c == '\n') then readBasicLines? true rest
    else if isTextChar c || c == '\n' then (readBasicLines? false rest).map (putFront c)
    else none
termination_by _ cs => cs.length
decreasing_by
  all_goals simp only [List.length_cons]
  all_goals try omega
  have := length_readEscape? _h
  simp only at this
  omega

/-- A text up to three closing apostrophes. -/
def readLiteralLines? : List Char → Option (List Char × List Char)
  | [] => none
  | '\r' :: '\n' :: rest => (readLiteralLines? rest).map (putFront '\n')
  | '\'' :: '\'' :: '\'' :: rest => some (closing '\'' rest)
  | c :: rest =>
    if isTextChar c || c == '\n' then (readLiteralLines? rest).map (putFront c) else none

/-! ### Texts of any kind -/

/-- **A text on one line.** -/
def readLineText? : List Char → Option (List Char × List Char)
  | '"' :: rest => readBasic? rest
  | '\'' :: rest => readLiteral? rest
  | _ => none

/-- **A text.** -/
def readText? : List Char → Option (List Char × List Char)
  | '"' :: '"' :: '"' :: rest => readBasicLines? false (dropFirstBreak rest)
  | '\'' :: '\'' :: '\'' :: rest => readLiteralLines? (dropFirstBreak rest)
  | cs => readLineText? cs

end FederatedSearch.Toml
