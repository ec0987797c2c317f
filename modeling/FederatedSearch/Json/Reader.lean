import FederatedSearch.Json.Numeral

/-!
# Reading JSON

The grammar of JSON over a list of characters. A reading step takes something from the start of a
text and returns the text after it, together with the fact that this text is shorter, which is why
reading ends.

* `FederatedSearch.Text.Shorter`: the result of a reading step.
* `FederatedSearch.Json.readString?`: a text, with its escapes.
* `FederatedSearch.Json.readValue?`: a value, broken where it follows the grammar and stands for
  nothing.
* `FederatedSearch.Json.ofText?`: a value that is alone in a text.
-/

/-! ### Reading steps -/

namespace FederatedSearch.Text

/-- The result of a reading step on a text: a value, and a shorter text after it. -/
abbrev Shorter (α : Type) (cs : List Char) := { r : α × List Char // r.2.length < cs.length }

/-- A result with the fact, found by a test, that the text after it is shorter. -/
def shorter? {α : Type} (cs : List Char) (r : Option (α × List Char)) : Option (Shorter α cs) :=
  match r with
  | none => none
  | some r => if h : r.2.length < cs.length then some ⟨r, h⟩ else none

/-- A text with the fact, found by a test, that it is no longer than another. -/
def notLonger? (cs rest : List Char) : Option { r : List Char // r.length ≤ cs.length } :=
  if h : rest.length ≤ cs.length then some ⟨rest, h⟩ else none

end FederatedSearch.Text

namespace FederatedSearch.Json

open Text (Shorter shorter?)

/-! ### Texts -/

/-- What a text is spelled with: a character, or one half of a character outside the basic plane
as an escape gives it. -/
inductive CodeUnit where
  /-- A character as it stands, or by a short escape. -/
  | char (c : Char)
  /-- A number of 16 bits by a numeric escape. -/
  | escaped (n : Nat)

/-- The value of a hexadecimal digit. -/
def hexValue? (c : Char) : Option Nat :=
  if c.isDigit then some (c.toNat - 48)
  else if 'a' ≤ c && c ≤ 'f' then some (c.toNat - 87)
  else if 'A' ≤ c && c ≤ 'F' then some (c.toNat - 55)
  else none

/-- The character of a short escape. -/
def shortEscape? (c : Char) : Option Char :=
  if c == '"' || c == '\\' || c == '/' then some c
  else if c == 'b' then some '\x08'
  else if c == 'f' then some '\x0c'
  else if c == 'n' then some '\n'
  else if c == 'r' then some '\r'
  else if c == 't' then some '\t'
  else none

/-- The code units up to the closing quote, and the text after it. -/
def readUnits? : List Char → Option (List CodeUnit × List Char)
  | [] => none
  | '"' :: rest => some ([], rest)
  | '\\' :: 'u' :: a :: b :: c :: d :: rest => do
    let n := (← hexValue? a) * 4096 + (← hexValue? b) * 256 + (← hexValue? c) * 16 + (← hexValue? d)
    let (units, after) ← readUnits? rest
    return (.escaped n :: units, after)
  | '\\' :: e :: rest => do
    let c ← shortEscape? e
    let (units, after) ← readUnits? rest
    return (.char c :: units, after)
  | c :: rest =>
    if c.toNat < 32 || c == '\\' then none
    else do
      let (units, after) ← readUnits? rest
      return (.char c :: units, after)

/-- The characters that code units spell. Two halves make a character; a half alone spells
nothing. -/
def joinUnits? : List CodeUnit → Option (List Char)
  | [] => some []
  | .char c :: rest => (joinUnits? rest).map (c :: ·)
  | .escaped n :: rest =>
    if 0xD800 ≤ n && n ≤ 0xDBFF then
      match rest with
      | .escaped m :: rest =>
        if 0xDC00 ≤ m && m ≤ 0xDFFF then
          (joinUnits? rest).map (.ofNat (0x10000 + (n - 0xD800) * 0x400 + (m - 0xDC00)) :: ·)
        else none
      | _ => none
    else if 0xDC00 ≤ n && n ≤ 0xDFFF then none
    else (joinUnits? rest).map (.ofNat n :: ·)

/-- **A text**, after its opening quote: its characters, unless half of one stands alone. -/
def readString? (cs : List Char) : Option (Option String × List Char) := do
  let (units, rest) ← readUnits? cs
  return ((joinUnits? units).map .ofList, rest)

/-! ### Values -/

/-- The blanks of JSON. -/
def isSpace (c : Char) : Bool := c == ' ' || c == '\n' || c == '\t' || c == '\r'

/-- The text after the blanks. -/
def skipSpace (cs : List Char) : List Char := cs.dropWhile isSpace

theorem length_skipSpace (cs : List Char) : (skipSpace cs).length ≤ cs.length :=
  (List.dropWhile_sublist _).length_le

/-- A text as a value. -/
def ofString : Option String → Json
  | none => .broken
  | some s => .text s

/-- An object as a value. All its names have to be texts. -/
def ofMembers (members : List (Option String × Json)) : Json :=
  match members.mapM fun (name, j) => name.map (·, j) with
  | none => .broken
  | some members => .object members

/-- A word that has to come next, and stands for a value. -/
def readWord? (word : String) (value : Json) (cs : List Char) : Option (Json × List Char) :=
  if word.toList.isPrefixOf cs then some (value, cs.drop word.length) else none

/-- A value that is no list and no object. -/
def readScalar? (cs : List Char) : Option (Json × List Char) :=
  match cs with
  | '"' :: rest => (readString? rest).map fun (s, r) => (ofString s, r)
  | 't' :: _ => readWord? "true" (.bool true) cs
  | 'f' :: _ => readWord? "false" (.bool false) cs
  | 'n' :: _ => readWord? "null" .null cs
  | _ => readNumber? cs

/-- The name of a member and the colon after it. -/
def readName? (cs : List Char) : Option (Option String × List Char) :=
  match skipSpace cs with
  | '"' :: rest => do
    let (name, rest) ← readString? rest
    match skipSpace rest with
    | ':' :: rest => some (name, rest)
    | _ => none
  | _ => none

mutual

/-- **A value** at the start of a text, blanks before it left aside. -/
def readValue? (cs : List Char) : Option (Shorter Json cs) :=
  match h : skipSpace cs with
  | '[' :: rest =>
    have hrest : rest.length < cs.length := by
      have := length_skipSpace cs
      rw [h, List.length_cons] at this
      omega
    match h' : skipSpace rest with
    | ']' :: after => some ⟨(.array [], after), by
        have := length_skipSpace rest
        rw [h', List.length_cons] at this
        simp only
        omega⟩
    | _ => do
      let ⟨(items, after), hafter⟩ ← readItems? rest
      return ⟨(.array items, after), by simp only at hafter ⊢; omega⟩
  | '\x7b' :: rest =>
    have hrest : rest.length < cs.length := by
      have := length_skipSpace cs
      rw [h, List.length_cons] at this
      omega
    match h' : skipSpace rest with
    | '\x7d' :: after => some ⟨(.object [], after), by
        have := length_skipSpace rest
        rw [h', List.length_cons] at this
        simp only
        omega⟩
    | _ => do
      let ⟨(members, after), hafter⟩ ← readMembers? rest
      return ⟨(ofMembers members, after), by simp only at hafter ⊢; omega⟩
  | other => shorter? cs (readScalar? other)
termination_by 2 * cs.length
decreasing_by all_goals omega

/-- The items of a list up to its closing bracket, at least one. -/
def readItems? (cs : List Char) : Option (Shorter (List Json) cs) := do
  let ⟨(item, after), hafter⟩ ← readValue? cs
  match h : skipSpace after with
  | ']' :: rest => return ⟨([item], rest), by
      have := length_skipSpace after
      rw [h, List.length_cons] at this
      simp only at hafter ⊢
      omega⟩
  | ',' :: rest =>
    have hrest : rest.length < cs.length := by
      have := length_skipSpace after
      rw [h, List.length_cons] at this
      simp only at hafter
      omega
    let ⟨(items, last), hlast⟩ ← readItems? rest
    return ⟨(item :: items, last), by simp only at hlast ⊢; omega⟩
  | _ => none
termination_by 2 * cs.length + 1
decreasing_by all_goals omega

/-- The members of an object up to its closing bracket, at least one. -/
def readMembers? (cs : List Char) : Option (Shorter (List (Option String × Json)) cs) := do
  let ⟨(name, afterName), hname⟩ ← shorter? cs (readName? cs)
  have hname' : afterName.length < cs.length := hname
  let ⟨(value, after), hafter⟩ ← readValue? afterName
  match h : skipSpace after with
  | '\x7d' :: rest => return ⟨([(name, value)], rest), by
      have := length_skipSpace after
      rw [h, List.length_cons] at this
      simp only at hafter ⊢
      omega⟩
  | ',' :: rest =>
    have hrest : rest.length < cs.length := by
      have := length_skipSpace after
      rw [h, List.length_cons] at this
      simp only at hafter
      omega
    let ⟨(members, last), hlast⟩ ← readMembers? rest
    return ⟨((name, value) :: members, last), by simp only at hlast ⊢; omega⟩
  | _ => none
termination_by 2 * cs.length + 1
decreasing_by all_goals omega

end

/-- **A value that is alone in a text.** -/
def ofText? (s : String) : Option Json := do
  let ⟨(value, rest), _⟩ ← readValue? s.toList
  if (skipSpace rest).isEmpty then some value else none

end FederatedSearch.Json
