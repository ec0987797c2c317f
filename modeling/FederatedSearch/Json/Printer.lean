import FederatedSearch.Json.Basic
import FederatedSearch.Number.Decimal

/-!
# Writing JSON

Two written forms of a value: on one line without blanks, and over several lines with an indent of
two spaces. They share the form of texts and numbers: a text escapes quotes, backslashes and
control characters only, and a floating-point number has the fewest digits that read back.
-/

namespace FederatedSearch.Json

open Number

/-! ### Texts and numbers -/

/-- The hexadecimal digit of a number below sixteen. -/
def hexDigit (n : Nat) : Char := if n < 10 then .ofNat (48 + n) else .ofNat (87 + n)

/-- **The written form of a character of a text.** -/
def escapeChar (c : Char) : List Char :=
  if c == '"' then ['\\', '"']
  else if c == '\\' then ['\\', '\\']
  else if c == '\n' then ['\\', 'n']
  else if c == '\r' then ['\\', 'r']
  else if c == '\t' then ['\\', 't']
  else if c.toNat == 8 then ['\\', 'b']
  else if c.toNat == 12 then ['\\', 'f']
  else if c.toNat < 32 then ['\\', 'u', '0', '0', hexDigit (c.toNat / 16), hexDigit (c.toNat % 16)]
  else [c]

/-- A text between quotes. -/
def quoted (s : String) : String := .ofList ('"' :: s.toList.flatMap escapeChar ++ ['"'])

/-- A floating-point number, with `null` for those that are not finite. -/
def realText : Binary64 → String
  | .finite s m e => (Binary64.finite s m e).toShortest
  | _ => "null"

/-! ### On one line -/

mutual

/-- **The value on one line.** What stands for nothing is written as `null`. -/
def compact : Json → String
  | .null | .broken => "null"
  | .bool b => if b then "true" else "false"
  | .integer n => toString n
  | .real x => realText x
  | .text s => quoted s
  | .array items => "[" ++ ",".intercalate (compactItems items) ++ "]"
  | .object members => "\x7b" ++ ",".intercalate (compactMembers members) ++ "\x7d"

/-- The items of a list, each on one line. -/
def compactItems : List Json → List String
  | [] => []
  | j :: rest => j.compact :: compactItems rest

/-- The members of an object, each on one line. -/
def compactMembers : List (String × Json) → List String
  | [] => []
  | (name, j) :: rest => (quoted name ++ ":" ++ j.compact) :: compactMembers rest

end

/-! ### Over several lines -/

/-- A line break and the indent of a level. -/
def lineBreak (level : Nat) : String := .ofList ('\n' :: List.replicate (2 * level) ' ')

/-- Entries on lines of their own between two brackets. Nothing stands between them when there are
no entries. -/
def block (level : Nat) (opening closing : String) (entries : List String) : String :=
  if entries.isEmpty then opening ++ closing
  else
    opening ++ lineBreak (level + 1) ++ ("," ++ lineBreak (level + 1)).intercalate entries ++
      lineBreak level ++ closing

mutual

/-- The value over several lines, at a level of indentation. -/
def prettyAt (level : Nat) : Json → String
  | .array items => block level "[" "]" (prettyItems (level + 1) items)
  | .object members => block level "\x7b" "\x7d" (prettyMembers (level + 1) members)
  | .null | .broken => "null"
  | .bool b => if b then "true" else "false"
  | .integer n => toString n
  | .real x => realText x
  | .text s => quoted s

/-- The items of a list at a level of indentation. -/
def prettyItems (level : Nat) : List Json → List String
  | [] => []
  | j :: rest => j.prettyAt level :: prettyItems level rest

/-- The members of an object at a level of indentation. -/
def prettyMembers (level : Nat) : List (String × Json) → List String
  | [] => []
  | (name, j) :: rest => (quoted name ++ ": " ++ j.prettyAt level) :: prettyMembers level rest

end

/-- **The value over several lines.** -/
def pretty (j : Json) : String := j.prettyAt 0

end FederatedSearch.Json
