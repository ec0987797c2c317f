import FederatedSearch.Toml.Quoted
import FederatedSearch.Toml.Scalar
import FederatedSearch.Toml.Table

/-!
# Reading TOML

A document is read line by line. Values may hold other values, in lists, which may go over several
lines, and in tables on one line.

* `FederatedSearch.Toml.readValue?`: a value.
* `FederatedSearch.Toml.readLine?`: a line, with its effect on the document.
* `FederatedSearch.Toml.ofText?`: a document, as an object.
-/

namespace FederatedSearch.Toml

open Text (Shorter shorter? notLonger?)

/-! ### Blanks and comments -/

/-- A text without the spaces and tabs before it. -/
def skipSpace (cs : List Char) : List Char := cs.dropWhile isSpace

theorem length_skipSpace (cs : List Char) : (skipSpace cs).length ≤ cs.length :=
  (List.dropWhile_sublist _).length_le

/-- The text after a sign, if the sign is there. -/
def afterSign? (sign : Char) (cs : List Char) :
    Option { rest : List Char // rest.length < cs.length } :=
  match cs with
  | [] => none
  | c :: rest => if c == sign then some ⟨rest, Nat.lt_succ_self _⟩ else none

/-- The text after blanks and a sign, if the sign is there. -/
def afterSpaceAndSign? (sign : Char) (cs : List Char) :
    Option { rest : List Char // rest.length < cs.length } := do
  let ⟨rest, h⟩ ← afterSign? sign (skipSpace cs)
  return ⟨rest, Nat.lt_of_lt_of_le h (length_skipSpace cs)⟩

/-- A text without the blanks, line breaks and comments before it. `inComment` says that it starts
in a comment. -/
def skipLines? : (inComment : Bool) → List Char → Option (List Char)
  | _, '\n' :: rest => skipLines? false rest
  | _, '\r' :: '\n' :: rest => skipLines? false rest
  | true, c :: rest => if isTextChar c then skipLines? true rest else none
  | true, [] => none
  | false, '#' :: rest => skipLines? true rest
  | false, c :: rest => if isSpace c then skipLines? false rest else some (c :: rest)
  | false, [] => some []

/-- The text after a line, of which nothing is left but blanks and a comment. -/
def endLine? (cs : List Char) : Option (List Char) :=
  let rest := match skipSpace cs with
    | '#' :: comment => comment.dropWhile isTextChar
    | rest => rest
  match rest with
  | [] => some []
  | rest => afterLineBreak? rest

/-! ### Keys -/

/-- A character of a key without quotes. -/
def isKeyChar (c : Char) : Bool := c.isAlphanum || c == '_' || c == '-'

/-- One part of a key. -/
def readKeyPart? (cs : List Char) : Option (String × List Char) :=
  match cs with
  | '"' :: _ | '\'' :: _ => (readLineText? cs).map fun (name, rest) => (.ofList name, rest)
  | _ =>
    match cs.takeWhile isKeyChar with
    | [] => none
    | name => some (.ofList name, cs.dropWhile isKeyChar)

/-- Parts of a key with points between them, and blanks around the parts. -/
def readKeyParts? (cs : List Char) : Option (Shorter (List String) cs) := do
  let ⟨(part, after), h⟩ ← shorter? cs (readKeyPart? (skipSpace cs))
  match afterSpaceAndSign? '.' after with
  | none => return ⟨([part], skipSpace after), Nat.lt_of_le_of_lt (length_skipSpace after) h⟩
  | some ⟨rest, hrest⟩ =>
    have hlt : rest.length < cs.length := Nat.lt_trans hrest h
    let ⟨(parts, last), hlast⟩ ← readKeyParts? rest
    return ⟨(part :: parts, last), Nat.lt_trans hlast hlt⟩
termination_by cs.length
decreasing_by exact hlt

/-- How deep values may be nested, and how many tables a key may lead through. -/
def maxDepth : Nat := 79

/-- **A key.** It has no more parts than values have levels. -/
def readKey? (cs : List Char) : Option (Shorter (List String) cs) :=
  (readKeyParts? cs).filter fun r => r.1.1.length ≤ maxDepth

/-! ### Values -/

/-- A value that holds no other value. A date may be followed by a space and a time of day. -/
def readSimple? (cs : List Char) : Option (Json × List Char) :=
  match cs with
  | '"' :: _ | '\'' :: _ => (readText? cs).map fun (s, rest) => (.text (.ofList s), rest)
  | _ =>
    let word := cs.takeWhile isScalarChar
    let rest := cs.dropWhile isScalarChar
    match rest with
    | ' ' :: after =>
      let next := after.takeWhile isScalarChar
      if isDate word && !next.isEmpty then
        if isTimeWithOffset next then
          some (moment (word ++ ' ' :: next), after.dropWhile isScalarChar)
        else none
      else (scalar? word).map (·, rest)
    | _ => (scalar? word).map (·, rest)

/-- A key and the sign after it that a value has to follow. -/
def readKeyAndSign? (cs : List Char) : Option (Shorter (List String) cs) := do
  let ⟨(key, after), h⟩ ← readKey? cs
  let ⟨rest, hrest⟩ ← afterSpaceAndSign? '=' after
  return ⟨(key, rest), Nat.lt_trans hrest h⟩

/-- A shorter text comes before a longer one in the order in which values are read. -/
theorem double_lt {m n : Nat} (h : m < n) : 2 * m + 1 < 2 * n := by omega

/-- A text comes before itself where a value in a list or table is read. -/
theorem double_le {m n : Nat} (h : m ≤ n) : 2 * m < 2 * n + 1 := by omega

/-- A shorter text comes before a longer one where the next value in a list or table is read. -/
theorem double_succ_lt {m n : Nat} (h : m < n) : 2 * m + 1 < 2 * n + 1 := by omega

mutual

/-- **A value**, in which `depth` levels of lists and tables may be nested. -/
def readValue? (depth : Nat) (cs : List Char) : Option (Shorter Json cs) :=
  match afterSign? '[' cs, afterSign? '\x7b' cs, depth with
  | none, none, _ => shorter? cs (readSimple? cs)
  | _, _, 0 => none
  | some ⟨rest, hrest⟩, _, depth + 1 => do
    let ⟨(items, after), h⟩ ← readItems? depth rest
    return ⟨(.array items, after), Nat.lt_trans h hrest⟩
  | none, some ⟨rest, hrest⟩, depth + 1 =>
    match afterSpaceAndSign? '\x7d' rest with
    | some ⟨after, h⟩ => some ⟨(.object [], after), Nat.lt_trans h hrest⟩
    | none => do
      let ⟨(members, after), h⟩ ← readMembers? depth [] rest
      return ⟨(.object (membersToJson members), after), Nat.lt_trans h hrest⟩
termination_by 2 * cs.length
decreasing_by
  · exact double_lt hrest
  · exact double_lt hrest

/-- The items of a list up to its closing bracket. A comma may follow the last one. -/
def readItems? (depth : Nat) (cs : List Char) : Option (Shorter (List Json) cs) := do
  let ⟨start, hstart⟩ ← (skipLines? false cs).bind (notLonger? cs)
  match afterSign? ']' start with
  | some ⟨rest, h⟩ => return ⟨([], rest), Nat.lt_of_lt_of_le h hstart⟩
  | none =>
    let ⟨(item, after), hafter⟩ ← readValue? depth start
    let ⟨next, hnext⟩ ← (skipLines? false after).bind (notLonger? after)
    have hlt : next.length < cs.length :=
      Nat.lt_of_le_of_lt hnext (Nat.lt_of_lt_of_le hafter hstart)
    match afterSign? ']' next with
    | some ⟨rest, h⟩ => return ⟨([item], rest), Nat.lt_trans h hlt⟩
    | none =>
      let ⟨rest, h⟩ ← afterSign? ',' next
      have hrest : rest.length < cs.length := Nat.lt_trans h hlt
      let ⟨(items, last), hlast⟩ ← readItems? depth rest
      return ⟨(item :: items, last), Nat.lt_trans hlast hrest⟩
termination_by 2 * cs.length + 1
decreasing_by
  · exact double_le hstart
  · exact double_succ_lt hrest

/-- The members of a table on one line up to its closing brace, at least one, after those that have
been read. -/
def readMembers? (depth : Nat) (before : Members) (cs : List Char) :
    Option (Shorter Members cs) := do
  let ⟨(key, afterKey), hkey⟩ ← readKeyAndSign? cs
  have hvalue : (skipSpace afterKey).length < cs.length :=
    Nat.lt_of_le_of_lt (length_skipSpace afterKey) hkey
  let ⟨(j, after), hafter⟩ ← readValue? depth (skipSpace afterKey)
  have hlt : after.length < cs.length := Nat.lt_trans hafter hvalue
  let members ← put? [] key j before
  match afterSpaceAndSign? '\x7d' after with
  | some ⟨rest, h⟩ => return ⟨(members, rest), Nat.lt_trans h hlt⟩
  | none =>
    let ⟨rest, h⟩ ← afterSpaceAndSign? ',' after
    have hrest : rest.length < cs.length := Nat.lt_trans h hlt
    let ⟨(all, last), hlast⟩ ← readMembers? depth members rest
    return ⟨(all, last), Nat.lt_trans hlast hrest⟩
termination_by 2 * cs.length + 1
decreasing_by
  · exact double_le (Nat.le_of_lt hvalue)
  · exact double_succ_lt hrest

end

/-! ### Lines -/

/-- **A document that is being read**: its table, and the header that was read last. -/
structure Document where
  header : List String := []
  members : Members := []

/-- A header and the closing brackets after it. -/
def readHeader? (close : List Char) (cs : List Char) : Option (List String × List Char) := do
  let ⟨(header, rest), _⟩ ← readKey? cs
  if close.isPrefixOf rest then some (header, rest.drop close.length) else none

/-- A line that gives a key a value. -/
def readAssignment? (d : Document) (cs : List Char) : Option (Document × List Char) := do
  let ⟨(key, rest), _⟩ ← readKeyAndSign? cs
  let ⟨(j, rest), _⟩ ← readValue? maxDepth (skipSpace rest)
  let members ← put? d.header key j d.members
  return ({ d with members }, rest)

/-- What a line says, its end aside. -/
def readStatement? (d : Document) (cs : List Char) : Option (Document × List Char) :=
  match cs with
  | '[' :: '[' :: rest => do
    let (header, rest) ← readHeader? [']', ']'] rest
    return ({ header, members := ← openNext? header d.members }, rest)
  | '[' :: rest => do
    let (header, rest) ← readHeader? [']'] rest
    return ({ header, members := ← open? header d.members }, rest)
  | '#' :: _ | '\n' :: _ | '\r' :: _ | [] => some (d, cs)
  | _ => readAssignment? d cs

/-- **A line, with its effect on the document.** -/
def readLine? (d : Document) (cs : List Char) : Option (Document × List Char) := do
  let (d, rest) ← readStatement? d (skipSpace cs)
  return (d, ← endLine? rest)

/-- All lines. -/
def readLines? (d : Document) (cs : List Char) : Option Document :=
  if cs.isEmpty then some d
  else do
    let ⟨(d, rest), _⟩ ← shorter? cs (readLine? d cs)
    readLines? d rest
termination_by cs.length

/-- The mark of the order of bytes, which may stand at the start of a document. -/
def byteOrderMark : Char := '\uFEFF'

/-- **A document.** -/
def ofText? (s : String) : Option Json := do
  let cs := match s.toList with
    | c :: rest => if c == byteOrderMark then rest else c :: rest
    | [] => []
  let d ← readLines? {} cs
  return .object (membersToJson d.members)

end FederatedSearch.Toml
