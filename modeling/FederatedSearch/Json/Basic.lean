import FederatedSearch.Number.Binary64

/-!
# JSON values

Datasets, cached rows and configurations are exchanged as JSON. Numbers are of two kinds: those
written as integers of 64 bits, which are exact, and all others, which are floating-point numbers.
The members of an object are kept in the order in which they are written, repeated names included.

The grammar admits texts that stand for nothing, such as half of a character. They do no harm
where they are passed over, so they have a place among the values.

* `FederatedSearch.Json.distinct`: the value with every name of an object occurring once.
* `FederatedSearch.Json.isSound`: nothing in the value is broken.
* `FederatedSearch.Json.depth`: how deep lists and objects are nested.
-/

namespace FederatedSearch

open Number

/-- **A JSON value.** -/
inductive Json where
  /-- The value `null`. -/
  | null
  /-- A truth value. -/
  | bool (b : Bool)
  /-- A number written as an integer between -2^63 and 2^64 - 1. -/
  | integer (n : Int)
  /-- Any other number. -/
  | real (x : Binary64)
  /-- A text. -/
  | text (s : String)
  /-- A list of values. -/
  | array (items : List Json)
  /-- Named values. -/
  | object (members : List (String × Json))
  /-- What follows the grammar and stands for nothing: a text with half of a character, an object
  with such a name, or a number too great. -/
  | broken
  deriving Repr, Inhabited

namespace Json

/-- A natural number. -/
abbrev nat (n : Nat) : Json := .integer n

/-- A value that may be missing, with `null` for the missing one. -/
def orNull {α : Type} (encode : α → Json) : Option α → Json
  | none => .null
  | some a => encode a

/-- A list of values of one kind. -/
def list {α : Type} (encode : α → Json) (xs : List α) : Json := .array (xs.map encode)

/-- The last of the members with a name. -/
def member? (name : String) : Json → Option Json
  | .object members => (members.reverse.find? (·.1 == name)).map (·.2)
  | _ => none

/-- Put a member in front, unless its name occurs among those that follow. -/
def consDistinct (m : String × Json) (rest : List (String × Json)) : List (String × Json) :=
  if rest.any (·.1 == m.1) then rest else m :: rest

mutual

/-- **The value with every name of an object occurring once**: the last of the members with one
name is kept. -/
def distinct : Json → Json
  | .array items => .array (distinctItems items)
  | .object members => .object (distinctMembers members)
  | j => j

/-- The items of a list, each with distinct names. -/
def distinctItems : List Json → List Json
  | [] => []
  | j :: rest => j.distinct :: distinctItems rest

/-- The members of an object, each with distinct names, and the last of those with one name. -/
def distinctMembers : List (String × Json) → List (String × Json)
  | [] => []
  | (name, j) :: rest => consDistinct (name, j.distinct) (distinctMembers rest)

end

mutual

/-- **Nothing in the value is broken.** -/
def isSound : Json → Bool
  | .array items => areSound items
  | .object members => areSoundMembers members
  | .broken => false
  | _ => true

/-- Nothing in any of several values is broken. -/
def areSound : List Json → Bool
  | [] => true
  | j :: rest => j.isSound && areSound rest

/-- Nothing in any of several members is broken. -/
def areSoundMembers : List (String × Json) → Bool
  | [] => true
  | (_, j) :: rest => j.isSound && areSoundMembers rest

end

mutual

/-- How deep lists and objects are nested in a value. -/
def depth : Json → Nat
  | .array items => depthItems items + 1
  | .object members => depthMembers members + 1
  | _ => 0

/-- How deep the deepest of several values is nested. -/
def depthItems : List Json → Nat
  | [] => 0
  | j :: rest => max j.depth (depthItems rest)

/-- How deep the deepest of several members is nested. -/
def depthMembers : List (String × Json) → Nat
  | [] => 0
  | (_, j) :: rest => max j.depth (depthMembers rest)

end

end Json

end FederatedSearch
