import FederatedSearch.Json.Reader

/-!
# Typed values from JSON

A typed value is read from JSON by the same few rules everywhere.

* A record is an object, or a list of its members in their order. Members that the record does not
  know are passed over, whatever they hold; one that it knows may occur once only.
* A member may be required, have a default, or be optional with `null` for a missing one.
* A choice is the name of its case, or an object with the name as its only member.

In two details the places where values are written differ, which
`FederatedSearch.Json.Conventions` makes a parameter.
-/

namespace FederatedSearch.Json

open Number

/-! ### Scalars -/

/-- A text. -/
def text? : Json → Option String
  | .text s => some s
  | _ => none

/-- A truth value. -/
def bool? : Json → Option Bool
  | .bool b => some b
  | _ => none

/-- A natural number of `bits` bits. -/
def word? (bits : Nat) : Json → Option Nat
  | .integer n => if 0 ≤ n && n.toNat ≤ maxWord bits then some n.toNat else none
  | _ => none

/-- An integer of 64 bits with a sign. -/
def int64? : Json → Option Int
  | .integer n => if n ≤ greatestInt then some n else none
  | _ => none

/-- A floating-point number, which an integer is too. -/
def real? : Json → Option Binary64
  | .integer n => some (.ofRatio (n < 0) n.natAbs 1)
  | .real x => some x
  | _ => none

/-- A list of values of one kind. -/
def list? {α : Type} (decode : Json → Option α) : Json → Option (List α)
  | .array items => items.mapM decode
  | _ => none

/-- A value that may be `null`. -/
def nullable? {α : Type} (decode : Json → Option α) : Json → Option (Option α)
  | .null => some none
  | j => (decode j).map some

/-- A pair, written as a list of two. -/
def pair? {α β : Type} (first : Json → Option α) (second : Json → Option β) :
    Json → Option (α × β)
  | .array [a, b] => do return (← first a, ← second b)
  | _ => none

/-- The value that a text names in a finite list of names. -/
def named? {α : Type} (names : List (String × α)) (s : String) : Option α :=
  (names.find? (·.1 == s)).map (·.2)

/-! ### Conventions -/

/-- **What a place leaves open** in the way records and choices are written there. -/
structure Conventions where
  /-- A list that stands for a record may go on after the last member. -/
  longLists : Bool
  /-- The value stands for what a case carries that carries nothing. -/
  isNothing : Json → Bool

/-- The value is `null`. -/
def isNull : Json → Bool
  | .null => true
  | _ => false

/-- The value is a list without items or an object without members. -/
def isEmpty : Json → Bool
  | .array [] | .object [] => true
  | _ => false

namespace Conventions

/-- **The conventions of JSON**: a list has no more items than the record has members, and `null`
stands for nothing. -/
def standard : Conventions := ⟨false, isNull⟩

/-- **The conventions for a value that is kept before it is looked into**: an object without
members stands for nothing too. -/
def kept : Conventions := ⟨false, fun
  | .null | .object [] => true
  | _ => false⟩

/-- **The conventions of a document of tables**, which has no `null`: an empty list or table stands
for nothing, and a list may go on. -/
def tables : Conventions := ⟨true, isEmpty⟩

end Conventions

/-! ### Records -/

/-- **The members of a record**: by name, or by their place in the list of names. -/
inductive Fields where
  /-- The record is written as an object. -/
  | byName (members : List (String × Json))
  /-- The record is written as a list. -/
  | byPlace (names : List String) (items : List Json)

/-- The members of a record with the given names, under some conventions. -/
def Conventions.fields? (c : Conventions) (names : List String) : Json → Option Fields
  | .object members =>
    if names.all fun name => members.countP (·.1 == name) ≤ 1 then some (.byName members) else none
  | .array items =>
    if c.longLists || items.length ≤ names.length then some (.byPlace names items) else none
  | _ => none

/-- The members of a record with the given names. -/
def fields? (names : List String) (j : Json) : Option Fields :=
  Conventions.standard.fields? names j

/-- The members of a record that has to be an object. -/
def objectFields? (names : List String) : Json → Option Fields
  | .object members => fields? names (.object members)
  | _ => none

namespace Fields

/-- The member with a name. -/
def get? (f : Fields) (name : String) : Option Json :=
  match f with
  | .byName members => (members.find? (·.1 == name)).map (·.2)
  | .byPlace names items => ((names.zip items).find? (·.1 == name)).map (·.2)

/-- A member that has to be there. -/
def required {α : Type} (f : Fields) (name : String) (decode : Json → Option α) : Option α :=
  (f.get? name).bind decode

/-- A member with a default for a missing one. -/
def withDefault {α : Type} (f : Fields) (name : String) (default : α)
    (decode : Json → Option α) : Option α :=
  match f.get? name with
  | none => some default
  | some j => decode j

/-- A member that may be missing or `null`. A record written as a list has to have it. -/
def optional {α : Type} (f : Fields) (name : String) (decode : Json → Option α) :
    Option (Option α) :=
  match f, f.get? name with
  | .byName _, none => some none
  | .byPlace .., none => none
  | _, some j => nullable? decode j

end Fields

/-! ### Choices -/

/-- **A choice**: the name of its case, and what the case carries. -/
def choice? : Json → Option (String × Option Json)
  | .text name => some (name, none)
  | .object [(name, j)] => some (name, some j)
  | _ => none

/-- A choice whose cases carry nothing, by the names of the cases, under some conventions. -/
def Conventions.plainChoice? {α : Type} (c : Conventions) (names : List (String × α)) (j : Json) :
    Option α :=
  match choice? j with
  | some (name, none) => named? names name
  | some (name, some carried) => if c.isNothing carried then named? names name else none
  | none => none

/-- A choice whose cases carry nothing, by the names of the cases. -/
def plainChoice? {α : Type} (names : List (String × α)) (j : Json) : Option α :=
  Conventions.standard.plainChoice? names j

end FederatedSearch.Json
