import FederatedSearch.Calendar.Reading
import FederatedSearch.Catalog
import FederatedSearch.Number.Literal
import FederatedSearch.Text.Order
import FederatedSearch.Thesaurus

/-!
# Indexed records

What the index of a backend holds: records with fields, each in one collection, and possibly a
thesaurus. How two values of a field are compared follows from the kind of the field: texts by their
lowercase forms, numbers by size, and dates by the day that their first ten bytes name. Values that
are no numbers or dates cannot be compared.

* `FederatedSearch.Record`, `FederatedSearch.BackendIndex`, `FederatedSearch.Dataset`: what is
  indexed.
* `FederatedSearch.Index.compareValues`: the order of two values.
-/

namespace FederatedSearch

/-- What a record is. -/
inductive EntityKind where
  /-- A single record. -/
  | record
  /-- A group of records. -/
  | story
  deriving DecidableEq, Repr

/-- A value of a field of a record. -/
structure FieldValue where
  name : String
  value : String
  deriving DecidableEq, Repr

/-- **A record of an index.** -/
structure Record where
  id : Nat
  collection : Nat
  type : String
  kind : EntityKind
  /-- The status word. Its three lowest bits belong to the index. -/
  status : BitVec 64
  fields : List FieldValue
  deriving DecidableEq, Repr

namespace Record

/-- The values of a field, its name compared up to the case of ASCII letters. -/
def values (r : Record) (name : String) : List String :=
  (r.fields.filter (Text.sameAscii ·.name name)).map (·.value)

/-- The title: the first value of the field `Title`. -/
def title? (r : Record) : Option String := (r.values "Title").head?

/-- The status word with the flag for indexing anew, and without the other bits of the index. -/
def flagged (status : BitVec 64) : BitVec 64 := (status &&& ~~~7#64) ||| 4#64

/-- The record flagged for indexing anew. -/
def flag (r : Record) : Record := { r with status := flagged r.status }

end Record

/-- **The index of one backend.** -/
structure BackendIndex where
  backend : Backend
  thesaurus : Option Thesaurus
  records : List Record
  deriving DecidableEq, Repr

/-- The first record with an id. -/
def BackendIndex.record? (i : BackendIndex) (id : Nat) : Option Record :=
  i.records.find? (·.id == id)

/-- **A dataset**: the indexes of all backends, in the order of their declaration. -/
structure Dataset where
  indexes : List BackendIndex
  deriving DecidableEq, Repr

/-! ### Comparing values -/

namespace Index

/-- A value as a number. -/
def number? (s : String) : Option Number.Binary64 := Number.binary64? (Text.trim s).toList

/-- **The order of two values of a kind**, if they can be compared. -/
def compareValues (kind : FieldKind) (a b : String) : Option Ordering :=
  match kind with
  | .text => some (Text.cmpChars (Text.lowercase a.toList) (Text.lowercase b.toList))
  | .number => do (← number? a).compare? (← number? b)
  | .date => do return (← Calendar.Date.ofField? a).cmp (← Calendar.Date.ofField? b)

end Index

end FederatedSearch
