import FederatedSearch.Text.Case

/-!
# Catalogs

A catalog describes the backends that can be searched: their collections, which are what a caller
is authorized for, and their fields.

* `FederatedSearch.Field`, `FederatedSearch.Backend`, `FederatedSearch.Catalog`: the descriptions.
* `FederatedSearch.Catalog.authorized`: the collections of a backend that a caller may see.
* `FederatedSearch.Catalog.resolves`: a backend is there and owns a collection.
-/

namespace FederatedSearch

/-- The kind of the values of a field. -/
inductive FieldKind where
  /-- Any text. -/
  | text
  /-- Dates. -/
  | date
  /-- Numbers. -/
  | number
  deriving DecidableEq, Repr

/-- **A field**: its name, the kind of its values, and whether it is searchable only where business
fields are enabled. -/
structure Field where
  name : String
  kind : FieldKind := .text
  business : Bool := false
  deriving DecidableEq, Repr

/-- A collection: the part of the records of a backend that is authorized as one. -/
structure Collection where
  id : Nat
  name : String
  deriving DecidableEq, Repr

/-- **A backend**: its collections and fields. -/
structure Backend where
  id : Nat
  name : String
  collections : List Collection := []
  fields : List Field := []
  deriving DecidableEq, Repr

namespace Backend

/-- The field with a name, up to the case of ASCII letters. -/
def field? (b : Backend) (name : String) : Option Field :=
  b.fields.find? (Text.sameAscii ·.name name)

/-- The kind of the values of a field. One that is not described holds text. -/
def kindOf (b : Backend) (name : String) : FieldKind :=
  ((b.field? name).map (·.kind)).getD .text

/-- The backend owns the collection. -/
def owns (b : Backend) (collection : Nat) : Bool := b.collections.any (·.id == collection)

/-- **The collections of the backend among those that are allowed**, in its own order. -/
def authorized (b : Backend) (allowed : List Nat) : List Nat :=
  (b.collections.map (·.id)).filter allowed.contains

theorem mem_authorized {b : Backend} {allowed : List Nat} {c : Nat} :
    c ∈ b.authorized allowed ↔ (∃ d ∈ b.collections, d.id = c) ∧ c ∈ allowed := by
  simp [authorized]

end Backend

/-- **All backends**, in the order of their declaration. -/
structure Catalog where
  backends : List Backend
  deriving DecidableEq, Repr

/-- Put a name at the end of a list, unless it is in it. -/
def addName (names : List String) (name : String) : List String :=
  if names.contains name then names else names ++ [name]

namespace Catalog

/-- The backend with an id: the first that is declared with it. -/
def backend? (c : Catalog) (id : Nat) : Option Backend := c.backends.find? (·.id == id)

/-- The ids of all backends. -/
def ids (c : Catalog) : List Nat := c.backends.map (·.id)

/-- The catalog describes no backend. -/
def isEmpty (c : Catalog) : Bool := c.backends.isEmpty

/-- The first backend that owns a collection. -/
def ownerOf? (c : Catalog) (collection : Nat) : Option Nat :=
  (c.backends.find? (·.owns collection)).map (·.id)

/-- The backend is described and owns the collection. -/
def resolves (c : Catalog) (backend collection : Nat) : Bool :=
  (c.backend? backend).any (·.owns collection)

/-- **The collections of a backend that a caller may see.** -/
def authorized (c : Catalog) (backend : Nat) (allowed : List Nat) : List Nat :=
  ((c.backend? backend).map (·.authorized allowed)).getD []

/-- The ids of all collections of all backends. -/
def collectionIds (c : Catalog) : List Nat :=
  c.backends.flatMap fun b => b.collections.map (·.id)

/-- The names of all fields of certain kinds, each once. -/
def fieldNames (c : Catalog) (keep : FieldKind → Bool) : List String :=
  (((c.backends.flatMap (·.fields)).filter (keep ·.kind)).map (·.name)).foldl addName []

/-- The names of all date fields. -/
def dateFields (c : Catalog) : List String := c.fieldNames (· == .date)

/-- The names of all fields that results can be sorted by: those of dates and of numbers. -/
def sortFields (c : Catalog) : List String := c.fieldNames (· != .text)

end Catalog

end FederatedSearch
