import FederatedSearch.Calendar.Reading
import FederatedSearch.Json.Decode
import FederatedSearch.SearchOptions
import FederatedSearch.Text.Order

/-!
# Search options as JSON

Search options are exchanged as an object all of whose members may be missing.
-/

namespace FederatedSearch

open Calendar Json

/-! ### Dates -/

/-- A date as JSON. -/
def Calendar.Date.toJson (d : Date) : Json := .text d.toText

/-- A date from JSON. -/
def Calendar.Date.ofJson? (j : Json) : Option Date := j.text?.bind Date.ofText?

/-! ### Status filters -/

/-- A number that names a member of an object. -/
def numberedName? (name : String) : Option Nat :=
  match Json.readNumber? name.toList with
  | some (j, []) => j.word? 32
  | _ => none

/-- The members of an object whose names are numbers. -/
def numberedMembers? {α : Type} (decode : Json → Option α) : Json → Option (List (Nat × α))
  | .object members =>
    members.mapM fun (name, j) => do return (← numberedName? name, ← decode j)
  | _ => none

/-- A table with numbers as keys, as JSON. -/
def numberedToJson {α : Type} (encode : α → Json) (t : Table Nat α) : Json :=
  .object (t.map fun (key, a) => (toString key, encode a))

/-- A table with numbers as keys, from JSON. -/
def numberedOfJson? {α : Type} (decode : Json → Option α) (j : Json) : Option (Table Nat α) :=
  (numberedMembers? decode j).map fun members =>
    members.foldl (fun t (key, a) => Table.insert compare key a t) []

namespace StatusFilter

/-- A status filter as JSON. -/
def toJson (f : StatusFilter) : Json :=
  .object [("bits", numberedToJson (numberedToJson .bool) f.entries)]

/-- A status filter from JSON. -/
def ofJson? (j : Json) : Option StatusFilter := do
  let f ← fields? ["bits"] j
  return ⟨← f.required "bits" (numberedOfJson? (numberedOfJson? bool?))⟩

end StatusFilter

/-! ### Options -/

/-- The directions of a sort by name. -/
def SortOrder.names : List (String × SortOrder) := [("asc", .ascending), ("desc", .descending)]

/-- The name of a direction. -/
def SortOrder.name : SortOrder → String
  | .ascending => "asc"
  | .descending => "desc"

/-- What is searched for, by name. -/
def SearchMode.names : List (String × SearchMode) :=
  [("document", .document), ("record_group", .recordGroup)]

/-- The name of what is searched for. -/
def SearchMode.name : SearchMode → String
  | .document => "document"
  | .recordGroup => "record_group"

namespace SearchOptions

/-- The names of the members of search options. -/
def memberNames : List String :=
  ["record_type", "backends", "collections", "fields", "date_fields", "min_date", "max_date",
    "status", "sort_by", "sort_order", "stemming", "locale", "search_mode", "business_fields_on"]

/-- **Search options as JSON.** -/
def toJson (o : SearchOptions) : Json :=
  .object
    [("record_type", orNull .text o.recordType), ("backends", list .nat o.backends),
      ("collections", list .nat o.collections), ("fields", list .text o.fields),
      ("date_fields", list .text o.dateFields), ("min_date", orNull Date.toJson o.minDate),
      ("max_date", orNull Date.toJson o.maxDate), ("status", o.status.toJson),
      ("sort_by", orNull .text o.sortBy), ("sort_order", .text o.sortOrder.name),
      ("stemming", .bool o.stemming), ("locale", .text o.locale),
      ("search_mode", .text o.mode.name), ("business_fields_on", list .nat o.businessOn)]

/-- **Search options from JSON.** -/
def ofJson? (j : Json) : Option SearchOptions := do
  let f ← fields? memberNames j
  return {
    recordType := ← f.withDefault "record_type" none (nullable? text?)
    backends := ← f.withDefault "backends" [] (list? (word? 32))
    collections := ← f.withDefault "collections" [] (list? (word? 32))
    fields := ← f.withDefault "fields" [] (list? text?)
    dateFields := ← f.withDefault "date_fields" [] (list? text?)
    minDate := ← f.withDefault "min_date" none (nullable? Date.ofJson?)
    maxDate := ← f.withDefault "max_date" none (nullable? Date.ofJson?)
    status := ← f.withDefault "status" .empty StatusFilter.ofJson?
    sortBy := ← f.withDefault "sort_by" none (nullable? text?)
    sortOrder := ← f.withDefault "sort_order" .descending (plainChoice? SortOrder.names)
    stemming := ← f.withDefault "stemming" false bool?
    locale := ← f.withDefault "locale" "" text?
    mode := ← f.withDefault "search_mode" .document (plainChoice? SearchMode.names)
    businessOn := ← f.withDefault "business_fields_on" [] (list? (word? 32)) }

end SearchOptions

end FederatedSearch
