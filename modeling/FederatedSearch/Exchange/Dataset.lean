import FederatedSearch.Index.Record
import FederatedSearch.Json.Decode

/-!
# Datasets as JSON

A dataset is exchanged as an object with a list of backends. Each backend is an object that holds
the members of its description next to its thesaurus and its records.
-/

namespace FederatedSearch

open Json

/-! ### Thesauri -/

/-- A concept as JSON. -/
def Concept.toJson (c : Concept) : Json :=
  .object
    [("term", .text c.term), ("synonyms", list .text c.synonyms),
      ("related", list .text c.related), ("hits", .nat c.hits)]

/-- A concept from JSON. -/
def Concept.ofJson? (j : Json) : Option Concept := do
  let f ← fields? ["term", "synonyms", "related", "hits"] j
  return {
    term := ← f.required "term" text?
    synonyms := ← f.withDefault "synonyms" [] (list? text?)
    related := ← f.withDefault "related" [] (list? text?)
    hits := ← f.withDefault "hits" 0 (word? 64) }

/-- **A thesaurus as JSON.** -/
def Thesaurus.toJson (t : Thesaurus) : Json :=
  .object [("concepts", list Concept.toJson t.concepts)]

/-- **A thesaurus from JSON.** -/
def Thesaurus.ofJson? (j : Json) : Option Thesaurus := do
  let f ← fields? ["concepts"] j
  return ⟨← f.withDefault "concepts" [] (list? Concept.ofJson?)⟩

/-! ### Descriptions of backends -/

/-- The kinds of fields by name. -/
def FieldKind.names : List (String × FieldKind) :=
  [("text", .text), ("date", .date), ("number", .number)]

/-- The name of a kind of fields. -/
def FieldKind.name : FieldKind → String
  | .text => "text"
  | .date => "date"
  | .number => "number"

/-- A field as JSON. -/
def Field.toJson (f : Field) : Json :=
  .object
    [("name", .text f.name), ("kind", .text f.kind.name), ("business", .bool f.business)]

/-- A field from JSON under some conventions. -/
def Field.ofJson? (c : Conventions) (j : Json) : Option Field := do
  let f ← c.fields? ["name", "kind", "business"] j
  return {
    name := ← f.required "name" text?
    kind := ← f.withDefault "kind" .text (c.plainChoice? FieldKind.names)
    business := ← f.withDefault "business" false bool? }

/-- A collection as JSON. -/
def Collection.toJson (c : Collection) : Json :=
  .object [("id", .nat c.id), ("name", .text c.name)]

/-- A collection from JSON. -/
def Collection.ofJson? (j : Json) : Option Collection := do
  let f ← fields? ["id", "name"] j
  return ⟨← f.required "id" (word? 32), ← f.required "name" text?⟩

namespace Backend

/-- The names of the members of a description. -/
def memberNames : List String := ["id", "name", "collections", "fields"]

/-- **The description of a backend as JSON.** -/
def toJson (b : Backend) : Json :=
  .object
    [("id", .nat b.id), ("name", .text b.name),
      ("collections", list Collection.toJson b.collections),
      ("fields", list Field.toJson b.fields)]

/-- The description of a backend from its members under some conventions. -/
def ofFields? (c : Conventions) (f : Fields) : Option Backend := do
  return {
    id := ← f.required "id" (word? 32)
    name := ← f.required "name" text?
    collections := ← f.withDefault "collections" [] (list? Collection.ofJson?)
    fields := ← f.withDefault "fields" [] (list? (Field.ofJson? c)) }

/-- **The description of a backend from JSON.** -/
def ofJson? (j : Json) : Option Backend := (fields? memberNames j).bind (ofFields? .standard)

end Backend

/-- **A catalog as JSON.** -/
def Catalog.toJson (c : Catalog) : Json := .object [("backends", list Backend.toJson c.backends)]

/-- **A catalog from JSON.** -/
def Catalog.ofJson? (j : Json) : Option Catalog := do
  let f ← fields? ["backends"] j
  return ⟨← f.required "backends" (list? Backend.ofJson?)⟩

/-! ### Records -/

/-- What a record can be, by name. -/
def EntityKind.names : List (String × EntityKind) := [("record", .record), ("story", .story)]

/-- The name of what a record is. -/
def EntityKind.name : EntityKind → String
  | .record => "record"
  | .story => "story"

/-- What a record is, from JSON. -/
def EntityKind.ofJson? (j : Json) : Option EntityKind := plainChoice? names j

/-- A value of a field from JSON. -/
def FieldValue.ofJson? (j : Json) : Option FieldValue := do
  let f ← fields? ["name", "value"] j
  return ⟨← f.required "name" text?, ← f.required "value" text?⟩

/-- **A record from JSON.** -/
def Record.ofJson? (j : Json) : Option Record := do
  let f ← fields? ["record_id", "collection_id", "record_type", "kind", "status", "fields"] j
  return {
    id := ← f.required "record_id" (word? 64)
    collection := ← f.required "collection_id" (word? 32)
    type := ← f.withDefault "record_type" "image" text?
    kind := ← f.withDefault "kind" .record EntityKind.ofJson?
    status := .ofNat 64 (← f.withDefault "status" 0 (word? 64))
    fields := ← f.withDefault "fields" [] (list? FieldValue.ofJson?) }

/-! ### Datasets -/

/-- The names of the members of an index that stand next to the description of its backend. -/
def BackendIndex.memberNames : List String := ["thesaurus", "records"]

/-- How deep a member that is kept may be nested. The dataset, its list of backends and the backend
are three more levels. -/
def BackendIndex.maxKeptDepth : Nat := 124

/-- **The member can be kept.** What does not belong to the index itself is kept until the index
has been read, and then looked into for the description. -/
def BackendIndex.canKeep (m : String × Json) : Bool :=
  memberNames.contains m.1 || (m.2.isSound && m.2.depth ≤ maxKeptDepth)

/-- All members of an object that can be kept. -/
def BackendIndex.keptFields? : Json → Option Fields
  | .object members =>
    if members.all canKeep then
      fields? (Backend.memberNames ++ BackendIndex.memberNames) (.object members)
    else none
  | _ => none

/-- **The index of a backend from JSON.** -/
def BackendIndex.ofJson? (j : Json) : Option BackendIndex := do
  let f ← keptFields? j
  return {
    backend := ← Backend.ofFields? .kept f
    thesaurus := ← f.optional "thesaurus" Thesaurus.ofJson?
    records := ← f.withDefault "records" [] (list? Record.ofJson?) }

/-- **A dataset from JSON.** -/
def Dataset.ofJson? (j : Json) : Option Dataset := do
  let f ← fields? ["backends"] j
  return ⟨← f.required "backends" (list? BackendIndex.ofJson?)⟩

/-- **A dataset from a text.** -/
def Dataset.ofText? (s : String) : Option Dataset := (Json.ofText? s).bind ofJson?

end FederatedSearch
