import FederatedSearch.Json.Decode
import FederatedSearch.Json.Printer
import FederatedSearch.Session.Row
import FederatedSearch.Table
import FederatedSearch.Text.Order

/-!
# Rows as JSON

A row is exchanged as an object with six members. Instants are written as texts.
-/

namespace FederatedSearch

open Calendar

/-- An instant as JSON. -/
def Calendar.Instant.toJson (t : Instant) : Json := .text t.toText

/-- An instant from JSON. -/
def Calendar.Instant.ofJson? (j : Json) : Option Instant := j.text?.bind Instant.ofText?

namespace Row

/-- The names of the members of a row. -/
def memberNames : List String :=
  ["session_id", "query", "query_time", "duration", "total", "last_access"]

/-- **A row as JSON.** -/
def toJson (r : Row) : Json :=
  .object
    [("session_id", .text r.session), ("query", .text r.query),
      ("query_time", r.queryTime.toJson), ("duration", .real r.duration),
      ("total", .nat r.total), ("last_access", r.lastAccess.toJson)]

/-- **A row from JSON.** -/
def ofJson? (j : Json) : Option Row := do
  let f ← Json.fields? memberNames j
  return {
    session := ← f.required "session_id" Json.text?
    query := ← f.required "query" Json.text?
    queryTime := ← f.required "query_time" Instant.ofJson?
    duration := ← f.required "duration" Json.real?
    total := ← f.required "total" (Json.word? 64)
    lastAccess := ← f.required "last_access" Instant.ofJson? }

/-! ### Tables of rows -/

/-- The rows of a table under their keys, as JSON. -/
def tableToJson (rows : Table String Row) : Json :=
  .object (rows.map fun (key, row) => (key, row.toJson))

/-- A table of rows from JSON. Of several rows with one key the last counts. -/
def tableOfJson? : Json → Option (Table String Row)
  | .object members => do
    let rows ← members.mapM fun (key, j) => (ofJson? j).map (key, ·)
    return rows.foldl (fun t (key, row) => Table.insert Text.cmpText key row t) []
  | _ => none

/-- **The text of a table of rows.** -/
def tableText (rows : Table String Row) : String := (tableToJson rows).pretty

/-- **The table of rows that a text holds.** A blank text holds no rows. -/
def tableOfText? (s : String) : Option (Table String Row) :=
  if Text.isBlankText s then some [] else (Json.ofText? s).bind tableOfJson?

end Row

end FederatedSearch
