import FederatedSearch.Exchange.Row
import FederatedSearch.Failure
import FederatedSearch.FileState

/-!
# Stores of cached rows

The rows of the cache are kept in memory, or in a file that is written anew with every change.
Both are seen as one table of rows with the session as key (`FederatedSearch.Store.rows`), and
every operation is one on that table.

* `FederatedSearch.Store.get?`, `FederatedSearch.Store.list`, `FederatedSearch.Store.expired`:
  looking at rows.
* `FederatedSearch.Store.upsert`, `FederatedSearch.Store.remove`: changing them.
-/

namespace FederatedSearch

open Calendar

namespace FileState

/-- The rows that a file holds. A text that holds no rows is corrupt. -/
def rows : FileState → Except Failure (Table String Row)
  | .missing | .unmakeable => .ok []
  | .notAFile => .error .file
  | .text contents =>
    match Row.tableOfText? contents with
    | none => .error (.storage .corruptCache)
    | some rows => .ok rows

/-- The file with other rows. -/
def withRows (rows : Table String Row) : FileState → Except Failure FileState
  | .missing | .text _ => .ok (.text (Row.tableText rows))
  | .unmakeable | .notAFile => .error .file

end FileState

/-- **A store of rows.** -/
inductive Store where
  /-- Rows in memory. -/
  | memory (rows : Table String Row)
  /-- Rows in a file. -/
  | file (file : FileState)
  deriving DecidableEq, Repr

namespace Store

/-- The store in memory without rows. -/
def empty : Store := .memory []

/-- **The rows under their keys.** -/
def rows : Store → Except Failure (Table String Row)
  | .memory rows => .ok rows
  | .file f => f.rows

/-- The store with other rows. -/
def withRows (rows : Table String Row) : Store → Except Failure Store
  | .memory _ => .ok (.memory rows)
  | .file f => (f.withRows rows).map .file

/-- The row of a session. -/
def get? (s : Store) (session : String) : Except Failure (Option Row) := do
  return Table.find? session (← s.rows)

/-- **All rows**, in the order of their keys. -/
def list (s : Store) : Except Failure (List Row) := do
  return (← s.rows).map (·.2)

/-- The sessions of the rows that were not written after a time. -/
def expired (s : Store) (cutoff : Instant) : Except Failure (List String) := do
  return ((← s.list).filter (·.idleSince cutoff)).map (·.session)

/-- **Put a row in place of the one of its session.** -/
def upsert (s : Store) (row : Row) : Except Failure Store := do
  s.withRows (Table.insert Text.cmpText row.session row (← s.rows))

/-- **Remove the row of a session**, and say whether there was one. -/
def remove (s : Store) (session : String) : Except Failure (Bool × Store) := do
  let rows ← s.rows
  if Table.has session rows then return (true, ← s.withRows (Table.erase session rows))
  else return (false, s)

end Store

end FederatedSearch
