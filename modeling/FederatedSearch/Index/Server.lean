import FederatedSearch.Failure
import FederatedSearch.Index.Record
import FederatedSearch.Number.Binary64
import FederatedSearch.Table
import FederatedSearch.Text.Order

/-!
# The index server

A server holds the indexes of all backends, and sessions. Each session belongs to a user and has a
cursor, in which the hits of its executions come together, one after the other. Backends can be
down one by one, and the server as a whole can be out of reach.

* `FederatedSearch.Cursor`: the cursor of a session.
* `FederatedSearch.Server.createSession`, `FederatedSearch.Server.opens`,
  `FederatedSearch.Server.closeSession`: sessions.
* `FederatedSearch.Server.markForReindex`, `FederatedSearch.Server.removeRecord`: changes of the
  indexes.
-/

namespace FederatedSearch

/-! ### Cursors -/

/-- A hit: a record of a backend. -/
structure Hit where
  backend : Nat
  record : Nat
  deriving DecidableEq, Repr

/-- **The cursor of a session**: its user, the hits so far, and the terms to highlight with the
locale of their stems. -/
structure Cursor where
  user : Nat
  hits : List Hit := []
  terms : List String := []
  stemming : Option String := none
  deriving DecidableEq, Repr

/-- The cursor of a user without hits. -/
def Cursor.empty (user : Nat) : Cursor := { user }

/-- The cursor with the hits of an execution behind those it has. -/
def Cursor.append (c : Cursor) (hits : List Hit) (terms : List String)
    (stemming : Option String) : Cursor :=
  { c with hits := c.hits ++ hits, terms := terms.foldl addName c.terms, stemming }

/-! ### Servers -/

/-- **The state of a server.** -/
structure Server where
  /-- The indexes of the backends, in order. -/
  indexes : List BackendIndex
  /-- The cursors of the open sessions. -/
  sessions : Table String Cursor := []
  /-- The backends that are down. -/
  down : List Nat := []
  /-- The server can be reached. -/
  reachable : Bool := true
  /-- The server has been connected to. -/
  connected : Bool := false
  /-- The number of the next session. -/
  nextSession : Nat := 1
  /-- The number of executions that reached an index. -/
  executions : Nat := 0
  /-- The backends that answer nothing to a query. -/
  silent : List Nat := []
  /-- The seconds that an execution on a backend takes. -/
  timing : List (Nat × Number.Binary64) := []

namespace Server

/-- The server of a dataset: nothing is open and nothing is down. -/
def ofDataset (d : Dataset) : Server := { indexes := d.indexes }

/-- The descriptions of the backends. -/
def catalog (s : Server) : Catalog := ⟨s.indexes.map (·.backend)⟩

/-- The first index of a backend. -/
def index? (s : Server) (backend : Nat) : Option BackendIndex :=
  s.indexes.find? (·.backend.id == backend)

/-- The backend can be reached. -/
def available (s : Server) (backend : Nat) : Bool := s.reachable && !s.down.contains backend

/-- The server with a backend up or down. -/
def setAvailable (s : Server) (backend : Nat) (up : Bool) : Server :=
  { s with down := if up then s.down.filter (· != backend)
      else if s.down.contains backend then s.down else s.down ++ [backend] }

/-- The server within reach or out of it. -/
def setReachable (s : Server) (reachable : Bool) : Server := { s with reachable }

/-- The first record of a backend with an id. -/
def record? (s : Server) (backend record : Nat) : Option Record :=
  (s.index? backend).bind (·.record? record)

/-- **The thesaurus of a backend**, which only a backend that is up gives out. -/
def thesaurus (s : Server) (backend : Nat) : Except Failure (Option Thesaurus) :=
  if s.available backend then .ok ((s.index? backend).bind (·.thesaurus))
  else .error (.connection (.unavailable backend))

/-- The thesaurus of a backend, if it can be had. -/
def thesaurus? (s : Server) (backend : Nat) : Option Thesaurus :=
  if s.available backend then (s.index? backend).bind (·.thesaurus) else none

/-! ### Sessions -/

/-- Connect to the server. -/
def connect (s : Server) (host : String) (port : Nat) : Except Failure Server :=
  if s.reachable then .ok { s with connected := true }
  else .error (.connection (.unreachable host port))

/-- The cursor of a session. -/
def cursor? (s : Server) (id : String) : Option Cursor := Table.find? id s.sessions

/-- The session is open. -/
def hasSession (s : Server) (id : String) : Bool := (s.cursor? id).isSome

/-- **The session is open and belongs to the user.** -/
def opens (s : Server) (id : String) (user : Nat) : Bool := (s.cursor? id).any (·.user == user)

/-- The id of a session: its number in at least eight hexadecimal digits. -/
def sessionId (n : Nat) : String :=
  let digits := Nat.toDigits 16 n
  .ofList ("mem-".toList ++ List.replicate (8 - digits.length) '0' ++ digits)

/-- **Open a session for a user.** Its number has not been used before. -/
def createSession (s : Server) (user : Nat) : Except SessionFault (String × Server) :=
  if s.connected then
    let id := sessionId s.nextSession
    .ok (id,
      { s with
        nextSession := s.nextSession + 1
        sessions := Table.insert Text.cmpText id (.empty user) s.sessions })
  else .error .notConnected

/-- Close a session. -/
def closeSession (s : Server) (id : String) : Server :=
  { s with sessions := Table.erase id s.sessions }

/-- Put a cursor in the place of the one of a session. -/
def putCursor (s : Server) (id : String) (c : Cursor) : Server :=
  { s with sessions := Table.insert Text.cmpText id c s.sessions }

/-- Empty the cursor of a session. -/
def clearResults (s : Server) (id : String) : Server :=
  match s.cursor? id with
  | none => s
  | some c => s.putCursor id (.empty c.user)

/-! ### Changing the indexes -/

/-- Change the first element of a list that has a property. -/
def updateFirst {α : Type} (p : α → Bool) (f : α → α) : List α → List α
  | [] => []
  | a :: as => if p a then f a :: as else a :: updateFirst p f as

/-- The index with the first record that has an id flagged for indexing anew. -/
def flagRecord (record : Nat) (i : BackendIndex) : BackendIndex :=
  { i with records := updateFirst (·.id == record) Record.flag i.records }

/-- The index without the records that have an id. -/
def dropRecord (record : Nat) (i : BackendIndex) : BackendIndex :=
  { i with records := i.records.filter (·.id != record) }

/-- The server with the index of a backend changed. -/
def updateIndex (s : Server) (backend : Nat) (f : BackendIndex → BackendIndex) : Server :=
  { s with indexes := updateFirst (·.backend.id == backend) f s.indexes }

/-- **Flag a record for indexing anew.** -/
def markForReindex (s : Server) (backend record : Nat) : Except Failure Server :=
  match s.record? backend record with
  | none => .error (.storage (.recordNotFound backend record))
  | some _ => .ok (s.updateIndex backend (flagRecord record))

/-- **Remove all records of a backend with an id.** -/
def removeRecord (s : Server) (backend record : Nat) : Except Failure Server :=
  match s.index? backend with
  | none => .error (.storage (.unknownBackend backend))
  | some i =>
    if i.records.any (·.id == record) then .ok (s.updateIndex backend (dropRecord record))
    else .error (.storage (.recordNotFound backend record))

/-! ### Diagnostics -/

/-- The version of the engine. -/
def version : String := "0.3.2"

/-- The number of records of all backends. -/
def recordCount (s : Server) : Nat := s.indexes.foldr (·.records.length + ·) 0

/-- **Diagnostics of the server**, as names and values. -/
def statusInfo (s : Server) : List (String × String) :=
  [("engine", "memory"), ("version", version),
    ("connected", if s.connected then "true" else "false"),
    ("backends", toString s.indexes.length),
    ("records", toString s.recordCount),
    ("sessions", toString s.sessions.length),
    ("executions", toString s.executions)]

end Server

end FederatedSearch
