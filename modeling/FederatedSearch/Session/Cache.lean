import FederatedSearch.Action
import FederatedSearch.Index.Server
import FederatedSearch.Session.Store

/-!
# The session cache

The cache keeps a row for each session next to the cursor that the server holds for it. A row
answers a query that was asked in its session before, unless it has become stale; rows of idle
sessions are swept together with their sessions.

* `FederatedSearch.Cache.decide`: whether a row can be reused.
* `FederatedSearch.Cache.record`, `FederatedSearch.Cache.invalidate`: the row after an execution.
* `FederatedSearch.Cache.clearAll`: the sweep.
-/

namespace FederatedSearch

open Calendar

/-- **A cache over a server.** -/
structure Cache where
  server : Server
  store : Store
  /-- The time on the clock. -/
  now : Instant
  /-- The age from which on a row is stale. -/
  staleAfter : Span

/-- What is done for a query. -/
inductive Decision where
  /-- The row of the session answers it. -/
  | reuse (row : Row)
  /-- It is executed. -/
  | recompute
  deriving DecidableEq, Repr

/-- **A missing row is always stale.** -/
def isStale (row : Option Row) (query : String) (now : Instant) (maxAge : Span) : Bool :=
  row.all (·.isStale query now maxAge)

namespace Cache

/-! ### Rows -/

/-- The row of a session. -/
def entry (c : Cache) (session : String) : Except Failure (Option Row) := c.store.get? session

/-- All rows. -/
def entries (c : Cache) : Except Failure (List Row) := c.store.list

/-- The cache with a row in the place of the one of its session. -/
def putRow (c : Cache) (row : Row) : Except Failure Cache := do
  return { c with store := ← c.store.upsert row }

/-- The row of a session, or that of one that was opened just now. -/
def entryOrCreated (c : Cache) (session : String) : Except Failure Row := do
  return (← c.entry session).getD (.created session c.now)

/-- **A row for a session that was opened**, unless there is one. -/
def register (c : Cache) (session : String) : Except Failure Cache := do
  match ← c.entry session with
  | some _ => return c
  | none => c.putRow (.created session c.now)

/-- **Whether the row of a session answers a query.** Nothing is reused by `force`. -/
def decide (c : Cache) (session query : String) (force : Bool) : Except Failure Decision := do
  match ← c.entry session with
  | none => return .recompute
  | some row =>
    return if force || row.isStale query c.now c.staleAfter then .recompute else .reuse row

/-- **Write the outcome of an execution** into the row of its session. -/
def record (c : Cache) (session query : String) (duration : Number.Binary64) (total : Nat) :
    Except Failure (Row × Cache) := do
  let row := (← c.entryOrCreated session).executed query c.now duration total
  return (row, ← c.putRow row)

/-- **Empty the row of a session**, so that the next query of any text is executed. -/
def invalidate (c : Cache) (session : String) : Except Failure Cache := do
  c.putRow ((← c.entryOrCreated session).emptied c.now)

/-! ### Sweeping -/

/-- Remove the row of a session, and say whether there was one. -/
def removeRow (c : Cache) (session : String) : Except Failure (Bool × Cache) := do
  let (removed, store) ← c.store.remove session
  return (removed, { c with store })

/-- Close a session of the server and remove its row, and say whether there was one. -/
def close (session : String) : Action Cache Bool := do
  Action.modify fun c => { c with server := c.server.closeSession session }
  Action.stepWith (·.removeRow session)

/-- Close a session whose row was not written after a time, and say whether there was one. -/
def sweepSession (cutoff : Instant) (session : String) : Action Cache Bool := do
  match ← Action.look (·.entry session) with
  | none => return false
  | some row => if row.idleSince cutoff then close session else return false

/-- Sweep some sessions, and count those that were closed. -/
def sweepSessions (cutoff : Instant) : List String → Action Cache Nat
  | [] => return 0
  | session :: rest => do
    let swept ← sweepSession cutoff session
    let count ← sweepSessions cutoff rest
    return if swept then count + 1 else count

/-- **Close every session whose row was not written after a time**, which is now by default, and
count them. -/
def clearAll (cutoff? : Option Instant) : Action Cache Nat := do
  let c ← Action.get
  let cutoff := cutoff?.getD c.now
  sweepSessions cutoff (← Action.look (·.store.expired cutoff))

/-! ### The clock -/

/-- Set the clock. -/
def setClock (c : Cache) (now : Instant) : Cache := { c with now }

/-- Advance the clock. -/
def advance (c : Cache) (d : Span) : Except Failure Cache :=
  match c.now.shift? d with
  | none => .error .timeOverflow
  | some now => .ok (c.setClock now)

end Cache

end FederatedSearch
