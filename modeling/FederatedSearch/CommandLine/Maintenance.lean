import FederatedSearch.CommandLine.Format
import FederatedSearch.CommandLine.Output
import FederatedSearch.Engine.Service
import FederatedSearch.Exchange.Row

/-!
# Maintenance from the command line

One command sweeps the cache, and another shows diagnostics.

* `FederatedSearch.CommandLine.SweepReport`: what a sweep did.
* `FederatedSearch.CommandLine.StatusReport`: diagnostics.
-/

namespace FederatedSearch.CommandLine

open Calendar

/-! ### Sweeps -/

/-- **The report of a sweep.** -/
structure SweepReport where
  /-- The number of sessions that were closed. -/
  removed : Nat
  /-- The number of rows that are left. -/
  remaining : Nat
  deriving DecidableEq, Repr

/-- The time some seconds ago. -/
def secondsAgo (seconds : Int) (now : Instant) : Except Failure Instant :=
  match (Span.ofSeconds? seconds).bind fun d => now.shift? d.neg with
  | none => .error .timeOverflow
  | some t => .ok t

/-- **Sweep the sessions that have been idle for some seconds**, or all. -/
def sweep (olderThan : Option Int) : Action Cache SweepReport := do
  let cutoff ← Action.look fun c => olderThan.mapM fun seconds => secondsAgo seconds c.now
  let removed ← Cache.clearAll cutoff
  let rows ← Action.look (·.entries)
  return ⟨removed, rows.length⟩

namespace SweepReport

/-- The report of a sweep as JSON. -/
def toJson (r : SweepReport) : Json :=
  .object [("removed", .nat r.removed), ("remaining", .nat r.remaining)]

/-- The report of a sweep for readers. -/
def output (r : SweepReport) : Output :=
  .ofLines [s!"Removed {r.removed} session(s), {r.remaining} remaining"]

end SweepReport

/-! ### Diagnostics -/

/-- **The report of the state of the engine.** -/
structure StatusReport where
  stemmingEnabled : Bool
  /-- What the server says of itself. -/
  server : List (String × String)
  backends : List Backend
  /-- The cached rows, if they are asked for. -/
  rows : List Row
  deriving Repr

/-- **Look at the state of the engine**, and at its cached rows if they are asked for. -/
def status (sessions : Bool) : Action Engine StatusReport := do
  let server ← Engine.status
  let e ← Action.get
  let rows ← Action.look fun e => if sessions then e.cache.entries else .ok []
  return ⟨e.config.search.stemmingEnabled, server, e.catalog.backends, rows⟩

/-- A backend with the numbers of its collections and fields, as JSON. -/
def backendFigures (b : Backend) : Json :=
  .object
    [("id", .nat b.id), ("name", .text b.name), ("collections", .nat b.collections.length),
      ("fields", .nat b.fields.length)]

/-- A backend with the numbers of its collections and fields, on a line. -/
def backendLine (b : Backend) : String :=
  s!"  [{b.id}] {b.name} ({b.collections.length} collection(s), {b.fields.length} field(s))"

/-- A cached row on a line. -/
def rowLine (now : Instant) (r : Row) : String :=
  "  " ++ r.session ++ " \"" ++ r.query ++ "\" " ++ toString r.total ++ " " ++
    ageText r.lastAccess now

namespace StatusReport

/-- The report of the state as JSON. -/
def toJson (r : StatusReport) : Json :=
  .object <|
    [("engine", .text Engine.name), ("version", .text Server.version),
      ("stemming_enabled", .bool r.stemmingEnabled),
      ("backend", .list (fun (key, value) => .array [.text key, .text value]) r.server),
      ("backends", .list backendFigures r.backends)] ++
    (if r.rows.isEmpty then [] else [("sessions", .list Row.toJson r.rows)])

/-- The report of the state for readers. -/
def output (r : StatusReport) (now : Instant) : Output :=
  .ofLines <|
    s!"{Engine.name} v{Server.version}" ::
      r.server.map (fun (key, value) => s!"  {key}: {value}") ++
      "" :: "Backends:" :: r.backends.map backendLine ++
      (if r.rows.isEmpty then [] else "" :: "Cached sessions:" :: r.rows.map (rowLine now))

end StatusReport

end FederatedSearch.CommandLine
