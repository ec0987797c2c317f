import FederatedSearch.Configuration.Basic
import FederatedSearch.SearchOptions
import FederatedSearch.Session.Cache

/-!
# The engine and its callers

The engine searches the backends of a server for callers. A caller is a user with a session of the
server, which the engine opens when there is none. What a caller does changes both the caller and
the engine, so the operations are actions on the two together.

* `FederatedSearch.Engine.ofConfig`: the engine over a server.
* `FederatedSearch.Visit.checkSession`: attach a caller to a session.
* `FederatedSearch.Visit.resetCache`, `FederatedSearch.Visit.clearCache`: what a caller does to the
  cached row of its session.
-/

namespace FederatedSearch

open Calendar

/-- **The engine.** -/
structure Engine where
  /-- The cache, and the server below it. -/
  cache : Cache
  config : Config
  /-- The age of the rows that are swept before each query. -/
  sweepAfter : Span
  /-- The engine has connected to the server. -/
  connected : Bool := false

/-- **A caller.** -/
structure Caller where
  /-- The user; an anonymous caller has none. -/
  user : Option Nat := none
  /-- The session of the caller. -/
  session : Option String := none
  /-- The next query is executed whatever the cache holds. -/
  force : Bool := false
  deriving DecidableEq, Repr

/-- A caller at the engine. -/
structure Visit where
  engine : Engine
  caller : Caller

namespace Engine

/-- The greatest number of seconds that a window is given as; a greater one counts as forever. -/
def maxWindow : Nat := Number.maxWord 63

/-- **A window of seconds as a span.** One of more than 2^63 - 1 seconds is cut down to the longest
span there is. -/
def window? (seconds : Nat) : Option Span :=
  Span.ofSeconds? (if seconds ≤ maxWindow then seconds else maxWindow / 1000 : Nat)

/-- **The engine over a server**, with its rows in a store. A window that is no span of time cannot
be used. -/
def ofConfig (server : Server) (store : Store) (now : Instant) (config : Config) :
    Except Failure Engine :=
  match window? config.cache.staleAfterSecs, window? config.cache.sweepAfterSecs with
  | some staleAfter, some sweepAfter =>
    .ok { cache := { server, store, now, staleAfter }, config, sweepAfter }
  | _, _ => .error .timeOverflow

/-- The server. -/
def server (e : Engine) : Server := e.cache.server

/-- The descriptions of the backends. -/
def catalog (e : Engine) : Catalog := e.server.catalog

/-- Do something with the cache of an engine. -/
def onCache {α : Type} (x : Action Cache α) : Action Engine α :=
  x.onPart (·.cache) fun e cache => { e with cache }

/-- **Connect to the server**, unless that has been done. -/
def connect (e : Engine) : Except Failure Engine :=
  if e.connected then .ok e
  else if e.catalog.isEmpty then .error (.configuration .emptyCatalog)
  else (e.server.connect e.config.server.host e.config.server.port).map fun server =>
    { e with cache := { e.cache with server }, connected := true }

/-- The instant before which an idle session is swept. -/
def sweepCutoff (e : Engine) : Except Failure Instant :=
  match e.cache.now.shift? e.sweepAfter.neg with
  | none => .error .timeOverflow
  | some cutoff => .ok cutoff

/-- **Sweep the idle sessions.** -/
def sweep : Action Engine Nat := do
  let cutoff ← Action.look sweepCutoff
  onCache (Cache.clearAll (some cutoff))

end Engine

namespace Visit

/-- Do something with the engine. -/
def onEngine {α : Type} (x : Action Engine α) : Action Visit α :=
  x.onPart (·.engine) fun v engine => { v with engine }

/-- Do something with the cache. -/
def onCache {α : Type} (x : Action Cache α) : Action Visit α := onEngine (Engine.onCache x)

/-- Change the caller. -/
def modifyCaller (f : Caller → Caller) : Action Visit Unit :=
  Action.modify fun v => { v with caller := f v.caller }

/-! ### Sessions -/

/-- The session of the caller, if the server still has it open for the user. -/
def ownSession? (v : Visit) (user : Nat) : Option String :=
  v.caller.session.filter fun session => v.engine.server.opens session user

/-- Open a session on the server. -/
def openSession (user : Nat) (c : Cache) : Except Failure (String × Cache) :=
  match c.server.createSession user with
  | .error fault => .error (.session (.notCreated fault))
  | .ok (session, server) => .ok (session, { c with server })

/-- Open a session for a user, with a row of its own, and give it to the caller. -/
def attachNew (user : Nat) : Action Visit String := do
  let session ← onCache (Action.stepWith (openSession user))
  onCache (Action.step (·.register session))
  modifyCaller fun c => { c with session := some session }
  return session

/-- **Attach the caller to a session**: its own, or a new one. -/
def checkSession : Action Visit String := do
  let v ← Action.get
  match v.caller.user with
  | none => Action.fail (.session .anonymous)
  | some user =>
    match v.ownSession? user with
    | none => attachNew user
    | some session => do
      onCache (Action.step (·.register session))
      return session

/-! ### The cached row of a caller -/

/-- Have the next query of the caller executed whatever the cache holds. -/
def resetCache : Action Visit Unit := modifyCaller fun c => { c with force := true }

/-- **Close the session of the caller** and remove its row. -/
def clearCache : Action Visit Unit := do
  let v ← Action.get
  match v.caller.session with
  | none => return ()
  | some session => do
    modifyCaller fun c => { c with session := none }
    let _ ← onCache (Cache.close session)
    return ()

/-- The row of the session of the caller. -/
def sessionEntry (v : Visit) : Except Failure (Option Row) :=
  match v.caller.session with
  | none => .ok none
  | some session => v.engine.cache.entry session

/-- Take the mark that the next query is executed whatever the cache holds. -/
def takeForce : Action Visit Bool := do
  let v ← Action.get
  modifyCaller fun c => { c with force := false }
  return v.caller.force

end Visit

end FederatedSearch
