import FederatedSearch.Engine.Execution
import FederatedSearch.Engine.Page

/-!
# Searching

A search of a caller sweeps idle sessions, attaches the caller to a session, and then answers from
the cached row of the session or executes the query anew. Everything that can be refused is looked
at before the caller or its session is touched.

* `FederatedSearch.Cache.answer`: the cached row, or the row of a new execution.
* `FederatedSearch.Visit.search`: a page of a search.
-/

namespace FederatedSearch

open Query

namespace Engine

/-- **The options of a search with everything filled in**: where no backends or collections are
asked for, all are searched. -/
def effectiveOptions (e : Engine) (o : SearchOptions) : SearchOptions :=
  { o with
    backends := if o.backends.isEmpty then e.catalog.ids else o.backends
    collections := if o.collections.isEmpty then e.catalog.collectionIds else o.collections
    sortBy :=
      if o.sortBy.isNone && !e.config.search.defaultSort.isEmpty then
        some e.config.search.defaultSort
      else o.sortBy }

/-- **The size of a page**: the default when none is asked for, and never more than the most. -/
def pageSize (e : Engine) (asked : Nat) : Nat :=
  if asked == 0 then e.config.search.defaultPageSize else min asked e.config.search.maxPageSize

/-- A query of too many characters is refused. -/
def checkLength (e : Engine) (text : String) : Except Failure Unit :=
  let limit := e.config.search.maxQueryLength
  if limit < text.length then .error (.query ⟨limit, .tooLong limit⟩) else .ok ()

/-- The plan of a search. -/
def request (e : Engine) (text : String) (o : SearchOptions) : Request :=
  plan e.catalog e.server.thesaurus? text o

end Engine

namespace Cache

/-- Empty the cursor of a session and execute the plans of a search in it. -/
def executed (c : Cache) (session : String) (o : SearchOptions) (r : Request) : Summary × Cache :=
  let (outcomes, server) := executePlans o session r.plans (c.server.clearResults session)
  (.ofOutcomes (r.failures.map (·.1)) outcomes, { c with server })

/-- **Execute a search in a session and write its row.** There is no row for a search that gave
nothing on any backend. -/
def execute (session : String) (o : SearchOptions) (r : Request) : Action Cache (Option Row) := do
  let c ← Action.get
  let (summary, c) := c.executed session o r
  Action.set c
  if summary.allFailed then
    Action.step (·.invalidate session)
    return none
  else
    let row ← Action.stepWith (·.record session r.text summary.duration summary.total)
    return some row

/-- **The row that answers a search**: the cached one, or that of a new execution. -/
def answer (session : String) (o : SearchOptions) (r : Request) (force : Bool) :
    Action Cache (Option Row) := do
  match ← Action.look (·.decide session r.text force) with
  | .reuse row => return some row
  | .recompute => execute session o r

end Cache

namespace Visit

/-- The page of a search in a session, from the row that answers it. -/
def pageOf (v : Visit) (session : String) (o : SearchOptions) (r : Request) (offset count : Nat) :
    Option Row → Page
  | none => .failed r.text offset (Message.unableToExecute.text (.ofLocale o.locale))
  | some row =>
    let language := Language.ofLocale o.locale
    { v.engine.server.page session row offset count language with
      suggestions := suggestions r
      proposals := panel? language r }

/-- A page of a search in the session of the caller. -/
def searchIn (session text : String) (offset asked : Nat) (options : SearchOptions) :
    Action Visit Page := do
  let force ← takeForce
  let v ← Action.get
  let o := v.engine.effectiveOptions options
  let r := v.engine.request text o
  let row ← onCache (Cache.answer session o r force)
  let v ← Action.get
  return v.pageOf session o r offset (v.engine.pageSize asked) row

/-- **A page of a search**: `asked` hits from the place `offset` on. -/
def search (text : String) (offset asked : Nat) (options : SearchOptions) : Action Visit Page := do
  Action.look (·.engine.checkLength text)
  onEngine (Action.step Engine.connect)
  let _ ← onEngine Engine.sweep
  let session ← checkSession
  searchIn session text offset asked options

end Visit

end FederatedSearch
