import FederatedSearch.Index.Matching
import FederatedSearch.Index.Server
import FederatedSearch.Index.Sorting

/-!
# Executions on a server

A query is executed on one backend at a time, for a session. The records that it finds are
appended to the cursor of the session, in the order that the query asks for.

* `FederatedSearch.Execution.found`: the records of an index that a query finds.
* `FederatedSearch.Server.execute`: execute a query.
-/

namespace FederatedSearch

open Index Query

/-- **A query to execute on a backend.** -/
structure Execution where
  /-- The session whose cursor takes the hits. -/
  session : String
  /-- The backend. -/
  backend : Nat
  /-- The collections that are searched. -/
  collections : List Nat
  /-- What is searched for. -/
  query : Expr
  /-- Only groups of records are wanted. -/
  groupOnly : Bool := false
  /-- The sort specification. -/
  sort : String := ""
  /-- The collections where business fields are searchable. -/
  business : List Nat := []
  /-- The locale of stems, if words match by them. -/
  stemming : Option String := none

/-- **What a backend reports of an execution**: the seconds it took and the number of hits. -/
structure Report where
  elapsed : Number.Binary64
  hits : Nat
  deriving DecidableEq, Repr

/-- The record is found by a query. -/
def Execution.finds (x : Execution) (b : Backend) (r : Record) : Bool :=
  x.collections.contains r.collection && (!x.groupOnly || r.kind == .story) &&
    Matcher.holds ⟨b, r, x.business.contains r.collection, x.stemming.map Stemmer.ofLocale⟩ none
      x.query

/-- **The records of an index that a query finds**, in the order it asks for. -/
def Execution.found (x : Execution) (i : BackendIndex) : List Record :=
  sortRecords i.backend x.sort (i.records.filter (x.finds i.backend))

/-- The hits of a query on an index. -/
def Execution.hits (x : Execution) (i : BackendIndex) : List Hit :=
  (x.found i).map fun r => ⟨x.backend, r.id⟩

namespace Server

/-- The seconds that an execution on a backend takes. -/
def elapsedOn (s : Server) (backend : Nat) : Number.Binary64 :=
  ((s.timing.find? (·.1 == backend)).map (·.2)).getD (.zero false)

/-- The server after an execution on an index for a session. -/
def afterExecution (s : Server) (x : Execution) (i : BackendIndex) (c : Cursor) : Server :=
  { s.putCursor x.session (c.append (x.hits i) x.query.positiveTerms x.stemming) with
    executions := s.executions + 1 }

/-- **Execute a query on a backend** and append its hits to the cursor of its session. A silent or
unknown backend gives no report; one that is down, or a session that is not open, is a failure. -/
def execute (s : Server) (x : Execution) : Except Failure (Option Report) × Server :=
  if s.silent.contains x.backend then (.ok none, s)
  else if !s.available x.backend then (.error (.execution x.backend .unavailable), s)
  else match s.index? x.backend with
    | none => (.ok none, s)
    | some i => match s.cursor? x.session with
      | none => (.error (.execution x.backend (.unknownSession x.session)), s)
      | some c =>
        (.ok (some ⟨s.elapsedOn x.backend, (x.hits i).length⟩), s.afterExecution x i c)

end Server

end FederatedSearch
