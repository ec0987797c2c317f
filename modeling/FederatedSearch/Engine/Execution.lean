import FederatedSearch.Index.Execution
import FederatedSearch.Query.Plan

/-!
# Executions

The plans of a search are executed one after the other, and their hits come together in the cursor
of one session. A backend that fails or gives no report does not keep the others from being
executed.

* `FederatedSearch.executePlans`: execute all plans.
* `FederatedSearch.Summary`: what came of it.
-/

namespace FederatedSearch

open Query

/-- The collections of a backend where business fields are searchable. -/
def businessCollections (c : Catalog) (o : SearchOptions) (backend : Nat) : List Nat :=
  match c.backend? backend with
  | none => []
  | some b => o.businessOn.filter b.owns

/-- **What is executed for a plan** in a session. -/
def Query.Plan.execution (p : Plan) (c : Catalog) (o : SearchOptions) (session : String) :
    Execution where
  session
  backend := p.backend
  collections := p.collections
  query := p.query.tree
  groupOnly := o.mode == .recordGroup
  sort := o.sortSpec
  business := businessCollections c o p.backend
  stemming := if o.stemming then some o.locale else none

/-- What came of the execution on one backend. -/
structure Outcome where
  backend : Nat
  result : Except Failure (Option Report)

namespace Outcome

/-- The report of the backend. -/
def report? (x : Outcome) : Option (Nat × Report) :=
  match x.result with
  | .ok (some r) => some (x.backend, r)
  | _ => none

/-- The backend, if it gave no report. -/
def silent? (x : Outcome) : Option Nat :=
  match x.result with
  | .ok none => some x.backend
  | _ => none

/-- The backend, if it failed. -/
def failed? (x : Outcome) : Option Nat :=
  match x.result with
  | .error _ => some x.backend
  | _ => none

end Outcome

/-- **Execute the plans of a search in a session**, in order. -/
def executePlans (o : SearchOptions) (session : String) : List Plan → Server → List Outcome × Server
  | [], s => ([], s)
  | p :: rest, s =>
    let (result, s) := s.execute (p.execution s.catalog o session)
    let (outcomes, s) := executePlans o session rest s
    (⟨p.backend, result⟩ :: outcomes, s)

/-- **What came of a search**, backend by backend. -/
structure Summary where
  /-- The backends that gave a report, in order. -/
  results : List (Nat × Report) := []
  /-- The backends that gave none. -/
  empty : List Nat := []
  /-- The backends whose query was refused. -/
  unparsed : List Nat := []
  /-- The backends that failed. -/
  failures : List Nat := []
  deriving Repr

namespace Summary

/-- The summary of a search from the refused backends and the outcomes of the others. -/
def ofOutcomes (unparsed : List Nat) (outcomes : List Outcome) : Summary where
  results := outcomes.filterMap Outcome.report?
  empty := outcomes.filterMap Outcome.silent?
  unparsed
  failures := outcomes.filterMap Outcome.failed?

/-- The seconds that all executions took together. -/
def duration (s : Summary) : Number.Binary64 := .sum (s.results.map (·.2.elapsed))

/-- The number of hits of all backends. -/
def total (s : Summary) : Nat := s.results.foldr (·.2.hits + ·) 0

/-- **Some backend was asked, and none gave a report.** -/
def allFailed (s : Summary) : Bool :=
  s.results.isEmpty && !(s.failures.isEmpty && s.empty.isEmpty && s.unparsed.isEmpty)

end Summary

end FederatedSearch
