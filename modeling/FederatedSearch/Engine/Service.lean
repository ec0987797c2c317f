import FederatedSearch.Engine.Basic
import FederatedSearch.Wording

/-!
# Services of the engine

What the engine offers besides searching: changes of the indexes, diagnostics, and what a search
form needs to know.
-/

namespace FederatedSearch

/-- **Something that can be indexed.** -/
inductive Indexable where
  /-- A record of a backend. -/
  | record (backend record : Nat)
  /-- A group of records of a backend. -/
  | story (backend record : Nat)
  /-- An entry of a feed. -/
  | feedEntry (id : Nat)
  deriving DecidableEq, Repr

namespace Engine

/-- The name of the engine. -/
def name : String := "fedsearch"

/-- The engine over another server. -/
def withServer (e : Engine) (server : Server) : Engine :=
  { e with cache := { e.cache with server } }

/-- **Flag something for indexing anew**, which is also how it is added. -/
def update (e : Engine) : Indexable → Except Failure Engine
  | .record backend record | .story backend record =>
    (e.server.markForReindex backend record).map e.withServer
  | .feedEntry _ => .error (.unsupported .feedEntry)

/-- **Remove something from its index.** -/
def remove (e : Engine) : Indexable → Except Failure Engine
  | .record backend record | .story backend record =>
    (e.server.removeRecord backend record).map e.withServer
  | .feedEntry _ => .error (.unsupported .feedEntry)

/-- **Diagnostics**, for which the engine connects to the server. -/
def status : Action Engine (List (String × String)) := do
  Action.step connect
  let e ← Action.get
  return e.server.statusInfo

/-- Words can match by their stems. -/
def hasStemming : Bool := true

/-- Completions of a query, of which there are none. -/
def autocomplete (_ : String) : List String := []

/-- The kinds of results. -/
def resultKinds : List EntityKind := [.record, .story]

/-- The orders that results can be sorted by, with their labels. The empty one is no order. -/
def sortChoices (e : Engine) (language : Language) : List (String × String) :=
  ("", Message.noSort.text language) :: e.catalog.sortFields.map fun field => (field, field)

/-- The directions of a sort, with their labels. -/
def orderChoices (language : Language) : List (String × String) :=
  [("desc", Message.descending.text language), ("asc", Message.ascending.text language)]

end Engine

end FederatedSearch
