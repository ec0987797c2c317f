import FederatedSearch.Configuration.Loading
import FederatedSearch.Engine.Basic
import FederatedSearch.Exchange.Dataset
import FederatedSearch.Index.Demo

/-!
# Starting the engine

A configuration names a dataset and a place for cached rows. The engine is started over the two.
-/

namespace FederatedSearch

open Calendar

namespace Config

/-- **The dataset of a configuration**: that of the file it names, or the one that is built in. -/
def dataset (c : Config) (disk : Disk) : Except Failure Dataset :=
  match c.server.catalogPath with
  | none => .ok Demo.dataset
  | some path =>
    match (disk path).contents? with
    | none => .error (.configuration (.unreadableDataset path))
    | some s =>
      match Dataset.ofText? s with
      | none => .error .malformedData
      | some d => .ok d

/-- The file of cached rows, if they are kept in one. -/
def rowsFile? (c : Config) : Option String :=
  match c.cache.store with
  | .memory => none
  | .file => c.cache.path

/-- **The store of a configuration.** -/
def storeOn (c : Config) (disk : Disk) : Store :=
  match c.rowsFile? with
  | none => .empty
  | some path => .file (disk path)

end Config

/-- **Start the engine of a configuration.** -/
def Engine.start (c : Config) (disk : Disk) (now : Instant) : Except Failure Engine := do
  ofConfig (.ofDataset (← c.dataset disk)) (c.storeOn disk) now c

end FederatedSearch
