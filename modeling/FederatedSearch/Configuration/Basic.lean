import FederatedSearch.Failure
import FederatedSearch.Text.Blank

/-!
# Configurations

A configuration says which server is connected to, where cached rows are kept and for how long,
and how searches are paged, sorted and highlighted. Everything has a default.

* `FederatedSearch.Config`: the three sections.
* `FederatedSearch.Config.validate`: what a usable configuration has to satisfy.
-/

namespace FederatedSearch

/-- **The server** and the credentials for it. -/
structure ServerConfig where
  host : String := "localhost"
  port : Nat := 3306
  user : String := ""
  password : String := ""
  database : String := "phrasea"
  /-- A secret that goes with every execution. -/
  secretKey : String := ""
  /-- The file of the dataset. There is one built in for when it is missing. -/
  catalogPath : Option String := none
  deriving DecidableEq, Repr

/-- Where cached rows are kept. -/
inductive StoreKind where
  /-- In memory, for as long as the program runs. -/
  | memory
  /-- In a file. -/
  | file
  deriving DecidableEq, Repr

/-- **The session cache.** -/
structure CacheConfig where
  store : StoreKind := .memory
  /-- The file of cached rows. -/
  path : Option String := none
  /-- The age in seconds from which on a row is stale. -/
  staleAfterSecs : Nat := 600
  /-- The seconds after which an idle session is swept. -/
  sweepAfterSecs : Nat := 3600
  deriving DecidableEq, Repr

/-- **Searches.** -/
structure SearchConfig where
  /-- The size of a page when none is asked for. -/
  defaultPageSize : Nat := 10
  /-- The greatest size of a page. -/
  maxPageSize : Nat := 100
  /-- The greatest length of a query in characters. -/
  maxQueryLength : Nat := 500
  stemmingEnabled : Bool := false
  /-- The field to sort by when none is asked for; empty for no sort. -/
  defaultSort : String := ""
  defaultLocale : String := "en"
  /-- The marker before a highlighted word. -/
  highlightOpen : String := "[[em]]"
  /-- The marker after a highlighted word. -/
  highlightClose : String := "[[/em]]"
  deriving DecidableEq, Repr

/-- **A configuration.** -/
structure Config where
  server : ServerConfig := {}
  cache : CacheConfig := {}
  search : SearchConfig := {}
  deriving DecidableEq, Repr

namespace Config

/-- What a usable configuration has to satisfy, in the order in which it is looked at, each with
the fault that it guards against. -/
def demands (c : Config) : List (Bool × ConfigurationFault) :=
  [(!Text.isBlankText c.server.host, .missingHost),
    (!Text.isBlankText c.server.database, .missingDatabase),
    (c.cache.staleAfterSecs != 0, .zeroStaleness),
    (c.cache.sweepAfterSecs != 0, .zeroSweep),
    (c.cache.store != .file || c.cache.path.isSome, .missingCachePath),
    (c.search.defaultPageSize != 0, .zeroPageSize),
    (c.search.defaultPageSize ≤ c.search.maxPageSize, .pageSizeAboveMax),
    (c.search.maxQueryLength != 0, .zeroQueryLength),
    (!c.search.highlightOpen.isEmpty && !c.search.highlightClose.isEmpty, .emptyMarker)]

/-- **Refuse a configuration that cannot be used**, with the first fault. -/
def validate (c : Config) : Except Failure Unit :=
  match c.demands.find? (!·.1) with
  | none => .ok ()
  | some (_, fault) => .error (.configuration fault)

/-- A configuration is usable when it satisfies every demand. -/
theorem validate_eq_ok_iff {c : Config} : c.validate = .ok () ↔ ∀ d ∈ c.demands, d.1 = true := by
  unfold validate
  split
  · rename_i h
    simpa [List.find?_eq_none] using h
  · rename_i fault h
    simp only [reduceCtorEq, false_iff]
    intro hall
    have := hall _ (List.mem_of_find?_eq_some h)
    have := List.find?_some h
    simp_all

end Config

end FederatedSearch
