import FederatedSearch.Configuration.Basic
import FederatedSearch.Number.Literal
import FederatedSearch.Text.Case

/-!
# Settings from the environment

Variables of the environment take precedence over a configuration. A variable whose text is no
value of its setting is passed over.
-/

namespace FederatedSearch

open Number

/-- **The environment of a program**: its variables, and the home directory of its account. -/
structure Environment where
  entries : List (String × String) := []
  accountHome : Option String := none
  deriving DecidableEq, Repr

namespace Environment

/-- The text of a variable. -/
def get? (e : Environment) (name : String) : Option String :=
  (e.entries.find? (·.1 == name)).map (·.2)

/-- A setting: the value of its variable, or else the one it has. -/
def setting {α : Type} (e : Environment) (name : String) (read : String → Option α) (old : α) : α :=
  ((e.get? name).bind read).getD old

end Environment

/-- A truth value by its name. -/
def truth? (s : String) : Option Bool :=
  if s == "true" then some true else if s == "false" then some false else none

/-- Where cached rows are kept, by name in any case of letters. -/
def storeKind? (s : String) : Option StoreKind :=
  if Text.sameAscii s "memory" then some .memory
  else if Text.sameAscii s "file" then some .file
  else none

/-- A word of 64 bits. -/
def word64? (s : String) : Option Nat := natUpTo? (maxWord 64) s

namespace Config

/-- **The configuration with the settings of the environment.** -/
def withEnvironment (c : Config) (e : Environment) : Config where
  server :=
    { host := e.setting "FEDSEARCH_BACKEND_HOST" some c.server.host
      port := e.setting "FEDSEARCH_BACKEND_PORT" (natUpTo? (maxWord 16)) c.server.port
      user := e.setting "FEDSEARCH_BACKEND_USER" some c.server.user
      password := e.setting "FEDSEARCH_BACKEND_PASSWORD" some c.server.password
      database := e.setting "FEDSEARCH_BACKEND_DATABASE" some c.server.database
      secretKey := e.setting "FEDSEARCH_SECRET_KEY" some c.server.secretKey
      catalogPath := e.setting "FEDSEARCH_CATALOG" (some ∘ some) c.server.catalogPath }
  cache :=
    { store := e.setting "FEDSEARCH_CACHE_STORE" storeKind? c.cache.store
      path := e.setting "FEDSEARCH_CACHE_PATH" (some ∘ some) c.cache.path
      staleAfterSecs := e.setting "FEDSEARCH_STALE_AFTER_SECS" word64? c.cache.staleAfterSecs
      sweepAfterSecs := e.setting "FEDSEARCH_SWEEP_AFTER_SECS" word64? c.cache.sweepAfterSecs }
  search :=
    { c.search with
      defaultPageSize := e.setting "FEDSEARCH_DEFAULT_PER_PAGE" word64? c.search.defaultPageSize
      maxPageSize := e.setting "FEDSEARCH_MAX_PER_PAGE" word64? c.search.maxPageSize
      maxQueryLength := e.setting "FEDSEARCH_MAX_QUERY_LENGTH" word64? c.search.maxQueryLength
      stemmingEnabled := e.setting "FEDSEARCH_STEMMING" truth? c.search.stemmingEnabled
      defaultLocale := e.setting "FEDSEARCH_LOCALE" some c.search.defaultLocale }

end Config

end FederatedSearch
