import FederatedSearch.CommandLine.Output
import FederatedSearch.Configuration.Directories
import FederatedSearch.Exchange.Configuration
import FederatedSearch.Text.Escaped

/-!
# The configuration on the command line

One command shows the configuration, without the credentials and, unless everything is asked for,
without the section for searches.
-/

namespace FederatedSearch.CommandLine

/-- **The configuration as it is shown.** -/
structure SettingsReport where
  /-- Where the file of the configuration usually is. -/
  configFile : String
  config : Config
  /-- The section for searches is shown. -/
  all : Bool
  deriving Repr

namespace SettingsReport

/-! ### As JSON -/

/-- The section for searches as JSON, without the markers of highlighted words. -/
def searchSection (c : SearchConfig) : Json :=
  .object
    [("default_per_page", .nat c.defaultPageSize), ("max_per_page", .nat c.maxPageSize),
      ("max_query_length", .nat c.maxQueryLength), ("stemming_enabled", .bool c.stemmingEnabled),
      ("default_sort", .text c.defaultSort), ("default_locale", .text c.defaultLocale)]

/-- The section for the server as JSON, without the credentials. -/
def serverSection (c : ServerConfig) : Json :=
  .object
    [("host", .text c.host), ("port", .nat c.port), ("database", .text c.database),
      ("catalog", Json.orNull .text c.catalogPath)]

/-- **The configuration as JSON.** -/
def toJson (r : SettingsReport) : Json :=
  .object <|
    [("config_file", .text r.configFile), ("backend", serverSection r.config.server),
      ("cache", r.config.cache.toJson)] ++
    (if r.all then [("search", searchSection r.config.search)] else [])

/-! ### For readers -/

/-- Where cached rows are kept, in a word. -/
def storeText : StoreKind → String
  | .memory => "Memory"
  | .file => "File"

/-- The lines of the section for the server. -/
def serverLines (c : ServerConfig) : List String :=
  ["  backend:",
    "    host: " ++ c.host,
    "    port: " ++ toString c.port,
    "    database: " ++ c.database,
    "    catalog: " ++ c.catalogPath.getD "(built-in demo)"]

/-- The lines of the section for the cache. -/
def cacheLines (c : CacheConfig) : List String :=
  ["  cache:",
    "    store: " ++ storeText c.store,
    "    path: " ++ c.path.getD "(none)",
    "    stale_after_secs: " ++ toString c.staleAfterSecs,
    "    sweep_after_secs: " ++ toString c.sweepAfterSecs]

/-- The lines of the section for searches. -/
def searchLines (c : SearchConfig) : List String :=
  ["  search:",
    "    default_per_page: " ++ toString c.defaultPageSize,
    "    max_per_page: " ++ toString c.maxPageSize,
    "    max_query_length: " ++ toString c.maxQueryLength,
    "    stemming_enabled: " ++ toString c.stemmingEnabled,
    "    default_sort: " ++ Text.escaped c.defaultSort,
    "    default_locale: " ++ c.defaultLocale]

/-- **The configuration for readers.** -/
def output (r : SettingsReport) : Output :=
  .ofLines <|
    ["Configuration:", "  config_file: " ++ r.configFile] ++ serverLines r.config.server ++
      cacheLines r.config.cache ++ (if r.all then searchLines r.config.search else [])

end SettingsReport

end FederatedSearch.CommandLine
