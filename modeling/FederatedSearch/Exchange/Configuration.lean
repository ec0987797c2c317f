import FederatedSearch.Configuration.Basic
import FederatedSearch.Json.Decode

/-!
# Configurations as JSON

A configuration is exchanged as an object with three sections. Sections and their members may be
missing. It is also read from documents of tables, which have conventions of their own.
-/

namespace FederatedSearch

open Json

/-! ### The server -/

/-- The server and the credentials for it, as JSON. -/
def ServerConfig.toJson (c : ServerConfig) : Json :=
  .object
    [("host", .text c.host), ("port", .nat c.port), ("user", .text c.user),
      ("password", .text c.password), ("database", .text c.database),
      ("secret_key", .text c.secretKey), ("catalog_path", orNull .text c.catalogPath)]

/-- The server and the credentials for it, from JSON under some conventions. -/
def ServerConfig.ofJson? (c : Conventions) (j : Json) : Option ServerConfig := do
  let standard : ServerConfig := {}
  let f ←
    c.fields? ["host", "port", "user", "password", "database", "secret_key", "catalog_path"] j
  return {
    host := ← f.withDefault "host" standard.host text?
    port := ← f.withDefault "port" standard.port (word? 16)
    user := ← f.withDefault "user" standard.user text?
    password := ← f.withDefault "password" standard.password text?
    database := ← f.withDefault "database" standard.database text?
    secretKey := ← f.withDefault "secret_key" standard.secretKey text?
    catalogPath := ← f.withDefault "catalog_path" standard.catalogPath (nullable? text?) }

/-! ### The cache -/

/-- Where cached rows are kept, by name. -/
def StoreKind.names : List (String × StoreKind) := [("memory", .memory), ("file", .file)]

/-- The name of where cached rows are kept. -/
def StoreKind.name : StoreKind → String
  | .memory => "memory"
  | .file => "file"

/-- The session cache as JSON. -/
def CacheConfig.toJson (c : CacheConfig) : Json :=
  .object
    [("store", .text c.store.name), ("path", orNull .text c.path),
      ("stale_after_secs", .nat c.staleAfterSecs), ("sweep_after_secs", .nat c.sweepAfterSecs)]

/-- The session cache from JSON under some conventions. -/
def CacheConfig.ofJson? (c : Conventions) (j : Json) : Option CacheConfig := do
  let standard : CacheConfig := {}
  let f ← c.fields? ["store", "path", "stale_after_secs", "sweep_after_secs"] j
  return {
    store := ← f.withDefault "store" standard.store (c.plainChoice? StoreKind.names)
    path := ← f.withDefault "path" standard.path (nullable? text?)
    staleAfterSecs := ← f.withDefault "stale_after_secs" standard.staleAfterSecs (word? 64)
    sweepAfterSecs := ← f.withDefault "sweep_after_secs" standard.sweepAfterSecs (word? 64) }

/-! ### Searches -/

/-- The names of the members for searches. -/
def SearchConfig.memberNames : List String :=
  ["default_per_page", "max_per_page", "max_query_length", "stemming_enabled", "default_sort",
    "default_locale", "highlight_open", "highlight_close"]

/-- Searches as JSON. -/
def SearchConfig.toJson (c : SearchConfig) : Json :=
  .object
    [("default_per_page", .nat c.defaultPageSize), ("max_per_page", .nat c.maxPageSize),
      ("max_query_length", .nat c.maxQueryLength),
      ("stemming_enabled", .bool c.stemmingEnabled), ("default_sort", .text c.defaultSort),
      ("default_locale", .text c.defaultLocale), ("highlight_open", .text c.highlightOpen),
      ("highlight_close", .text c.highlightClose)]

/-- Searches from JSON under some conventions. -/
def SearchConfig.ofJson? (c : Conventions) (j : Json) : Option SearchConfig := do
  let standard : SearchConfig := {}
  let f ← c.fields? memberNames j
  return {
    defaultPageSize := ← f.withDefault "default_per_page" standard.defaultPageSize (word? 64)
    maxPageSize := ← f.withDefault "max_per_page" standard.maxPageSize (word? 64)
    maxQueryLength := ← f.withDefault "max_query_length" standard.maxQueryLength (word? 64)
    stemmingEnabled := ← f.withDefault "stemming_enabled" standard.stemmingEnabled bool?
    defaultSort := ← f.withDefault "default_sort" standard.defaultSort text?
    defaultLocale := ← f.withDefault "default_locale" standard.defaultLocale text?
    highlightOpen := ← f.withDefault "highlight_open" standard.highlightOpen text?
    highlightClose := ← f.withDefault "highlight_close" standard.highlightClose text? }

/-! ### Configurations -/

/-- **A configuration as JSON.** -/
def Config.toJson (c : Config) : Json :=
  .object
    [("backend", c.server.toJson), ("cache", c.cache.toJson), ("search", c.search.toJson)]

/-- **A configuration from JSON**, under the conventions of the place where it is written. -/
def Config.ofJson? (c : Conventions) (j : Json) : Option Config := do
  let f ← c.fields? ["backend", "cache", "search"] j
  return {
    server := ← f.withDefault "backend" {} (ServerConfig.ofJson? c)
    cache := ← f.withDefault "cache" {} (CacheConfig.ofJson? c)
    search := ← f.withDefault "search" {} (SearchConfig.ofJson? c) }

end FederatedSearch
