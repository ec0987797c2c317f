import FederatedSearch.Configuration.Directories
import FederatedSearch.Exchange.Configuration
import FederatedSearch.FileState
import FederatedSearch.Toml.Reader

/-!
# Loading a configuration

A configuration is read from the file that a variable names, or from the first file that is there
among two usual ones. The settings of the environment come on top.

* `FederatedSearch.Config.ofToml?`: a configuration from a text.
* `FederatedSearch.Config.load`: the configuration of an environment.
-/

namespace FederatedSearch

/-- **What is at each path.** -/
abbrev Disk := String → FileState

namespace Config

/-- **A configuration from a text.** -/
def ofToml? (s : String) : Option Config := (Toml.ofText? s).bind (ofJson? .tables)

/-- The configuration that a file holds. -/
def ofFile (f : FileState) : Except Failure Config :=
  match f.contents? with
  | none => .error (.configuration .unreadableConfig)
  | some s =>
    match ofToml? s with
    | none => .error .malformedConfig
    | some c => .ok c

/-- The file of the configuration in the working directory. -/
def localFile : String := "fedsearch.toml"

/-- The usual files of the configuration, in the order in which they are looked for. -/
def usualFiles (e : Environment) : List String :=
  [(Directories.ofEnvironment e).configFile, localFile]

/-- The file of the configuration: the one that a variable names, or else the first of the usual
ones that is there. -/
def file? (e : Environment) (disk : Disk) : Option String :=
  match e.get? "FEDSEARCH_CONFIG" with
  | some path => some path
  | none => (usualFiles e).find? fun path => (disk path).isThere

/-- The configuration that is read, before the environment has its say. -/
def read (e : Environment) (disk : Disk) : Except Failure Config :=
  match file? e disk with
  | none => .ok {}
  | some path => ofFile (disk path)

/-- The configuration with a place for the file of cached rows, if one is needed. -/
def withCachePath (c : Config) (path : String) : Config :=
  if c.cache.store == .file && c.cache.path.isNone then
    { c with cache := { c.cache with path := some path } }
  else c

/-- **The configuration of an environment.** One that cannot be used is refused. -/
def load (e : Environment) (disk : Disk) : Except Failure Config := do
  let c ← read e disk
  let c := (c.withEnvironment e).withCachePath (Directories.ofEnvironment e).cacheFile
  c.validate
  return c

end Config

end FederatedSearch
