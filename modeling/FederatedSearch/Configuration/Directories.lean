import FederatedSearch.Configuration.Environment

/-!
# Directories

Where the configuration and the file of cached rows are kept, unless something else is asked for:
in a directory that a variable names, or below the home directory.
-/

namespace FederatedSearch

/-- The path of something in a directory. -/
def joinPath (directory name : String) : String :=
  if directory.isEmpty then name
  else if directory.toList.getLast? == some '/' then directory ++ name
  else directory ++ "/" ++ name

/-- The name of the directories of the program. -/
def applicationName : String := "fedsearch"

/-- **The directories of the program.** -/
structure Directories where
  config : String
  state : String
  deriving DecidableEq, Repr

namespace Directories

/-- The home directory: that of the variable `HOME`, unless it is empty, or that of the account. -/
def home (e : Environment) : String :=
  (((e.get? "HOME").filter (!·.isEmpty)).or e.accountHome).getD "."

/-- A directory: that of the variable `own`; or the one below that of the variable `shared`; or
the one below the home directory. -/
def find (e : Environment) (own shared : String) (belowHome : List String) : String :=
  match e.get? own, e.get? shared with
  | some directory, _ => directory
  | none, some directory => joinPath directory applicationName
  | none, none => joinPath (belowHome.foldl joinPath (home e)) applicationName

/-- **The directories in an environment.** -/
def ofEnvironment (e : Environment) : Directories where
  config := find e "FEDSEARCH_CONFIG_DIR" "XDG_CONFIG_HOME" [".config"]
  state := find e "FEDSEARCH_STATE_DIR" "XDG_STATE_HOME" [".local", "state"]

/-- The configuration. -/
def configFile (d : Directories) : String := joinPath d.config "config.toml"

/-- The file of cached rows. -/
def cacheFile (d : Directories) : String := joinPath d.state "cache.json"

end Directories

end FederatedSearch
