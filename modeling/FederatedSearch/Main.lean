import FederatedSearch.CommandLine.Run
import FederatedSearch.CommandLine.Usage
import Std.Time.DateTime.Timestamp

/-!
# The program

Everything that touches the world is here: arguments, variables, files, the clock and the two
streams. What is done with them is decided elsewhere.
-/

namespace FederatedSearch.Program

open Calendar CommandLine

/-- The variables that the program looks at. -/
def variableNames : List String :=
  ["HOME", "XDG_CONFIG_HOME", "XDG_STATE_HOME", "FEDSEARCH_CONFIG_DIR", "FEDSEARCH_STATE_DIR",
    "FEDSEARCH_CONFIG", "FEDSEARCH_BACKEND_HOST", "FEDSEARCH_BACKEND_PORT",
    "FEDSEARCH_BACKEND_USER", "FEDSEARCH_BACKEND_PASSWORD", "FEDSEARCH_BACKEND_DATABASE",
    "FEDSEARCH_SECRET_KEY", "FEDSEARCH_CATALOG", "FEDSEARCH_CACHE_STORE", "FEDSEARCH_CACHE_PATH",
    "FEDSEARCH_STALE_AFTER_SECS", "FEDSEARCH_SWEEP_AFTER_SECS", "FEDSEARCH_DEFAULT_PER_PAGE",
    "FEDSEARCH_MAX_PER_PAGE", "FEDSEARCH_MAX_QUERY_LENGTH", "FEDSEARCH_STEMMING",
    "FEDSEARCH_LOCALE"]

/-- The environment of the program. -/
def environment : IO Environment := do
  let entries ← variableNames.mapM fun name => return (← IO.getEnv name).map (name, ·)
  return { entries := entries.filterMap id }

/-- What is at a path. -/
def lookAt (path : String) : IO FileState := do
  try
    return .text (← IO.FS.readFile path)
  catch
    | .noFileOrDirectory .. => return if path.isEmpty then .unmakeable else .missing
    | _ => return .notAFile

/-- What is at some paths. At all others there is nothing. -/
def lookAtAll (paths : List String) : IO Disk := do
  let states ← paths.mapM fun path => return (path, ← lookAt path)
  return fun path => ((states.find? (·.1 == path)).map (·.2)).getD .missing

/-- The paths at which a configuration may be. -/
def configPaths (env : Environment) : List String :=
  (env.get? "FEDSEARCH_CONFIG").toList ++ Config.usualFiles env

/-- The paths that a configuration names. -/
def pathsOf (c : Config) : List String := c.server.catalogPath.toList ++ c.rowsFile?.toList

/-- The part of the disk that a command looks at. -/
def diskFor (env : Environment) : IO Disk := do
  let paths := configPaths env
  let disk ← lookAtAll paths
  match Config.load env disk with
  | .error _ => return disk
  | .ok c => lookAtAll (paths ++ pathsOf c)

/-- The time. -/
def currentTime : IO Instant := do
  let now ← Std.Time.Timestamp.now
  let nanos := now.toNanosecondsSinceUnixEpoch.val
  return ⟨nanos / nanosPerSecond, (nanos % nanosPerSecond).toNat⟩

/-- The path of the directory that holds something. -/
def parentPath (path : String) : String :=
  .ofList ((path.toList.reverse.dropWhile (· != '/')).drop 1).reverse

/-- Write the file of cached rows, if it has changed. -/
def writeRows (before : Disk) (rowsFile : Option (String × FileState)) : IO Unit := do
  if let some (path, .text contents) := rowsFile then
    if before path == .text contents then return ()
    let parent := parentPath path
    if !parent.isEmpty then IO.FS.createDirAll parent
    IO.FS.writeFile path contents

/-- Put out what a command leaves, and give the exit code. -/
def conclude (before : Disk) (ending : Ending) : IO UInt32 := do
  writeRows before ending.rowsFile
  match ending.result with
  | .ok o => do
    IO.print o.results
    IO.eprint o.remarks
    return 0
  | .error fault => do
    IO.eprintln ("Error: " ++ fault.message?.getD "unusable file, data or time")
    return 1

end FederatedSearch.Program

open FederatedSearch FederatedSearch.CommandLine FederatedSearch.Program in
/-- The program. -/
def main (args : List String) : IO UInt32 := do
  match Invocation.ofArguments args with
  | .error fault => do
    if fault.isRequest then IO.println fault.message else IO.eprintln fault.message
    return if fault.isRequest then 0 else 2
  | .ok i => do
    let env ← environment
    let disk ← diskFor env
    conclude disk (CommandLine.run env disk (← currentTime) i)
