import FederatedSearch.CommandLine.Maintenance
import FederatedSearch.CommandLine.Search
import FederatedSearch.CommandLine.Settings
import FederatedSearch.Engine.Start

/-!
# Running a command

A command loads the configuration of its environment, starts an engine and does its work with it.
Nothing is kept from one command to the next but the file of cached rows.

* `FederatedSearch.CommandLine.run`: what comes of a command.
-/

namespace FederatedSearch.CommandLine

open Calendar

/-- A report in the format that is asked for. -/
def written (format : Format) (json : Json) (forReaders : Output) : Output :=
  match format with
  | .human => forReaders
  | .json => .ofLines [json.pretty]

/-- An action of an engine as a command: what it puts out, and the engine after it. -/
def ran {α : Type} (x : Action Engine α) (write : α → Output) (e : Engine) :
    Except Fault Output × Engine :=
  let (r, e) := x e
  (r.mapError .failed |>.map write, e)

/-- An action of a new caller. -/
def asCaller {α : Type} (user : Nat) (x : Action Visit α) : Action Engine α := fun e =>
  let (r, v) := x ⟨e, { user := some user }⟩
  (r, v.engine)

/-- **Search.** A page that begins too far behind is refused before anything is done. -/
def runQuery (format : Format) (q : QueryArguments) (e : Engine) : Except Fault Output × Engine :=
  let pageSize := e.pageSize q.pageSize
  match q.offset? pageSize with
  | none => (.error (.pageOutOfRange q.page), e)
  | some offset =>
    ran (asCaller q.user (q.reportFrom pageSize offset))
      (fun r => written format r.toJson r.output) e

/-- **Do the work of a command** with an engine. There are no completions to write. -/
def Invocation.perform (i : Invocation) (configFile : String) (e : Engine) :
    Except Fault Output × Engine :=
  match i.command with
  | .query q => runQuery i.format q e
  | .sweep olderThan =>
    ran (Engine.onCache (sweep olderThan)) (fun r => written i.format r.toJson r.output) e
  | .status sessions =>
    ran (status sessions) (fun r => written i.format r.toJson (r.output e.cache.now)) e
  | .showConfig all =>
    let r : SettingsReport := ⟨configFile, e.config, all⟩
    (.ok (written i.format r.toJson r.output), e)
  | .completions _ => (.ok {}, e)

/-- The file of cached rows behind an engine. -/
def rowsFileOf (e : Engine) : Option (String × FileState) :=
  match e.config.rowsFile?, e.cache.store with
  | some path, .file f => some (path, f)
  | _, _ => none

/-- Load the configuration of an environment and start an engine. -/
def begin (env : Environment) (disk : Disk) (now : Instant) : Except Failure Engine := do
  Engine.start (← Config.load env disk) disk now

/-- **What comes of a command** in an environment. -/
def run (env : Environment) (disk : Disk) (now : Instant) (i : Invocation) : Ending :=
  match i.command with
  | .completions _ => { result := .ok {} }
  | _ =>
    match begin env disk now with
    | .error failure => { result := .error (.failed failure) }
    | .ok e =>
      let (result, e) := i.perform (Directories.ofEnvironment env).configFile e
      { result, rowsFile := rowsFileOf e }

end FederatedSearch.CommandLine
