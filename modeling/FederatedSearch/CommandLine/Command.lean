import FederatedSearch.Calendar.Reading
import FederatedSearch.CommandLine.Arguments
import FederatedSearch.Number.Literal
import FederatedSearch.SearchOptions

/-!
# Commands

The program has a command to search, one to sweep the session cache, and three that show things.
A choice between two output formats goes with all of them.

* `FederatedSearch.CommandLine.Command`: the commands with their arguments.
* `FederatedSearch.CommandLine.Invocation.ofArguments`: the command of a list of arguments.
-/

namespace FederatedSearch.CommandLine

open Calendar Number

/-! ### Commands -/

/-- The format of the output. -/
inductive Format where
  /-- For a reader. -/
  | human
  /-- For a program. -/
  | json
  deriving DecidableEq, Repr

/-- A status bit that is required: the bit, the backend and the value. -/
structure StatusDemand where
  bit : Nat
  backend : Nat
  value : Bool
  deriving DecidableEq, Repr

/-- **The arguments of a search.** -/
structure QueryArguments where
  text : String := ""
  user : Nat := 1
  /-- The number of the page, counted from one. -/
  page : Nat := 1
  /-- The size of a page; zero for the default. -/
  pageSize : Nat := 0
  backends : List Nat := []
  collections : List Nat := []
  fields : List String := []
  dateFields : List String := []
  minDate : Option Date := none
  maxDate : Option Date := none
  status : List StatusDemand := []
  sortBy : Option String := none
  order : SortOrder := .descending
  stemming : Bool := false
  locale : Option String := none
  recordType : Option String := none
  /-- Only groups of records are searched. -/
  group : Bool := false
  business : List Nat := []
  /-- The fields whose values are shown for each result. -/
  excerpt : List String := []
  deriving DecidableEq, Repr

/-- A shell that completions are written for. -/
inductive Shell where
  | bash
  | elvish
  | fish
  | powershell
  | zsh
  deriving DecidableEq, Repr

/-- **A command.** -/
inductive Command where
  /-- Search, and show a page of results. -/
  | query (arguments : QueryArguments)
  /-- Sweep the sessions that have been idle for a number of seconds, or all. -/
  | sweep (olderThan : Option Int)
  /-- Show diagnostics, with the cached rows if `sessions`. -/
  | status (sessions : Bool)
  /-- Show the configuration, with the section for searches if `all`. -/
  | showConfig (all : Bool)
  /-- Write completions for a shell. -/
  | completions (shell : Shell)
  deriving DecidableEq, Repr

/-- **What the program is asked to do.** -/
structure Invocation where
  format : Format
  command : Command
  deriving DecidableEq, Repr

/-! ### Values of arguments -/

/-- A value that is read into the record, or is malformed. -/
def readBy {σ α : Type} (read : String → Option α) (put : α → σ → σ) : Put σ := fun s r =>
  match read s with
  | none => .error .malformedValue
  | some a => .ok (put a r)

/-- A value that is chosen by name. -/
def choose {σ α : Type} (names : List (String × α)) (put : α → σ → σ) : Put σ := fun s r =>
  match names.find? (·.1 == s) with
  | none => .error .invalidValue
  | some (_, a) => .ok (put a r)

/-- A number of 32 bits. A negative zero is one. -/
def word32? (s : String) : Option Nat := (intBetween? 0 (maxWord 32) s).map (·.toNat)

/-- A number of 64 bits. -/
def word64? (s : String) : Option Nat := natUpTo? (maxWord 64) s

/-- An integer of 64 bits with a sign. -/
def int64? (s : String) : Option Int := intBetween? leastInt greatestInt s

/-- A status bit, a backend and a value with colons between them. -/
def statusDemand? (s : String) : Option StatusDemand :=
  match s.splitOn ":" with
  | [bit, backend, value] => do
    let bit ← natUpTo? (maxWord 32) bit
    let backend ← natUpTo? (maxWord 32) backend
    if value == "0" then some ⟨bit, backend, false⟩
    else if value == "1" then some ⟨bit, backend, true⟩
    else none
  | _ => none

/-! ### Grammars -/

/-- The record of a command while its arguments are read, with the format if one is given. -/
structure Draft (σ : Type) where
  format : Option Format := none
  arguments : σ
  deriving Repr

section

variable {σ : Type}

/-- Change the arguments of a draft. -/
def Draft.put (put : Put σ) : Put (Draft σ) := fun s d =>
  (put s d.arguments).map fun arguments => { d with arguments }

/-- The options that every command has. -/
def common : List (Parameter (Draft σ)) :=
  [⟨"format", none, .value false (choose [("human", .human), ("json", .json)] fun f d =>
      { d with format := some f })⟩,
    ⟨"help", some 'h', .stop .help⟩,
    ⟨"version", some 'V', .stop .version⟩]

/-- An option with a value. -/
def valued (long : String) (short : Option Char) (repeatable : Bool) (put : Put σ) :
    Parameter (Draft σ) :=
  ⟨long, short, .value repeatable (Draft.put put)⟩

/-- An option without a value. -/
def flag (long : String) (short : Option Char) (set : σ → σ) : Parameter (Draft σ) :=
  ⟨long, short, .flag fun d => { d with arguments := set d.arguments }⟩

end

/-- Put something at the end of a list. -/
def atEnd {α : Type} (a : α) (as : List α) : List α := as ++ [a]

/-- The options of a search. -/
def queryParameters : List (Parameter (Draft QueryArguments)) :=
  [valued "user" (some 'u') false (readBy word64? fun n q => { q with user := n }),
    valued "page" (some 'p') false (readBy word64? fun n q => { q with page := n }),
    valued "per-page" none false (readBy word64? fun n q => { q with pageSize := n }),
    valued "backend" (some 'b') true
      (readBy word32? fun n q => { q with backends := atEnd n q.backends }),
    valued "collection" (some 'c') true
      (readBy word32? fun n q => { q with collections := atEnd n q.collections }),
    valued "field" (some 'f') true
      (readBy some fun s q => { q with fields := atEnd s q.fields }),
    valued "date-field" none true
      (readBy some fun s q => { q with dateFields := atEnd s q.dateFields }),
    valued "min-date" none false
      (readBy Date.ofText? fun d q => { q with minDate := some d }),
    valued "max-date" none false
      (readBy Date.ofText? fun d q => { q with maxDate := some d }),
    valued "status" none true
      (readBy statusDemand? fun d q => { q with status := atEnd d q.status }),
    valued "sort-by" none false (readBy some fun s q => { q with sortBy := some s }),
    valued "order" none false
      (choose [("asc", .ascending), ("desc", .descending)] fun o q => { q with order := o }),
    flag "stemming" none fun q => { q with stemming := true },
    valued "locale" none false (readBy some fun s q => { q with locale := some s }),
    valued "record-type" none false (readBy some fun s q => { q with recordType := some s }),
    flag "group" none fun q => { q with group := true },
    valued "business" none true
      (readBy word32? fun n q => { q with business := atEnd n q.business }),
    valued "excerpt" (some 'e') true
      (readBy some fun s q => { q with excerpt := atEnd s q.excerpt })]

/-- What a search takes. -/
def queryGrammar : Grammar (Draft QueryArguments) where
  parameters := queryParameters ++ common
  operands := [Draft.put (readBy some fun s q => { q with text := s })]

/-- What a sweep takes. -/
def sweepGrammar : Grammar (Draft (Option Int)) where
  parameters :=
    valued "older-than-secs" none false (readBy int64? fun n _ => some n) :: common

/-- What the diagnostics take. -/
def statusGrammar : Grammar (Draft Bool) where
  parameters := flag "sessions" (some 's') (fun _ => true) :: common

/-- What showing the configuration takes. -/
def configGrammar : Grammar (Draft Bool) where
  parameters := flag "all" (some 'a') (fun _ => true) :: common

/-- The shells by name. -/
def shells : List (String × Shell) :=
  [("bash", .bash), ("elvish", .elvish), ("fish", .fish), ("powershell", .powershell),
    ("zsh", .zsh)]

/-- What completions take. -/
def completionsGrammar : Grammar (Draft Shell) where
  parameters := common
  operands := [Draft.put (choose shells fun shell _ => shell)]
  required := 1

/-- The names of the commands. -/
def commandNames : List String := ["query", "sweep", "status", "show-config", "completions"]

/-- What the program takes before the name of a command. -/
def mainGrammar : Grammar (Draft Unit) where
  parameters := common
  commands := commandNames ++ ["help"]

/-! ### Reading a command -/

/-- Read all arguments of a command that has no commands below it. -/
def readAll {σ : Type} (g : Grammar (Draft σ)) (start : σ) (args : List String) :
    Except UsageFault (Draft σ) := do
  let (p, _) ← readArguments g args { result := ⟨none, start⟩, operands := g.operands }
  p.finish g

/-- A command with the format that is given after its name. -/
abbrev Choice := Option Format × Command

/-- The command with a name, and the arguments after it. -/
def readCommand (b : Below) : Except UsageFault Choice := do
  match b.command with
  | "query" => do
    let d ← readAll queryGrammar {} b.arguments
    return (d.format, .query d.arguments)
  | "sweep" => do
    let d ← readAll sweepGrammar none b.arguments
    return (d.format, .sweep d.arguments)
  | "status" => do
    let d ← readAll statusGrammar false b.arguments
    return (d.format, .status d.arguments)
  | "show-config" => do
    let d ← readAll configGrammar false b.arguments
    return (d.format, .showConfig d.arguments)
  | "completions" => do
    let d ← readAll completionsGrammar .bash b.arguments
    return (d.format, .completions d.arguments)
  | _ => throw (helpFor b.arguments)
where
  /-- Help for the command that some names lead to. -/
  helpFor : List String → UsageFault
    | [] => .help
    | [name] => if mainGrammar.commands.contains name then .help else .unknownCommand
    | _ => .unknownCommand

/-- **What a list of arguments asks for.** The format given after the name of the command comes
before one given in front of it. -/
def Invocation.ofArguments (args : List String) : Except UsageFault Invocation := do
  let (p, below?) ← readArguments mainGrammar args { result := ⟨none, ()⟩, operands := [] }
  match below? with
  | none =>
    let p ← p.settle
    throw (if p.seen.isEmpty then .helpForNothing else .missingCommand)
  | some below =>
    let (format?, command) ← readCommand below
    let d ← p.finish mainGrammar
    return ⟨(format?.or d.format).getD .human, command⟩

end FederatedSearch.CommandLine
