/-!
# Command line arguments

The arguments of a command are options, with or without a value, and operands. They are read from
left to right into a record, which starts with the defaults.

A value is looked at only when the next argument begins, so of two faults an argument that is
unknown comes before the bad value in front of it.

* `FederatedSearch.CommandLine.Parameter`: an option.
* `FederatedSearch.CommandLine.Grammar`: what a command takes.
* `FederatedSearch.CommandLine.readArguments`: read the arguments of a command.
-/

namespace FederatedSearch.CommandLine

/-! ### Grammars -/

/-- **Why arguments are not accepted**, or are a request for help. -/
inductive UsageFault where
  /-- No option or operand of the command. -/
  | unknownArgument
  /-- A value that is missing, or is none of those that can be chosen from. -/
  | invalidValue
  /-- A value that cannot be read. -/
  | malformedValue
  /-- A value for an option that takes none. -/
  | superfluousValue
  /-- No command has this name. -/
  | unknownCommand
  /-- No command is given. -/
  | missingCommand
  /-- An operand is missing. -/
  | missingArgument
  /-- An option that may occur once occurs again. -/
  | repeatedOption
  /-- Help is asked for. -/
  | help
  /-- The version is asked for. -/
  | version
  /-- Nothing is given, so help is shown. -/
  | helpForNothing
  deriving DecidableEq, Repr

/-- A change of the record `σ` by a text, which may be refused. -/
abbrev Put (σ : Type) := String → σ → Except UsageFault σ

/-- **What an option does.** -/
inductive Effect (σ : Type) where
  /-- It takes no value. -/
  | flag (set : σ → σ)
  /-- It takes a value; it may occur again if it is `repeatable`. -/
  | value (repeatable : Bool) (put : Put σ)
  /-- It ends the reading. -/
  | stop (fault : UsageFault)

/-- **An option**: its long name, possibly a letter, and what it does. -/
structure Parameter (σ : Type) where
  long : String
  short : Option Char := none
  effect : Effect σ

/-- **What a command takes**: options, operands in order, and the names of commands below it. -/
structure Grammar (σ : Type) where
  parameters : List (Parameter σ)
  operands : List (Put σ) := []
  /-- How many of the operands have to be given. -/
  required : Nat := 0
  commands : List String := []

variable {σ : Type}

namespace Grammar

/-- The option with a long name. -/
def long? (g : Grammar σ) (name : String) : Option (Parameter σ) :=
  g.parameters.find? (·.long == name)

/-- The option with a letter. -/
def short? (g : Grammar σ) (letter : Char) : Option (Parameter σ) :=
  g.parameters.find? (·.short == some letter)

end Grammar

/-! ### Reading -/

/-- A value that has not been looked at. -/
structure Pending (σ : Type) where
  /-- The name of the option, unless the value is an operand. -/
  option : Option String
  repeatable : Bool
  put : Put σ
  /-- The value; there is none yet when the option was the last argument. -/
  value : Option String

/-- **How far reading has come.** -/
structure Progress (σ : Type) where
  /-- The record so far. -/
  result : σ
  /-- The options that have occurred. -/
  seen : List String := []
  pending : Option (Pending σ) := none
  /-- All that follows is operands. -/
  trailing : Bool := false
  /-- The operands that have not been given. -/
  operands : List (Put σ)

namespace Progress

/-- An option waits for its value. -/
def waits (p : Progress σ) : Bool := p.pending.any (·.value.isNone)

/-- Note that an option occurs. -/
def note (p : Progress σ) (repeatable : Bool) (name : String) : Except UsageFault (Progress σ) :=
  if p.seen.contains name && !repeatable then .error .repeatedOption
  else .ok { p with seen := name :: p.seen }

/-- Put a value into the record. -/
def accept (p : Progress σ) (v : Pending σ) : Except UsageFault (Progress σ) := do
  match v.value with
  | none => throw .invalidValue
  | some s =>
    let p ← match v.option with
      | none => pure p
      | some name => p.note v.repeatable name
    return { p with result := ← v.put s p.result }

/-- **Look at the value that has not been looked at.** -/
def settle (p : Progress σ) : Except UsageFault (Progress σ) :=
  match p.pending with
  | none => .ok p
  | some v => ({ p with pending := none }).accept v

/-- An option occurs, with a value attached to it if there is one. -/
def option (p : Progress σ) (o : Parameter σ) (attached : Option String) :
    Except UsageFault (Progress σ) := do
  match o.effect, attached with
  | .stop fault, none => do let _ ← p.settle; throw fault
  | .flag set, none => do
    let p ← (← p.settle).note false o.long
    return { p with result := set p.result }
  | .value repeatable put, some s => do
    (← p.settle).accept ⟨some o.long, repeatable, put, some s⟩
  | .value repeatable put, none => do
    return { ← p.settle with pending := some ⟨some o.long, repeatable, put, none⟩ }
  | _, some _ => throw .superfluousValue

/-- An argument is the value that an option waits for. -/
def giveValue (p : Progress σ) (s : String) : Progress σ :=
  { p with pending := p.pending.map fun v => { v with value := some s } }

/-- An argument is an operand. -/
def operand (p : Progress σ) (s : String) : Except UsageFault (Progress σ) :=
  match p.operands with
  | [] => .error .unknownArgument
  | put :: rest => do
    let p ← p.settle
    return { p with operands := rest, pending := some ⟨none, true, put, some s⟩ }

/-- A long option, the hyphens aside: a name, and possibly an equals sign and a value. -/
def longOption (g : Grammar σ) (p : Progress σ) (cs : List Char) :
    Except UsageFault (Progress σ) :=
  let name := String.ofList (cs.takeWhile (· != '='))
  let attached := match cs.dropWhile (· != '=') with
    | [] => none
    | _ :: value => some (String.ofList value)
  match g.long? name with
  | none => .error .unknownArgument
  | some o => p.option o attached

/-- Letters of options, the hyphen aside. What follows the letter of an option with a value is the
value, after an equals sign if there is one. -/
def shortOptions (g : Grammar σ) (p : Progress σ) : List Char → Except UsageFault (Progress σ)
  | [] => .ok p
  | c :: rest =>
    match g.short? c with
    | none => .error .unknownArgument
    | some o =>
      match o.effect, rest with
      | .value _ _, [] => p.option o none
      | .value _ _, '=' :: value => p.option o (some (.ofList value))
      | .value _ _, value => p.option o (some (.ofList value))
      | _, _ => do shortOptions g (← p.option o none) rest

/-- The end of the arguments: the last value is looked at, and no operand may be missing. -/
def finish (g : Grammar σ) (p : Progress σ) : Except UsageFault σ := do
  let p ← p.settle
  if g.operands.length - p.operands.length < g.required then throw .missingArgument
  return p.result

end Progress

/-- A command below, and the arguments after its name. -/
structure Below where
  command : String
  arguments : List String
  deriving DecidableEq, Repr

/-- An argument that is no option, for a command that has others below it. -/
def strayArgument (g : Grammar σ) (p : Progress σ) (s : String) : UsageFault :=
  if g.commands.isEmpty then .unknownArgument
  else if p.trailing && g.commands.contains s then .unknownArgument
  else .unknownCommand

/-- An argument that is not read as an option. -/
def readPlain (g : Grammar σ) (p : Progress σ) (s : String) : Except UsageFault (Progress σ) :=
  if p.waits && !p.trailing then .ok (p.giveValue s)
  else if p.operands.isEmpty then .error (strayArgument g p s)
  else p.operand s

/-- An argument that is not the name of a command below. -/
def readArgument (g : Grammar σ) (p : Progress σ) (s : String) : Except UsageFault (Progress σ) :=
  if p.trailing then readPlain g p s
  else match s.toList with
    | ['-', '-'] => .ok { p with trailing := true }
    | '-' :: '-' :: cs => p.longOption g cs
    | ['-'] => readPlain g p s
    | '-' :: cs => p.shortOptions g cs
    | _ => readPlain g p s

/-- **Read the arguments of a command**, up to the name of a command below it. -/
def readArguments (g : Grammar σ) :
    List String → Progress σ → Except UsageFault (Progress σ × Option Below)
  | [], p => .ok (p, none)
  | s :: rest, p =>
    if !p.trailing && !p.waits && g.commands.contains s then .ok (p, some ⟨s, rest⟩)
    else do readArguments g rest (← readArgument g p s)

end FederatedSearch.CommandLine
