import FederatedSearch.Json.Basic

/-!
# Tables in TOML

A document is a table that is built up line by line. A line names a table with a header, or puts a
value under a key, which may be a path through tables. Nothing may be given twice, so a table
remembers how it came about.

* `FederatedSearch.Toml.put?`: put a value under a key.
* `FederatedSearch.Toml.open?`: open a table by its header.
* `FederatedSearch.Toml.openNext?`: open the next table of a list of tables.
* `FederatedSearch.Toml.membersToJson`: the finished table.
-/

namespace FederatedSearch.Toml

/-- How a table came about. -/
inductive Origin where
  /-- It has a header of its own. -/
  | header
  /-- It stands above a table that has one. -/
  | above
  /-- It is on the path of a key. -/
  | key
  deriving DecidableEq, Repr

/-- **What a key stands for.** -/
inductive Node where
  /-- A finished value. -/
  | value (j : Json)
  /-- A table. -/
  | table (origin : Origin) (members : List (String × Node))
  /-- A list of tables, each with a header. -/
  | tables (items : List (List (String × Node)))
  deriving Inhabited

/-- The members of a table. -/
abbrev Members := List (String × Node)

/-- The member with a name. -/
def member? (name : String) (ms : Members) : Option Node :=
  (ms.find? (·.1 == name)).map (·.2)

/-- The members with one more, or with one in place of that with its name. -/
def withMember (name : String) (n : Node) : Members → Members
  | [] => [(name, n)]
  | (k, m) :: rest => if k == name then (k, n) :: rest else (k, m) :: withMember name n rest

/-- A change of a table, which may be refused. -/
abbrev Change := Origin → Members → Option Members

/-- **Change the table at the end of a path.** Tables that are missing on the way are made, with
the origin `made`. A path through a list of tables goes to the last one. The path of a key cannot
enter a table that has a header. -/
def atPath (made : Origin) (change : Change) : List String → Change
  | [], origin, ms => change origin ms
  | name :: path, _, ms =>
    match member? name ms with
    | none =>
      (atPath made change path made []).map fun inner => withMember name (.table made inner) ms
    | some (.value _) => none
    | some (.tables items) =>
      (atPath made change path .header (items.getLastD [])).map fun inner =>
        withMember name (.tables (items.dropLast ++ [inner])) ms
    | some (.table origin inner) =>
      if made == .key && origin == .header then none
      else (atPath made change path origin inner).map fun inner =>
        withMember name (.table origin inner) ms

/-- Put a value under the last part of a key, in the table that the other parts lead to. A key of
one part belongs to the table of the last header; a longer one leads to a table that keys have
made. -/
def putLast (short : Bool) (name : String) (n : Node) : Change := fun origin ms =>
  if (origin == .key) == short then none
  else if (member? name ms).isSome then none
  else some (ms ++ [(name, n)])

/-- The change that puts a value under a key, in a table. -/
def putKey (key : List String) (j : Json) : Change := fun _ ms =>
  match key.getLast? with
  | none => none
  | some name =>
    atPath .key (putLast key.dropLast.isEmpty name (.value j)) key.dropLast .header ms

/-- **Put a value under a key** in the table of a header. -/
def put? (header key : List String) (j : Json) (ms : Members) : Option Members :=
  atPath .above (putKey key j) header .header ms

/-- The change that gives a table a header. -/
def openLast (name : String) : Change := fun _ ms =>
  match member? name ms with
  | none => some (ms ++ [(name, .table .header [])])
  | some (.table .above inner) => some (withMember name (.table .header inner) ms)
  | some _ => none

/-- The change that opens the next table of a list. -/
def openNextLast (name : String) : Change := fun _ ms =>
  match member? name ms with
  | none => some (ms ++ [(name, .tables [[]])])
  | some (.tables items) => some (withMember name (.tables (items ++ [[]])) ms)
  | some _ => none

/-- **Open a table by its header.** -/
def open? (header : List String) (ms : Members) : Option Members :=
  match header.getLast? with
  | none => none
  | some name => atPath .above (openLast name) header.dropLast .header ms

/-- **Open the next table of a list of tables.** -/
def openNext? (header : List String) (ms : Members) : Option Members :=
  match header.getLast? with
  | none => none
  | some name => atPath .above (openNextLast name) header.dropLast .header ms

/-! ### Finished tables -/

mutual

/-- What a key stands for, as a value. -/
def Node.toJson : Node → Json
  | .value j => j
  | .table _ members => .object (membersToJson members)
  | .tables items => .array (tablesToJson items)

/-- **The members of a table as values.** -/
def membersToJson : List (String × Node) → List (String × Json)
  | [] => []
  | (name, n) :: rest => (name, n.toJson) :: membersToJson rest

/-- Several tables as values. -/
def tablesToJson : List (List (String × Node)) → List Json
  | [] => []
  | ms :: rest => .object (membersToJson ms) :: tablesToJson rest

end

end FederatedSearch.Toml
