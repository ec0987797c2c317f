import FederatedSearch.Json.Decode
import FederatedSearch.Query.Normal

/-!
# Expressions as JSON

An expression is exchanged as a choice of the name of its case with what the case carries.
-/

namespace FederatedSearch.Query

open Json

/-! ### Comparisons -/

/-- The comparisons by name. -/
def Comparison.names : List (String × Comparison) :=
  [("Eq", .eq), ("Ne", .ne), ("Lt", .lt), ("Le", .le), ("Gt", .gt), ("Ge", .ge)]

/-- The name of a comparison. -/
def Comparison.name : Comparison → String
  | .eq => "Eq"
  | .ne => "Ne"
  | .lt => "Lt"
  | .le => "Le"
  | .gt => "Gt"
  | .ge => "Ge"

namespace Expr

/-! ### Writing -/

mutual

/-- **An expression as JSON.** -/
def toJson : Expr → Json
  | .all => .text "All"
  | .term word => .object [("Term", .text word)]
  | .phrase words => .object [("Phrase", .text words)]
  | .compare field op value =>
    .object [("Compare",
      .object [("field", .text field), ("op", .text op.name), ("value", .text value)])]
  | .vocabulary field word =>
    .object [("Vocabulary", .object [("field", orNull .text field), ("term", .text word)])]
  | .and children => .object [("And", .array (toJsonAll children))]
  | .or children => .object [("Or", .array (toJsonAll children))]
  | .except left right => .object [("Except", .array [left.toJson, right.toJson])]
  | .within inner fields =>
    .object [("In", .object [("expr", inner.toJson), ("fields", list .text fields)])]
  | .group inner => .object [("Group", inner.toJson)]

/-- Several expressions as JSON. -/
def toJsonAll : List Expr → List Json
  | [] => []
  | e :: es => e.toJson :: toJsonAll es

end

/-! ### Reading -/

/-- A comparison of a field with a value. -/
def compareOfJson? (j : Json) : Option Expr := do
  let f ← objectFields? ["field", "op", "value"] j
  return .compare (← f.required "field" text?) (← f.required "op" (plainChoice? Comparison.names))
    (← f.required "value" text?)

/-- A word of the controlled vocabulary. -/
def vocabularyOfJson? (j : Json) : Option Expr := do
  let f ← objectFields? ["field", "term"] j
  return .vocabulary (← f.optional "field" text?) (← f.required "term" text?)

/-- A restriction to fields, of an expression that `decode` reads. -/
def withinOfJson? (decode : Json → Option Expr) (j : Json) : Option Expr := do
  let f ← objectFields? ["expr", "fields"] j
  return .within (← f.required "expr" decode) (← f.required "fields" (list? text?))

/-- The case of an expression by name, with what it carries; `decode` reads parts. -/
def caseOfJson? (decode : Json → Option Expr) : String → Json → Option Expr
  | "All", .null => some .all
  | "Term", j => j.text?.map .term
  | "Phrase", j => j.text?.map .phrase
  | "Compare", j => compareOfJson? j
  | "Vocabulary", j => vocabularyOfJson? j
  | "And", j => (j.list? decode).map .and
  | "Or", j => (j.list? decode).map .or
  | "Except", j => (j.pair? decode decode).map fun (left, right) => .except left right
  | "In", j => withinOfJson? decode j
  | "Group", j => (decode j).map .group
  | _, _ => none

/-- An expression from JSON that is nested less than `depth` deep. -/
def ofJsonBelow? : Nat → Json → Option Expr
  | 0, _ => none
  | depth + 1, j =>
    match choice? j with
    | some ("All", none) => some .all
    | some (name, some carried) => caseOfJson? (ofJsonBelow? depth) name carried
    | _ => none

/-- **An expression from JSON.** -/
def ofJson? (j : Json) : Option Expr := ofJsonBelow? (j.depth + 1) j

end Expr

/-- **A compiled query as JSON.** -/
def CompiledQuery.toJson (q : CompiledQuery) : Json :=
  .object
    [("source", .text q.source), ("tree", q.tree.toJson),
      ("needs_thesaurus", .bool q.needsThesaurus)]

end FederatedSearch.Query
