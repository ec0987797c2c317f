import FederatedSearch.Query.Parser

/-!
# Normal form

Two passes bring the tree of a query into the form that is executed.

* `FederatedSearch.Query.Expr.fold`: in each chain `AND` and `EXCEPT` come to bind tighter than
  `OR`, the marks of parentheses go, and conjunctions in conjunctions and disjunctions in
  disjunctions are merged.
* `FederatedSearch.Query.Expr.distribute`: a restriction of a disjunction to fields becomes a
  disjunction of restrictions, so that the terms of a disjunction lie side by side.
* `FederatedSearch.Query.Expr.normalize`: one after the other.
* `FederatedSearch.Query.compile`: the text of a query with the normal form of the expression that it
  spells.
-/

namespace FederatedSearch.Query

/-- An operator of a chain. -/
inductive Link where
  /-- Both operands. -/
  | and
  /-- One of the operands. -/
  | or
  /-- The left operand without the right one. -/
  | except
  deriving DecidableEq, Repr

/-- **A chain of operands**: the first, and each further one with the operator before it. -/
structure Chain where
  first : Expr
  rest : List (Link × Expr)
  deriving Repr

namespace Expr

/-! ### Merging -/

/-- The parts of an expression as a conjunct. -/
def conjuncts : Expr → List Expr
  | .and children => children
  | e => [e]

/-- The parts of an expression as a disjunct. -/
def disjuncts : Expr → List Expr
  | .or children => children
  | e => [e]

/-- **A conjunction**: conjunctions among the parts are merged into it, and one part alone stands
for itself. -/
def andAll (parts : List Expr) : Expr :=
  match parts.flatMap conjuncts with
  | [e] => e
  | es => .and es

/-- **A disjunction**: disjunctions among the parts are merged into it, and one part alone stands
for itself. -/
def orAll (parts : List Expr) : Expr :=
  match parts.flatMap disjuncts with
  | [e] => e
  | es => .or es

end Expr

/-! ### Chains -/

namespace Chain

/-- A chain with one more operand. -/
def push (c : Chain) (op : Link) (e : Expr) : Chain := ⟨c.first, c.rest ++ [(op, e)]⟩

/-- The segments between the `OR`s of a chain whose current segment is `current`. Inside a segment
`AND` and `EXCEPT` combine from left to right. -/
def segmentsFrom (current : Expr) : List (Link × Expr) → List Expr
  | [] => [current]
  | (.or, e) :: rest => current :: segmentsFrom e rest
  | (.and, e) :: rest => segmentsFrom (.andAll [current, e]) rest
  | (.except, e) :: rest => segmentsFrom (.except current e) rest

/-- **The expression that a chain stands for**: the disjunction of its segments. -/
def toExpr (c : Chain) : Expr :=
  match segmentsFrom c.first c.rest with
  | [e] => e
  | es => .orAll es

end Chain

namespace Expr

/-! ### Folding -/

mutual

/-- **The chain that an expression spells in reading order**: the operands along its left spine,
each of them folded. -/
def foldChain : Expr → Chain
  | .and [left, right] => left.foldChain.push .and right.foldOperand
  | .or [left, right] => left.foldChain.push .or right.foldOperand
  | .except left right => left.foldChain.push .except right.foldOperand
  | e => ⟨e.foldOperand, []⟩
termination_by e => 2 * sizeOf e + 1
decreasing_by all_goals decreasing_tactic

/-- An operand of a chain, folded inside. -/
def foldOperand : Expr → Expr
  | .group inner => inner.foldChain.toExpr
  | .within inner fields => .within inner.foldChain.toExpr fields
  | .and children => andAll (foldEach children)
  | .or children => orAll (foldEach children)
  | e => e
termination_by e => 2 * sizeOf e
decreasing_by all_goals decreasing_tactic

/-- Several expressions, each folded. -/
def foldEach : List Expr → List Expr
  | [] => []
  | e :: es => e.foldChain.toExpr :: foldEach es
termination_by es => 2 * sizeOf es
decreasing_by all_goals decreasing_tactic

end

/-- **The expression with its operators bound by priority**, without the marks of parentheses. -/
def fold (e : Expr) : Expr := e.foldChain.toExpr

/-! ### Distribution -/

/-- **The restriction of an expression to fields**, pushed into a disjunction. -/
def restrict (fields : List String) : Expr → Expr
  | .or children => .or (children.map (.within · fields))
  | e => .within e fields

mutual

/-- **The expression with its restrictions pushed into disjunctions** and nested conjunctions and
disjunctions merged. -/
def distribute : Expr → Expr
  | .within inner fields => restrict fields inner.distribute
  | .or children => orAll (distributeEach children)
  | .and children => andAll (distributeEach children)
  | .except left right => .except left.distribute right.distribute
  | .group inner => inner.distribute
  | e => e

/-- Several expressions, each with its restrictions pushed into disjunctions. -/
def distributeEach : List Expr → List Expr
  | [] => []
  | e :: es => e.distribute :: distributeEach es

end

/-- **The normal form of an expression.** -/
def normalize (e : Expr) : Expr := e.fold.distribute

end Expr

/-! ### Compiled queries -/

/-- **A compiled query**: its text, the tree that is executed, and whether some word of it asks for
the thesaurus. -/
structure CompiledQuery where
  source : String
  tree : Expr
  needsThesaurus : Bool
  deriving Repr

/-- **Compile a query**: read it and bring it into normal form. -/
def compile (source : String) : Except SyntaxError CompiledQuery := do
  let tree := (← parse source).normalize
  return ⟨source, tree, tree.usesVocabulary⟩

end FederatedSearch.Query
