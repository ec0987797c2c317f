import FederatedSearch.Query.Comparison

/-!
# Query expressions

A query is a tree of leaves joined by conjunction, disjunction, exclusion and restriction to
fields. `FederatedSearch.Query.Expr.group` marks what stood between parentheses; it lets the
reading order of a chain be told from the order that parentheses ask for, and no compiled tree
holds it.

* `FederatedSearch.Query.Expr.leaves`: the leaves from left to right.
* `FederatedSearch.Query.Expr.usesVocabulary`: some leaf asks for the thesaurus.
* `FederatedSearch.Query.Expr.positiveTerms`: the texts that a match is looked for with, which are
  the ones to highlight.
* `FederatedSearch.Query.Expr.depth`: how deep the tree is nested.
-/

namespace FederatedSearch.Query

/-- **An expression of the query language.** -/
inductive Expr where
  /-- Every record. -/
  | all
  /-- A word. -/
  | term (word : String)
  /-- Several words in a row. -/
  | phrase (text : String)
  /-- A comparison of a field with a value. -/
  | compare (field : String) (op : Comparison) (value : String)
  /-- A word of the controlled vocabulary, in one field or in all of them. -/
  | vocabulary (field : Option String) (term : String)
  /-- All of several expressions. -/
  | and (children : List Expr)
  /-- Some of several expressions. -/
  | or (children : List Expr)
  /-- The first expression without the second. -/
  | except (left right : Expr)
  /-- An expression that looks at certain fields only. -/
  | within (inner : Expr) (fields : List String)
  /-- An expression between parentheses. -/
  | group (inner : Expr)
  deriving Repr, Inhabited

namespace Expr

/-- The expression has parts that its written form puts between operators. -/
def isComposite : Expr → Bool
  | .and _ | .or _ | .except _ _ | .within _ _ => true
  | _ => false

/-! ### Leaves -/

mutual

/-- **The leaves from left to right.** -/
def leaves : Expr → List Expr
  | .and children | .or children => leavesAll children
  | .except left right => left.leaves ++ right.leaves
  | .within inner _ | .group inner => inner.leaves
  | leaf => [leaf]

/-- The leaves of several expressions. -/
def leavesAll : List Expr → List Expr
  | [] => []
  | e :: es => e.leaves ++ leavesAll es

end

mutual

/-- **Some leaf is a word of the controlled vocabulary.** -/
def usesVocabulary : Expr → Bool
  | .vocabulary _ _ => true
  | .and children | .or children => anyUsesVocabulary children
  | .except left right => left.usesVocabulary || right.usesVocabulary
  | .within inner _ | .group inner => inner.usesVocabulary
  | _ => false

/-- Some leaf of several expressions is a word of the controlled vocabulary. -/
def anyUsesVocabulary : List Expr → Bool
  | [] => false
  | e :: es => e.usesVocabulary || anyUsesVocabulary es

end

mutual

/-- **The words and phrases that a match is looked for with**, from left to right: those of what is
excluded are left out. -/
def positiveTerms : Expr → List String
  | .term word => [word]
  | .phrase text => [text]
  | .vocabulary _ word => [word]
  | .and children | .or children => positiveTermsAll children
  | .except left _ => left.positiveTerms
  | .within inner _ | .group inner => inner.positiveTerms
  | .all | .compare _ _ _ => []

/-- The words and phrases of several expressions. -/
def positiveTermsAll : List Expr → List String
  | [] => []
  | e :: es => e.positiveTerms ++ positiveTermsAll es

end

/-! ### Depth -/

mutual

/-- **How deep an expression is nested**: a leaf has depth zero. -/
def depth : Expr → Nat
  | .and children | .or children => depthAll children + 1
  | .except left right => max left.depth right.depth + 1
  | .within inner _ | .group inner => inner.depth + 1
  | _ => 0

/-- How deep the deepest of several expressions is nested. -/
def depthAll : List Expr → Nat
  | [] => 0
  | e :: es => max e.depth (depthAll es)

end

end Expr

end FederatedSearch.Query
