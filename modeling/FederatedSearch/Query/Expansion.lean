import FederatedSearch.Query.Normal
import FederatedSearch.Text.Blank
import FederatedSearch.Thesaurus

/-!
# Expansion

A word of the controlled vocabulary is replaced by the disjunction of itself and the alternatives
that thesauri offer for it. A word without an alternative stays as it is.

* `FederatedSearch.Query.Expr.expand`: the expression with its vocabulary words replaced.
* `FederatedSearch.Query.Expr.expansions`: what was replaced, from left to right.
-/

namespace FederatedSearch.Query

/-- **What happened to a vocabulary word**: its field and the alternatives found for it. -/
structure TermExpansion where
  term : String
  field : Option String
  alternatives : List Alternative
  deriving DecidableEq, Repr

namespace Expr

/-- **A value as a leaf**: a phrase when it has blanks in it, and a word otherwise. -/
def ofValue (value : String) : Expr :=
  if value.toList.any Text.isBlank then .phrase value else .term value

/-- The disjunction that stands for a word and its alternatives. -/
def disjunction (word : String) (alternatives : List Alternative) : Expr :=
  .or (ofValue word :: alternatives.map fun a => ofValue a.value)

/-- **A vocabulary word expanded.** -/
def expandWord (ts : List Thesaurus) (field : Option String) (word : String) : Expr :=
  match Thesaurus.mergedAlternatives ts word with
  | [] => .vocabulary field word
  | alternatives =>
    match field with
    | some name => .within (disjunction word alternatives) [name]
    | none => disjunction word alternatives

mutual

/-- **The expression with its vocabulary words replaced.** A disjunction that arises inside a
disjunction is merged into it. -/
def expand (ts : List Thesaurus) : Expr → Expr
  | .vocabulary field word => expandWord ts field word
  | .and children => .and (expandAll ts children)
  | .or children => .or (expandDisjuncts ts children)
  | .except left right => .except (left.expand ts) (right.expand ts)
  | .within inner fields => .within (inner.expand ts) fields
  | .group inner => .group (inner.expand ts)
  | e => e

/-- Several expressions with their vocabulary words replaced. -/
def expandAll (ts : List Thesaurus) : List Expr → List Expr
  | [] => []
  | e :: es => e.expand ts :: expandAll ts es

/-- The parts of a disjunction with their vocabulary words replaced. -/
def expandDisjuncts (ts : List Thesaurus) : List Expr → List Expr
  | [] => []
  | e :: es =>
    (match e.expand ts with
      | .or nested => nested
      | other => [other]) ++ expandDisjuncts ts es

end

theorem expandAll_eq_map (ts : List Thesaurus) (es : List Expr) :
    expandAll ts es = es.map (expand ts) := by
  induction es with
  | nil => rfl
  | cons e es ih => rw [expandAll, ih, List.map_cons]

/-- The parts of a disjunction give their own disjuncts when they are expanded. -/
theorem expandDisjuncts_eq_flatMap (ts : List Thesaurus) (es : List Expr) :
    expandDisjuncts ts es = es.flatMap fun e => (e.expand ts).disjuncts := by
  induction es with
  | nil => rfl
  | cons e es ih =>
    rw [expandDisjuncts, ih, List.flatMap_cons]
    rfl

/-- What happens to a leaf: nothing is reported of one that stays as it is. -/
def expansion? (ts : List Thesaurus) : Expr → Option TermExpansion
  | .vocabulary field word =>
    match Thesaurus.mergedAlternatives ts word with
    | [] => none
    | alternatives => some ⟨word, field, alternatives⟩
  | _ => none

/-- **What is replaced in an expression**, from left to right. -/
def expansions (ts : List Thesaurus) (e : Expr) : List TermExpansion :=
  e.leaves.filterMap (expansion? ts)

end Expr

end FederatedSearch.Query
