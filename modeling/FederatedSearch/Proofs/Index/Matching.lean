import FederatedSearch.Index.Matching
import FederatedSearch.Proofs.Query.Distribution
import FederatedSearch.Proofs.Query.Polarity
import FederatedSearch.Query.Expansion

/-!
# What a record matches

To match a record is one meaning of an expression, and to match it after an expansion is another:
they differ in what the leaves say. So what is known of meanings is known of matching.

* `FederatedSearch.Index.Matcher.holds_normalize`: a record matches the normal form of what it is
  read to match.
* `FederatedSearch.Index.Matcher.distribute_sound_stable`: distribution keeps what any tree matches,
  and does nothing to what it has distributed.
* `FederatedSearch.Index.Matcher.holds_expand`: a record matches an expanded expression when the
  expression holds of it with each leaf expanded.
-/

namespace FederatedSearch.Index.Matcher

open Query

variable (m : Matcher)

/-! ### Records -/

theorem allHold_eq_all (scope : Option (List String)) (es : List Expr) :
    m.allHold scope es = es.all (m.holds scope) := by
  induction es with
  | nil => rfl
  | cons e es ih => rw [allHold, ih, List.all_cons]

theorem someHold_eq_any (scope : Option (List String)) (es : List Expr) :
    m.someHold scope es = es.any (m.holds scope) := by
  induction es with
  | nil => rfl
  | cons e es ih => rw [someHold, ih, List.any_cons]

/-- A disjunction holds when some part of it does, whether it is taken as one part or as several. -/
theorem any_disjuncts_holds (scope : Option (List String)) (e : Expr) :
    e.disjuncts.any (m.holds scope) = m.holds scope e := by
  cases e <;> simp [Expr.disjuncts, holds, someHold_eq_any]

/-- **To match a record is one meaning**: leaves say whether the record matches them. -/
theorem means_holds (scope : Option (List String)) (e : Expr) :
    e.means m.holds scope = m.holds scope e := by
  induction e using Expr.byParts generalizing scope with
  | leaf e he => rw [Expr.means_leaf he]
  | and es ih =>
    rw [Expr.means_and, holds, allHold_eq_all]
    exact Expr.all_congr_parts fun e he => ih e he scope
  | or es ih =>
    rw [Expr.means_or, holds, someHold_eq_any]
    exact Expr.any_congr_parts fun e he => ih e he scope
  | except left right ihleft ihright => rw [Expr.means_except, ihleft, ihright, holds]
  | within inner fields ih => rw [Expr.means_within, ih, holds]
  | group inner ih => rw [Expr.means_group, ih, holds]

/-- **A record matches the normal form of what it is read to match.** -/
theorem holds_normalize (scope : Option (List String)) (e : Expr) :
    m.holds scope e.normalize = (e.reading m.holds scope).holds := by
  rw [← means_holds, Expr.means_normalize]

/-- A record matches a distributed tree when it matches the tree. -/
theorem holds_distribute (scope : Option (List String)) (e : Expr) :
    m.holds scope e.distribute = m.holds scope e := by
  rw [← means_holds, Expr.means_distribute, means_holds]

/-- **Distribution is sound and stable.** Whatever a tree is made of, also of conjunctions and
disjunctions with one part or none, every record matches it in every scope as it does before,
business fields searchable or not and words compared by any stems or none. What comes out is
distributed, and to distribute it again does nothing. -/
theorem distribute_sound_stable (e : Expr) :
    (∀ (m : Matcher) (scope : Option (List String)),
      m.holds scope e.distribute = m.holds scope e) ∧
      e.distribute.IsDistributed ∧ e.distribute.distribute = e.distribute :=
  ⟨fun m scope => m.holds_distribute scope e, e.isDistributed_distribute,
    e.distribute_distribute⟩

/-- A restriction of a disjunction that has a disjunction with one part in it, and an empty
conjunction. -/
example :
    (Expr.within (.or [.group (.or [.term "a", .or [.term "b"]]), .and []]) ["F"]).distribute =
      .or [.within (.term "a") ["F"], .within (.term "b") ["F"], .within (.and []) ["F"]] := rfl

/-! ### Expansion -/

/-- What a leaf says of the record when its alternatives in some thesauri count as the leaf. -/
def expandedLeaf (ts : List Thesaurus) : Valuation := fun scope leaf =>
  m.holds scope (leaf.expand ts)

/-- **Matching an expanded expression is one meaning**: each leaf stands for its alternatives. -/
theorem holds_expand (ts : List Thesaurus) (scope : Option (List String)) (e : Expr) :
    m.holds scope (e.expand ts) = e.means (m.expandedLeaf ts) scope := by
  induction e using Expr.byParts generalizing scope with
  | leaf e he => rw [Expr.means_leaf he, expandedLeaf]
  | and es ih =>
    rw [Expr.expand, Expr.expandAll_eq_map, holds, allHold_eq_all, List.all_map, Expr.means_and]
    exact Expr.all_congr_parts fun e he => ih e he scope
  | or es ih =>
    -- what becomes of a disjunct, merged or not, are its own disjuncts
    rw [Expr.expand, Expr.expandDisjuncts_eq_flatMap, holds, someHold_eq_any, List.any_flatMap,
      Expr.means_or]
    refine Expr.any_congr_parts fun e he => ?_
    rw [any_disjuncts_holds, ih e he scope]
  | except left right ihleft ihright =>
    rw [Expr.expand, holds, Expr.means_except, ihleft, ihright]
  | within inner fields ih => rw [Expr.expand, holds, Expr.means_within, ih]
  | group inner ih => rw [Expr.expand, holds, Expr.means_group, ih]

end FederatedSearch.Index.Matcher
