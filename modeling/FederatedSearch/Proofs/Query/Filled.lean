import FederatedSearch.Proofs.Query.Distribution
import FederatedSearch.Proofs.Query.Grammar
import FederatedSearch.Proofs.Query.Node

/-!
# Trees in which nothing is empty

A query is read as a tree in which every conjunction and every disjunction has parts and every
restriction names a field. Folding and distribution take such trees apart and put them together
again, and never make anything empty: merging keeps a piece of every part, a chain has a segment,
and a restriction that is pushed into a disjunction is repeated with all its fields. What the leaves
and the names of the fields are like plays no part in this, so it is left open here.

* `FederatedSearch.Query.Expr.Filled`: **the trees with nothing empty in them**, made of leaves and
  of names of a kind.
* `FederatedSearch.Query.Expr.Filled.fold`, `FederatedSearch.Query.Expr.Filled.distribute`: both
  passes keep this.
-/

namespace FederatedSearch.Query

namespace Expr

/-- **A tree with nothing empty in it**, whose leaves are of one kind and whose fields have names of
another. -/
inductive Filled (leaf : Expr → Prop) (name : String → Prop) : Expr → Prop
  /-- A leaf. -/
  | leaf {e : Expr} : e.isLeaf = true → leaf e → Filled leaf name e
  /-- A conjunction of some parts. -/
  | and {es : List Expr} : es ≠ [] → (∀ e ∈ es, Filled leaf name e) → Filled leaf name (.and es)
  /-- A disjunction of some parts. -/
  | or {es : List Expr} : es ≠ [] → (∀ e ∈ es, Filled leaf name e) → Filled leaf name (.or es)
  /-- An exclusion. -/
  | except {left right : Expr} : Filled leaf name left → Filled leaf name right →
    Filled leaf name (.except left right)
  /-- A restriction to some fields. -/
  | within {inner : Expr} {fields : List String} : Filled leaf name inner → fields ≠ [] →
    (∀ f ∈ fields, name f) → Filled leaf name (.within inner fields)
  /-- A tree between parentheses. -/
  | group {inner : Expr} : Filled leaf name inner → Filled leaf name (.group inner)

end Expr

section Filling

variable {leaf : Expr → Prop} {name : String → Prop}

namespace Expr

/-! ### Parts -/

theorem Filled.of_and {es : List Expr} (h : (Expr.and es).Filled leaf name) :
    es ≠ [] ∧ ∀ e ∈ es, e.Filled leaf name := by
  cases h with
  | leaf hleaf => cases hleaf
  | and hne hes => exact ⟨hne, hes⟩

theorem Filled.of_or {es : List Expr} (h : (Expr.or es).Filled leaf name) :
    es ≠ [] ∧ ∀ e ∈ es, e.Filled leaf name := by
  cases h with
  | leaf hleaf => cases hleaf
  | or hne hes => exact ⟨hne, hes⟩

theorem Filled.of_except {left right : Expr} (h : (Expr.except left right).Filled leaf name) :
    left.Filled leaf name ∧ right.Filled leaf name := by
  cases h with
  | leaf hleaf => cases hleaf
  | except hleft hright => exact ⟨hleft, hright⟩

theorem Filled.of_within {inner : Expr} {fields : List String}
    (h : (Expr.within inner fields).Filled leaf name) :
    inner.Filled leaf name ∧ fields ≠ [] ∧ ∀ f ∈ fields, name f := by
  cases h with
  | leaf hleaf => cases hleaf
  | within hinner hne hfields => exact ⟨hinner, hne, hfields⟩

theorem Filled.of_group {inner : Expr} (h : (Expr.group inner).Filled leaf name) :
    inner.Filled leaf name := by
  cases h with
  | leaf hleaf => cases hleaf
  | group hinner => exact hinner

/-- An operator between two trees with nothing empty in them. -/
theorem Filled.combine {left right : Expr} (hleft : left.Filled leaf name)
    (hright : right.Filled leaf name) (op : Link) : (op.combine left right).Filled leaf name := by
  have hboth := forall_mem_pair.2 ⟨hleft, hright⟩
  cases op with
  | and => exact .and (List.cons_ne_nil _ _) hboth
  | or => exact .or (List.cons_ne_nil _ _) hboth
  | except => exact .except hleft hright

/-! ### Merging -/

theorem Filled.of_conjuncts {e : Expr} (h : e.Filled leaf name) :
    e.conjuncts ≠ [] ∧ ∀ c ∈ e.conjuncts, c.Filled leaf name := by
  rcases e.conjuncts_cases with hone | ⟨es, rfl⟩
  · rw [hone]
    exact ⟨List.cons_ne_nil _ _, List.forall_mem_singleton.2 h⟩
  · exact h.of_and

theorem Filled.of_disjuncts {e : Expr} (h : e.Filled leaf name) :
    e.disjuncts ≠ [] ∧ ∀ d ∈ e.disjuncts, d.Filled leaf name := by
  rcases e.disjuncts_cases with hone | ⟨es, rfl⟩
  · rw [hone]
    exact ⟨List.cons_ne_nil _ _, List.forall_mem_singleton.2 h⟩
  · exact h.of_or

theorem filled_andAll {parts : List Expr} (hne : parts ≠ [])
    (h : ∀ e ∈ parts, e.Filled leaf name) : (andAll parts).Filled leaf name :=
  (merges_andAll parts).of_pieces (fun e he => (h e he).of_conjuncts.2) (fun _ hc => hc)
    fun hlen hcs => .and (List.ne_nil_of_length_pos (Nat.lt_of_lt_of_le Nat.zero_lt_two
      (two_le_length_flatMap hne (fun e he => (h e he).of_conjuncts.1) hlen))) hcs

theorem filled_orAll {parts : List Expr} (hne : parts ≠ [])
    (h : ∀ e ∈ parts, e.Filled leaf name) : (orAll parts).Filled leaf name :=
  (merges_orAll parts).of_pieces (fun e he => (h e he).of_disjuncts.2) (fun _ hd => hd)
    fun hlen hds => .or (List.ne_nil_of_length_pos (Nat.lt_of_lt_of_le Nat.zero_lt_two
      (two_le_length_flatMap hne (fun e he => (h e he).of_disjuncts.1) hlen))) hds

end Expr

/-! ### Chains -/

namespace Chain

/-- **A chain of trees with nothing empty in them.** -/
structure Filled (leaf : Expr → Prop) (name : String → Prop) (c : Chain) : Prop where
  first : c.first.Filled leaf name
  rest : ∀ x ∈ c.rest, x.2.Filled leaf name

theorem segmentsFrom_ne_nil (current : Expr) (rest : List (Link × Expr)) :
    segmentsFrom current rest ≠ [] := by
  induction rest generalizing current with
  | nil => exact List.cons_ne_nil _ _
  | cons x rest ih =>
    obtain ⟨op, e⟩ := x
    cases op with
    | and | except => exact ih _
    | or => exact List.cons_ne_nil _ _

/-- The segments of operands with nothing empty in them have nothing empty in them. -/
theorem filled_of_mem_segmentsFrom {current : Expr} {rest : List (Link × Expr)}
    (hcurrent : current.Filled leaf name) (hrest : ∀ x ∈ rest, x.2.Filled leaf name) :
    ∀ s ∈ segmentsFrom current rest, s.Filled leaf name := by
  induction rest generalizing current with
  | nil => exact List.forall_mem_singleton.2 hcurrent
  | cons x rest ih =>
    obtain ⟨op, e⟩ := x
    obtain ⟨he, hlater⟩ := List.forall_mem_cons.1 hrest
    cases op with
    | and =>
      refine ih (Expr.filled_andAll (List.cons_ne_nil _ _) ?_) hlater
      exact List.forall_mem_cons.2 ⟨hcurrent, List.forall_mem_singleton.2 he⟩
    | or => exact List.forall_mem_cons.2 ⟨hcurrent, ih he hlater⟩
    | except => exact ih (.except hcurrent he) hlater

/-- **What a chain stands for** has nothing empty in it when its operands have not. -/
theorem Filled.toExpr {c : Chain} (h : c.Filled leaf name) : c.toExpr.Filled leaf name := by
  have hall := filled_of_mem_segmentsFrom h.first h.rest
  unfold Chain.toExpr
  split
  · next e he => exact hall e (by simp [he])
  · exact Expr.filled_orAll (segmentsFrom_ne_nil _ _) hall

theorem Filled.push {c : Chain} (h : c.Filled leaf name) (op : Link) {e : Expr}
    (he : e.Filled leaf name) : (c.push op e).Filled leaf name := by
  refine ⟨h.first, fun x hx => ?_⟩
  rcases List.mem_append.1 hx with hold | hnew
  · exact h.rest x hold
  · obtain rfl := List.mem_singleton.1 hnew
    exact he

end Chain

/-! ### Folding -/

namespace Expr

theorem foldEach_ne_nil {es : List Expr} (h : es ≠ []) : foldEach es ≠ [] := by
  cases es with
  | nil => exact absurd rfl h
  | cons e es =>
    rw [foldEach]
    exact List.cons_ne_nil _ _

mutual

/-- **The chain that a tree spells has nothing empty in it** when the tree has not. -/
theorem Filled.foldChain {e : Expr} (h : e.Filled leaf name) : e.foldChain.Filled leaf name := by
  unfold Expr.foldChain
  split
  · obtain ⟨hleft, hright⟩ := forall_mem_pair.1 h.of_and.2
    exact (Filled.foldChain hleft).push _ (Filled.foldOperand hright)
  · obtain ⟨hleft, hright⟩ := forall_mem_pair.1 h.of_or.2
    exact (Filled.foldChain hleft).push _ (Filled.foldOperand hright)
  · exact (Filled.foldChain h.of_except.1).push _ (Filled.foldOperand h.of_except.2)
  · exact ⟨Filled.foldOperand h, List.forall_mem_nil _⟩
termination_by 2 * sizeOf e + 1
decreasing_by all_goals decreasing_tactic

/-- A folded operand has nothing empty in it. -/
theorem Filled.foldOperand {e : Expr} (h : e.Filled leaf name) :
    e.foldOperand.Filled leaf name := by
  unfold Expr.foldOperand
  split
  · exact (Filled.foldChain h.of_group).toExpr
  · obtain ⟨hinner, hne, hfields⟩ := h.of_within
    exact .within (Filled.foldChain hinner).toExpr hne hfields
  · exact filled_andAll (foldEach_ne_nil h.of_and.1) (Filled.foldEach h.of_and.2)
  · exact filled_orAll (foldEach_ne_nil h.of_or.1) (Filled.foldEach h.of_or.2)
  · exact h
termination_by 2 * sizeOf e
decreasing_by all_goals decreasing_tactic

/-- Folded trees have nothing empty in them. -/
theorem Filled.foldEach {es : List Expr} (h : ∀ e ∈ es, e.Filled leaf name) :
    ∀ e ∈ Expr.foldEach es, e.Filled leaf name := by
  match es with
  | [] =>
    rw [Expr.foldEach]
    exact List.forall_mem_nil _
  | e :: es =>
    rw [Expr.foldEach]
    obtain ⟨he, hes⟩ := List.forall_mem_cons.1 h
    exact List.forall_mem_cons.2 ⟨(Filled.foldChain he).toExpr, Filled.foldEach hes⟩
termination_by 2 * sizeOf es
decreasing_by all_goals decreasing_tactic

end

/-- **Folding makes nothing empty.** -/
theorem Filled.fold {e : Expr} (h : e.Filled leaf name) : e.fold.Filled leaf name :=
  h.foldChain.toExpr

/-! ### Distribution -/

theorem filled_restrict {fields : List String} (hne : fields ≠ [])
    (hfields : ∀ f ∈ fields, name f) {e : Expr} (h : e.Filled leaf name) :
    (restrict fields e).Filled leaf name := by
  rcases e.disjuncts_cases with hone | ⟨es, rfl⟩
  · rw [restrict_eq hone]
    exact .within h hne hfields
  · have hparts := h.of_or
    rw [restrict]
    refine .or (mt List.map_eq_nil_iff.1 hparts.1) (List.forall_mem_map.2 fun d hd => ?_)
    exact .within (hparts.2 d hd) hne hfields

/-- **Distribution makes nothing empty.** -/
theorem Filled.distribute {e : Expr} (h : e.Filled leaf name) : e.distribute.Filled leaf name := by
  induction h with
  | @leaf e hleaf hkind =>
    have hsame : e.distribute = e := by
      cases e with
      | all | term | phrase | compare | vocabulary => rfl
      | and | or | except | within | group => cases hleaf
    rw [hsame]
    exact .leaf hleaf hkind
  | and hne _ ih =>
    rw [Expr.distribute, distributeEach_eq_map]
    exact filled_andAll (by simpa using hne) (by simpa using ih)
  | or hne _ ih =>
    rw [Expr.distribute, distributeEach_eq_map]
    exact filled_orAll (by simpa using hne) (by simpa using ih)
  | except _ _ ihleft ihright => exact .except ihleft ihright
  | within _ hne hfields ih => exact filled_restrict hne hfields ih
  | group _ ih => exact ih

/-- **The normal form has nothing empty in it.** -/
theorem Filled.normalize {e : Expr} (h : e.Filled leaf name) : e.normalize.Filled leaf name :=
  h.fold.distribute

end Expr

end Filling

end FederatedSearch.Query
