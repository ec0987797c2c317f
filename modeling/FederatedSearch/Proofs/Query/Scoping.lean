import FederatedSearch.Proofs.Query.Meaning
import FederatedSearch.Proofs.Query.Node

/-!
# What a query looks at

The scope in which a query is read goes down to its leaves, and only a restriction to fields puts
another one in its place. So all that two valuations have to agree on are the leaves of the query,
in the scope that it is read in and in those that its restrictions name.

* `FederatedSearch.Query.Expr.AgreesAt`: two valuations agree at a node.
* `FederatedSearch.Query.Expr.means_congr_scoped`,
  `FederatedSearch.Query.Expr.reading_congr_scoped`: **a query says the same** by two valuations
  that agree at all its nodes, as a tree and in reading order.
* `FederatedSearch.Query.Expr.means_congr`: the case of all scopes.
-/

namespace FederatedSearch.Query.Expr

/-- **Two valuations agree at a node** in some scopes. -/
structure AgreesAt (scopes : Option (List String) → Prop) (v w : Valuation) (e : Expr) : Prop where
  /-- A leaf says the same in each of the scopes. -/
  leaf : e.isLeaf = true → ∀ scope, scopes scope → v scope e = w scope e
  /-- A restriction leads to one of the scopes. -/
  within : ∀ inner fields, e = .within inner fields → scopes (some fields)

variable {scopes : Option (List String) → Prop} {v w : Valuation}

theorem means_leaf {e : Expr} (h : e.isLeaf = true) (scope : Option (List String)) :
    e.means v scope = v scope e := by
  cases e with
  | all | term | phrase | compare | vocabulary => rfl
  | and | or | except | within | group => cases h

/-! ### Trees -/

/-- **A tree means the same** by two valuations that agree at its nodes. -/
theorem means_congr_scoped {e : Expr} (h : ∀ s ∈ e.nodes, s.AgreesAt scopes v w)
    {scope : Option (List String)} (hscope : scopes scope) :
    e.means v scope = e.means w scope := by
  induction e using byParts generalizing scope with
  | leaf e he =>
    rw [nodes_leaf he] at h
    rw [means_leaf he, means_leaf he, (h e (List.mem_singleton_self e)).leaf he scope hscope]
  | and es ih =>
    rw [means_and, means_and]
    exact all_congr_parts fun e he => ih e he (forall_nodes_of_and h e he) hscope
  | or es ih =>
    rw [means_or, means_or]
    exact any_congr_parts fun e he => ih e he (forall_nodes_of_or h e he) hscope
  | except left right ihleft ihright =>
    obtain ⟨hleft, hright⟩ := forall_nodes_of_except h
    rw [means_except, means_except, ihleft hleft hscope, ihright hright hscope]
  | within inner fields ih =>
    obtain ⟨hnode, hinner⟩ := forall_nodes_of_within h
    rw [means_within, means_within, ih hinner (hnode.within inner fields rfl)]
  | group inner ih => rw [means_group, means_group, ih (forall_nodes_of_group h) hscope]

/-- **A tree means the same** when each of its leaves says the same in all scopes. -/
theorem means_congr {e : Expr} (h : ∀ scope, ∀ l ∈ e.leaves, v scope l = w scope l)
    (scope : Option (List String)) : e.means v scope = e.means w scope := by
  have hagrees : ∀ s ∈ e.nodes, s.AgreesAt (fun _ => True) v w := fun s hs =>
    ⟨fun hleaf scope _ => h scope s (mem_leaves_iff.2 ⟨hs, hleaf⟩), fun _ _ _ => trivial⟩
  exact means_congr_scoped hagrees trivial

/-! ### Chains -/

mutual

/-- **A chain says the same** by two valuations that agree at its nodes. -/
theorem reading_congr_scoped {e : Expr} (h : ∀ s ∈ e.nodes, s.AgreesAt scopes v w)
    {scope : Option (List String)} (hscope : scopes scope) :
    e.reading v scope = e.reading w scope := by
  unfold reading
  split
  · obtain ⟨hleft, hright⟩ := forall_mem_pair.1 (forall_nodes_of_and h)
    rw [reading_congr_scoped hleft hscope, operand_congr_scoped hright hscope]
  · obtain ⟨hleft, hright⟩ := forall_mem_pair.1 (forall_nodes_of_or h)
    rw [reading_congr_scoped hleft hscope, operand_congr_scoped hright hscope]
  · obtain ⟨hleft, hright⟩ := forall_nodes_of_except h
    rw [reading_congr_scoped hleft hscope, operand_congr_scoped hright hscope]
  · rw [operand_congr_scoped h hscope]
termination_by 2 * sizeOf e + 1
decreasing_by all_goals decreasing_tactic

/-- An operand says the same. -/
theorem operand_congr_scoped {e : Expr} (h : ∀ s ∈ e.nodes, s.AgreesAt scopes v w)
    {scope : Option (List String)} (hscope : scopes scope) :
    e.operand v scope = e.operand w scope := by
  unfold operand
  split
  · rw [reading_congr_scoped (forall_nodes_of_group h) hscope]
  · obtain ⟨hnode, hinner⟩ := forall_nodes_of_within h
    rw [reading_congr_scoped hinner (hnode.within _ _ rfl)]
  · rw [readingEach_congr_scoped (forall_nodes_of_and h) hscope]
  · rw [readingEach_congr_scoped (forall_nodes_of_or h) hscope]
  · exact means_congr_scoped h hscope
termination_by 2 * sizeOf e
decreasing_by all_goals decreasing_tactic

/-- Several expressions say the same. -/
theorem readingEach_congr_scoped {es : List Expr}
    (h : ∀ e ∈ es, ∀ s ∈ e.nodes, s.AgreesAt scopes v w) {scope : Option (List String)}
    (hscope : scopes scope) : readingEach v scope es = readingEach w scope es := by
  match es with
  | [] => rw [readingEach, readingEach]
  | e :: es =>
    obtain ⟨he, hes⟩ := List.forall_mem_cons.1 h
    rw [readingEach, readingEach, reading_congr_scoped he hscope,
      readingEach_congr_scoped hes hscope]
termination_by 2 * sizeOf es
decreasing_by all_goals decreasing_tactic

end

end FederatedSearch.Query.Expr
