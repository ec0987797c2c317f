import FederatedSearch.Proofs.Query.Scoping

/-!
# What follows when leaves say more

The meaning of a tree is made from what its leaves say, and only an exclusion turns a yes into a no:
what it excludes. So when the leaves come to say yes more often, a tree does too, as long as the
leaves of what it excludes keep saying the same.

* `FederatedSearch.Query.Expr.means_mono`: **a tree says yes more often** when its leaves do.
-/

namespace FederatedSearch.Query.Expr

variable {v w : Valuation}

/-- **A tree says yes more often** when its leaves do, and the leaves of what it excludes say the
same. -/
theorem means_mono {e : Expr}
    (hleaves : ∀ scope, ∀ l ∈ e.leaves, v scope l = true → w scope l = true)
    (hexcluded : ∀ left right, .except left right ∈ e.nodes →
      ∀ scope, ∀ l ∈ right.leaves, v scope l = w scope l)
    (scope : Option (List String)) (h : e.means v scope = true) : e.means w scope = true := by
  induction e using byParts generalizing scope with
  | leaf e he =>
    rw [leaves_leaf he] at hleaves
    rw [means_leaf he] at h ⊢
    exact hleaves scope e (List.mem_singleton_self e) h
  | and es ih =>
    rw [leaves_and] at hleaves
    rw [nodes_and] at hexcluded
    rw [means_and, List.all_eq_true] at h ⊢
    refine fun e he => ih e he (fun scope l hl => ?_) (fun left right hmem => ?_) scope (h e he)
    · exact hleaves scope l (List.mem_flatMap_of_mem he hl)
    · exact hexcluded left right (List.mem_cons_of_mem _ (List.mem_flatMap_of_mem he hmem))
  | or es ih =>
    rw [leaves_or] at hleaves
    rw [nodes_or] at hexcluded
    rw [means_or, List.any_eq_true] at h ⊢
    obtain ⟨e, he, hmeans⟩ := h
    refine ⟨e, he, ih e he (fun scope l hl => ?_) (fun left right hmem => ?_) scope hmeans⟩
    · exact hleaves scope l (List.mem_flatMap_of_mem he hl)
    · exact hexcluded left right (List.mem_cons_of_mem _ (List.mem_flatMap_of_mem he hmem))
  | except left right ihleft _ =>
    rw [leaves_except] at hleaves
    rw [nodes_except] at hexcluded
    rw [means_except, Bool.and_eq_true] at h ⊢
    have hsame := means_congr (hexcluded left right List.mem_cons_self) scope
    refine ⟨ihleft (fun scope l hl => ?_) (fun left right hmem => ?_) scope h.1, hsame ▸ h.2⟩
    · exact hleaves scope l (List.mem_append_left _ hl)
    · exact hexcluded left right (List.mem_cons_of_mem _ (List.mem_append_left _ hmem))
  | within inner fields ih =>
    rw [leaves_within] at hleaves
    rw [nodes_within] at hexcluded
    rw [means_within] at h ⊢
    exact ih hleaves (fun left right hmem => hexcluded left right (List.mem_cons_of_mem _ hmem))
      (some fields) h
  | group inner ih =>
    rw [leaves_group] at hleaves
    rw [nodes_group] at hexcluded
    rw [means_group] at h ⊢
    exact ih hleaves (fun left right hmem => hexcluded left right (List.mem_cons_of_mem _ hmem))
      scope h

end FederatedSearch.Query.Expr
