import FederatedSearch.Proofs.Query.Derivation
import FederatedSearch.Proofs.Query.Filled
import FederatedSearch.Proofs.Query.Targets

/-!
# The shape of a compiled query

Whatever a query says, the tree that it compiles to has one shape, and whoever walks over the tree
later relies on it. No node is a pair of parentheses. A conjunction has two parts or more and no
conjunction among them, a disjunction likewise, and a restriction names a field and restricts no
disjunction.

That no part is missing comes from reading, which makes no empty tree, and is kept by both passes.
That nothing is nested in its like comes from distribution, whatever the tree before.

* `FederatedSearch.Query.Expr.Tidy`: **the shape of a node**.
* `FederatedSearch.Query.compile_tidy`: every node of a compiled tree has it.
-/

namespace FederatedSearch.Query

namespace Expr

/-! ### Tidy nodes -/

/-- **A tidy node**: no parentheses, no part alone or missing, nothing nested in its like. -/
def Tidy : Expr → Prop
  | .and es => 2 ≤ es.length ∧ ∀ ds, .and ds ∉ es
  | .or es => 2 ≤ es.length ∧ ∀ ds, .or ds ∉ es
  | .within inner fields => fields ≠ [] ∧ ∀ ds, inner ≠ .or ds
  | .group _ => False
  | _ => True

/-- A conjunction is not its own only part. -/
theorem conjuncts_and_ne (es : List Expr) : (and es).conjuncts ≠ [and es] := by
  intro h
  have hsize := congrArg sizeOf (show es = [and es] from h)
  simp only [List.cons.sizeOf_spec, List.nil.sizeOf_spec, and.sizeOf_spec] at hsize
  omega

/-- A disjunction is not its own only part. -/
theorem disjuncts_or_ne (es : List Expr) : (or es).disjuncts ≠ [or es] := by
  intro h
  have hsize := congrArg sizeOf (show es = [or es] from h)
  simp only [List.cons.sizeOf_spec, List.nil.sizeOf_spec, or.sizeOf_spec] at hsize
  omega

/-- **A distributed tree with nothing empty in it has tidy nodes only.** -/
theorem Filled.tidy_of_isDistributed {leaf : Expr → Prop} {name : String → Prop} {e : Expr}
    (h : e.Filled leaf name) (hdistributed : e.IsDistributed) : ∀ s ∈ e.nodes, s.Tidy := by
  induction h with
  | @leaf e hleaf _ =>
    rw [nodes_leaf hleaf]
    refine List.forall_mem_singleton.2 ?_
    cases e with
    | all | term | phrase | compare | vocabulary => trivial
    | and | or | except | within | group => cases hleaf
  | @and es hne _ ih =>
    cases hdistributed with
    | and hlen hes hflat =>
      have hpos := List.length_pos_of_ne_nil hne
      have hroot : 2 ≤ es.length ∧ ∀ ds, .and ds ∉ es :=
        ⟨by omega, fun ds hds => conjuncts_and_ne ds (hflat _ hds)⟩
      rw [nodes_and, List.forall_mem_cons, List.forall_mem_flatMap]
      exact ⟨hroot, fun e he => ih e he (hes e he)⟩
  | @or es hne _ ih =>
    cases hdistributed with
    | or hlen hes hflat =>
      have hpos := List.length_pos_of_ne_nil hne
      have hroot : 2 ≤ es.length ∧ ∀ ds, .or ds ∉ es :=
        ⟨by omega, fun ds hds => disjuncts_or_ne ds (hflat _ hds)⟩
      rw [nodes_or, List.forall_mem_cons, List.forall_mem_flatMap]
      exact ⟨hroot, fun e he => ih e he (hes e he)⟩
  | except _ _ ihleft ihright =>
    cases hdistributed with
    | except hleft hright =>
      rw [nodes_except, List.forall_mem_cons, List.forall_mem_append]
      exact ⟨trivial, ihleft hleft, ihright hright⟩
  | @within inner fields _ hne _ ih =>
    cases hdistributed with
    | within _ hinner hone =>
      have hroot : fields ≠ [] ∧ ∀ ds, inner ≠ .or ds := by
        refine ⟨hne, ?_⟩
        rintro ds rfl
        exact disjuncts_or_ne ds hone
      rw [nodes_within, List.forall_mem_cons]
      exact ⟨hroot, ih hinner⟩
  | group => cases hdistributed

/-- **The expression of a chain has nothing empty in it.** -/
theorem Chained.filled {e : Expr} (h : e.Chained) :
    e.Filled (fun _ => True) (fun _ => True) := by
  induction h with
  | all | term | phrase | compare | vocabulary => exact .leaf rfl trivial
  | and _ _ ihleft ihright => exact ihleft.combine ihright .and
  | or _ _ ihleft ihright => exact ihleft.combine ihright .or
  | except _ _ ihleft ihright => exact .except ihleft ihright
  | within _ hne ih => exact .within ih hne fun _ _ => trivial
  | group _ ih => exact .group ih

end Expr

/-! ### Compiled queries -/

/-- **Every node of a compiled tree is tidy**, whatever the query. -/
theorem compile_tidy {source : String} {q : CompiledQuery} (h : compile source = .ok q) :
    ∀ e ∈ q.tree.nodes, e.Tidy := by
  obtain ⟨e, he, rfl⟩ := compile_eq_ok_iff.1 h
  obtain ⟨ts, -, hreads⟩ := parse_eq_ok_iff.1 he
  obtain ⟨g, rfl, -⟩ := hreads.written
  exact g.chained_toExpr.filled.normalize.tidy_of_isDistributed
    (Expr.isDistributed_distribute _)

/-- Groups in groups, a restricted and an excluded group, and a value in quotes. -/
theorem compile_tidy_of_nested_groups :
    ∃ q, compile "((a AND (b AND c)) OR (d OR *:\"e f\")) IN (Title OR Caption) EXCEPT ((g))" =
        .ok q ∧
      q.tree.toText = "(((a AND b AND c) IN (Title OR Caption)) OR (d IN (Title OR Caption)) OR " ++
        "(*:e f IN (Title OR Caption))) EXCEPT g" ∧
      ∀ e ∈ q.tree.nodes, e.Tidy := by
  have hcompile :
      (compile "((a AND (b AND c)) OR (d OR *:\"e f\")) IN (Title OR Caption) EXCEPT ((g))"
        ).toOption.map (·.tree.toText) =
      some ("(((a AND b AND c) IN (Title OR Caption)) OR (d IN (Title OR Caption)) OR " ++
        "(*:e f IN (Title OR Caption))) EXCEPT g") := by
    decide +kernel
  obtain ⟨q, hq, htext⟩ := Option.map_eq_some_iff.1 hcompile
  have hsource := toOption_eq_some_iff.1 hq
  exact ⟨q, hsource, htext, compile_tidy hsource⟩

end FederatedSearch.Query
