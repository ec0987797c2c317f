import FederatedSearch.Proofs.Query.Distribution
import Mathlib.Order.MinMax

/-!
# How deep distribution goes

Where a restriction meets a disjunction, each restricted branch is distributed in turn, and these
branches are no parts of the expression: they come out of the distribution of what is restricted,
and can have more nodes together than the expression had. What does not grow is how deep they are
nested. Distribution nests nothing deeper than it was, so a branch of what it has found, restricted
again, is less deep than the restriction that it started with, and the calls come to an end.

* `FederatedSearch.Query.Expr.distributeBy?`: distribution by these calls, of which only so many may
  be open at a time.
* `FederatedSearch.Query.Expr.depth_distribute_le`: **distribution nests nothing deeper**.
* `FederatedSearch.Query.Expr.distributeBy?_eq`: as many open calls as there are levels are enough.
* `FederatedSearch.Query.Expr.distribute_terminates`: **distribution ends**, with both bounds.
-/

namespace FederatedSearch.Query.Expr

/-! ### Distribution by calls -/

/-- **Distribution by its own calls**: the branches of a restricted disjunction are restricted and
distributed again. At most `calls` calls may be open at a time, and where one more is needed there
is no result. -/
def distributeBy? : (calls : Nat) → Expr → Option Expr
  | 0, _ => none
  | calls + 1, .within inner fields => do
    match ← distributeBy? calls inner with
    | .or children =>
      return orAll (← children.mapM fun child => distributeBy? calls (.within child fields))
    | e => return .within e fields
  | calls + 1, .or children => return orAll (← children.mapM (distributeBy? calls))
  | calls + 1, .and children => return andAll (← children.mapM (distributeBy? calls))
  | calls + 1, .except left right =>
    return .except (← distributeBy? calls left) (← distributeBy? calls right)
  | calls + 1, .group inner => distributeBy? calls inner
  | _ + 1, e => some e

/-! ### Depth -/

theorem depthAll_le_iff {es : List Expr} {n : Nat} :
    depthAll es ≤ n ↔ ∀ e ∈ es, e.depth ≤ n := by
  induction es with
  | nil => simp [depthAll]
  | cons e es ih => rw [depthAll, max_le_iff, ih, List.forall_mem_cons]

/-- No expression is nested deeper than the deepest. -/
theorem depth_le_depthAll {es : List Expr} {e : Expr} (he : e ∈ es) : e.depth ≤ depthAll es :=
  depthAll_le_iff.1 (Nat.le_refl _) e he

theorem depth_le_of_mem_conjuncts {e c : Expr} (hc : c ∈ e.conjuncts) : c.depth ≤ e.depth := by
  rcases e.conjuncts_cases with hone | ⟨es, rfl⟩
  · rw [hone, List.mem_singleton] at hc
    exact hc ▸ Nat.le_refl _
  · exact Nat.le_succ_of_le (depth_le_depthAll hc)

theorem depth_le_of_mem_disjuncts {e d : Expr} (hd : d ∈ e.disjuncts) : d.depth ≤ e.depth := by
  rcases e.disjuncts_cases with hone | ⟨es, rfl⟩
  · rw [hone, List.mem_singleton] at hd
    exact hd ▸ Nat.le_refl _
  · exact Nat.le_succ_of_le (depth_le_depthAll hd)

/-- **Merging adds one level at most** to the deepest part. -/
theorem Merges.depth_le {pieces : Expr → List Expr} {build : List Expr → Expr}
    {parts : List Expr} {e : Expr} (h : Merges pieces build parts e)
    (hpieces : ∀ x, ∀ c ∈ pieces x, c.depth ≤ x.depth)
    (hbuild : ∀ es, (build es).depth = depthAll es + 1) : e.depth ≤ depthAll parts + 1 := by
  have hparts : ∀ x ∈ parts, ∀ c ∈ pieces x, c.depth ≤ depthAll parts := by
    intro x hx c hc
    exact (hpieces x c hc).trans (depth_le_depthAll hx)
  have hone : ∀ c : Expr, c.depth ≤ depthAll parts → c.depth ≤ depthAll parts + 1 :=
    fun _ => Nat.le_succ_of_le
  have hmany : (∀ c ∈ parts.flatMap pieces, c.depth ≤ depthAll parts) →
      (build (parts.flatMap pieces)).depth ≤ depthAll parts + 1 := by
    intro hcs
    rw [hbuild]
    exact Nat.succ_le_succ (depthAll_le_iff.2 hcs)
  exact h.of_pieces hparts hone fun _ => hmany

theorem depth_andAll_le (parts : List Expr) : (andAll parts).depth ≤ depthAll parts + 1 :=
  (merges_andAll parts).depth_le (fun _ _ => depth_le_of_mem_conjuncts) fun _ => rfl

theorem depth_orAll_le (parts : List Expr) : (orAll parts).depth ≤ depthAll parts + 1 :=
  (merges_orAll parts).depth_le (fun _ _ => depth_le_of_mem_disjuncts) fun _ => rfl

/-- A restriction adds one level at most, also where it is pushed into a disjunction. -/
theorem depth_restrict_le (fields : List String) (e : Expr) :
    (restrict fields e).depth ≤ e.depth + 1 := by
  rcases e.disjuncts_cases with hone | ⟨es, rfl⟩
  · rw [restrict_eq hone]
    exact Nat.le_refl _
  · have hes : depthAll (es.map (.within · fields)) ≤ depthAll es + 1 := by
      rw [depthAll_le_iff, List.forall_mem_map]
      exact fun e he => Nat.succ_le_succ (depth_le_depthAll he)
    exact Nat.succ_le_succ hes

mutual

/-- **Distribution nests nothing deeper.** -/
theorem depth_distribute_le : ∀ e : Expr, e.distribute.depth ≤ e.depth
  | .all | .term _ | .phrase _ | .compare _ _ _ | .vocabulary _ _ => Nat.le_refl _
  | .and children =>
    (depth_andAll_le _).trans (Nat.succ_le_succ (depthAll_distributeEach_le children))
  | .or children =>
    (depth_orAll_le _).trans (Nat.succ_le_succ (depthAll_distributeEach_le children))
  | .except left right =>
    Nat.succ_le_succ (max_le_max (depth_distribute_le left) (depth_distribute_le right))
  | .within inner fields =>
    (depth_restrict_le fields _).trans (Nat.succ_le_succ (depth_distribute_le inner))
  | .group inner => Nat.le_succ_of_le (depth_distribute_le inner)

/-- Distribution nests none of several expressions deeper. -/
theorem depthAll_distributeEach_le : ∀ es : List Expr, depthAll (distributeEach es) ≤ depthAll es
  | [] => Nat.le_refl _
  | e :: es => max_le_max (depth_distribute_le e) (depthAll_distributeEach_le es)

end

/-- **A branch of what distribution has found is less deep**, restricted again, than the restriction
that it was found for. -/
theorem depth_restricted_branch_lt {inner child : Expr} {children : List Expr}
    (h : inner.distribute = .or children) (hchild : child ∈ children) (fields : List String) :
    (within child fields).depth < (within inner fields).depth := by
  have hor : depthAll children + 1 ≤ inner.depth := by
    have hle := depth_distribute_le inner
    rwa [h] at hle
  have hle := depth_le_depthAll hchild
  simp only [depth]
  omega

/-! ### Calls -/

/-- Results that are there for all items are there together. -/
theorem mapM_eq_some_map {α β : Type} {f : α → Option β} {g : α → β} {as : List α}
    (h : ∀ a ∈ as, f a = some (g a)) : as.mapM f = some (as.map g) := by
  induction as with
  | nil => rfl
  | cons a as ih =>
    obtain ⟨ha, has⟩ := List.forall_mem_cons.1 h
    rw [List.mapM_cons, ha, ih has]
    rfl

/-- **As many open calls as an expression has levels are enough**: each call is for an expression
that is less deep than the one that it is made for. -/
theorem distributeBy?_eq {calls : Nat} {e : Expr} (h : e.depth < calls) :
    distributeBy? calls e = some e.distribute := by
  induction calls generalizing e with
  | zero => exact absurd h (Nat.not_lt_zero _)
  | succ calls ih =>
    have hchildren : ∀ es, depthAll es < calls →
        es.mapM (distributeBy? calls) = some (distributeEach es) := by
      intro es hes
      rw [distributeEach_eq_map]
      exact mapM_eq_some_map fun e he => ih (Nat.lt_of_le_of_lt (depth_le_depthAll he) hes)
    cases e with
    | all | term | phrase | compare | vocabulary => rfl
    | and children =>
      rw [distributeBy?, hchildren children (Nat.lt_of_succ_lt_succ h)]
      rfl
    | or children =>
      rw [distributeBy?, hchildren children (Nat.lt_of_succ_lt_succ h)]
      rfl
    | except left right =>
      obtain ⟨hleft, hright⟩ := max_lt_iff.1 (Nat.lt_of_succ_lt_succ h)
      rw [distributeBy?, ih hleft, ih hright]
      rfl
    | group inner => exact ih (Nat.lt_of_succ_lt_succ h)
    | within inner fields =>
      rw [distributeBy?, ih (Nat.lt_of_succ_lt_succ h), distribute_within]
      cases hinner : inner.distribute with
      | or children =>
        -- the calls for the branches are no deeper than the one for what is restricted
        have hbranches := mapM_eq_some_map (g := fun child => (within child fields).distribute)
          fun child hchild => ih (Nat.lt_of_lt_of_le
            (depth_restricted_branch_lt hinner hchild fields) (Nat.le_of_lt_succ h))
        simp only [Option.bind_eq_bind, Option.bind_some, hbranches]
        rfl
      | _ => rfl

/-- **Distribution ends on every expression**, with no more calls open at a time than the expression
has levels, and nests nothing deeper than it was. -/
theorem distribute_terminates (e : Expr) :
    (∀ spare, distributeBy? (e.depth + 1 + spare) e = some e.distribute) ∧
      e.distribute.depth ≤ e.depth := by
  refine ⟨fun spare => ?_, depth_distribute_le e⟩
  exact distributeBy?_eq (by omega)

/-- A restricted disjunction of words has three levels, and two open calls are not enough for it. -/
example :
    distributeBy? 3 (.within (.or [.term "boat", .term "sea"]) ["Title"]) =
        some (.or [.within (.term "boat") ["Title"], .within (.term "sea") ["Title"]]) ∧
      distributeBy? 2 (.within (.or [.term "boat", .term "sea"]) ["Title"]) = none :=
  ⟨rfl, rfl⟩

end FederatedSearch.Query.Expr
