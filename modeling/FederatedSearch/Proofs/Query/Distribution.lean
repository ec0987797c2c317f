import FederatedSearch.Query.Normal
import Mathlib.Data.List.Basic

/-!
# Distributed trees

Distribution takes any tree: conjunctions and disjunctions with one part or none, restrictions in
restrictions, parentheses anywhere. What it makes of a tree has no parentheses left, no conjunction
among the parts of a conjunction and no disjunction among those of a disjunction, no restricted
disjunction, and no part that is alone. Such a tree it leaves as it is. So distributing twice is
distributing once, and the trees that distribution does not change are exactly those it can make.

A restriction that meets a disjunction is pushed into it, and the restricted parts need not be
distributed again, since each of them is distributed already.

* `FederatedSearch.Query.Expr.Merges`: what merging makes of the pieces of several parts.
* `FederatedSearch.Query.Expr.IsDistributed`: **the distributed trees**.
* `FederatedSearch.Query.Expr.isDistributed_distribute`: distribution makes one of any tree.
* `FederatedSearch.Query.Expr.distribute_eq_self_iff`: they are the trees it does not change.
* `FederatedSearch.Query.Expr.distribute_within`: what becomes of a restriction.
-/

namespace FederatedSearch.Query.Expr

/-! ### Merging -/

/-- **What merging makes of some parts**, each of which has pieces: the only piece of them all, or a
tree built of all pieces. -/
inductive Merges (pieces : Expr → List Expr) (build : List Expr → Expr) (parts : List Expr) :
    Expr → Prop
  /-- The parts have one piece. -/
  | one {e : Expr} : parts.flatMap pieces = [e] → Merges pieces build parts e
  /-- The parts do not have just one piece. -/
  | many : (∀ e, parts.flatMap pieces ≠ [e]) →
    Merges pieces build parts (build (parts.flatMap pieces))

/-- A conjunction merges the conjuncts of its parts. -/
theorem merges_andAll (parts : List Expr) : Merges conjuncts .and parts (andAll parts) := by
  unfold andAll
  split
  · next h => exact .one h
  · next h => exact .many h

/-- A disjunction merges the disjuncts of its parts. -/
theorem merges_orAll (parts : List Expr) : Merges disjuncts .or parts (orAll parts) := by
  unfold orAll
  split
  · next h => exact .one h
  · next h => exact .many h

section Merging

variable {pieces : Expr → List Expr} {build : List Expr → Expr} {parts : List Expr} {e : Expr}

/-- **What holds of all pieces is kept by merging**: it is enough that the only piece has the
property that is shown, and that a tree built of the pieces has it when there is not just one. -/
theorem Merges.of_pieces {P Q : Expr → Prop} (h : Merges pieces build parts e)
    (hparts : ∀ x ∈ parts, ∀ c ∈ pieces x, P c) (hone : ∀ c, P c → Q c)
    (hmany : (parts.flatMap pieces).length ≠ 1 → (∀ c ∈ parts.flatMap pieces, P c) →
      Q (build (parts.flatMap pieces))) : Q e := by
  have hall : ∀ c ∈ parts.flatMap pieces, P c := fun c hc => by
    obtain ⟨x, hx, hmem⟩ := List.mem_flatMap.1 hc
    exact hparts x hx c hmem
  rcases h with hsingle | hseveral
  · exact hone e (hall e (by simp [hsingle]))
  · refine hmany (fun hlen => ?_) hall
    obtain ⟨c, hc⟩ := List.length_eq_one_iff.1 hlen
    exact hseveral c hc

/-- Where each part has a piece, there are several pieces when there is not just one. -/
theorem two_le_length_flatMap (hne : parts ≠ []) (hparts : ∀ x ∈ parts, pieces x ≠ [])
    (hlen : (parts.flatMap pieces).length ≠ 1) : 2 ≤ (parts.flatMap pieces).length := by
  have hsome : parts.flatMap pieces ≠ [] := fun hnil => by
    obtain ⟨x, hx⟩ := List.exists_mem_of_ne_nil _ hne
    exact hparts x hx (List.flatMap_eq_nil_iff.1 hnil x hx)
  have hpos := List.length_pos_of_ne_nil hsome
  omega

/-- Pieces are built together unless there is just one. -/
theorem Merges.eq_of_length_ne_one (h : Merges pieces build parts e)
    (hlen : (parts.flatMap pieces).length ≠ 1) : e = build (parts.flatMap pieces) := by
  rcases h with hsingle | -
  · rw [hsingle] at hlen
    exact absurd List.length_singleton hlen
  · rfl

/-- Parts that are their own only pieces stay as they are. -/
theorem Merges.eq_build (h : Merges pieces build parts e) (hlen : parts.length ≠ 1)
    (hparts : ∀ x ∈ parts, pieces x = [x]) : e = build parts := by
  have hflat : parts.flatMap pieces = parts := by
    rw [List.flatMap_congr hparts, List.flatMap_singleton']
  rw [h.eq_of_length_ne_one (hflat.symm ▸ hlen), hflat]

end Merging

theorem conjuncts_cases (e : Expr) : e.conjuncts = [e] ∨ ∃ es, e = .and es := by
  cases e with
  | and es => exact .inr ⟨es, rfl⟩
  | _ => exact .inl rfl

theorem disjuncts_cases (e : Expr) : e.disjuncts = [e] ∨ ∃ es, e = .or es := by
  cases e with
  | or es => exact .inr ⟨es, rfl⟩
  | _ => exact .inl rfl

/-! ### Distribution -/

theorem distributeEach_eq_map (es : List Expr) : distributeEach es = es.map distribute := by
  induction es with
  | nil => rfl
  | cons e es ih => rw [distributeEach, ih, List.map_cons]

/-- A restriction stays in one piece before anything but a disjunction. -/
theorem restrict_eq {e : Expr} (h : e.disjuncts = [e]) (fields : List String) :
    restrict fields e = .within e fields := by
  cases e with
  | or es =>
    -- no disjunction is its own only part
    have hsize := congrArg sizeOf (show es = [.or es] from h)
    simp only [List.cons.sizeOf_spec, List.nil.sizeOf_spec, or.sizeOf_spec] at hsize
    omega
  | _ => rfl

/-! ### Distributed trees -/

/-- **A distributed tree.** -/
inductive IsDistributed : Expr → Prop
  /-- Every record. -/
  | all : IsDistributed .all
  /-- A word. -/
  | term (word : String) : IsDistributed (.term word)
  /-- A phrase. -/
  | phrase (text : String) : IsDistributed (.phrase text)
  /-- A comparison. -/
  | compare (field : String) (op : Comparison) (value : String) :
    IsDistributed (.compare field op value)
  /-- A word of the vocabulary. -/
  | vocabulary (field : Option String) (word : String) : IsDistributed (.vocabulary field word)
  /-- No part or several, none of them a conjunction. -/
  | and {es : List Expr} : es.length ≠ 1 → (∀ e ∈ es, IsDistributed e) →
    (∀ e ∈ es, e.conjuncts = [e]) → IsDistributed (.and es)
  /-- No part or several, none of them a disjunction. -/
  | or {es : List Expr} : es.length ≠ 1 → (∀ e ∈ es, IsDistributed e) →
    (∀ e ∈ es, e.disjuncts = [e]) → IsDistributed (.or es)
  /-- An exclusion. -/
  | except {left right : Expr} : IsDistributed left → IsDistributed right →
    IsDistributed (.except left right)
  /-- A restriction of no disjunction. -/
  | within {inner : Expr} (fields : List String) : IsDistributed inner →
    inner.disjuncts = [inner] → IsDistributed (.within inner fields)

theorem IsDistributed.of_conjuncts {e : Expr} (h : e.IsDistributed) :
    ∀ c ∈ e.conjuncts, c.IsDistributed ∧ c.conjuncts = [c] := by
  rcases e.conjuncts_cases with hone | ⟨es, rfl⟩
  · rw [hone]
    exact List.forall_mem_singleton.2 ⟨h, hone⟩
  · cases h with
    | and _ hes hflat => exact fun c hc => ⟨hes c hc, hflat c hc⟩

theorem IsDistributed.of_disjuncts {e : Expr} (h : e.IsDistributed) :
    ∀ d ∈ e.disjuncts, d.IsDistributed ∧ d.disjuncts = [d] := by
  rcases e.disjuncts_cases with hone | ⟨es, rfl⟩
  · rw [hone]
    exact List.forall_mem_singleton.2 ⟨h, hone⟩
  · cases h with
    | or _ hes hflat => exact fun d hd => ⟨hes d hd, hflat d hd⟩

/-- **A conjunction of distributed trees is distributed**, once conjunctions among them are merged
into it. -/
theorem isDistributed_andAll {parts : List Expr} (h : ∀ e ∈ parts, e.IsDistributed) :
    (andAll parts).IsDistributed :=
  (merges_andAll parts).of_pieces (fun e he => (h e he).of_conjuncts) (fun _ hc => hc.1)
    fun hlen hcs => .and hlen (fun c hc => (hcs c hc).1) fun c hc => (hcs c hc).2

/-- **A disjunction of distributed trees is distributed**, once disjunctions among them are merged
into it. -/
theorem isDistributed_orAll {parts : List Expr} (h : ∀ e ∈ parts, e.IsDistributed) :
    (orAll parts).IsDistributed :=
  (merges_orAll parts).of_pieces (fun e he => (h e he).of_disjuncts) (fun _ hd => hd.1)
    fun hlen hds => .or hlen (fun d hd => (hds d hd).1) fun d hd => (hds d hd).2

/-- **A restriction of a distributed tree is distributed**, once it is pushed into a disjunction. -/
theorem isDistributed_restrict (fields : List String) {e : Expr} (h : e.IsDistributed) :
    (restrict fields e).IsDistributed := by
  rcases e.disjuncts_cases with hone | ⟨es, rfl⟩
  · rw [restrict_eq hone]
    exact .within fields h hone
  · cases h with
    | or hlen hes hflat =>
      rw [restrict]
      refine .or (by simpa using hlen) (List.forall_mem_map.2 fun d hd => ?_)
        (List.forall_mem_map.2 fun _ _ => rfl)
      exact .within fields (hes d hd) (hflat d hd)

mutual

/-- **Distribution makes a distributed tree of any tree.** -/
theorem isDistributed_distribute : ∀ e : Expr, e.distribute.IsDistributed
  | .all => .all
  | .term word => .term word
  | .phrase text => .phrase text
  | .compare field op value => .compare field op value
  | .vocabulary field word => .vocabulary field word
  | .and children => isDistributed_andAll (isDistributed_distributeEach children)
  | .or children => isDistributed_orAll (isDistributed_distributeEach children)
  | .except left right =>
    .except (isDistributed_distribute left) (isDistributed_distribute right)
  | .within inner fields => isDistributed_restrict fields (isDistributed_distribute inner)
  | .group inner => isDistributed_distribute inner

/-- Distribution makes distributed trees of several trees. -/
theorem isDistributed_distributeEach : ∀ es : List Expr, ∀ e ∈ distributeEach es, e.IsDistributed
  | [] => List.forall_mem_nil _
  | e :: es => List.forall_mem_cons.2
    ⟨isDistributed_distribute e, isDistributed_distributeEach es⟩

end

/-- **Distribution does nothing to a distributed tree.** -/
theorem IsDistributed.distribute_eq {e : Expr} (h : e.IsDistributed) : e.distribute = e := by
  induction h with
  | all | term | phrase | compare | vocabulary => rfl
  | and hlen _ hflat ih =>
    rw [distribute, distributeEach_eq_map, List.map_congr_left ih, List.map_id',
      ← (merges_andAll _).eq_build hlen hflat]
  | or hlen _ hflat ih =>
    rw [distribute, distributeEach_eq_map, List.map_congr_left ih, List.map_id',
      ← (merges_orAll _).eq_build hlen hflat]
  | except _ _ ihleft ihright => rw [distribute, ihleft, ihright]
  | within _ _ hone ih => rw [distribute, ih, restrict_eq hone]

/-- **The trees that distribution does not change** are the distributed ones. -/
theorem distribute_eq_self_iff {e : Expr} : e.distribute = e ↔ e.IsDistributed := by
  constructor
  · intro h
    rw [← h]
    exact isDistributed_distribute e
  · exact IsDistributed.distribute_eq

/-- Distributing twice is distributing once. -/
theorem distribute_distribute (e : Expr) : e.distribute.distribute = e.distribute :=
  distribute_eq_self_iff.2 (isDistributed_distribute e)

/-- **What becomes of a restriction.** Where a disjunction is restricted, each restricted part is
distributed in turn and the results are merged; anything else is restricted as it stands. -/
theorem distribute_within (inner : Expr) (fields : List String) :
    (within inner fields).distribute =
      match inner.distribute with
      | .or children => orAll (children.map fun child => (within child fields).distribute)
      | e => .within e fields := by
  rw [distribute]
  cases h : inner.distribute with
  | or children =>
    have hinner := isDistributed_distribute inner
    rw [h] at hinner
    cases hinner with
    | or hlen hchildren hflat =>
      -- each restricted part is distributed already
      have hparts : children.map (fun child => (within child fields).distribute) =
          children.map (within · fields) := List.map_congr_left fun child hchild =>
        (IsDistributed.within fields (hchildren child hchild) (hflat child hchild)).distribute_eq
      simp only [restrict, hparts]
      exact ((merges_orAll _).eq_build (by simpa using hlen)
        (List.forall_mem_map.2 fun _ _ => rfl)).symm
  | _ => rfl

end FederatedSearch.Query.Expr
