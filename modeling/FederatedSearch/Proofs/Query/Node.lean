import FederatedSearch.Query.Expr

/-!
# The nodes of a tree

What is said of every part of a tree, however deep, is said of its nodes. The induction principle
here has one case for the leaves together and one for each kind of inner node, so that a statement
about trees is proved without one about lists of them.

* `FederatedSearch.Query.Expr.isLeaf`: the trees without parts.
* `FederatedSearch.Query.Expr.byParts`: **induction over a tree**, part by part.
* `FederatedSearch.Query.Expr.nodes`: **all nodes of a tree**.
* `FederatedSearch.Query.Expr.forall_nodes_of_and` and the lemmas beside it: what holds of all nodes
  holds of those of the parts.
* `FederatedSearch.Query.Expr.leaves_and` and the lemmas beside it: the leaves of each kind of node.
* `FederatedSearch.Query.Expr.leaves_eq_filter`: the leaves are nodes.
-/

namespace FederatedSearch.Query.Expr

/-- The expression has no parts. -/
def isLeaf : Expr → Bool
  | .and _ | .or _ | .except _ _ | .within _ _ | .group _ => false
  | _ => true

/-- **Induction over a tree**: what holds of the leaves, and of a tree when it holds of its parts,
holds of every tree. -/
@[elab_as_elim]
theorem byParts {P : Expr → Prop} (leaf : ∀ e, e.isLeaf = true → P e)
    (and : ∀ es, (∀ e ∈ es, P e) → P (.and es)) (or : ∀ es, (∀ e ∈ es, P e) → P (.or es))
    (except : ∀ left right, P left → P right → P (.except left right))
    (within : ∀ inner fields, P inner → P (.within inner fields))
    (group : ∀ inner, P inner → P (.group inner)) (e : Expr) : P e :=
  match e with
  | .all | .term _ | .phrase _ | .compare _ _ _ | .vocabulary _ _ => leaf _ rfl
  | .and es => and es fun e he =>
    have := List.sizeOf_lt_of_mem he
    byParts leaf and or except within group e
  | .or es => or es fun e he =>
    have := List.sizeOf_lt_of_mem he
    byParts leaf and or except within group e
  | .except left right => except left right (byParts leaf and or except within group left)
    (byParts leaf and or except within group right)
  | .within inner fields => within inner fields (byParts leaf and or except within group inner)
  | .group inner => group inner (byParts leaf and or except within group inner)
termination_by sizeOf e

/-- All parts pass a test when they pass another one that says the same of each. -/
theorem all_congr_parts {p q : Expr → Bool} {es : List Expr} (h : ∀ e ∈ es, p e = q e) :
    es.all p = es.all q := by
  rw [Bool.eq_iff_iff, List.all_eq_true, List.all_eq_true]
  exact forall₂_congr fun e he => by rw [h e he]

/-- Some part passes a test when one passes another test that says the same of each. -/
theorem any_congr_parts {p q : Expr → Bool} {es : List Expr} (h : ∀ e ∈ es, p e = q e) :
    es.any p = es.any q := by
  rw [Bool.eq_iff_iff, List.any_eq_true, List.any_eq_true]
  exact exists_congr fun e => and_congr_right fun he => by rw [h e he]

/-- The two operands of an operator. -/
theorem forall_mem_pair {p : Expr → Prop} {left right : Expr} :
    (∀ e ∈ [left, right], p e) ↔ p left ∧ p right := by
  simp

/-! ### Nodes -/

mutual

/-- **The nodes of a tree**: the tree itself and the nodes of its parts. -/
def nodes : Expr → List Expr
  | .and children => .and children :: nodesAll children
  | .or children => .or children :: nodesAll children
  | .except left right => .except left right :: (left.nodes ++ right.nodes)
  | .within inner fields => .within inner fields :: inner.nodes
  | .group inner => .group inner :: inner.nodes
  | leaf => [leaf]

/-- The nodes of several trees. -/
def nodesAll : List Expr → List Expr
  | [] => []
  | e :: es => e.nodes ++ nodesAll es

end

theorem nodesAll_eq_flatMap (es : List Expr) : nodesAll es = es.flatMap nodes := by
  induction es with
  | nil => rfl
  | cons e es ih => rw [nodesAll, ih, List.flatMap_cons]

theorem nodes_leaf {e : Expr} (h : e.isLeaf = true) : e.nodes = [e] := by
  cases e with
  | all | term | phrase | compare | vocabulary => rfl
  | and | or | except | within | group => cases h

@[simp] theorem nodes_and (es : List Expr) : (and es).nodes = and es :: es.flatMap nodes :=
  congrArg (and es :: ·) (nodesAll_eq_flatMap es)

@[simp] theorem nodes_or (es : List Expr) : (or es).nodes = or es :: es.flatMap nodes :=
  congrArg (or es :: ·) (nodesAll_eq_flatMap es)

@[simp] theorem nodes_except (left right : Expr) :
    (except left right).nodes = except left right :: (left.nodes ++ right.nodes) := rfl

@[simp] theorem nodes_within (inner : Expr) (fields : List String) :
    (within inner fields).nodes = within inner fields :: inner.nodes := rfl

@[simp] theorem nodes_group (inner : Expr) :
    (group inner).nodes = group inner :: inner.nodes := rfl

section Parts

variable {P : Expr → Prop}

/-- What holds of the nodes of a conjunction holds of the nodes of its parts. -/
theorem forall_nodes_of_and {es : List Expr} (h : ∀ s ∈ (and es).nodes, P s) :
    ∀ e ∈ es, ∀ s ∈ e.nodes, P s := fun e he s hs => by
  rw [nodes_and] at h
  exact h s (List.mem_cons_of_mem _ (List.mem_flatMap_of_mem he hs))

theorem forall_nodes_of_or {es : List Expr} (h : ∀ s ∈ (or es).nodes, P s) :
    ∀ e ∈ es, ∀ s ∈ e.nodes, P s := fun e he s hs => by
  rw [nodes_or] at h
  exact h s (List.mem_cons_of_mem _ (List.mem_flatMap_of_mem he hs))

theorem forall_nodes_of_except {left right : Expr} (h : ∀ s ∈ (except left right).nodes, P s) :
    (∀ s ∈ left.nodes, P s) ∧ ∀ s ∈ right.nodes, P s := by
  rw [nodes_except] at h
  exact List.forall_mem_append.1 fun s hs => h s (List.mem_cons_of_mem _ hs)

theorem forall_nodes_of_within {inner : Expr} {fields : List String}
    (h : ∀ s ∈ (within inner fields).nodes, P s) :
    P (within inner fields) ∧ ∀ s ∈ inner.nodes, P s := by
  rw [nodes_within] at h
  exact List.forall_mem_cons.1 h

theorem forall_nodes_of_group {inner : Expr} (h : ∀ s ∈ (group inner).nodes, P s) :
    ∀ s ∈ inner.nodes, P s := fun s hs => by
  rw [nodes_group] at h
  exact h s (List.mem_cons_of_mem _ hs)

end Parts

/-! ### Leaves -/

theorem leavesAll_eq_flatMap (es : List Expr) : leavesAll es = es.flatMap leaves := by
  induction es with
  | nil => rfl
  | cons e es ih => rw [leavesAll, ih, List.flatMap_cons]

@[simp] theorem leaves_and (es : List Expr) : (and es).leaves = es.flatMap leaves :=
  leavesAll_eq_flatMap es

@[simp] theorem leaves_or (es : List Expr) : (or es).leaves = es.flatMap leaves :=
  leavesAll_eq_flatMap es

@[simp] theorem leaves_except (left right : Expr) :
    (except left right).leaves = left.leaves ++ right.leaves := rfl

@[simp] theorem leaves_within (inner : Expr) (fields : List String) :
    (within inner fields).leaves = inner.leaves := rfl

@[simp] theorem leaves_group (inner : Expr) : (group inner).leaves = inner.leaves := rfl

theorem leaves_leaf {e : Expr} (h : e.isLeaf = true) : e.leaves = [e] := by
  cases e with
  | all | term | phrase | compare | vocabulary => rfl
  | and | or | except | within | group => cases h

/-- **The leaves of a tree** are the nodes that are leaves, in order. -/
theorem leaves_eq_filter (e : Expr) : e.leaves = e.nodes.filter isLeaf := by
  induction e using byParts with
  | leaf e he => rw [leaves_leaf he, nodes_leaf he, List.filter_cons_of_pos he, List.filter_nil]
  | and es ih =>
    rw [leaves_and, nodes_and, List.filter_cons_of_neg Bool.false_ne_true, List.filter_flatMap]
    exact congrArg List.flatten (List.map_congr_left ih)
  | or es ih =>
    rw [leaves_or, nodes_or, List.filter_cons_of_neg Bool.false_ne_true, List.filter_flatMap]
    exact congrArg List.flatten (List.map_congr_left ih)
  | except left right ihleft ihright =>
    rw [leaves_except, nodes_except, List.filter_cons_of_neg Bool.false_ne_true,
      List.filter_append, ihleft, ihright]
  | within inner fields ih =>
    rw [leaves_within, nodes_within, List.filter_cons_of_neg Bool.false_ne_true, ih]
  | group inner ih => rw [leaves_group, nodes_group, List.filter_cons_of_neg Bool.false_ne_true, ih]

theorem mem_leaves_iff {e l : Expr} : l ∈ e.leaves ↔ l ∈ e.nodes ∧ l.isLeaf = true := by
  rw [leaves_eq_filter, List.mem_filter]

/-- The leaves of a tree have no parts. -/
theorem isLeaf_of_mem_leaves {e l : Expr} (h : l ∈ e.leaves) : l.isLeaf = true :=
  (mem_leaves_iff.1 h).2

end FederatedSearch.Query.Expr
