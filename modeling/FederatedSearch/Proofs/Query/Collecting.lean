import FederatedSearch.Proofs.Query.Distribution
import FederatedSearch.Proofs.Query.Node

/-!
# What is collected from a tree

The leaves of a tree are collected from its parts, from left to right, and so are the words that a
match is looked for with. What is excluded may be collected in a way of its own: its leaves are
leaves of the tree, while its words are not looked for. Bringing a tree into normal form regroups its
operators, but what stands behind an `EXCEPT` stays behind one, and everything stays in its place. So
nothing that is collected this way is lost, found twice or moved.

* `FederatedSearch.Query.Expr.Collects`: what is collected from the parts of a tree.
* `FederatedSearch.Query.Expr.Collects.fold`, `FederatedSearch.Query.Expr.Collects.distribute`:
  **both passes keep what is collected**.
* `FederatedSearch.Query.Expr.leaves_normalize`: the leaves of the normal form.
* `FederatedSearch.Query.Expr.passes_keep_leaves`: leaves and words through each pass.
-/

namespace FederatedSearch.Query

namespace Expr

/-- **What is collected from a tree**, part by part and from left to right. Restrictions and
parentheses add nothing to it, and from what is excluded something else is collected. -/
structure Collects {α : Type} (collect excluded : Expr → List α) : Prop where
  and : ∀ es, collect (.and es) = es.flatMap collect
  or : ∀ es, collect (.or es) = es.flatMap collect
  except : ∀ left right, collect (.except left right) = collect left ++ excluded right
  within : ∀ inner fields, collect (.within inner fields) = collect inner
  group : ∀ inner, collect (.group inner) = collect inner

namespace Collects

variable {α : Type} {collect excluded : Expr → List α}

/-! ### Merging -/

theorem conjuncts (h : Collects collect excluded) (e : Expr) :
    e.conjuncts.flatMap collect = collect e := by
  unfold Expr.conjuncts
  split
  · rw [h.and]
  · rw [List.flatMap_singleton]

theorem disjuncts (h : Collects collect excluded) (e : Expr) :
    e.disjuncts.flatMap collect = collect e := by
  unfold Expr.disjuncts
  split
  · rw [h.or]
  · rw [List.flatMap_singleton]

/-- Merging conjunctions keeps what is collected. -/
theorem andAll (h : Collects collect excluded) (parts : List Expr) :
    collect (andAll parts) = parts.flatMap collect := by
  have hparts : (parts.flatMap Expr.conjuncts).flatMap collect = parts.flatMap collect := by
    rw [List.flatMap_assoc]
    exact congrArg parts.flatMap (funext h.conjuncts)
  rw [← hparts]
  unfold Expr.andAll
  split
  · rename_i e he
    rw [he, List.flatMap_singleton]
  · rw [h.and]

/-- Merging disjunctions keeps what is collected. -/
theorem orAll (h : Collects collect excluded) (parts : List Expr) :
    collect (orAll parts) = parts.flatMap collect := by
  have hparts : (parts.flatMap Expr.disjuncts).flatMap collect = parts.flatMap collect := by
    rw [List.flatMap_assoc]
    exact congrArg parts.flatMap (funext h.disjuncts)
  rw [← hparts]
  unfold Expr.orAll
  split
  · rename_i e he
    rw [he, List.flatMap_singleton]
  · rw [h.or]

end Collects

end Expr

/-! ### Chains -/

namespace Chain

variable {α : Type} (collect excluded : Expr → List α)

/-- What is collected from an operand after its operator. -/
def collectLink : Link × Expr → List α
  | (.except, e) => excluded e
  | (.and, e) | (.or, e) => collect e

/-- **What is collected from a chain**, operand by operand. -/
def collected (c : Chain) : List α := collect c.first ++ c.rest.flatMap (collectLink collect excluded)

theorem collected_push (c : Chain) (op : Link) (e : Expr) :
    (c.push op e).collected collect excluded =
      c.collected collect excluded ++ collectLink collect excluded (op, e) := by
  simp [collected, push]

variable {collect excluded}

/-- **Splitting a chain into segments** keeps what is collected. -/
theorem flatMap_segmentsFrom (h : Expr.Collects collect excluded) (current : Expr)
    (rest : List (Link × Expr)) : (segmentsFrom current rest).flatMap collect =
      collect current ++ rest.flatMap (collectLink collect excluded) := by
  induction rest generalizing current with
  | nil => simp [segmentsFrom]
  | cons x rest ih =>
    obtain ⟨op, e⟩ := x
    cases op with
    | and => simp [segmentsFrom, ih, h.andAll, collectLink]
    | or => simp [segmentsFrom, ih, collectLink]
    | except => simp [segmentsFrom, ih, h.except, collectLink]

/-- The expression that a chain stands for keeps what is collected from the chain. -/
theorem collect_toExpr (h : Expr.Collects collect excluded) (c : Chain) :
    collect c.toExpr = c.collected collect excluded := by
  rw [collected, ← flatMap_segmentsFrom h]
  unfold toExpr
  split
  · rename_i e he
    rw [he, List.flatMap_singleton]
  · rw [h.orAll]

end Chain

namespace Expr

/-! ### Folding -/

section Folding

variable {α : Type} {excluded : Expr → List α}

mutual

/-- **The chain that an expression spells** has what is collected from the expression. What is
excluded is collected in its own way, which folding keeps as well. -/
theorem Collects.foldChain {collect : Expr → List α} (h : Collects collect excluded)
    (hexcluded : Collects excluded excluded) (e : Expr) :
    e.foldChain.collected collect excluded = collect e := by
  unfold Expr.foldChain
  split
  · rename_i left right
    rw [Chain.collected_push, h.foldChain hexcluded left, Chain.collectLink,
      h.foldOperand hexcluded right, h.and]
    simp
  · rename_i left right
    rw [Chain.collected_push, h.foldChain hexcluded left, Chain.collectLink,
      h.foldOperand hexcluded right, h.or]
    simp
  · rename_i left right
    rw [Chain.collected_push, h.foldChain hexcluded left, Chain.collectLink,
      hexcluded.foldOperand hexcluded right, h.except]
  · rw [Chain.collected, List.flatMap_nil, List.append_nil, h.foldOperand hexcluded e]
termination_by 2 * sizeOf e + 1
decreasing_by all_goals decreasing_tactic

/-- Folding an operand keeps what is collected. -/
theorem Collects.foldOperand {collect : Expr → List α} (h : Collects collect excluded)
    (hexcluded : Collects excluded excluded) (e : Expr) : collect e.foldOperand = collect e := by
  unfold Expr.foldOperand
  split
  · rename_i inner
    rw [Chain.collect_toExpr h, h.foldChain hexcluded inner, h.group]
  · rename_i inner fields
    rw [h.within, Chain.collect_toExpr h, h.foldChain hexcluded inner, h.within]
  · rename_i children
    rw [h.andAll, h.foldEach hexcluded children, h.and]
  · rename_i children
    rw [h.orAll, h.foldEach hexcluded children, h.or]
  · rfl
termination_by 2 * sizeOf e
decreasing_by all_goals decreasing_tactic

/-- Folding several expressions keeps what is collected. -/
theorem Collects.foldEach {collect : Expr → List α} (h : Collects collect excluded)
    (hexcluded : Collects excluded excluded) (es : List Expr) :
    (foldEach es).flatMap collect = es.flatMap collect := by
  match es with
  | [] => rw [Expr.foldEach]
  | e :: es =>
    rw [Expr.foldEach, List.flatMap_cons, List.flatMap_cons, Chain.collect_toExpr h,
      h.foldChain hexcluded e, h.foldEach hexcluded es]
termination_by 2 * sizeOf es
decreasing_by all_goals decreasing_tactic

end

end Folding

namespace Collects

variable {α : Type} {collect excluded : Expr → List α}

/-- **Folding keeps what is collected.** -/
theorem fold (h : Collects collect excluded) (hexcluded : Collects excluded excluded) (e : Expr) :
    collect e.fold = collect e := by
  rw [Expr.fold, Chain.collect_toExpr h, h.foldChain hexcluded]

/-! ### Distribution -/

/-- Pushing a restriction into a disjunction keeps what is collected. -/
theorem restrict (h : Collects collect excluded) (fields : List String) (e : Expr) :
    collect (restrict fields e) = collect e := by
  unfold Expr.restrict
  split
  · simp only [h.or, List.flatMap_map, h.within]
  · exact h.within e fields

/-- **Distribution keeps what is collected.** -/
theorem distribute (h : Collects collect excluded) (hexcluded : Collects excluded excluded)
    (e : Expr) : collect e.distribute = collect e := by
  induction e using byParts generalizing collect with
  | leaf e he =>
    cases e with
    | all | term | phrase | compare | vocabulary => rfl
    | and | or | except | within | group => cases he
  | and es ih =>
    rw [Expr.distribute, distributeEach_eq_map, h.andAll, List.flatMap_map, h.and]
    exact List.flatMap_congr fun e he => ih e he h
  | or es ih =>
    rw [Expr.distribute, distributeEach_eq_map, h.orAll, List.flatMap_map, h.or]
    exact List.flatMap_congr fun e he => ih e he h
  | except left right ihleft ihright =>
    rw [Expr.distribute, h.except, h.except, ihleft h, ihright hexcluded]
  | within inner fields ih => rw [Expr.distribute, h.restrict, ih h, h.within]
  | group inner ih => rw [Expr.distribute, ih h, h.group]

/-- **The normal form keeps what is collected.** -/
theorem normalize (h : Collects collect excluded) (hexcluded : Collects excluded excluded)
    (e : Expr) : collect e.normalize = collect e := by
  rw [Expr.normalize, h.distribute hexcluded, h.fold hexcluded]

end Collects

/-! ### Leaves -/

theorem collects_leaves : Collects leaves leaves where
  and := leaves_and
  or := leaves_or
  except := leaves_except
  within := leaves_within
  group := leaves_group

/-- **The leaves of the normal form** are the leaves of the expression, in the same order. -/
theorem leaves_normalize (e : Expr) : e.normalize.leaves = e.leaves :=
  collects_leaves.normalize collects_leaves e

/-- The word of the vocabulary that a leaf stands for. -/
def vocabularyWord? : Expr → Option String
  | .vocabulary _ word => some word
  | _ => none

mutual

theorem usesVocabulary_eq_any :
    ∀ e : Expr, e.usesVocabulary = e.leaves.any (·.vocabularyWord?.isSome)
  | .all | .term _ | .phrase _ | .compare _ _ _ | .vocabulary _ _ => rfl
  | .and children | .or children => by
    rw [usesVocabulary, leaves, anyUsesVocabulary_eq_any children]
  | .except left right => by
    rw [usesVocabulary, leaves, List.any_append, usesVocabulary_eq_any left,
      usesVocabulary_eq_any right]
  | .within inner _ | .group inner => by
    rw [usesVocabulary, leaves, usesVocabulary_eq_any inner]

theorem anyUsesVocabulary_eq_any :
    ∀ es : List Expr, anyUsesVocabulary es = (leavesAll es).any (·.vocabularyWord?.isSome)
  | [] => rfl
  | e :: es => by
    rw [anyUsesVocabulary, leavesAll, List.any_append, usesVocabulary_eq_any e,
      anyUsesVocabulary_eq_any es]

end

/-! ### Words to highlight -/

theorem positiveTermsAll_eq_flatMap (es : List Expr) :
    positiveTermsAll es = es.flatMap positiveTerms := by
  induction es with
  | nil => rfl
  | cons e es ih => rw [positiveTermsAll, ih, List.flatMap_cons]

/-- Nothing is looked for in what is excluded. -/
theorem collects_nothing {α : Type} : Collects (fun _ => ([] : List α)) fun _ => [] where
  and _ := (List.flatMap_eq_nil_iff.2 fun _ _ => rfl).symm
  or _ := (List.flatMap_eq_nil_iff.2 fun _ _ => rfl).symm
  except _ _ := rfl
  within _ _ := rfl
  group _ := rfl

theorem collects_positiveTerms : Collects positiveTerms fun _ => [] where
  and es := positiveTermsAll_eq_flatMap es
  or es := positiveTermsAll_eq_flatMap es
  except left _ := (List.append_nil left.positiveTerms).symm
  within _ _ := rfl
  group _ := rfl

/-! ### Passes -/

/-- **The same is read from two trees**: the leaves from left to right, whether there is a word of the
vocabulary, and the words to highlight. -/
structure ReadsAs (e e' : Expr) : Prop where
  leaves : e'.leaves = e.leaves
  usesVocabulary : e'.usesVocabulary = e.usesVocabulary
  positiveTerms : e'.positiveTerms = e.positiveTerms

/-- What keeps all that is collected keeps what is read. -/
theorem readsAs_of_collects {e e' : Expr}
    (h : ∀ {α : Type} {collect excluded : Expr → List α}, Collects collect excluded →
      Collects excluded excluded → collect e' = collect e) : e.ReadsAs e' where
  leaves := h collects_leaves collects_leaves
  usesVocabulary := by
    rw [usesVocabulary_eq_any, usesVocabulary_eq_any, h collects_leaves collects_leaves]
  positiveTerms := h collects_positiveTerms collects_nothing

/-- **No pass loses, repeats or moves a leaf.** Folding, distribution and the normal form have the
leaves of the expression, from left to right; so they ask for the thesaurus when it does, and have its
words to highlight, although leaves of what is excluded are none of these. -/
theorem passes_keep_leaves (e : Expr) :
    e.ReadsAs e.fold ∧ e.ReadsAs e.distribute ∧ e.ReadsAs e.normalize :=
  ⟨readsAs_of_collects fun h hexcluded => h.fold hexcluded e,
    readsAs_of_collects fun h hexcluded => h.distribute hexcluded e,
    readsAs_of_collects fun h hexcluded => h.normalize hexcluded e⟩

end Expr

end FederatedSearch.Query
