import FederatedSearch.Proofs.Query.Derivation
import FederatedSearch.Proofs.Query.Filled
import FederatedSearch.Proofs.Query.Spelling

/-!
# The normal form of a query

The tree of a compiled query is in normal form. A conjunction has several parts and none of them is
a conjunction, a disjunction has several parts and none of them is a disjunction, no disjunction is
restricted to fields, and no marks of parentheses are left. Its leaves can be written when the
values of the query are words. A tree in normal form is not changed by distribution.

A query is written as a tree whose leaves can be written and in which nothing is empty. Folding and
distribution keep that, and a distributed tree of this kind is in normal form.

* `FederatedSearch.Query.Expr.Leaf`: the leaves that can be written.
* `FederatedSearch.Query.Expr.IsNormal`: **the normal form**.
* `FederatedSearch.Query.Expr.Legible.isNormal_distribute`: distribution brings a tree into it.
* `FederatedSearch.Query.Expr.IsNormal.distribute_eq`: distribution does nothing to a normal tree.
* `FederatedSearch.Query.isNormal_normalize`: **the tree of a query whose values are words is
  normal**.
-/

namespace FederatedSearch.Query

namespace Expr

/-! ### Trees that can be written -/

/-- **A leaf that can be written**: it is read back from the words that it is made of. -/
inductive Leaf : Expr → Prop
  /-- Every record. -/
  | all : Leaf .all
  /-- A word, which does not stand for every record. -/
  | term {word : String} : IsWord word → Text.sameAscii word "all" = false → Leaf (.term word)
  /-- A phrase. -/
  | phrase {text : String} : IsPhrase text → Leaf (.phrase text)
  /-- A comparison. -/
  | compare {field value : String} (op : Comparison) :
    IsWord field → IsWord value → Leaf (.compare field op value)
  /-- A vocabulary word in all fields. -/
  | anywhere {word : String} : IsWord word → Leaf (.vocabulary none word)
  /-- A vocabulary word in a field, which is not the name for all fields. -/
  | vocabulary {field word : String} :
    IsWord field → field ≠ "*" → IsWord word → Leaf (.vocabulary (some field) word)

/-- A leaf that can be written is a leaf. -/
theorem Leaf.isLeaf {e : Expr} (h : e.Leaf) : e.isLeaf = true := by
  cases h <;> rfl

/-- **A tree that can be written**: its leaves can be, its fields are words, and nothing in it is
empty. -/
abbrev Legible : Expr → Prop := Filled Leaf IsWord

theorem Leaf.legible {e : Expr} (h : e.Leaf) : e.Legible := .leaf h.isLeaf h

/-- **A tree in normal form.** -/
inductive IsNormal : Expr → Prop
  /-- A leaf. -/
  | leaf {e : Expr} : Leaf e → IsNormal e
  /-- Several parts, none of them a conjunction. -/
  | and {es : List Expr} : 2 ≤ es.length → (∀ e ∈ es, IsNormal e) → (∀ e ∈ es, e.conjuncts = [e]) →
    IsNormal (.and es)
  /-- Several parts, none of them a disjunction. -/
  | or {es : List Expr} : 2 ≤ es.length → (∀ e ∈ es, IsNormal e) → (∀ e ∈ es, e.disjuncts = [e]) →
    IsNormal (.or es)
  /-- An exclusion. -/
  | except {left right : Expr} : IsNormal left → IsNormal right → IsNormal (.except left right)
  /-- A restriction of no disjunction. -/
  | within {inner : Expr} {fields : List String} : IsNormal inner → inner.disjuncts = [inner] →
    fields ≠ [] → (∀ f ∈ fields, IsWord f) → IsNormal (.within inner fields)

end Expr

/-! ### Written queries -/

namespace Written

/-- The expression of an operand is a chain of one. -/
theorem Operand.foldChain_toExpr (o : Operand) :
    o.toExpr.foldChain = ⟨o.toExpr.foldOperand, []⟩ := by
  cases o with
  | word text =>
    rw [Operand.toExpr, loneWord]
    split <;> rw [Expr.foldChain] <;> simp
  | _ => rw [Operand.toExpr, Expr.foldChain] <;> simp

/-- An operator adds an operand to the chain before it. -/
theorem foldChain_combine (op : Link) (left right : Expr) :
    (op.combine left right).foldChain = left.foldChain.push op right.foldOperand := by
  cases op <;> rw [Link.combine, Expr.foldChain]

/-- All that stands before `IN` is one operand. -/
theorem foldChain_within (inner : Expr) (fields : List String) :
    (Expr.within inner fields).foldChain = ⟨.within inner.fold fields, []⟩ := by
  rw [Expr.foldChain, Expr.foldOperand, Expr.fold] <;> simp

/-- A leaf is folded already. -/
theorem foldOperand_leaf {e : Expr} (h : e.Leaf) : e.foldOperand = e := by
  cases h <;> rw [Expr.foldOperand] <;> simp

/-- The word of a lone word can be written. -/
theorem leaf_loneWord {word : String} (h : IsWord word) : (loneWord word).Leaf := by
  unfold loneWord
  split
  · exact .all
  · next hall => exact .term h (by simpa using hall)

/-- A value that is a word. -/
theorem Value.isWord {value : Value} (hproper : value.kind.Proper)
    (hbare : value.kind.isPhrase = false) : IsWord value.text := by
  cases value with
  | word text => exact hproper
  | phrase text => cases hbare

theorem FieldList.isWord (fields : FieldList) (h : ∀ k ∈ fields.kinds, k.Proper) :
    ∀ name ∈ fields.names, IsWord name := by
  intro name hname
  refine h (.word name) ?_
  cases fields with
  | one first => simpa [names, kinds] using hname
  | several first others =>
    rcases List.mem_cons.1 hname with rfl | hother
    · simp [kinds]
    · simp [kinds, otherNames, hother]

mutual

/-- The operand of a query whose values are words can be written. -/
theorem Operand.legible_toExpr : ∀ o : Operand, (∀ k ∈ o.kinds, k.Proper) →
    BareValues o.kinds → o.toExpr.Legible
  | .word _, hproper, _ => (leaf_loneWord (hproper _ List.mem_cons_self)).legible
  | .phrase _, hproper, _ => (Expr.Leaf.phrase (hproper _ List.mem_cons_self)).legible
  | .anywhere value, hproper, hbare => by
    have hvalue := value.isWord (hproper _ (by simp [Operand.kinds])) (hbare.rel rfl)
    exact (Expr.Leaf.anywhere hvalue).legible
  | .vocabulary field value, hproper, hbare => by
    have hfield : IsWord field := hproper _ List.mem_cons_self
    have hvalue := value.isWord (hproper _ (by simp [Operand.kinds])) (hbare.tail.rel rfl)
    rw [Operand.toExpr]
    split
    · exact (Expr.Leaf.anywhere hvalue).legible
    · next hstar => exact (Expr.Leaf.vocabulary hfield (by simpa using hstar) hvalue).legible
  | .compare field op value, hproper, hbare => by
    have hfield : IsWord field := hproper _ List.mem_cons_self
    have hvalue := value.isWord (hproper _ (by simp [Operand.kinds])) (hbare.tail.rel rfl)
    exact (Expr.Leaf.compare op hfield hvalue).legible
  | .group inner, hproper, hbare => by
    simp only [Operand.kinds, List.cons_append, List.forall_mem_cons,
      List.forall_mem_append] at hproper
    exact .group (Group.legible_toExpr inner hproper.2.1 (BareValues.left hbare.tail))

/-- **A query whose values are words** can be written. -/
theorem Group.legible_toExpr : ∀ g : Group, (∀ k ∈ g.kinds, k.Proper) →
    BareValues g.kinds → g.toExpr.Legible
  | .operand first, hproper, hbare => Operand.legible_toExpr first hproper hbare
  | .link before joint next, hproper, hbare => by
    simp only [Group.kinds, List.forall_mem_append] at hproper
    obtain ⟨⟨hbefore, -⟩, hnext⟩ := hproper
    exact (Group.legible_toExpr before hbefore hbare.left.left).combine
      (Operand.legible_toExpr next hnext hbare.right) joint.op
  | .within before fields, hproper, hbare => by
    simp only [Group.kinds, List.forall_mem_append, List.forall_mem_cons] at hproper
    obtain ⟨hbefore, -, hfields⟩ := hproper
    exact .within (Group.legible_toExpr before hbefore hbare.left) fields.names_ne_nil
      (fields.isWord hfields)

end

end Written

/-! ### Distribution -/

namespace Expr

/-- **A distributed tree that can be written is normal.** -/
theorem Legible.isNormal {e : Expr} (h : e.Legible) (hdistributed : e.IsDistributed) :
    e.IsNormal := by
  induction h with
  | leaf _ hleaf => exact .leaf hleaf
  | @and es hne _ ih =>
    cases hdistributed with
    | and hlen hes hflat =>
      have hpos := List.length_pos_of_ne_nil hne
      exact .and (by omega) (fun e he => ih e he (hes e he)) hflat
  | @or es hne _ ih =>
    cases hdistributed with
    | or hlen hes hflat =>
      have hpos := List.length_pos_of_ne_nil hne
      exact .or (by omega) (fun e he => ih e he (hes e he)) hflat
  | except _ _ ihleft ihright =>
    cases hdistributed with
    | except hleft hright => exact .except (ihleft hleft) (ihright hright)
  | within _ hne hfields ih =>
    cases hdistributed with
    | within _ hinner hone => exact .within (ih hinner) hone hne hfields
  | group => cases hdistributed

/-- **Distribution brings a tree that can be written into normal form.** -/
theorem Legible.isNormal_distribute {e : Expr} (h : e.Legible) : e.distribute.IsNormal :=
  Legible.isNormal (Filled.distribute h) (isDistributed_distribute e)

/-- A normal tree is distributed. -/
theorem IsNormal.isDistributed {e : Expr} (h : e.IsNormal) : e.IsDistributed := by
  induction h with
  | leaf hleaf => cases hleaf <;> constructor
  | and hlen _ hflat ih => exact .and (by omega) ih hflat
  | or hlen _ hflat ih => exact .or (by omega) ih hflat
  | except _ _ ihleft ihright => exact .except ihleft ihright
  | within _ hone _ _ ih => exact .within _ ih hone

/-- **Distribution does nothing to a normal tree.** -/
theorem IsNormal.distribute_eq {e : Expr} (h : e.IsNormal) : e.distribute = e :=
  Expr.distribute_eq_self_iff.2 h.isDistributed

end Expr

/-- **The tree of a query whose values are words is normal.** -/
theorem isNormal_normalize {cs : List Char} {ks : List TokenKind} {e : Expr} (hks : Scans cs ks)
    (hbare : BareValues ks) (he : Reads .chain ks e []) : e.normalize.IsNormal := by
  obtain ⟨g, rfl, rfl, -⟩ := he.written
  exact Expr.Legible.isNormal_distribute (Written.Group.legible_toExpr g hks.proper hbare).fold

end FederatedSearch.Query
