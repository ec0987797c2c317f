import FederatedSearch.Proofs.Query.Distribution
import FederatedSearch.Proofs.Query.Proposing
import FederatedSearch.Proofs.Query.Vocabulary

/-!
# Expanding once is enough

What a thesaurus offers for a word never holds the word itself, and each value only once, up to the
case of ASCII letters. A word of the vocabulary for which something is offered is replaced by words
and phrases, so none of these words is left in an expanded tree, and no disjunction lies right
inside another one. Such a tree is not changed any more, and nothing is noted of it.

The notes can be taken while the tree is walked, each word as it is replaced, and they come in the
order in which the words are read.

* `FederatedSearch.Query.pairwise_mergedAlternatives`,
  `FederatedSearch.Query.not_sameAscii_of_mem_mergedAlternatives`: what is offered for a word.
* `FederatedSearch.Query.Expr.IsExpanded`: **the trees that are expanded already**.
* `FederatedSearch.Query.Expr.expand_eq_self_iff`: they are the trees that expansion does not
  change.
* `FederatedSearch.Query.Expr.expandNoting_eq`: **the walk that takes notes**.
* `FederatedSearch.Query.Expr.areNotes_expansions`: what the notes say.
-/

namespace FederatedSearch.Query

open Thesaurus

/-! ### What is offered -/

/-- A thesaurus does not offer a word for itself. -/
theorem not_sameAscii_of_mem_alternatives {t : Thesaurus} {word : String} {a : Alternative}
    (h : a ∈ t.alternatives word) : Text.sameAscii a.value word = false := by
  unfold alternatives at h
  split at h
  · cases h
  · next c _ =>
    have hfind := (mem_foldl_addNew_iff (f := fun a : Alternative => Text.asciiLower a.value)).1 h
    obtain ⟨value, hvalue, rfl⟩ := List.mem_map.1 (List.mem_of_find?_eq_some hfind)
    simpa [alternative] using (List.mem_filter.1 hvalue).2

/-- **Several thesauri do not offer a word for itself.** -/
theorem not_sameAscii_of_mem_mergedAlternatives {ts : List Thesaurus} {word : String}
    {a : Alternative} (h : a ∈ mergedAlternatives ts word) :
    Text.sameAscii a.value word = false := by
  obtain ⟨t, -, hfind⟩ := List.exists_of_findSome?_eq_some (mem_mergedAlternatives_iff.1 h)
  exact not_sameAscii_of_mem_alternatives (List.mem_of_find?_eq_some hfind)

/-- **Several thesauri offer each value once**, up to the case of ASCII letters. -/
theorem pairwise_mergedAlternatives (ts : List Thesaurus) (word : String) :
    (mergedAlternatives ts word).Pairwise fun a b => Text.sameAscii a.value b.value = false := by
  have hnodup := nodup_foldl_addNew (f := fun a : Alternative => Text.asciiLower a.value)
    (ts.flatMap (·.alternatives word)) [] List.nodup_nil
  refine (List.pairwise_map.1 hnodup).imp fun hne => ?_
  rw [← Bool.not_eq_true, Text.sameAscii_iff]
  exact hne

namespace Expr

/-! ### Expanded trees -/

/-- **A tree that is expanded already**: nothing is offered for its words of the vocabulary, and no
part of a disjunction is a disjunction. -/
inductive IsExpanded (ts : List Thesaurus) : Expr → Prop
  /-- Every record. -/
  | all : IsExpanded ts .all
  /-- A word. -/
  | term (word : String) : IsExpanded ts (.term word)
  /-- A phrase. -/
  | phrase (text : String) : IsExpanded ts (.phrase text)
  /-- A comparison. -/
  | compare (field : String) (op : Comparison) (value : String) :
    IsExpanded ts (.compare field op value)
  /-- A word of the vocabulary for which nothing is offered. -/
  | vocabulary (field : Option String) {word : String} : mergedAlternatives ts word = [] →
    IsExpanded ts (.vocabulary field word)
  /-- A conjunction. -/
  | and {es : List Expr} : (∀ e ∈ es, IsExpanded ts e) → IsExpanded ts (.and es)
  /-- A disjunction of no disjunctions. -/
  | or {es : List Expr} : (∀ e ∈ es, IsExpanded ts e) → (∀ e ∈ es, e.disjuncts = [e]) →
    IsExpanded ts (.or es)
  /-- An exclusion. -/
  | except {left right : Expr} : IsExpanded ts left → IsExpanded ts right →
    IsExpanded ts (.except left right)
  /-- A restriction. -/
  | within {inner : Expr} (fields : List String) : IsExpanded ts inner →
    IsExpanded ts (.within inner fields)
  /-- A tree between parentheses. -/
  | group {inner : Expr} : IsExpanded ts inner → IsExpanded ts (.group inner)

variable {ts : List Thesaurus}

theorem IsExpanded.of_disjuncts {e : Expr} (h : e.IsExpanded ts) :
    ∀ d ∈ e.disjuncts, d.IsExpanded ts ∧ d.disjuncts = [d] := by
  rcases e.disjuncts_cases with hone | ⟨es, rfl⟩
  · rw [hone]
    exact List.forall_mem_singleton.2 ⟨h, hone⟩
  · cases h with
    | or hes hflat => exact fun d hd => ⟨hes d hd, hflat d hd⟩

/-- A value is an expanded leaf, and no disjunction. -/
theorem isExpanded_ofValue (ts : List Thesaurus) (value : String) :
    (ofValue value).IsExpanded ts ∧ (ofValue value).disjuncts = [ofValue value] := by
  unfold ofValue
  split
  · exact ⟨.phrase value, rfl⟩
  · exact ⟨.term value, rfl⟩

/-- A word is replaced by expanded leaves. -/
theorem isExpanded_disjunction (ts : List Thesaurus) (word : String) (as : List Alternative) :
    (disjunction word as).IsExpanded ts := by
  have hall : ∀ e ∈ ofValue word :: as.map fun a => ofValue a.value,
      e.IsExpanded ts ∧ e.disjuncts = [e] :=
    List.forall_mem_cons.2 ⟨isExpanded_ofValue ts word,
      List.forall_mem_map.2 fun a _ => isExpanded_ofValue ts a.value⟩
  exact .or (fun e he => (hall e he).1) fun e he => (hall e he).2

theorem isExpanded_expandWord (ts : List Thesaurus) (field : Option String) (word : String) :
    (expandWord ts field word).IsExpanded ts := by
  unfold expandWord
  split
  · next hnone => exact .vocabulary field hnone
  · split
    · exact .within _ (isExpanded_disjunction ts word _)
    · exact isExpanded_disjunction ts word _

/-- **Expansion makes an expanded tree of any tree.** -/
theorem isExpanded_expand (ts : List Thesaurus) (e : Expr) : (e.expand ts).IsExpanded ts := by
  induction e using byParts with
  | leaf e he =>
    cases e with
    | all => exact .all
    | term word => exact .term word
    | phrase text => exact .phrase text
    | compare field op value => exact .compare field op value
    | vocabulary field word => exact isExpanded_expandWord ts field word
    | and | or | except | within | group => cases he
  | and es ih =>
    rw [expand, expandAll_eq_map]
    exact .and (List.forall_mem_map.2 ih)
  | or es ih =>
    rw [expand, expandDisjuncts_eq_flatMap]
    have hall := List.forall_mem_flatMap.2 fun e he => (ih e he).of_disjuncts
    exact .or (fun d hd => (hall d hd).1) fun d hd => (hall d hd).2
  | except left right ihleft ihright => exact .except ihleft ihright
  | within inner fields ih => exact .within fields ih
  | group inner ih => exact .group ih

/-- **Expansion does nothing to an expanded tree.** -/
theorem IsExpanded.expand_eq {e : Expr} (h : e.IsExpanded ts) : e.expand ts = e := by
  induction h with
  | all | term | phrase | compare => rfl
  | vocabulary field hnone => rw [expand, expandWord, hnone]
  | and _ ih => rw [expand, expandAll_eq_map, List.map_congr_left ih, List.map_id']
  | @or es _ hflat ih =>
    have hparts : ∀ e ∈ es, (e.expand ts).disjuncts = [e] := fun e he => by
      rw [ih e he, hflat e he]
    rw [expand, expandDisjuncts_eq_flatMap, List.flatMap_congr hparts, List.flatMap_singleton']
  | except _ _ ihleft ihright => rw [expand, ihleft, ihright]
  | within _ _ ih => rw [expand, ih]
  | group _ ih => rw [expand, ih]

/-- **The trees that expansion does not change** are the expanded ones. -/
theorem expand_eq_self_iff {e : Expr} : e.expand ts = e ↔ e.IsExpanded ts := by
  constructor
  · intro h
    rw [← h]
    exact isExpanded_expand ts e
  · exact IsExpanded.expand_eq

/-! ### Notes -/

mutual

/-- **The walk that takes notes**: the tree is replaced from left to right, and each word that
something is offered for goes to the end of the notes. -/
def expandNoting (ts : List Thesaurus) : Expr → List TermExpansion → Expr × List TermExpansion
  | .vocabulary field word, log =>
    (expandWord ts field word, log ++ (expansion? ts (.vocabulary field word)).toList)
  | .and children, log =>
    let (es, log) := expandEachNoting ts children log
    (.and es, log)
  | .or children, log =>
    let (es, log) := expandEachNoting ts children log
    (.or (es.flatMap disjuncts), log)
  | .except left right, log =>
    let (left, log) := left.expandNoting ts log
    let (right, log) := right.expandNoting ts log
    (.except left right, log)
  | .within inner fields, log =>
    let (inner, log) := inner.expandNoting ts log
    (.within inner fields, log)
  | .group inner, log =>
    let (inner, log) := inner.expandNoting ts log
    (.group inner, log)
  | e, log => (e, log)

/-- The walk over several trees. -/
def expandEachNoting (ts : List Thesaurus) :
    List Expr → List TermExpansion → List Expr × List TermExpansion
  | [], log => ([], log)
  | e :: es, log =>
    let (e, log) := e.expandNoting ts log
    let (es, log) := expandEachNoting ts es log
    (e :: es, log)

end

mutual

/-- **The walk that takes notes** makes the expanded tree, and its notes are what is replaced. -/
theorem expandNoting_eq (ts : List Thesaurus) :
    ∀ (e : Expr) (log : List TermExpansion),
      e.expandNoting ts log = (e.expand ts, log ++ e.expansions ts)
  | .all, log | .term _, log | .phrase _, log | .compare _ _ _, log => by
    simp [expandNoting, expand, expansions, leaves, expansion?]
  | .vocabulary field word, log => by
    rw [expandNoting, expand, expansions, leaves_leaf rfl, List.filterMap_cons]
    cases expansion? ts (.vocabulary field word) <;> rfl
  | .and children, log => by
    rw [expandNoting, expandEachNoting_eq ts children log, expand, expandAll_eq_map, expansions,
      leaves_and]
  | .or children, log => by
    rw [expandNoting, expandEachNoting_eq ts children log]
    dsimp only
    rw [List.flatMap_map, expand, expandDisjuncts_eq_flatMap, expansions, leaves_or]
  | .except left right, log => by
    rw [expandNoting, expandNoting_eq ts left log]
    dsimp only
    rw [expandNoting_eq ts right, expand, expansions, expansions, expansions, leaves_except,
      List.filterMap_append, List.append_assoc]
  | .within inner fields, log => by
    rw [expandNoting, expandNoting_eq ts inner log, expand, expansions, expansions, leaves_within]
  | .group inner, log => by
    rw [expandNoting, expandNoting_eq ts inner log, expand, expansions, expansions, leaves_group]

/-- The walk over several trees, one after the other. -/
theorem expandEachNoting_eq (ts : List Thesaurus) :
    ∀ (es : List Expr) (log : List TermExpansion), expandEachNoting ts es log =
      (es.map (expand ts), log ++ (es.flatMap leaves).filterMap (expansion? ts))
  | [], log => by
    rw [expandEachNoting, List.map_nil, List.flatMap_nil, List.filterMap_nil, List.append_nil]
  | e :: es, log => by
    rw [expandEachNoting, expandNoting_eq ts e log]
    dsimp only
    rw [expandEachNoting_eq ts es, List.map_cons, List.flatMap_cons, List.filterMap_append,
      expansions, List.append_assoc]

end

/-- The leaves of an expanded tree are expanded. -/
theorem IsExpanded.of_mem_leaves {e : Expr} (h : e.IsExpanded ts) :
    ∀ l ∈ e.leaves, l.IsExpanded ts := by
  induction h with
  | all => exact List.forall_mem_singleton.2 .all
  | term word => exact List.forall_mem_singleton.2 (.term word)
  | phrase text => exact List.forall_mem_singleton.2 (.phrase text)
  | compare field op value => exact List.forall_mem_singleton.2 (.compare field op value)
  | vocabulary field hnone => exact List.forall_mem_singleton.2 (.vocabulary field hnone)
  | and _ ih =>
    rw [leaves_and]
    exact List.forall_mem_flatMap.2 ih
  | or _ _ ih =>
    rw [leaves_or]
    exact List.forall_mem_flatMap.2 ih
  | except _ _ ihleft ihright =>
    rw [leaves_except]
    exact List.forall_mem_append.2 ⟨ihleft, ihright⟩
  | within _ _ ih => rwa [leaves_within]
  | group _ ih => rwa [leaves_group]

/-- **Nothing is noted of an expanded tree.** -/
theorem IsExpanded.expansions_eq {e : Expr} (h : e.IsExpanded ts) : e.expansions ts = [] := by
  rw [expansions, List.filterMap_eq_nil_iff]
  intro l hl
  cases h.of_mem_leaves l hl with
  | vocabulary field hnone => rw [expansion?, hnone]
  | _ => rfl

/-! ### What the notes say -/

/-- The leaf is a word of the vocabulary for which some thesaurus offers something. -/
def hasOffer (ts : List Thesaurus) (leaf : Expr) : Bool :=
  leaf.vocabularyWord?.any fun word => ts.any fun t => !(t.alternatives word).isEmpty

/-- **The notes of a tree**, as they have to be. -/
structure AreNotes (ts : List Thesaurus) (e : Expr) (log : List TermExpansion) : Prop where
  /-- They are about the words of the vocabulary for which some thesaurus offers something, from
  left to right. -/
  words : (log.map fun note => .vocabulary note.field note.term) = e.leaves.filter (hasOffer ts)
  /-- They name all that is offered for the word. -/
  offers : ∀ note ∈ log, note.alternatives = mergedAlternatives ts note.term
  /-- They name each value once, up to the case of ASCII letters. -/
  distinct : ∀ note ∈ log,
    note.alternatives.Pairwise fun a b => Text.sameAscii a.value b.value = false
  /-- They do not name the word itself. -/
  others : ∀ note ∈ log, ∀ a ∈ note.alternatives, Text.sameAscii a.value note.term = false

/-- A leaf is noted with its word when something is offered for it. -/
theorem map_expansion? (ts : List Thesaurus) (leaf : Expr) :
    (expansion? ts leaf).map (fun note => .vocabulary note.field note.term) =
      Option.guard (hasOffer ts) leaf := by
  cases leaf with
  | vocabulary field word =>
    have hoffer : hasOffer ts (.vocabulary field word) = true ↔
        mergedAlternatives ts word ≠ [] := by
      simp [hasOffer, vocabularyWord?, mergedAlternatives_ne_nil_iff]
    rw [expansion?, Option.guard]
    split
    · next hnone => rw [if_neg (mt hoffer.1 (not_not.2 hnone)), Option.map_none]
    · next hsome => rw [if_pos (hoffer.2 hsome), Option.map_some]
  | _ => rfl

theorem alternatives_of_mem_expansions {e : Expr} {note : TermExpansion}
    (h : note ∈ e.expansions ts) : note.alternatives = mergedAlternatives ts note.term := by
  obtain ⟨leaf, -, hnote⟩ := List.mem_filterMap.1 h
  unfold expansion? at hnote
  split at hnote
  · split at hnote
    · cases hnote
    · cases hnote
      rfl
  · cases hnote

/-- **What is replaced is noted** as it has to be. -/
theorem areNotes_expansions (ts : List Thesaurus) (e : Expr) : e.AreNotes ts (e.expansions ts) where
  words := by
    rw [expansions, List.map_filterMap, ← List.filterMap_eq_filter]
    exact congrArg (e.leaves.filterMap ·) (funext (map_expansion? ts))
  offers _ h := alternatives_of_mem_expansions h
  distinct note h := by
    rw [alternatives_of_mem_expansions h]
    exact pairwise_mergedAlternatives ts note.term
  others note h a ha := by
    rw [alternatives_of_mem_expansions h] at ha
    exact not_sameAscii_of_mem_mergedAlternatives ha

end Expr

end FederatedSearch.Query
