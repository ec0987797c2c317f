import FederatedSearch.Proofs.Query.Collecting
import FederatedSearch.Proofs.Query.Composing
import FederatedSearch.Query.Plan

/-!
# Words of the vocabulary

The leaves of the normal form are those of the query, in the order in which they are read. So the
words of the controlled vocabulary can be told from the text, and the clauses that are appended for a
backend add none to them. What thesauri offer for a query is what they offer for these words, one
after the other.

* `FederatedSearch.Query.Expr.vocabularyWords`: the words of the vocabulary, in reading order.
* `FederatedSearch.Query.Expr.usesVocabulary_iff`: there is such a word.
* `FederatedSearch.Query.vocabularyWords_withClauses`: clauses add no word.
* `FederatedSearch.Query.Expr.expansions_eq`: what is replaced for these words.
-/

namespace FederatedSearch.Query

namespace Expr

/-! ### Words of the vocabulary -/

/-- **The words of the vocabulary**, in reading order. -/
def vocabularyWords (e : Expr) : List String := e.leaves.filterMap vocabularyWord?

theorem vocabularyWords_normalize (e : Expr) : e.normalize.vocabularyWords = e.vocabularyWords := by
  rw [vocabularyWords, leaves_normalize, vocabularyWords]

/-- **An expression asks for the thesaurus** when it has a word of the vocabulary. -/
theorem usesVocabulary_iff {e : Expr} : e.usesVocabulary = true ↔ e.vocabularyWords ≠ [] := by
  rw [usesVocabulary_eq_any, vocabularyWords, ne_eq, List.filterMap_eq_nil_iff, List.any_eq_true]
  simp only [not_forall, exists_prop, ← Option.isSome_iff_ne_none]

/-! ### What is replaced -/

/-- **What is replaced in an expression**, word for word: the words of the vocabulary for which
something is offered, and all that is offered for them. -/
theorem expansions_eq (ts : List Thesaurus) (e : Expr) :
    (e.expansions ts).map (fun x => (x.term, x.alternatives)) =
      e.vocabularyWords.filterMap fun word =>
        if Thesaurus.mergedAlternatives ts word = [] then none
        else some (word, Thesaurus.mergedAlternatives ts word) := by
  rw [expansions, vocabularyWords, List.map_filterMap, List.filterMap_filterMap]
  refine congrArg (e.leaves.filterMap ·) (funext fun leaf => ?_)
  cases leaf with
  | vocabulary field word =>
    simp only [expansion?, vocabularyWord?, Option.bind_some]
    split
    · rename_i hnil
      rw [if_pos hnil, Option.map_none]
    · rename_i hsome
      rw [if_neg hsome, Option.map_some]
  | _ => rfl

end Expr

/-! ### Clauses -/

theorem vocabularyWords_orBounds (op : Comparison) (date : Calendar.Date) (left : Expr)
    (names : List String) : (orBounds op date left names).vocabularyWords =
      left.vocabularyWords := by
  induction names generalizing left with
  | nil => rfl
  | cons name names ih =>
    rw [orBounds, List.foldl_cons, ← orBounds, ih]
    simp [Expr.vocabularyWords, bound, Expr.leaves, Expr.leavesAll, Expr.vocabularyWord?]

theorem vocabularyWords_bounds (op : Comparison) (date : Calendar.Date) (names : List String) :
    (bounds op date names).vocabularyWords = [] := by
  cases names with
  | nil => rfl
  | cons name names =>
    rw [bounds, vocabularyWords_orBounds]
    rfl

theorem vocabularyWords_withBound (fields : List String) (op : Comparison)
    (date : Option Calendar.Date) (e : Expr) :
    (withBound fields op date e).vocabularyWords = e.vocabularyWords := by
  unfold withBound
  split
  · rfl
  · split
    · rfl
    · rename_i d _
      have hnone := vocabularyWords_bounds op d (fieldNames fields)
      rw [Expr.vocabularyWords] at hnone
      simp [Expr.vocabularyWords, hnone]

/-- **The clauses of a backend add no word of the vocabulary.** -/
theorem vocabularyWords_withClauses (o : SearchOptions) (backend : Nat) (e : Expr) :
    (withClauses o backend e).vocabularyWords = e.vocabularyWords := by
  rw [withClauses, vocabularyWords_withBound, vocabularyWords_withBound]
  have hstatus : (withStatus o.status backend e).vocabularyWords = e.vocabularyWords := by
    unfold withStatus
    split
    · rfl
    · simp [Expr.vocabularyWords, Expr.leaves, Expr.leavesAll, Expr.vocabularyWord?]
  rw [← hstatus]
  unfold withFields
  split
  · rfl
  · rw [Expr.vocabularyWords, Expr.leaves_within, Expr.vocabularyWords]

end FederatedSearch.Query
