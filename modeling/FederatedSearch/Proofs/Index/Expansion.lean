import FederatedSearch.Proofs.Index.Matching
import FederatedSearch.Proofs.Index.Phrase
import FederatedSearch.Proofs.Query.Expansion
import FederatedSearch.Proofs.Query.Polarity

/-!
# What expansion finds

A word of the vocabulary is expanded to a disjunction, with one branch for the word itself and one
for each of its alternatives. The branch of a value with blanks in it is a phrase. The word that is
not expanded is no phrase, though: with a blank in it, it is compared as it is with words that have
none, and is found nowhere. So expansion can only add hits, and not expanding can lose those of the
word itself.

* `FederatedSearch.Query.Expr.branch`: the branch of a value.
* `FederatedSearch.Index.Matcher.holds_vocabulary`: **a word of the vocabulary against its branch**.
* `FederatedSearch.Index.Matcher.holds_expandWord`: the branches of an expanded word.
* `FederatedSearch.Index.Matcher.vocabulary_agrees_iff`: for which words the two say the same.
* `FederatedSearch.Index.Matcher.expand_sound_stable`: **expansion loses no hit**, outside of what
  is excluded, and is done once.
-/

namespace FederatedSearch

open Index Query Text

namespace Query.Expr

/-- **The branch of a value** in what a word is expanded to: the value as a leaf, in the field of
the word if it names one. -/
def branch (field : Option String) (value : String) : Expr :=
  match field with
  | some name => .within (ofValue value) [name]
  | none => ofValue value

end Query.Expr

namespace Index.Matcher

variable (m : Matcher) (scope : Option (List String)) (field : Option String)

/-! ### One branch -/

/-- Where a word is looked for that may name a field. -/
def reach (scope : Option (List String)) : Option String → Option (List String)
  | some name => some [name]
  | none => scope

/-- The field that a word names is in its reach. -/
theorem inScope_reach (name : String) : inScope (reach none field) (field.getD name) = true := by
  cases field with
  | none => rfl
  | some name => simp [reach, inScope]

theorem holds_vocabulary_eq (word : String) :
    m.holds scope (.vocabulary field word) = m.hasTerm (reach scope field) word := by
  cases field <;> rw [holds, reach]

theorem holds_branch (value : String) :
    m.holds scope (.branch field value) = m.holds (reach scope field) (.ofValue value) := by
  cases field with
  | none => rfl
  | some name => rw [Expr.branch, holds, reach]

/-- **A word with a blank in it is found nowhere.** -/
theorem hasTerm_of_isBlank {word : String} {c : Char} (hmem : c ∈ word.toList)
    (hc : isBlank c = true) : m.hasTerm scope word = false := by
  have hpattern : c ∈ lowercase word.toList :=
    (mem_lowercase_iff (isUntouched_of_isBlank hc) _).2 hmem
  simp only [hasTerm, List.any_eq_false]
  intro value _
  rw [Bool.not_eq_true, List.any_eq_false]
  intro w hw
  rw [wordMatches_of_isBlank m.stemmer hc hpattern (not_isBlank_of_mem_words hw hc)]
  exact Bool.false_ne_true

/-- **A word of the vocabulary against its branch**: it is found where the branch is, but for a word
with a blank in it, which is found nowhere. -/
theorem holds_vocabulary (word : String) : m.holds scope (.vocabulary field word) =
    (!word.toList.any isBlank && m.holds scope (.branch field word)) := by
  rw [holds_vocabulary_eq, holds_branch]
  cases hblank : word.toList.any isBlank with
  | false =>
    have hterm : Expr.ofValue word = .term word := by
      rw [Expr.ofValue, hblank, if_neg Bool.false_ne_true]
    rw [hterm, Bool.not_false, Bool.true_and, holds]
  | true =>
    obtain ⟨c, hmem, hc⟩ := List.any_eq_true.1 hblank
    rw [hasTerm_of_isBlank m _ hmem hc, Bool.not_true, Bool.false_and]

/-- A word without blanks is found where its branch is. -/
theorem sameHits_vocabulary {word : String} (h : ∀ c ∈ word.toList, isBlank c = false) :
    SameHits (.vocabulary field word) (.branch field word) := by
  intro m scope
  have hany : word.toList.any isBlank = false :=
    List.any_eq_false.2 fun c hmem => Bool.eq_false_iff.1 (h c hmem)
  rw [holds_vocabulary, hany, Bool.not_false, Bool.true_and]

/-- A word of the vocabulary with a blank in it is found nowhere. -/
theorem holds_vocabulary_of_isBlank {word : String} (h : ∃ c ∈ word.toList, isBlank c = true) :
    m.holds scope (.vocabulary field word) = false := by
  rw [holds_vocabulary, List.any_eq_true.2 h, Bool.not_true, Bool.false_and]

/-- The branch of a value with a blank in it is a phrase. -/
theorem holds_branch_of_isBlank {value : String} (h : ∃ c ∈ value.toList, isBlank c = true) :
    m.holds scope (.branch field value) = m.hasPhrase (reach scope field) value := by
  rw [holds_branch, Expr.ofValue, if_pos (List.any_eq_true.2 h), holds]

/-- **A word with a blank in it misses the hits of its branch**, unless no phrase is left of it. -/
theorem sameHits_vocabulary_iff {word : String} (h : ∃ c ∈ word.toList, isBlank c = true) :
    SameHits (.vocabulary field word) (.branch field word) ↔ words word = [] := by
  constructor
  · intro hsame
    by_contra hwords
    -- a record that holds nothing but the word, in the field of the word
    let m := ofValue (field.getD "Title") word
    have hvalue : word ∈ m.searchable (reach none field) := by
      rw [searchable_ofValue (inScope_reach field "Title")]
      exact List.mem_singleton_self word
    have hself := hsame m none
    rw [holds_vocabulary_of_isBlank m none field h, holds_branch_of_isBlank m none field h,
      hasPhrase_of_standsIn hwords hvalue (standsIn_self word)] at hself
    cases hself
  · intro hwords m scope
    rw [holds_vocabulary_of_isBlank m scope field h, holds_branch_of_isBlank m scope field h,
      hasPhrase, hwords]
    rfl

/-- **For which words of the vocabulary expansion keeps the hits of the word itself.** A word and
its branch have the same hits exactly when there is no blank in the word, or nothing that a phrase
is made of. A word with a blank in it has no hits. -/
theorem vocabulary_agrees_iff (field : Option String) (word : String) :
    (SameHits (.vocabulary field word) (.branch field word) ↔
      (∀ c ∈ word.toList, isBlank c = false) ∨ words word = []) ∧
    ((∃ c ∈ word.toList, isBlank c = true) → ∀ (m : Matcher) (scope : Option (List String)),
      m.holds scope (.vocabulary field word) = false) := by
  refine ⟨?_, fun h m scope => m.holds_vocabulary_of_isBlank scope field h⟩
  by_cases hblank : ∃ c ∈ word.toList, isBlank c = true
  · have hno : ¬∀ c ∈ word.toList, isBlank c = false := by simpa using hblank
    rw [sameHits_vocabulary_iff field hblank, or_iff_right hno]
  · have hplain : ∀ c ∈ word.toList, isBlank c = false := by simpa using hblank
    exact iff_of_true (sameHits_vocabulary field hplain) (.inl hplain)

/-- **Not every word of the vocabulary finds what its branch finds**: two words in the field `Title`
are not found there, although they are the title. -/
theorem not_forall_vocabulary_agrees : ¬∀ (field : Option String) (word : String),
    SameHits (.vocabulary field word) (.branch field word) := by
  intro h
  have hsame := h (some "Title") "red fox" (ofValue "Title" "red fox") none
  exact absurd hsame (by decide +kernel)

/-! ### The branches of a word -/

theorem holds_disjunction (word : String) (as : List Alternative) :
    m.holds scope (.disjunction word as) =
      (word :: as.map (·.value)).any fun value => m.holds scope (.ofValue value) := by
  rw [Expr.disjunction, holds, someHold_eq_any, List.any_cons, List.any_cons, List.any_map,
    List.any_map]
  rfl

/-- **An expanded word is found where one of its branches is**: that of the word itself, or that of
an alternative. -/
theorem holds_expandWord {ts : List Thesaurus} {word : String}
    (h : Thesaurus.mergedAlternatives ts word ≠ []) :
    m.holds scope (.expandWord ts field word) =
      (word :: (Thesaurus.mergedAlternatives ts word).map (·.value)).any fun value =>
        m.holds scope (.branch field value) := by
  simp only [holds_branch]
  rw [← holds_disjunction]
  unfold Expr.expandWord
  split
  · next hnone => exact absurd hnone h
  · cases field with
    | none => rfl
    | some name => rw [holds, reach]

/-- **Expanding a word loses no hit.** -/
theorem holds_expandWord_of_holds (ts : List Thesaurus) {word : String}
    (h : m.holds scope (.vocabulary field word) = true) :
    m.holds scope (.expandWord ts field word) = true := by
  by_cases hnone : Thesaurus.mergedAlternatives ts word = []
  · rw [Expr.expandWord, hnone]
    exact h
  · rw [holds_vocabulary, Bool.and_eq_true] at h
    rw [holds_expandWord m scope field hnone, List.any_cons, h.2, Bool.true_or]

/-! ### Expanded trees -/

/-- Expanding a leaf loses no hit. -/
theorem expandedLeaf_of_holds (ts : List Thesaurus) {leaf : Expr} (hleaf : leaf.isLeaf = true)
    (h : m.holds scope leaf = true) : m.expandedLeaf ts scope leaf = true := by
  cases leaf with
  | all | term | phrase | compare => exact h
  | vocabulary field word => exact m.holds_expandWord_of_holds scope field ts h
  | and | or | except | within | group => cases hleaf

/-- **Expansion loses no hit** of a tree that excludes no word of the vocabulary. -/
theorem holds_expand_of_holds (ts : List Thesaurus) {e : Expr}
    (hexcluded : ∀ left right, .except left right ∈ e.nodes → right.usesVocabulary = false)
    (h : m.holds scope e = true) : m.holds scope (e.expand ts) = true := by
  rw [← means_holds] at h
  rw [holds_expand]
  refine Expr.means_mono (fun scope l hl => ?_) (fun left right hmem scope l hl => ?_) scope h
  · exact m.expandedLeaf_of_holds scope ts (Expr.isLeaf_of_mem_leaves hl)
  · have hright := hexcluded left right hmem
    rw [Expr.usesVocabulary_eq_any, List.any_eq_false] at hright
    have hword := hright l hl
    have hleaf := Expr.isLeaf_of_mem_leaves hl
    cases l with
    | all | term | phrase | compare => rfl
    | vocabulary => exact absurd rfl hword
    | and | or | except | within | group => cases hleaf

/-- **Expansion loses no hit, is done once, and is noted.** Whatever the thesauri: every record that
matches a tree matches the expanded tree, in every scope and by any stems or none, if there is no
word of the vocabulary in what the tree excludes. Any tree is expanded once and for all, and nothing
is noted when it is expanded again. The notes of the first time are about the words of the
vocabulary for which something is offered, from left to right. -/
theorem expand_sound_stable (ts : List Thesaurus) (e : Expr) :
    ((∀ left right, .except left right ∈ e.nodes → right.usesVocabulary = false) →
      ∀ (m : Matcher) (scope : Option (List String)),
        m.holds scope e = true → m.holds scope (e.expand ts) = true) ∧
      (∀ log, e.expandNoting ts log = (e.expand ts, log ++ e.expansions ts)) ∧
        (∀ log, (e.expand ts).expandNoting ts log = (e.expand ts, log)) ∧
          e.AreNotes ts (e.expansions ts) := by
  refine ⟨fun hexcluded m scope => m.holds_expand_of_holds scope ts hexcluded,
    e.expandNoting_eq ts, fun log => ?_, e.areNotes_expansions ts⟩
  have hexpanded := e.isExpanded_expand ts
  rw [Expr.expandNoting_eq, Expr.expand_eq_self_iff.2 hexpanded, hexpanded.expansions_eq,
    List.append_nil]

/-- A photo with the keyword `sea` is found with a thesaurus as without one, when others are left
out. -/
theorem expand_sound_stable_of_exclusion :
    let ts := [Demo.photosThesaurus]
    let e : Expr := .except (.vocabulary (some "Keywords") "sea") (.term "ferry")
    let m : Matcher := ⟨Demo.photosBackend, Demo.image 101 10 [("Keywords", "sea")], false, none⟩
    (∀ left right, .except left right ∈ e.nodes → right.usesVocabulary = false) ∧
      m.holds none e = true ∧ m.holds none (e.expand ts) = true := by
  intro ts e m
  have hexcluded : ∀ left right, .except left right ∈ e.nodes → right.usesVocabulary = false := by
    intro left right hmem
    have hnodes : e.nodes = [e, .vocabulary (some "Keywords") "sea", .term "ferry"] := rfl
    obtain ⟨-, rfl⟩ : left = .vocabulary (some "Keywords") "sea" ∧ right = .term "ferry" := by
      simpa [hnodes, e] using hmem
    rfl
  have hfound : m.holds none e = true := by decide +kernel
  exact ⟨hexcluded, hfound, (expand_sound_stable ts e).1 hexcluded m none hfound⟩

/-- In what is excluded, the alternatives of a word take hits away. -/
example :
    let e : Expr := .except .all (.vocabulary none "sea")
    let m : Matcher := ⟨Demo.photosBackend, Demo.image 102 10 [("Title", "Beach")], false, none⟩
    m.holds none e = true ∧ m.holds none (e.expand [Demo.photosThesaurus]) = false := by
  decide +kernel

end Index.Matcher

end FederatedSearch
