import FederatedSearch.Index.Demo
import FederatedSearch.Proofs.Index.Matching
import FederatedSearch.Proofs.Text.Case

/-!
# What stems add

Stems are looked at where a word of a value is compared with a word of a query, and nowhere else.
Words that are the same have the same stem, so each comparison can only come to succeed when stems
are looked at, and with it each term, each phrase and each word of the vocabulary. An exclusion is
where this turns around. A comparison of values and a word with an asterisk know nothing of stems,
so these may be excluded.

* `FederatedSearch.Index.Matcher.stemmed`: a record with words compared by the stems of a locale.
* `FederatedSearch.Index.Matcher.ignoresStems`: the leaves that know nothing of stems.
* `FederatedSearch.Index.Matcher.holds_stemmed`: **stems lose no hit**, if all that is excluded
  knows nothing of them.
* `FederatedSearch.Index.Matcher.stems_only_widen`: stems lose no hit of a tree without exclusions.
-/

namespace FederatedSearch.Index.Matcher

open Query Text

variable (m : Matcher) (locale? : Option String) (scope : Option (List String))

/-- **The record with words compared by the stems of a locale**, or without stems. -/
def stemmed : Matcher := { m with stemmer := locale?.map Stemmer.ofLocale }

/-- Which values are searched has nothing to do with stems. -/
@[simp] theorem searchable_stemmed :
    (m.stemmed locale?).searchable scope = m.searchable scope := rfl

/-! ### Rows of words -/

/-- A row of words at the start of a text stays one when stems are looked at. -/
theorem startsWith_of_none {stemmer : Option Stemmer} {ps ws : List Word}
    (h : startsWith none ps ws = true) : startsWith stemmer ps ws = true := by
  fun_induction startsWith none ps ws with
  | case1 ws => rw [startsWith]
  | case2 p ps => cases h
  | case3 p ps w ws ih =>
    rw [Bool.and_eq_true] at h
    rw [startsWith, wordMatches_of_none h.1, ih h.2, Bool.and_self]

/-- A row of words somewhere in a text stays one when stems are looked at. -/
theorem hasRow_of_none {stemmer : Option Stemmer} {ps ws : List Word}
    (h : hasRow none ps ws = true) : hasRow stemmer ps ws = true := by
  induction ws with
  | nil => exact h
  | cons w ws ih =>
    rw [hasRow, Bool.or_eq_true] at h ⊢
    exact h.imp startsWith_of_none ih

/-! ### Leaves -/

/-- **Stems lose no hit of a word.** -/
theorem hasTerm_stemmed {word : String} (h : (m.stemmed none).hasTerm scope word = true) :
    (m.stemmed locale?).hasTerm scope word = true := by
  obtain ⟨value, hvalue, hfound⟩ := List.any_eq_true.1 h
  obtain ⟨w, hw, hmatch⟩ := List.any_eq_true.1 hfound
  have hstem : wordMatches (m.stemmed locale?).stemmer w (lowercase word.toList) = true :=
    wordMatches_of_none hmatch _
  exact List.any_eq_true.2 ⟨value, hvalue, List.any_eq_true.2 ⟨w, hw, hstem⟩⟩

/-- **Stems lose no hit of a phrase.** -/
theorem hasPhrase_stemmed {phrase : String} (h : (m.stemmed none).hasPhrase scope phrase = true) :
    (m.stemmed locale?).hasPhrase scope phrase = true := by
  rw [hasPhrase, Bool.and_eq_true] at h ⊢
  obtain ⟨hwords, hfound⟩ := h
  obtain ⟨value, hvalue, hrow⟩ := List.any_eq_true.1 hfound
  exact ⟨hwords, List.any_eq_true.2 ⟨value, hvalue, hasRow_of_none hrow⟩⟩

/-- Stems lose no hit of a leaf. -/
theorem holds_leaf_stemmed {leaf : Expr} (hleaf : leaf.isLeaf = true)
    (h : (m.stemmed none).holds scope leaf = true) :
    (m.stemmed locale?).holds scope leaf = true := by
  cases leaf with
  | all => rfl
  | term word => exact m.hasTerm_stemmed locale? scope h
  | phrase text => exact m.hasPhrase_stemmed locale? scope h
  | compare field op value => exact h
  | vocabulary field word =>
    cases field with
    | none => exact m.hasTerm_stemmed locale? scope h
    | some name => exact m.hasTerm_stemmed locale? (some [name]) h
  | and | or | except | within | group => cases hleaf

/-- The word of a query ends with an asterisk. -/
def hasAsterisk (word : String) : Bool := (lowercase word.toList).getLast? == some '*'

/-- **A leaf that knows nothing of stems**: it compares values, or its word has an asterisk. -/
def ignoresStems : Expr → Bool
  | .all | .compare _ _ _ => true
  | .term word | .vocabulary _ word => hasAsterisk word
  | _ => false

/-- A word with an asterisk is found by its beginning, with stems as without. -/
theorem hasTerm_stemmed_of_asterisk {word : String} (h : hasAsterisk word = true) :
    (m.stemmed locale?).hasTerm scope word = (m.stemmed none).hasTerm scope word := by
  have hlast : (lowercase word.toList).getLast? = some '*' := beq_iff_eq.1 h
  have hword (stemmer : Option Stemmer) (w : Word) :
      wordMatches stemmer w (lowercase word.toList) =
        (lowercase word.toList).dropLast.isPrefixOf w := by
    rw [wordMatches, if_pos hlast]
  simp only [hasTerm, hword, searchable_stemmed]

/-- A leaf that knows nothing of stems says the same with them. -/
theorem holds_stemmed_of_ignoresStems {leaf : Expr} (h : ignoresStems leaf = true) :
    (m.stemmed locale?).holds scope leaf = (m.stemmed none).holds scope leaf := by
  cases leaf with
  | all => rfl
  | term word => exact m.hasTerm_stemmed_of_asterisk locale? scope h
  | compare field op value => rfl
  | vocabulary field word =>
    cases field with
    | none => exact m.hasTerm_stemmed_of_asterisk locale? scope h
    | some name => exact m.hasTerm_stemmed_of_asterisk locale? (some [name]) h
  | phrase | and | or | except | within | group => cases h

/-! ### Trees -/

/-- **Stems lose no hit**, if all leaves of what is excluded know nothing of them. -/
theorem holds_stemmed {e : Expr}
    (hexcluded : ∀ left right, .except left right ∈ e.nodes →
      ∀ l ∈ right.leaves, ignoresStems l = true)
    (h : (m.stemmed none).holds scope e = true) : (m.stemmed locale?).holds scope e = true := by
  rw [← means_holds] at h ⊢
  refine Expr.means_mono (fun scope l hl => ?_) (fun left right hmem scope l hl => ?_) scope h
  · exact m.holds_leaf_stemmed locale? scope (Expr.isLeaf_of_mem_leaves hl)
  · exact (m.holds_stemmed_of_ignoresStems locale? scope (hexcluded left right hmem l hl)).symm

/-- **Stems only widen.** Of a tree without exclusions, a record that matches without stems matches
by the stems of every locale: whatever the record, its backend and the scope, business fields
searchable or not. -/
theorem stems_only_widen {e : Expr} (hnone : ∀ left right, .except left right ∉ e.nodes)
    (m : Matcher) (locale : String) (scope : Option (List String))
    (h : (m.stemmed none).holds scope e = true) :
    (m.stemmed (some locale)).holds scope e = true :=
  m.holds_stemmed (some locale) scope (fun left right hmem => absurd hmem (hnone left right)) h

/-- A photo is found by two words of its title, and by English stems as well. -/
theorem stems_only_widen_crowded_beach :
    let e : Expr := .and [.phrase "crowded beach", .within (.term "august") ["Title"]]
    let m : Matcher :=
      ⟨Demo.photosBackend, Demo.image 102 10 [("Title", "Crowded beach in August")], false, none⟩
    (∀ left right, .except left right ∉ e.nodes) ∧ (m.stemmed none).holds none e = true ∧
      (m.stemmed (some "en")).holds none e = true := by
  intro e m
  have hnone : ∀ left right, .except left right ∉ e.nodes := by
    intro left right
    simp [e, Expr.nodes, Expr.nodesAll]
  have hfound : (m.stemmed none).holds none e = true := by decide +kernel
  exact ⟨hnone, hfound, stems_only_widen hnone m "en" none hfound⟩

/-- In what is excluded, stems take hits away, but not those of a word with an asterisk. -/
example :
    let m : Matcher := ⟨Demo.photosBackend, Demo.image 102 10 [("Title", "Boats")], false, none⟩
    let bare : Expr := .except .all (.term "boat")
    let starred : Expr := .except .all (.term "boats*")
    (m.stemmed none).holds none bare = true ∧ (m.stemmed (some "en")).holds none bare = false ∧
      (m.stemmed none).holds none starred = (m.stemmed (some "en")).holds none starred := by
  decide +kernel

end FederatedSearch.Index.Matcher
