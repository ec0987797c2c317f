import FederatedSearch.Proofs.Query.Planning
import FederatedSearch.Proofs.Query.Vocabulary
import FederatedSearch.Proofs.Text.Blank
import Mathlib.Data.List.Nodup

/-!
# What is proposed for a search

Values to search for are proposed in two ways: as a list, made of the text of the search with all
thesauri at once, and as a panel, made of the queries of the backends with the thesaurus of each. On
the way values are left out that are there already, first up to the case of ASCII letters and then
exactly. An element that is left out for one before it loses nothing, since the first of its kind is
found in the same way before and after.

* `FederatedSearch.Query.addNew`: adding an element unless there is one of its kind.
* `FederatedSearch.Query.mem_mergedAlternatives_iff`, `FederatedSearch.Query.mem_proposed_iff`: what
  is offered for a word, and what is proposed for several.
* `FederatedSearch.Query.suggestions_complete`: **suggestions are sound and complete**, and there is
  a panel when there are any.
-/

namespace FederatedSearch.Query

open Thesaurus

/-! ### Adding what is new -/

section Adding

variable {α β : Type} [DecidableEq β] {f : α → β}

/-- **Put an element at the end**, unless there is one with the same key. -/
def addNew (f : α → β) (as : List α) (a : α) : List α :=
  if as.any (f · == f a) then as else as ++ [a]

/-- The first element with a key is the first before some are left out. -/
theorem find?_foldl_addNew (k : β) (as : List α) (acc : List α) :
    (as.foldl (addNew f) acc).find? (f · == k) = (acc ++ as).find? (f · == k) := by
  induction as generalizing acc with
  | nil => rw [List.foldl_nil, List.append_nil]
  | cons a as ih =>
    rw [List.foldl_cons, ih, addNew]
    split
    · rename_i hthere
      obtain ⟨b, hb, hkey⟩ := List.any_eq_true.1 hthere
      rw [List.find?_append, List.find?_append, List.find?_cons]
      cases ha : f a == k with
      | false => rfl
      | true =>
        -- one with this key comes before it
        have hsome : (acc.find? (f · == k)).isSome = true :=
          List.find?_isSome.2 ⟨b, hb, by rw [beq_iff_eq.1 hkey, ha]⟩
        rw [Option.or_of_isSome hsome, Option.or_of_isSome hsome]
    · rw [List.append_assoc, List.singleton_append]

/-- No two elements have the same key. -/
theorem nodup_foldl_addNew (as acc : List α) (h : (acc.map f).Nodup) :
    ((as.foldl (addNew f) acc).map f).Nodup := by
  induction as generalizing acc with
  | nil => exact h
  | cons a as ih =>
    refine ih _ ?_
    unfold addNew
    split
    · exact h
    · rename_i hnew
      rw [List.map_append, List.map_singleton, List.nodup_append]
      refine ⟨h, List.nodup_singleton _, fun k hk k' hk' heq => hnew ?_⟩
      obtain ⟨b, hb, rfl⟩ := List.mem_map.1 hk
      rw [List.mem_singleton.1 hk'] at heq
      exact List.any_eq_true.2 ⟨b, hb, beq_iff_eq.2 heq⟩

/-- An element of a list without repeated keys is the first with its key. -/
theorem find?_key_of_mem {as : List α} (h : (as.map f).Nodup) {a : α} (ha : a ∈ as) :
    as.find? (f · == f a) = some a := by
  induction as with
  | nil => cases ha
  | cons b as ih =>
    rw [List.map_cons, List.nodup_cons] at h
    rcases List.mem_cons.1 ha with rfl | hlater
    · exact List.find?_cons_of_pos (beq_self_eq_true _)
    · have hne : f b ≠ f a := fun heq => h.1 (heq ▸ List.mem_map_of_mem hlater)
      rw [List.find?_cons_of_neg (by simpa using hne)]
      exact ih h.2 hlater

/-- **What is left** of a list are the first elements with their keys. -/
theorem mem_foldl_addNew_iff {as : List α} {a : α} :
    a ∈ as.foldl (addNew f) [] ↔ as.find? (f · == f a) = some a := by
  have hfind := find?_foldl_addNew (f := f) (f a) as []
  rw [List.nil_append] at hfind
  have hnil : (([] : List α).map f).Nodup := List.nodup_nil
  rw [← hfind]
  exact ⟨find?_key_of_mem (nodup_foldl_addNew as [] hnil), List.mem_of_find?_eq_some⟩

/-- Every key is left. -/
theorem exists_mem_foldl_addNew_iff {as : List α} {k : β} :
    (∃ a ∈ as.foldl (addNew f) [], f a = k) ↔ ∃ a ∈ as, f a = k := by
  have hfind := find?_foldl_addNew (f := f) k as []
  rw [List.nil_append] at hfind
  have hsome := congrArg Option.isSome hfind
  rw [Bool.eq_iff_iff, List.find?_isSome, List.find?_isSome] at hsome
  simpa only [beq_iff_eq] using hsome

end Adding

/-! ### What is offered for a word -/

section Offering

variable {ts : List Thesaurus} {word value : String} {a : Alternative}

/-- **What several thesauri offer for a word** is what the first of them offers that has the value,
up to the case of ASCII letters. -/
theorem mem_mergedAlternatives_iff : a ∈ mergedAlternatives ts word ↔
    ts.findSome? (fun t => (t.alternatives word).find? (Text.sameAscii ·.value a.value)) =
      some a := by
  rw [← List.find?_flatMap]
  exact mem_foldl_addNew_iff (f := fun a : Alternative => Text.asciiLower a.value)

/-- **Several thesauri offer a value** for a word when one of them does. -/
theorem exists_mergedAlternatives_iff :
    (∃ a ∈ mergedAlternatives ts word, Text.sameAscii a.value value = true) ↔
      ∃ t ∈ ts, ∃ a ∈ t.alternatives word, Text.sameAscii a.value value = true := by
  simp only [Text.sameAscii_iff]
  refine (exists_mem_foldl_addNew_iff
    (f := fun a : Alternative => Text.asciiLower a.value)).trans ?_
  simp only [List.mem_flatMap]
  exact ⟨fun ⟨a, ⟨t, ht, ha⟩, hkey⟩ => ⟨t, ht, a, ha, hkey⟩,
    fun ⟨t, ht, a, ha, hkey⟩ => ⟨a, ⟨t, ht, ha⟩, hkey⟩⟩

/-- Something is offered for a word when one thesaurus offers something. -/
theorem mergedAlternatives_ne_nil_iff :
    mergedAlternatives ts word ≠ [] ↔ ∃ t ∈ ts, t.alternatives word ≠ [] := by
  constructor
  · intro h
    obtain ⟨a, ha⟩ := List.exists_mem_of_ne_nil _ h
    obtain ⟨t, ht, b, hb, -⟩ :=
      exists_mergedAlternatives_iff.1 ⟨a, ha, Text.sameAscii_refl a.value⟩
    exact ⟨t, ht, List.ne_nil_of_mem hb⟩
  · rintro ⟨t, ht, h⟩
    obtain ⟨a, ha⟩ := List.exists_mem_of_ne_nil _ h
    obtain ⟨b, hb, -⟩ :=
      exists_mergedAlternatives_iff.2 ⟨t, ht, a, ha, Text.sameAscii_refl a.value⟩
    exact List.ne_nil_of_mem hb

end Offering

/-! ### What is proposed for several words -/

section Proposing

variable {ts : List Thesaurus} {ws : List String} {q : ProposedQuery}

/-- **All that is offered for some words**, word for word. -/
def offers (ts : List Thesaurus) (ws : List String) : List ProposedQuery :=
  ws.flatMap fun word => (mergedAlternatives ts word).map fun a => ⟨word, a.value, a.hits⟩

/-- Nothing is offered without a thesaurus. -/
theorem offers_nil (ws : List String) : offers [] ws = [] :=
  List.flatMap_eq_nil_iff.2 fun _ _ => rfl

/-- **What is proposed for an expression** is what is offered for the words of its vocabulary. -/
theorem proposedQueries_expansions (ts : List Thesaurus) (e : Expr) :
    proposedQueries (e.expansions ts) = (offers ts e.vocabularyWords).foldl addProposal [] := by
  have hflat := congrArg (List.flatMap fun x : String × List Alternative =>
    x.2.map fun a => (⟨x.1, a.value, a.hits⟩ : ProposedQuery)) (e.expansions_eq ts)
  rw [List.flatMap_map, List.filterMap_eq_flatMap_toList, List.flatMap_assoc] at hflat
  rw [proposedQueries, hflat, offers]
  refine congrArg (List.foldl addProposal [] ·) (congrArg e.vocabularyWords.flatMap ?_)
  funext word
  by_cases hnil : mergedAlternatives ts word = []
  · simp [hnil]
  · simp [hnil]

/-- Something is replaced in an expression when something is offered for a word of its vocabulary. -/
theorem expansions_ne_nil_iff {e : Expr} : e.expansions ts ≠ [] ↔
    ∃ t ∈ ts, ∃ word ∈ e.vocabularyWords, t.alternatives word ≠ [] := by
  have hnil := congrArg (· = []) (e.expansions_eq ts)
  simp only [List.map_eq_nil_iff, List.filterMap_eq_nil_iff] at hnil
  rw [ne_eq, hnil]
  simp only [ite_eq_left_iff, reduceCtorEq, imp_false, not_not, not_forall, exists_prop,
    ← ne_eq, mergedAlternatives_ne_nil_iff]
  exact ⟨fun ⟨word, hword, t, ht, h⟩ => ⟨t, ht, word, hword, h⟩,
    fun ⟨t, ht, word, hword, h⟩ => ⟨word, hword, t, ht, h⟩⟩

/-- **A value is attributed to the first word** that it is offered for. -/
theorem find?_offers_iff : (offers ts ws).find? (·.value == q.value) = some q ↔
    ws.find? (fun word => (mergedAlternatives ts word).any (·.value == q.value)) = some q.term ∧
      (mergedAlternatives ts q.term).find? (·.value == q.value) = some ⟨q.value, q.hits⟩ := by
  induction ws with
  | nil => simp [offers]
  | cons word ws ih =>
    have hsplit : offers ts (word :: ws) =
        ((mergedAlternatives ts word).map fun a => ⟨word, a.value, a.hits⟩) ++ offers ts ws := rfl
    rw [hsplit, List.find?_append, List.find?_map, List.find?_cons]
    have hkey : ((·.value == q.value) ∘ fun a : Alternative =>
        (⟨word, a.value, a.hits⟩ : ProposedQuery)) = (·.value == q.value) := rfl
    rw [hkey]
    cases hfind : (mergedAlternatives ts word).find? (·.value == q.value) with
    | none =>
      -- the word is passed over
      have hnone : (mergedAlternatives ts word).any (·.value == q.value) = false :=
        List.any_eq_false.2 (List.find?_eq_none.1 hfind)
      rw [hnone, Option.map_none, Option.none_or]
      exact ih
    | some a =>
      have hvalue := List.find?_some hfind
      have hsome : (mergedAlternatives ts word).any (·.value == q.value) = true :=
        List.any_eq_true.2 ⟨a, List.mem_of_find?_eq_some hfind, hvalue⟩
      rw [hsome, Option.map_some, Option.some_or, Option.some.injEq, Option.some.injEq]
      constructor
      · rintro rfl
        exact ⟨rfl, hfind⟩
      · rintro ⟨rfl, ha⟩
        obtain rfl := Option.some.inj (hfind.symm.trans ha)
        rfl

/-- **What is proposed**: a value that is offered for some word, attributed to the first such word. -/
theorem mem_proposed_iff : q ∈ (offers ts ws).foldl addProposal [] ↔
    ws.find? (fun word => (mergedAlternatives ts word).any (·.value == q.value)) = some q.term ∧
      (mergedAlternatives ts q.term).find? (·.value == q.value) = some ⟨q.value, q.hits⟩ :=
  (mem_foldl_addNew_iff (f := ProposedQuery.value)).trans find?_offers_iff

/-- **Every value that is offered is proposed.** -/
theorem exists_proposed_iff {value : String} :
    (∃ q ∈ (offers ts ws).foldl addProposal [], q.value = value) ↔
      ∃ word ∈ ws, ∃ a ∈ mergedAlternatives ts word, a.value = value := by
  refine (exists_mem_foldl_addNew_iff (f := ProposedQuery.value)).trans ?_
  simp only [offers, List.mem_flatMap, List.mem_map]
  constructor
  · rintro ⟨q, ⟨word, hword, a, ha, rfl⟩, hvalue⟩
    exact ⟨word, hword, a, ha, hvalue⟩
  · rintro ⟨word, hword, a, ha, hvalue⟩
    exact ⟨_, ⟨word, hword, a, ha, rfl⟩, hvalue⟩

/-- The values that are proposed are those that the thesauri offer, up to the case of ASCII
letters. -/
theorem exists_proposed_sameAscii_iff {value : String} :
    (∃ q ∈ (offers ts ws).foldl addProposal [], Text.sameAscii q.value value = true) ↔
      ∃ t ∈ ts, ∃ word ∈ ws, ∃ a ∈ t.alternatives word, Text.sameAscii a.value value = true := by
  constructor
  · rintro ⟨q, hq, hvalue⟩
    obtain ⟨word, hword, a, ha, heq⟩ := exists_proposed_iff.1 ⟨q, hq, rfl⟩
    obtain ⟨t, ht, b, hb, hsame⟩ := exists_mergedAlternatives_iff.1 ⟨a, ha, heq ▸ hvalue⟩
    exact ⟨t, ht, word, hword, b, hb, hsame⟩
  · rintro ⟨t, ht, word, hword, a, ha, hvalue⟩
    obtain ⟨b, hb, hsame⟩ := exists_mergedAlternatives_iff.2 ⟨t, ht, a, ha, hvalue⟩
    obtain ⟨q, hq, heq⟩ := exists_proposed_iff.2 ⟨word, hword, b, hb, rfl⟩
    exact ⟨q, hq, heq ▸ hsame⟩

/-- No value is proposed twice. -/
theorem nodup_proposed (ts : List Thesaurus) (ws : List String) :
    (((offers ts ws).foldl addProposal []).map (·.value)).Nodup :=
  nodup_foldl_addNew (f := ProposedQuery.value) (offers ts ws) [] List.nodup_nil

/-- Something is proposed when a thesaurus offers something for some word. -/
theorem proposed_ne_nil_iff : (offers ts ws).foldl addProposal [] ≠ [] ↔
    ∃ t ∈ ts, ∃ word ∈ ws, t.alternatives word ≠ [] := by
  constructor
  · intro h
    obtain ⟨q, hq⟩ := List.exists_mem_of_ne_nil _ h
    obtain ⟨t, ht, word, hword, a, ha, -⟩ :=
      exists_proposed_sameAscii_iff.1 ⟨q, hq, Text.sameAscii_refl q.value⟩
    exact ⟨t, ht, word, hword, List.ne_nil_of_mem ha⟩
  · rintro ⟨t, ht, word, hword, h⟩
    obtain ⟨a, ha⟩ := List.exists_mem_of_ne_nil _ h
    obtain ⟨q, hq, -⟩ := exists_proposed_sameAscii_iff.2
      ⟨t, ht, word, hword, a, ha, Text.sameAscii_refl a.value⟩
    exact List.ne_nil_of_mem hq

end Proposing

/-! ### Thesauri of the backends -/

section Planning

variable {c : Catalog} {thesaurus? : Nat → Option Thesaurus} {o : SearchOptions}
  {raw text : String} {id : Nat}

/-- **The words of the vocabulary in a text**, in reading order. A text that is refused has none. -/
def textVocabulary (text : String) : List String :=
  match parse text with
  | .ok e => e.vocabularyWords
  | .error _ => []

/-- The query of a backend has the words of the vocabulary that the text has. -/
theorem vocabularyWords_of_compile {q : CompiledQuery}
    (h : compile (backendQueryText text o id) = .ok q) :
    q.tree.vocabularyWords = textVocabulary text ∧
      (q.needsThesaurus = true ↔ textVocabulary text ≠ []) := by
  obtain ⟨e, he, rfl⟩ := compile_eq_ok_iff.1 h
  obtain ⟨-, b, hb, rfl⟩ := parse_backendQueryText_eq_ok_iff.1 he
  have hwords : (withClauses o id b).normalize.vocabularyWords = textVocabulary text := by
    rw [Expr.vocabularyWords_normalize, vocabularyWords_withClauses, textVocabulary, hb]
  exact ⟨hwords, by rw [← hwords]; exact Expr.usesVocabulary_iff⟩

/-- **What a backend has to do with its thesaurus**: nothing when the text asks for none, or the
backend has no plan or no thesaurus. Otherwise its group proposes something when its thesaurus offers
something for a word of the text. -/
theorem target_thesaurus? (c : Catalog) (thesaurus? : Nat → Option Thesaurus) (o : SearchOptions)
    (text : String) (id : Nat) :
    let x := target c thesaurus? o text id
    (x.thesaurus? = if textVocabulary text = [] then none
      else x.plan?.bind fun p => thesaurus? p.backend) ∧
    ((∃ g, x.group? = some g ∧ g.terms ≠ []) ↔
      ∃ t, x.thesaurus? = some t ∧ ∃ word ∈ textVocabulary text, t.alternatives word ≠ []) := by
  rcases target_cases c thesaurus? o text id with
    ⟨-, htarget⟩ | ⟨-, ⟨-, e, -, htarget⟩ | ⟨-, b, q, -, hq, htarget⟩⟩
  · simp [htarget, Target.thesaurus?, Target.plan?, Target.group?]
  · simp [htarget, Target.thesaurus?, Target.plan?, Target.group?]
  · obtain ⟨hwords, hneeds⟩ := vocabularyWords_of_compile hq
    rw [htarget]
    unfold targetOf
    by_cases hnone : textVocabulary text = []
    · have hno : q.needsThesaurus = false := by
        rw [← Bool.not_eq_true, hneeds]
        exact not_not.2 hnone
      simp [hno, hnone, Target.thesaurus?, Target.group?]
    · rw [hneeds.2 hnone, if_pos rfl]
      cases hthesaurus : thesaurus? id with
      | none => simp [hthesaurus, Target.thesaurus?, Target.plan?, Target.group?]
      | some t =>
        refine ⟨by simp [hthesaurus, hnone, Target.thesaurus?, Target.plan?], ?_⟩
        have hterms : q.tree.expansions [t] ≠ [] ↔
            ∃ word ∈ textVocabulary text, t.alternatives word ≠ [] := by
          rw [expansions_ne_nil_iff, hwords]
          simp
        simpa [Target.thesaurus?, Target.group?] using hterms

/-- The thesauri that are used are those of the plans, if the text asks for any. -/
theorem thesauri_targets (c : Catalog) (thesaurus? : Nat → Option Thesaurus) (o : SearchOptions)
    (text : String) :
    (o.backends.map (target c thesaurus? o text)).filterMap Target.thesaurus? =
      if textVocabulary text = [] then []
      else ((o.backends.map (target c thesaurus? o text)).filterMap Target.plan?).filterMap
        fun p => thesaurus? p.backend := by
  have hthesaurus := fun id => (target_thesaurus? c thesaurus? o text id).1
  rw [List.filterMap_map, List.filterMap_map, List.filterMap_filterMap]
  split
  · rename_i hnone
    refine List.filterMap_eq_nil_iff.2 fun id _ => ?_
    rw [Function.comp_apply, hthesaurus, if_pos hnone]
  · rename_i hsome
    refine List.filterMap_congr fun id _ => ?_
    rw [Function.comp_apply, hthesaurus, if_neg hsome, Function.comp_apply]

/-- **What is replaced in the text of a search**, and proposed. -/
theorem proposedQueries_main (ts : List Thesaurus) (hwords : textVocabulary text ≠ []) :
    proposedQueries (((compile text).toOption.map (mainExpansions ts)).getD []) =
      (offers ts (textVocabulary text)).foldl addProposal [] := by
  cases hparse : parse text with
  | error e => exact absurd (by rw [textVocabulary, hparse]) hwords
  | ok e =>
    have htext : textVocabulary text = e.vocabularyWords := by rw [textVocabulary, hparse]
    have huses : e.normalize.usesVocabulary = true := by
      rw [Expr.usesVocabulary_iff, Expr.vocabularyWords_normalize, ← htext]
      exact hwords
    rw [compile_eq_ok_iff.2 ⟨e, hparse, rfl⟩, htext, ← e.vocabularyWords_normalize,
      ← proposedQueries_expansions]
    simp [Except.toOption, mainExpansions, huses]

/-- **The values that are proposed for a search** are those that the thesauri of its plans offer for
the words of its text. -/
theorem queries_plan (c : Catalog) (thesaurus? : Nat → Option Thesaurus) (raw : String)
    (o : SearchOptions) :
    let r := plan c thesaurus? raw o
    r.proposals.queries = (offers (r.plans.filterMap fun p => thesaurus? p.backend)
      (textVocabulary (queryText raw o))).foldl addProposal [] := by
  simp only [plan, thesauri_targets]
  generalize ((o.backends.map (target c thesaurus? o (queryText raw o))).filterMap
    Target.plan?).filterMap (fun p => thesaurus? p.backend) = ts
  by_cases hwords : textVocabulary (queryText raw o) = []
  · rw [if_pos hwords, hwords]
    rfl
  · rw [if_neg hwords]
    cases ts with
    | nil =>
      rw [offers_nil]
      rfl
    | cons t ts => exact proposedQueries_main (t :: ts) hwords

/-- **A backend proposes something** when the thesaurus of some plan offers something for a word of
the text. -/
theorem exists_group_iff (c : Catalog) (thesaurus? : Nat → Option Thesaurus) (raw : String)
    (o : SearchOptions) :
    let r := plan c thesaurus? raw o
    (∃ g ∈ r.proposals.groups, g.terms ≠ []) ↔
      ∃ t ∈ r.plans.filterMap (fun p => thesaurus? p.backend),
        ∃ word ∈ textVocabulary (queryText raw o), t.alternatives word ≠ [] := by
  have hgroup := fun id => (target_thesaurus? c thesaurus? o (queryText raw o) id).2
  -- the thesauri that are used are the ones to look at
  have hused : (∃ g ∈ (plan c thesaurus? raw o).proposals.groups, g.terms ≠ []) ↔
      ∃ t ∈ (o.backends.map (target c thesaurus? o (queryText raw o))).filterMap Target.thesaurus?,
        ∃ word ∈ textVocabulary (queryText raw o), t.alternatives word ≠ [] := by
    simp only [plan, List.mem_filterMap, List.mem_map]
    constructor
    · rintro ⟨g, ⟨_, ⟨id, hid, rfl⟩, hg⟩, hterms⟩
      obtain ⟨t, ht, hoffers⟩ := (hgroup id).1 ⟨g, hg, hterms⟩
      exact ⟨t, ⟨_, ⟨id, hid, rfl⟩, ht⟩, hoffers⟩
    · rintro ⟨t, ⟨_, ⟨id, hid, rfl⟩, ht⟩, hoffers⟩
      obtain ⟨g, hg, hterms⟩ := (hgroup id).2 ⟨t, ht, hoffers⟩
      exact ⟨g, ⟨_, ⟨id, hid, rfl⟩, hg⟩, hterms⟩
  refine hused.trans ?_
  rw [thesauri_targets]
  split
  · rename_i hwords
    simp [hwords]
  · rfl

end Planning

/-! ### The panel -/

section Panel

variable {language : Language}

/-- A heading is not blank. -/
theorem isBlankText_heading (level : String) (first : Bool) (text : String) :
    Text.isBlankText (heading level first text) = false := by
  have hopen : Text.isBlankText "<h" = false := by decide
  simp only [heading, Text.isBlankText_append, hopen, Bool.false_and]

/-- **The proposals of several backends are blank** when no backend has any. -/
theorem isBlankText_groupsMarkup (several first : Bool) (gs : List ProposalGroup) :
    Text.isBlankText (groupsMarkup language several first gs) = gs.all (·.terms.isEmpty) := by
  induction gs generalizing first with
  | nil => rfl
  | cons g gs ih =>
    rw [groupsMarkup, List.all_cons]
    cases hterms : g.terms with
    | nil => simp [termsMarkup, ih]
    | cons t ts => simp [termsMarkup, Text.isBlankText_append, isBlankText_heading]

/-- **There is a panel** when the text is read and a backend proposes something. -/
theorem panel?_isSome_iff {r : Request} : (panel? language r).isSome = true ↔
    r.main.isSome = true ∧ ∃ g ∈ r.proposals.groups, g.terms ≠ [] := by
  unfold panel?
  simp only [isBlankText_groupsMarkup]
  cases r.main <;> simp

end Panel

/-! ### Suggestions -/

/-- There is a suggestion when the text is read and something is proposed. -/
theorem suggestions_ne_nil_iff {r : Request} :
    suggestions r ≠ [] ↔ r.main.isSome = true ∧ r.proposals.queries ≠ [] := by
  unfold suggestions
  cases r.main <;> simp

/-- **Suggestions are sound and complete across backends.** The values that are proposed for a search
are distinct. Up to the case of ASCII letters they are what the thesauri of the planned backends offer
for the words of the vocabulary in the text. Each is attributed to the first of these words for which
it is offered, and is with its hits what the first planned backend offers for this word that has the
value, up to the case of ASCII letters. There are suggestions exactly when there is a panel, in each
language. -/
theorem suggestions_complete (c : Catalog) (thesaurus? : Nat → Option Thesaurus) (raw : String)
    (o : SearchOptions) :
    let r := plan c thesaurus? raw o
    let ts := r.plans.filterMap fun p => thesaurus? p.backend
    let ws := textVocabulary (queryText raw o)
    (r.proposals.queries.map (·.value)).Nodup ∧
      (∀ value, (∃ q ∈ r.proposals.queries, Text.sameAscii q.value value = true) ↔
        ∃ t ∈ ts, ∃ word ∈ ws, ∃ a ∈ t.alternatives word,
          Text.sameAscii a.value value = true) ∧
      (∀ q ∈ r.proposals.queries,
        ws.find? (fun word => (mergedAlternatives ts word).any (·.value == q.value)) = some q.term ∧
          ts.findSome? (fun t =>
            (t.alternatives q.term).find? (Text.sameAscii ·.value q.value)) =
              some ⟨q.value, q.hits⟩) ∧
      ∀ language, suggestions r ≠ [] ↔ (panel? language r).isSome = true := by
  intro r ts ws
  have hqueries : r.proposals.queries = (offers ts ws).foldl addProposal [] :=
    queries_plan c thesaurus? raw o
  have hgroups : (∃ g ∈ r.proposals.groups, g.terms ≠ []) ↔
      ∃ t ∈ ts, ∃ word ∈ ws, t.alternatives word ≠ [] := exists_group_iff c thesaurus? raw o
  refine ⟨?_, fun value => ?_, fun q hq => ?_, fun language => ?_⟩
  · rw [hqueries]
    exact nodup_proposed ts ws
  · rw [hqueries]
    exact exists_proposed_sameAscii_iff
  · obtain ⟨hterm, hfound⟩ := mem_proposed_iff.1 (hqueries ▸ hq)
    have hmerged := mem_mergedAlternatives_iff.1 (List.mem_of_find?_eq_some hfound)
    exact ⟨hterm, hmerged⟩
  · rw [suggestions_ne_nil_iff, panel?_isSome_iff, hgroups, hqueries, proposed_ne_nil_iff]

/-- Two backends offer values for the sea, one of them with the spelling of the other. -/
example : (suggestions (plan ⟨[⟨1, "a", [⟨10, "x"⟩], []⟩, ⟨2, "b", [⟨20, "y"⟩], []⟩]⟩
    (fun id => some (if id == 1 then ⟨[⟨"sea", ["Ocean"], [], 3⟩]⟩
      else ⟨[⟨"sea", ["OCEAN", "main"], [], 5⟩]⟩))
    "*:sea" { backends := [1, 2], collections := [10, 20] })) =
      [⟨"sea", "Ocean", 3⟩, ⟨"sea", "main", 5⟩] := by
  decide +kernel

end FederatedSearch.Query
