import FederatedSearch.Proofs.Markup
import FederatedSearch.Proofs.Query.Proposing

/-!
# The panel of a search

The panel is markup with texts in it that come from anywhere: the text of the query, names of fields
and of backends, words and the values that thesauri offer for them. They are put into it by two
functions, one for the groups of each backend and one for the whole. Taken together the panel is a
list of pieces, and which of them are fixed and what they are depends only on how many backends
contribute, how many words each of them replaces and how many values it offers for each word. All
else is inserted, each text escaped once.

* `FederatedSearch.Query.contributions`: what the thesauri of the backends contribute.
* `FederatedSearch.Query.Contribution.shape`: how much it is.
* `FederatedSearch.Query.panelPieces`: the pieces of the panel.
* `FederatedSearch.Query.panel?_plan`: the panel is written in these pieces.
* `FederatedSearch.Query.frame_panelPieces`: the fixed ones depend on the shape only.
* `FederatedSearch.Query.panel?_resists_injection`: **texts change nothing but themselves**.
-/

namespace FederatedSearch.Query

open Markup

/-! ### What thesauri contribute -/

/-- **What the thesaurus of a backend contributes to a panel**: what is replaced in the query of the
backend. -/
structure Contribution where
  backend : Nat
  name : String
  terms : List TermExpansion

namespace Contribution

/-- The contribution as a group of proposals. -/
def group (x : Contribution) : ProposalGroup :=
  ⟨x.backend, x.name, x.terms.map TermExpansion.proposal⟩

/-- **How much is contributed**: the number of values for each word. -/
def shape (x : Contribution) : List Nat := x.terms.map (·.alternatives.length)

end Contribution

/-- What a backend contributes, if its query is expanded with a thesaurus. -/
def contribution? (c : Catalog) (thesaurus? : Nat → Option Thesaurus) (o : SearchOptions)
    (text : String) (id : Nat) : Option Contribution := do
  let t ← (target c thesaurus? o text id).thesaurus?
  let b ← c.backend? id
  let q ← (compile (backendQueryText text o id)).toOption
  return ⟨id, b.name, q.tree.expansions [t]⟩

/-- **What the backends of a search contribute**, in order. -/
def contributions (c : Catalog) (thesaurus? : Nat → Option Thesaurus) (raw : String)
    (o : SearchOptions) : List Contribution :=
  o.backends.filterMap (contribution? c thesaurus? o (queryText raw o))

/-- **The group of a backend** is what it contributes. -/
theorem group?_target (c : Catalog) (thesaurus? : Nat → Option Thesaurus) (o : SearchOptions)
    (text : String) (id : Nat) : (target c thesaurus? o text id).group? =
      (contribution? c thesaurus? o text id).map Contribution.group := by
  unfold contribution?
  rcases target_cases c thesaurus? o text id with
    ⟨-, htarget⟩ | ⟨-, ⟨-, e, -, htarget⟩ | ⟨-, b, q, hb, hq, htarget⟩⟩
  · rw [htarget]
    rfl
  · rw [htarget]
    rfl
  · rw [htarget, hb, hq, targetOf]
    split
    · rfl
    · rfl

/-- **The groups of a search** are what its backends contribute. -/
theorem groups_plan (c : Catalog) (thesaurus? : Nat → Option Thesaurus) (raw : String)
    (o : SearchOptions) : (plan c thesaurus? raw o).proposals.groups =
      (contributions c thesaurus? raw o).map Contribution.group := by
  simp only [plan, contributions, List.filterMap_map, List.map_filterMap]
  exact List.filterMap_congr fun id _ => group?_target c thesaurus? o (queryText raw o) id

/-! ### The pieces of a panel -/

/-- The pieces of an alternative. -/
def alternativePieces (field : String) (a : Alternative) : List Piece :=
  [.fixed "<li><a class=\"proposal\" data-query=\"", .inserted field, .fixed ":",
    .inserted a.value, .fixed "\">", .inserted a.value, .fixed "</a> <span class=\"hits\">(",
    .inserted (toString a.hits), .fixed ")</span></li>"]

/-- The pieces of what is proposed for a word. -/
def proposalPieces (x : TermExpansion) : List Piece :=
  .fixed "<ul class=\"thesaurus\">" ::
    (x.alternatives.flatMap (alternativePieces (x.field.getD "*")) ++ [.fixed "</ul>"])

/-- The pieces of a heading. -/
def headingPieces (level : String) (first : Bool) (text : String) : List Piece :=
  [.fixed ("<h" ++ level ++ (if first then firstHeadingStyle else "") ++ ">"), .inserted text,
    .fixed ("</h" ++ level ++ ">")]

/-- The pieces of what is proposed for several words, each under a heading. -/
def termsPieces (language : Language) : Bool → List TermExpansion → List Piece
  | _, [] => []
  | first, x :: rest =>
    headingPieces "2" first ((Message.proposalsForTerm x.term).text language) ++
      proposalPieces x ++ termsPieces language false rest

/-- The pieces of what several backends propose, each under a heading when there are `several`. -/
def groupsPieces (language : Language) (several : Bool) : Bool → List Contribution → List Piece
  | _, [] => []
  | first, x :: rest =>
    let headed := several && !x.terms.isEmpty
    (if headed then headingPieces "1" first ((Message.proposalsForBackend x.name).text language)
      else []) ++
      termsPieces language true x.terms ++ groupsPieces language several (first && !headed) rest

/-- **The pieces of a panel** for a query and what is contributed to it. -/
def panelPieces (language : Language) (query : String) (xs : List Contribution) : List Piece :=
  .fixed "<div style='height:0px; overflow:hidden'>" :: .inserted query ::
    .fixed "</div><div class='proposals'>" ::
      (groupsPieces language (1 < xs.length) true xs ++ [.fixed "</div>"])

/-! ### What is written -/

theorem write_alternativePieces (field : String) (a : Alternative) :
    write (alternativePieces field a) = alternativeMarkup field a := by
  unfold alternativePieces alternativeMarkup
  simp only [write_cons, write_nil, Piece.write]
  rw [escape_toString]
  simp only [String.append_assoc, String.append_empty]

theorem write_proposalPieces (x : TermExpansion) :
    write (proposalPieces x) = x.proposal.markup := by
  have hlist : ∀ as : List Alternative,
      write (as.flatMap (alternativePieces (x.field.getD "*"))) =
        String.join (as.map (alternativeMarkup (x.field.getD "*"))) := by
    intro as
    induction as with
    | nil => rfl
    | cons a as ih => simp [write_alternativePieces, ih]
  simp [proposalPieces, TermExpansion.proposal, Piece.write, hlist, String.append_assoc]

theorem write_headingPieces (level : String) (first : Bool) (text : String) :
    write (headingPieces level first text) = heading level first text := by
  simp [headingPieces, heading, Piece.write, String.append_assoc]

theorem write_termsPieces (language : Language) (first : Bool) (xs : List TermExpansion) :
    write (termsPieces language first xs) =
      termsMarkup language first (xs.map TermExpansion.proposal) := by
  induction xs generalizing first with
  | nil => rfl
  | cons x xs ih =>
    rw [termsPieces, write_append, write_append, write_headingPieces, write_proposalPieces, ih]
    rfl

theorem write_groupsPieces (language : Language) (several first : Bool) (xs : List Contribution) :
    write (groupsPieces language several first xs) =
      groupsMarkup language several first (xs.map Contribution.group) := by
  induction xs generalizing first with
  | nil => rfl
  | cons x xs ih =>
    rw [groupsPieces, List.map_cons, groupsMarkup, write_append, write_append, ih,
      write_termsPieces]
    simp only [Contribution.group, List.isEmpty_map]
    split
    · rw [write_headingPieces]
    · rfl

/-- **The panel of a search that is read**: its pieces, unless no backend replaces a word. -/
theorem panel?_plan {c : Catalog} {thesaurus? : Nat → Option Thesaurus} {raw : String}
    {o : SearchOptions} (hmain : (plan c thesaurus? raw o).main.isSome = true)
    (language : Language) :
    panel? language (plan c thesaurus? raw o) =
      if (contributions c thesaurus? raw o).all (·.terms.isEmpty) then none
      else some (write (panelPieces language (plan c thesaurus? raw o).proposals.query
        (contributions c thesaurus? raw o))) := by
  have hblank : ∀ several first, Text.isBlankText (groupsMarkup language several first
      ((contributions c thesaurus? raw o).map Contribution.group)) =
        (contributions c thesaurus? raw o).all (·.terms.isEmpty) := fun several first => by
    rw [isBlankText_groupsMarkup, List.all_map]
    exact congrArg _ (funext fun x => List.isEmpty_map)
  unfold panel?
  rw [groups_plan, List.length_map]
  simp only [hblank, Option.isNone_eq_false_iff.2 hmain, Bool.false_or]
  simp [panelPieces, write_groupsPieces, Piece.write, String.append_assoc]

/-! ### What is fixed -/

/-- A contribution of a shape, without texts. -/
def Contribution.ofShape (shape : List Nat) : Contribution :=
  ⟨0, "", shape.map fun n => ⟨"", none, List.replicate n ⟨"", 0⟩⟩⟩

/-- **The frame of a panel** of a shape. -/
def panelFrame (shape : List (List Nat)) : List (Option String) :=
  frame (panelPieces .english "" (shape.map Contribution.ofShape))

theorem frame_proposalPieces (x : TermExpansion) :
    frame (proposalPieces x) =
      frame (proposalPieces ⟨"", none, List.replicate x.alternatives.length ⟨"", 0⟩⟩) := by
  have hlist : ∀ (field field' : String) (as : List Alternative),
      frame (as.flatMap (alternativePieces field)) =
        frame ((List.replicate as.length ⟨"", 0⟩).flatMap (alternativePieces field')) := by
    intro field field' as
    induction as with
    | nil => rfl
    | cons a as ih =>
      rw [List.flatMap_cons, List.length_cons, List.replicate_succ, List.flatMap_cons, frame_append,
        frame_append, ih]
      rfl
  simp only [proposalPieces, frame_cons, frame_append]
  rw [hlist]

theorem frame_termsPieces (language language' : Language) (first : Bool)
    (xs : List TermExpansion) : frame (termsPieces language first xs) =
      frame (termsPieces language' first
        (xs.map fun x => ⟨"", none, List.replicate x.alternatives.length ⟨"", 0⟩⟩)) := by
  induction xs generalizing first with
  | nil => rfl
  | cons x xs ih =>
    rw [termsPieces, List.map_cons, termsPieces, frame_append, frame_append, frame_append,
      frame_append, ih, frame_proposalPieces x]
    rfl

theorem frame_groupsPieces (language language' : Language) (several first : Bool)
    (xs : List Contribution) : frame (groupsPieces language several first xs) =
      frame (groupsPieces language' several first
        ((xs.map Contribution.shape).map Contribution.ofShape)) := by
  induction xs generalizing first with
  | nil => rfl
  | cons x xs ih =>
    have hterms : (Contribution.ofShape x.shape).terms =
        x.terms.map fun x => ⟨"", none, List.replicate x.alternatives.length ⟨"", 0⟩⟩ := by
      simp [Contribution.ofShape, Contribution.shape]
    rw [groupsPieces, List.map_cons, List.map_cons, groupsPieces, frame_append, frame_append,
      frame_append, frame_append, hterms, List.isEmpty_map, ih,
      frame_termsPieces language language' true x.terms]
    congr 2
    split
    · rfl
    · rfl

/-- **The fixed pieces of a panel** depend on the shape of what is contributed only. -/
theorem frame_panelPieces (language : Language) (query : String) (xs : List Contribution) :
    frame (panelPieces language query xs) = panelFrame (xs.map Contribution.shape) := by
  simp only [panelFrame, panelPieces, frame_cons, frame_append, List.length_map]
  rw [frame_groupsPieces language .english]
  rfl

/-! ### Two panels -/

/-- Nothing is contributed when the shape has no words. -/
theorem all_isEmpty_terms (xs : List Contribution) :
    xs.all (·.terms.isEmpty) = (xs.map Contribution.shape).all List.isEmpty := by
  rw [List.all_map]
  exact congrArg xs.all (funext fun x => List.isEmpty_map.symm)

/-- **Texts change nothing of a panel but themselves.** Take two searches that are read and whose
backends contribute alike: as many groups, as many words in each and as many values for each word.
Their catalogs, thesauri, texts and options may be any others, and so may their languages. Then
both have a panel or neither has; the panels are written in pieces, fixed or inserted, with the same
fixed pieces at the same places; so they are the same when all characters are deleted but the
brackets of tags and the quotes. And every text that is inserted can be read back as it was. -/
theorem panel?_resists_injection {c c' : Catalog} {thesaurus? thesaurus?' : Nat → Option Thesaurus}
    {raw raw' : String} {o o' : SearchOptions}
    (hmain : (plan c thesaurus? raw o).main.isSome = true)
    (hmain' : (plan c' thesaurus?' raw' o').main.isSome = true)
    (hshape : (contributions c thesaurus? raw o).map Contribution.shape =
      (contributions c' thesaurus?' raw' o').map Contribution.shape)
    (language language' : Language) :
    let r := plan c thesaurus? raw o
    let r' := plan c' thesaurus?' raw' o'
    let ps := panelPieces language r.proposals.query (contributions c thesaurus? raw o)
    let ps' := panelPieces language' r'.proposals.query (contributions c' thesaurus?' raw' o')
    (panel? language r = none ∧ panel? language' r' = none ∨
        panel? language r = some (write ps) ∧ panel? language' r' = some (write ps')) ∧
      frame ps = frame ps' ∧
      (panel? language r).map marks = (panel? language' r').map marks ∧
      ∀ text, .inserted text ∈ ps → unescape (Piece.inserted text).write = text := by
  intro r r' ps ps'
  have hframe : frame ps = frame ps' := by
    rw [frame_panelPieces, frame_panelPieces, hshape]
  have hpanel := panel?_plan hmain language
  have hpanel' := panel?_plan hmain' language'
  rw [all_isEmpty_terms] at hpanel hpanel'
  rw [hshape] at hpanel
  have hpanels : panel? language r = none ∧ panel? language' r' = none ∨
      panel? language r = some (write ps) ∧ panel? language' r' = some (write ps') := by
    split at hpanel
    · rename_i hempty
      rw [if_pos hempty] at hpanel'
      exact .inl ⟨hpanel, hpanel'⟩
    · rename_i hsome
      rw [if_neg hsome] at hpanel'
      exact .inr ⟨hpanel, hpanel'⟩
  refine ⟨hpanels, hframe, ?_, fun text _ => unescape_escape text⟩
  rcases hpanels with ⟨hnone, hnone'⟩ | ⟨hsome, hsome'⟩
  · rw [hnone, hnone']
  · rw [hsome, hsome', Option.map_some, Option.map_some, marks_write_eq hframe]

/-- A search with marks in the name of a field, of a backend and in what a thesaurus offers, and one
without them: two backends contribute to both, the first of them two values for one word and the
second one value. -/
theorem panel?_resists_injection_of_script :
    ∃ (c c' : Catalog) (thesaurus? thesaurus?' : Nat → Option Thesaurus) (o : SearchOptions),
      (plan c thesaurus? "Ti'tle:sea" o).main.isSome = true ∧
      (plan c' thesaurus?' "*:cat" o).main.isSome = true ∧
      (contributions c thesaurus? "Ti'tle:sea" o).map Contribution.shape = [[2], [1]] ∧
      (contributions c' thesaurus?' "*:cat" o).map Contribution.shape = [[2], [1]] ∧
      (panel? .english (plan c thesaurus? "Ti'tle:sea" o)).isSome = true ∧
      (panel? .english (plan c thesaurus? "Ti'tle:sea" o)).map marks =
        (panel? .french (plan c' thesaurus?' "*:cat" o)).map marks := by
  obtain ⟨c, hc⟩ : ∃ c : Catalog, c = ⟨[⟨1, "<b>\"one\"", [⟨10, "a"⟩], []⟩,
    ⟨2, "two", [⟨20, "b"⟩], []⟩]⟩ := ⟨_, rfl⟩
  obtain ⟨c', hc'⟩ : ∃ c : Catalog, c = ⟨[⟨1, "one", [⟨10, "a"⟩], []⟩,
    ⟨2, "two", [⟨20, "b"⟩], []⟩]⟩ := ⟨_, rfl⟩
  obtain ⟨thesaurus?, ht⟩ : ∃ f : Nat → Option Thesaurus, f = fun id =>
    some (if id == 1 then ⟨[⟨"sea", ["\"><script>", "ocean"], [], 3⟩]⟩
      else ⟨[⟨"sea", ["it's"], [], 5⟩]⟩) := ⟨_, rfl⟩
  obtain ⟨thesaurus?', ht'⟩ : ∃ f : Nat → Option Thesaurus, f = fun id =>
    some (if id == 1 then ⟨[⟨"cat", ["tom", "kitten"], [], 7⟩]⟩
      else ⟨[⟨"cat", ["puss"], [], 9⟩]⟩) := ⟨_, rfl⟩
  obtain ⟨o, ho⟩ : ∃ o : SearchOptions, o = { backends := [1, 2], collections := [10, 20] } :=
    ⟨_, rfl⟩
  have hmain : (plan c thesaurus? "Ti'tle:sea" o).main.isSome = true := by
    rw [hc, ht, ho]
    decide +kernel
  have hmain' : (plan c' thesaurus?' "*:cat" o).main.isSome = true := by
    rw [hc', ht', ho]
    decide +kernel
  have hshape : (contributions c thesaurus? "Ti'tle:sea" o).map Contribution.shape =
      [[2], [1]] := by
    rw [hc, ht, ho]
    decide +kernel
  have hshape' : (contributions c' thesaurus?' "*:cat" o).map Contribution.shape = [[2], [1]] := by
    rw [hc', ht', ho]
    decide +kernel
  have hpanel : (panel? .english (plan c thesaurus? "Ti'tle:sea" o)).isSome = true := by
    rw [panel?_plan hmain, all_isEmpty_terms, hshape]
    rfl
  have hresists :=
    panel?_resists_injection hmain hmain' (hshape.trans hshape'.symm) .english .french
  exact ⟨c, c', thesaurus?, thesaurus?', o, hmain, hmain', hshape, hshape', hpanel,
    hresists.2.2.1⟩

end FederatedSearch.Query
