import FederatedSearch.Proofs.Index.Business
import FederatedSearch.Proofs.Index.Expansion
import FederatedSearch.Proofs.Query.Scoping

/-!
# What a restriction to fields keeps out

A search that is restricted to fields reads its text in their scope, and each leaf of the text looks
for its word there, the alternatives of a thesaurus included. Only what names a field by itself can
look elsewhere: a restriction in the text, a comparison, and a word of the vocabulary with a field.
Where these name none but fields on which two records agree, nothing tells the two records apart.

The record type is written into the text as it is, so it may name a field as well. It does not if it
is a plain word.

* `FederatedSearch.Record.AgreesOn`: two records agree on some fields.
* `FederatedSearch.Query.Expr.KeepsTo`, `FederatedSearch.Query.TextKeepsTo`: what names no other
  fields by itself.
* `FederatedSearch.Index.Matcher.reading_ofRecord`: **a query says the same of records that agree**
  on the fields that it keeps to.
* `FederatedSearch.Query.Target.restriction_confines`: what a plan with a restriction keeps out.
-/

namespace FederatedSearch

open Index Query

/-! ### Records and names -/

/-- **Two records agree on some fields**: the values of each of them are the same, in order, and so
are the status word, the type and the collection. -/
structure Record.AgreesOn (names : List String) (r r' : Record) : Prop where
  status : r.status = r'.status
  type : r.type = r'.type
  collection : r.collection = r'.collection
  values : ∀ name ∈ names, r.values name = r'.values name

/-- The name is among some names, up to the case of ASCII letters. -/
def IsAmong (names : List String) (name : String) : Prop :=
  ∃ n ∈ names, Text.sameAscii n name = true

theorem isAmong_of_mem {names : List String} {name : String} (h : name ∈ names) :
    IsAmong names name :=
  ⟨name, h, Text.sameAscii_refl name⟩

theorem Record.values_congr (r : Record) {name name' : String}
    (h : Text.sameAscii name name' = true) : r.values name = r.values name' := by
  simp only [values, Text.sameAscii, Text.sameAscii_iff.1 h]

theorem Record.AgreesOn.values_eq {names : List String} {r r' : Record} (h : r.AgreesOn names r')
    {name : String} (hname : IsAmong names name) : r.values name = r'.values name := by
  obtain ⟨n, hn, hsame⟩ := hname
  rw [← r.values_congr hsame, ← r'.values_congr hsame, h.values n hn]

/-! ### Queries -/

namespace Query

/-- **A node names no field but some** by itself: a restriction, a word of the vocabulary with a
field, or a comparison that is not about the status word or the type. -/
def Expr.KeepsTo (names : List String) : Expr → Prop
  | .within _ fields => ∀ name ∈ fields, IsAmong names name
  | .vocabulary (some name) _ => IsAmong names name
  | .compare name _ _ => Matcher.isReserved name = true ∨ IsAmong names name
  | _ => True

/-- **A text names no field but some** by itself. -/
def TextKeepsTo (names : List String) (text : String) : Prop :=
  ∀ e, parse text = .ok e → ∀ s ∈ e.nodes, s.KeepsTo names

/-- A node is no restriction, no word of the vocabulary with a field, and no comparison. -/
def Expr.namesNoField : Expr → Bool
  | .within _ _ | .vocabulary (some _) _ | .compare _ _ _ => false
  | _ => true

theorem Expr.keepsTo_of_namesNoField {names : List String} {s : Expr}
    (h : s.namesNoField = true) : s.KeepsTo names := by
  cases s with
  | within | compare => cases h
  | vocabulary field =>
    cases field with
    | none => exact trivial
    | some => cases h
  | all | term | phrase | and | or | except | group => exact trivial

/-- The text of a query without a record type names no field, when the raw text names none. -/
theorem textKeepsTo_base {names : List String} {raw : String} (h : TextKeepsTo names raw) :
    TextKeepsTo names (if Text.isBlankText raw then matchAll else raw) := by
  split
  · intro e he
    obtain rfl := Except.ok.inj (parse_matchAll.symm.trans he)
    exact List.forall_mem_singleton.2 trivial
  · exact h

/-- **A record type that is a plain word names no field.** -/
theorem textKeepsTo_queryText {names : List String} {raw : String} {o : SearchOptions}
    (h : TextKeepsTo names raw) (htype : ∀ type ∈ o.recordType, type = "" ∨ IsPlain type) :
    TextKeepsTo names (queryText raw o) := by
  have hbase := textKeepsTo_base h
  cases hrecord : o.recordType with
  | none => simpa only [queryText, hrecord] using hbase
  | some type =>
    rcases htype type hrecord with rfl | hplain
    · have hempty : ("" : String).isEmpty = true := rfl
      simpa only [queryText, hrecord, hempty, if_true] using hbase
    · intro e he
      obtain ⟨-, b, hb, rfl⟩ := (parse_queryText_eq_ok_iff hrecord hplain).1 he
      have htyped : (Expr.compare typeName .eq type).KeepsTo names := .inl (by decide +kernel)
      rw [Expr.nodes_and]
      refine List.forall_mem_cons.2 ⟨trivial, List.forall_mem_flatMap.2 ?_⟩
      exact Expr.forall_mem_pair.2 ⟨hbase b hb, List.forall_mem_singleton.2 htyped⟩

end Query

namespace Index.Matcher

/-! ### Searching another record -/

/-- The search of another record in the same way. -/
def ofRecord (m : Matcher) (r : Record) : Matcher := { m with record := r }

/-- A field may be searched by each of its names. -/
theorem mayLookAt_congr (m : Matcher) {name name' : String}
    (h : Text.sameAscii name name' = true) : m.mayLookAt name = m.mayLookAt name' := by
  rw [mayLookAt, m.backend.field?_congr h, mayLookAt]

/-- **What is searched in a scope** are the values of the fields in it that may be searched. -/
theorem mem_searchable_iff (m : Matcher) (names : List String) (v : String) :
    v ∈ m.searchable (some names) ↔
      ∃ name ∈ names, m.mayLookAt name = true ∧ v ∈ m.record.values name := by
  simp only [searchable, inScope, Record.values, List.mem_map, List.mem_filter, Bool.and_eq_true,
    List.any_eq_true]
  constructor
  · rintro ⟨f, ⟨hf, hlook, name, hname, hsame⟩, rfl⟩
    refine ⟨name, hname, ?_, f, ⟨hf, Text.sameAscii_comm _ _ ▸ hsame⟩, rfl⟩
    rw [m.mayLookAt_congr hsame, hlook]
  · rintro ⟨name, hname, hlook, f, ⟨hf, hsame⟩, rfl⟩
    refine ⟨f, ⟨hf, ?_, name, hname, Text.sameAscii_comm _ _ ▸ hsame⟩, rfl⟩
    rw [m.mayLookAt_congr hsame, hlook]

/-- The scopes in which some fields only are searched. -/
def ScopeAmong (names : List String) (scope : Option (List String)) : Prop :=
  ∃ fields, scope = some fields ∧ ∀ name ∈ fields, IsAmong names name

section Agreement

variable {names : List String} {m : Matcher} {r : Record} (h : m.record.AgreesOn names r)

include h

/-- In scopes where two records agree, the same values are searched. -/
theorem mem_searchable_ofRecord {scope : Option (List String)} (hscope : ScopeAmong names scope)
    (v : String) : v ∈ (m.ofRecord r).searchable scope ↔ v ∈ m.searchable scope := by
  obtain ⟨fields, rfl, hfields⟩ := hscope
  rw [mem_searchable_iff, mem_searchable_iff]
  refine exists_congr fun name => and_congr_right fun hname => and_congr_right fun _ => ?_
  rw [h.values_eq (hfields name hname)]
  rfl

theorem any_searchable_ofRecord {scope : Option (List String)} (hscope : ScopeAmong names scope)
    (p : String → Bool) :
    ((m.ofRecord r).searchable scope).any p = (m.searchable scope).any p := by
  rw [Bool.eq_iff_iff, List.any_eq_true, List.any_eq_true]
  exact exists_congr fun v => and_congr_left fun _ => mem_searchable_ofRecord h hscope v

theorem hasTerm_ofRecord {scope : Option (List String)} (hscope : ScopeAmong names scope)
    (word : String) : (m.ofRecord r).hasTerm scope word = m.hasTerm scope word :=
  any_searchable_ofRecord h hscope _

theorem hasPhrase_ofRecord {scope : Option (List String)} (hscope : ScopeAmong names scope)
    (phrase : String) : (m.ofRecord r).hasPhrase scope phrase = m.hasPhrase scope phrase := by
  rw [hasPhrase, any_searchable_ofRecord h hscope, hasPhrase]
  rfl

/-- A comparison of the status word, the type or a field on which two records agree says the same of
both. -/
theorem compares_ofRecord {name : String} (hname : isReserved name = true ∨ IsAmong names name)
    (op : Comparison) (value : String) :
    (m.ofRecord r).compares name op value = m.compares name op value := by
  refine compares_congr (m.ofRecord r) m rfl h.status.symm h.type.symm (fun hfield => ?_) op value
  have hamong : IsAmong names name :=
    hname.resolve_left fun hreserved => Bool.false_ne_true (hfield.symm.trans hreserved)
  exact (h.values_eq hamong).symm

/-! ### Leaves and queries -/

/-- A leaf that names no field but some says the same of records that agree on them. -/
theorem holds_leaf_ofRecord {scope : Option (List String)} (hscope : ScopeAmong names scope)
    {leaf : Expr} (hleaf : leaf.isLeaf = true) (hkeeps : leaf.KeepsTo names) :
    (m.ofRecord r).holds scope leaf = m.holds scope leaf := by
  cases leaf with
  | all => rfl
  | term word => exact hasTerm_ofRecord h hscope word
  | phrase text => exact hasPhrase_ofRecord h hscope text
  | compare name op value => exact compares_ofRecord h hkeeps op value
  | vocabulary field word =>
    cases field with
    | none => exact hasTerm_ofRecord h hscope word
    | some name => exact hasTerm_ofRecord h ⟨[name], rfl, List.forall_mem_singleton.2 hkeeps⟩ word
  | and | or | except | within | group => cases hleaf

/-- **The alternatives of a leaf are looked for where the leaf is.** -/
theorem expandedLeaf_ofRecord (ts : List Thesaurus) {scope : Option (List String)}
    (hscope : ScopeAmong names scope) {leaf : Expr} (hleaf : leaf.isLeaf = true)
    (hkeeps : leaf.KeepsTo names) :
    (m.ofRecord r).expandedLeaf ts scope leaf = m.expandedLeaf ts scope leaf := by
  have hsame := holds_leaf_ofRecord h hscope hleaf hkeeps
  cases leaf with
  | all | term | phrase | compare => exact hsame
  | vocabulary field word =>
    rw [expandedLeaf, expandedLeaf, Expr.expand]
    by_cases hnone : Thesaurus.mergedAlternatives ts word = []
    · rw [Expr.expandWord, hnone]
      exact hsame
    · have hreach : ScopeAmong names (reach scope field) := by
        cases field with
        | none => exact hscope
        | some name => exact ⟨[name], rfl, List.forall_mem_singleton.2 hkeeps⟩
      rw [holds_expandWord _ _ _ hnone, holds_expandWord _ _ _ hnone]
      refine congrArg _ (funext fun value => ?_)
      rw [holds_branch, holds_branch, Expr.ofValue]
      split
      · exact hasPhrase_ofRecord h hreach value
      · exact hasTerm_ofRecord h hreach value
  | and | or | except | within | group => cases hleaf

/-- A node that names no field but some says the same of records that agree on them, with a
thesaurus or without. -/
theorem agreesAt_of_keepsTo (t : Option Thesaurus) {s : Expr} (hkeeps : s.KeepsTo names) :
    s.AgreesAt (ScopeAmong names) ((m.ofRecord r).leafValue t) (m.leafValue t) where
  leaf hleaf scope hscope := by
    cases t with
    | none => exact holds_leaf_ofRecord h hscope hleaf hkeeps
    | some t => exact expandedLeaf_ofRecord h [t] hscope hleaf hkeeps
  within inner fields hs := by
    subst hs
    exact ⟨fields, rfl, hkeeps⟩

/-- **A query says the same of records that agree** on the fields that it keeps to and is read
in. -/
theorem reading_ofRecord (t : Option Thesaurus) {e : Expr}
    (hkeeps : ∀ s ∈ e.nodes, s.KeepsTo names) {scope : Option (List String)}
    (hscope : ScopeAmong names scope) :
    e.reading ((m.ofRecord r).leafValue t) scope = e.reading (m.leafValue t) scope :=
  Expr.reading_congr_scoped (fun s hs => agreesAt_of_keepsTo h t (hkeeps s hs)) hscope

/-! ### Clauses -/

theorem statusHolds_ofRecord (status : StatusFilter) (backend : Nat) :
    (m.ofRecord r).statusHolds status backend = m.statusHolds status backend := by
  rw [statusHolds, statusHolds, h.status]
  rfl

/-- A bound on fields on which two records agree says the same of both. -/
theorem boundHolds_ofRecord {fields : List String}
    (hfields : ∀ name ∈ fieldNames fields, IsAmong names name) (op : Comparison)
    (date : Option Calendar.Date) :
    (m.ofRecord r).boundHolds fields op date = m.boundHolds fields op date := by
  cases date with
  | none => rfl
  | some d =>
    rw [boundHolds, boundHolds]
    refine if_congr Iff.rfl rfl ?_
    rw [Bool.eq_iff_iff, List.any_eq_true, List.any_eq_true]
    refine exists_congr fun name => and_congr_right fun hname => ?_
    rw [compares_ofRecord h (.inr (hfields name hname))]

/-- **A query with clauses says the same of records that agree** on the fields that it is restricted
to, those of its bounds, and those that it names itself. -/
theorem holds_withClauses_ofRecord (t : Option Thesaurus) {o : SearchOptions} {backend : Nat}
    {base : Expr} (hrestricted : fieldNames o.fields ≠ [])
    (hfields : ∀ name ∈ fieldNames o.fields, IsAmong names name)
    (hdates : ∀ name ∈ fieldNames o.dateFields, IsAmong names name)
    (hkeeps : ∀ s ∈ base.nodes, s.KeepsTo names) :
    ((withClauses o backend base).reading ((m.ofRecord r).leafValue t) none).holds =
      ((withClauses o backend base).reading (m.leafValue t) none).holds := by
  have hscope : ScopeAmong names (scopeOf o.fields) := by
    rw [scopeOf, if_neg hrestricted]
    exact ⟨_, rfl, hfields⟩
  rw [Bool.eq_iff_iff, holds_reading_withClauses_iff (compares_leafValue _ t),
    holds_reading_withClauses_iff (compares_leafValue _ t), reading_ofRecord h t hkeeps hscope,
    statusHolds_ofRecord h, boundHolds_ofRecord h hdates, boundHolds_ofRecord h hdates]

end Agreement

end Index.Matcher

/-! ### Plans -/

namespace Query

variable {c : Catalog} {thesaurus? : Nat → Option Thesaurus} {o : SearchOptions} {raw : String}
  {id : Nat} {p : Plan}

/-- **A restriction to fields confines what a plan looks at.** Let a search be restricted to some
field. A raw text that names no field by itself, with a plain word for a record type or none, makes
a text that keeps to the fields of the restriction and of the date bounds. And for every text that
keeps to them, the query of a backend, as it is compiled and as it is executed with the alternatives
of a thesaurus, says the same of two records that agree on these fields, whatever else is in
them. -/
theorem Target.restriction_confines
    (hplan : (target c thesaurus? o (queryText raw o) id).plan? = some p)
    (hrestricted : fieldNames o.fields ≠ []) :
    ((∀ e, parse raw = .ok e → ∀ s ∈ e.nodes, s.namesNoField = true) →
      (∀ type ∈ o.recordType, type = "" ∨ IsPlain type) →
        TextKeepsTo (fieldNames o.fields ++ fieldNames o.dateFields) (queryText raw o)) ∧
    (TextKeepsTo (fieldNames o.fields ++ fieldNames o.dateFields) (queryText raw o) →
      ∃ q, compile (backendQueryText (queryText raw o) o id) = .ok q ∧
        ∀ (b : Backend) (business : List Nat) (stemmer : Option Stemmer) (r r' : Record),
          r.AgreesOn (fieldNames o.fields ++ fieldNames o.dateFields) r' →
            ∀ tree ∈ [q.tree, p.query.tree],
              Matcher.holds ⟨b, r, business.contains r.collection, stemmer⟩ none tree =
                Matcher.holds ⟨b, r', business.contains r'.collection, stemmer⟩ none tree) := by
  refine ⟨fun hraw htype => ?_, fun hkeeps => ?_⟩
  · exact textKeepsTo_queryText (fun e he s hs => Expr.keepsTo_of_namesNoField (hraw e he s hs))
      htype
  · obtain ⟨-, q, hq, -⟩ := targetOf_of_plan? hplan
    obtain ⟨e, he, rfl⟩ := compile_eq_ok_iff.1 hq
    obtain ⟨-, base, hbase, rfl⟩ := parse_backendQueryText_eq_ok_iff.1 he
    obtain ⟨base', hbase', hexecuted⟩ := Target.exists_of_plan? hplan
    obtain rfl : base = base' := Except.ok.inj (hbase.symm.trans hbase')
    refine ⟨_, hq, fun b business stemmer r r' hagree tree htree => ?_⟩
    -- both trees are read from the text with its clauses, the second one with a thesaurus
    obtain ⟨t, hread⟩ : ∃ t, ∀ m : Matcher, m.holds none tree =
        ((withClauses o id base).reading (m.leafValue t) none).holds := by
      rcases List.mem_pair.1 htree with rfl | rfl
      · exact ⟨none, fun m => m.holds_normalize none _⟩
      · exact ⟨_, hexecuted⟩
    rw [hread, hread, ← hagree.collection]
    exact (Matcher.holds_withClauses_ofRecord hagree t hrestricted
      (fun name hname => isAmong_of_mem (List.mem_append_left _ hname))
      (fun name hname => isAmong_of_mem (List.mem_append_right _ hname)) (hkeeps base hbase)).symm

/-- A search of the titles of the press photos for records of a type. -/
def titlesOf (type : String) : SearchOptions :=
  { backends := [1], collections := [10], fields := ["Title"], recordType := some type }

/-- What becomes of the photos in a search of their titles for a cat of a type. -/
def catTarget (type : String) : Target :=
  target ⟨[Demo.photosBackend]⟩ (fun _ => none) (titlesOf type) (queryText "cat" (titlesOf type)) 1

/-- A photo of a dog with a note. -/
def dogPhoto (note : String) : Record := Demo.image 104 10 [("Title", "dog"), ("Note", note)]

theorem dogPhoto_agreesOn (type note note' : String) :
    (dogPhoto note).AgreesOn (fieldNames (titlesOf type).fields ++
      fieldNames (titlesOf type).dateFields) (dogPhoto note') := by
  refine ⟨rfl, rfl, rfl, fun name hname => ?_⟩
  have htitle : fieldNames ["Title"] = ["Title"] := by decide +kernel
  have hnone : fieldNames [] = [] := rfl
  simp only [titlesOf, htitle, hnone, List.append_nil, List.mem_singleton] at hname
  subst hname
  simp [Record.values, dogPhoto, Demo.image, Text.sameAscii, Text.asciiLower]

theorem namesNoField_of_parse_cat : ∃ e, parse "cat" = .ok e ∧
    ∀ s ∈ e.nodes, s.namesNoField = true := by
  have hread : ((parse "cat").toOption.any fun e => e.nodes.all Expr.namesNoField) = true := by
    decide +kernel
  obtain ⟨e, he, hnodes⟩ := (Option.any_eq_true _ _).1 hread
  exact ⟨e, toOption_eq_some_iff.1 he, List.all_eq_true.1 hnodes⟩

/-- A search of titles for images of a cat does not tell photos apart by their notes. -/
theorem restriction_confines_cat : ∃ p, (catTarget "image").plan? = some p ∧
    fieldNames (titlesOf "image").fields ≠ [] ∧
    ∀ note note', Matcher.holds ⟨Demo.photosBackend, dogPhoto note, false, none⟩ none p.query.tree =
      Matcher.holds ⟨Demo.photosBackend, dogPhoto note', false, none⟩ none p.query.tree := by
  have hplan : (catTarget "image").plan?.isSome = true := by decide +kernel
  have hrestricted : fieldNames (titlesOf "image").fields ≠ [] := by decide +kernel
  have hplain : IsPlain "image" :=
    ⟨by decide, List.all_eq_true.1 (by decide +kernel)⟩
  obtain ⟨p, hp⟩ := Option.isSome_iff_exists.1 hplan
  obtain ⟨hkeeps, hconfined⟩ := Target.restriction_confines hp hrestricted
  obtain ⟨e, he, hnodes⟩ := namesNoField_of_parse_cat
  have htext := hkeeps (fun e' he' => Except.ok.inj (he.symm.trans he') ▸ hnodes)
    (fun type htype => .inr (Option.some.inj htype ▸ hplain))
  obtain ⟨q, -, hsame⟩ := hconfined htext
  refine ⟨p, hp, hrestricted, fun note note' => ?_⟩
  exact hsame Demo.photosBackend [] none (dogPhoto note) (dogPhoto note')
    (dogPhoto_agreesOn "image" note note') p.query.tree (by simp)

/-- **A record type that is no plain word looks elsewhere**: it can name a field of its own, so that
a search of titles for a cat tells two photos of a dog apart by their notes. -/
theorem not_forall_restriction_confines :
    ¬∀ (c : Catalog) (thesaurus? : Nat → Option Thesaurus) (o : SearchOptions) (raw : String)
      (id : Nat) (p : Plan), (target c thesaurus? o (queryText raw o) id).plan? = some p →
      fieldNames o.fields ≠ [] →
      (∃ e, parse raw = .ok e ∧ ∀ s ∈ e.nodes, s.namesNoField = true) →
      ∀ (b : Backend) (business : List Nat) (stemmer : Option Stemmer) (r r' : Record),
        r.AgreesOn (fieldNames o.fields ++ fieldNames o.dateFields) r' → r.kind = r'.kind →
          Matcher.holds ⟨b, r, business.contains r.collection, stemmer⟩ none p.query.tree =
            Matcher.holds ⟨b, r', business.contains r'.collection, stemmer⟩ none p.query.tree := by
  intro h
  let type := "image OR Note=hush"
  have htold : ((catTarget type).plan?.any fun p =>
      Matcher.holds ⟨Demo.photosBackend, dogPhoto "hush", false, none⟩ none p.query.tree &&
        !Matcher.holds ⟨Demo.photosBackend, dogPhoto "calm", false, none⟩ none p.query.tree) =
      true := by
    decide +kernel
  obtain ⟨p, hp, htold⟩ := (Option.any_eq_true _ _).1 htold
  have hsame := h _ _ (titlesOf type) "cat" 1 p hp (by decide +kernel) namesNoField_of_parse_cat
    Demo.photosBackend [] none _ _ (dogPhoto_agreesOn type "hush" "calm") rfl
  obtain ⟨hhush, hcalm⟩ := Bool.and_eq_true_iff.1 htold
  rw [Bool.not_eq_true'] at hcalm
  rw [List.contains_nil, List.contains_nil, hhush, hcalm] at hsame
  cases hsame

end Query

end FederatedSearch
