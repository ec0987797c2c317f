import FederatedSearch.Index.Demo
import FederatedSearch.Proofs.Index.Matching
import FederatedSearch.Proofs.Index.Status
import FederatedSearch.Proofs.Query.Targets

/-!
# Filters and the records that escape them

The options of a search filter its results by status bits, record type and dates. The filters are
clauses that are appended to the text of the query, and a clause binds to the last of the segments
that `OR` makes of the text. So a record that matches an earlier segment is found whatever the
clauses after it say, unless a restriction to fields stands in between, which takes all that is
before it as one operand.

* `FederatedSearch.Index.Matcher.Satisfies`: a record satisfies the filters.
* `FederatedSearch.Index.Matcher.Escapes`: a record is found without being filtered.
* `FederatedSearch.Query.Target.satisfies_iff`: for every text and all options, the filters hold of
  all that is found exactly when they hold of all that escapes.
-/

namespace FederatedSearch.Index.Matcher

open Query Calendar

/-! ### The filters -/

/-- Some value of a date field compares as asked with a date, unless there is no field to look
at. -/
def HasDate (m : Matcher) (fields : List String) (op : Comparison) (date : Date) : Prop :=
  fieldNames fields ≠ [] → ∃ name ∈ fieldNames fields, ∃ v ∈ m.record.values name,
    (compareValues (m.backend.kindOf name) v date.toText).any op.accepts = true

/-- **A record satisfies the filters** of the options on a backend. -/
structure Satisfies (m : Matcher) (o : SearchOptions) (backend : Nat) : Prop where
  /-- Each status bit that is fixed has its value. -/
  status : ∀ bit value, StatusFilter.firstBit ≤ bit → bit ≤ StatusFilter.lastBit →
    o.status.lookup bit backend = some (some value) → m.record.status.getLsbD bit = value
  /-- The record has the type that is asked for, up to the case of letters. -/
  type : ∀ type, o.recordType = some type → IsPlain type →
    Text.lowercase m.record.type.toList = Text.lowercase type.toList
  /-- Some date is not too early. -/
  minDate : ∀ date, o.minDate = some date → m.HasDate o.dateFields .ge date
  /-- Some date is not too late. -/
  maxDate : ∀ date, o.maxDate = some date → m.HasDate o.dateFields .le date

/-! ### The clauses -/

variable (m : Matcher)

/-- The status clause holds, or there is none. -/
def statusHolds (status : StatusFilter) (backend : Nat) : Bool :=
  statusAgrees m.record.status ((status.bits? backend).getD "")

/-- The clause of a date bound holds, or there is none. -/
def boundHolds (fields : List String) (op : Comparison) (date : Option Date) : Bool :=
  match date with
  | none => true
  | some d =>
    if fieldNames fields = [] then true
    else (fieldNames fields).any fun name => m.compares name op d.toText

/-- The scope in which a query is read that is restricted to fields. -/
def scopeOf (fields : List String) : Option (List String) :=
  if fieldNames fields = [] then none else some (fieldNames fields)

/-- A valuation in which comparisons are those of the record. -/
def Compares (value : Valuation) : Prop :=
  ∀ scope field op v, value scope (.compare field op v) = m.compares field op v

/-! ### Reading the clauses -/

section Reading

variable {m} {value : Valuation} (hvalue : m.Compares value)

/-- A conjunct that is appended changes the last segment only. -/
theorem reading_and_group (scope : Option (List String)) (left right : Expr) :
    (Expr.and [left, .group right]).reading value scope =
      (left.reading value scope).step .and (right.reading value scope).holds := by
  rw [Expr.reading, Expr.operand]

include hvalue

theorem operand_compare (scope : Option (List String)) (field : String) (op : Comparison)
    (v : String) :
    (Expr.compare field op v).operand value scope = m.compares field op v := by
  rw [Expr.operand]
  · exact hvalue scope field op v
  all_goals nofun

theorem reading_compare (scope : Option (List String)) (field : String) (op : Comparison)
    (v : String) :
    (Expr.compare field op v).reading value scope = .ofOperand (m.compares field op v) := by
  rw [Expr.reading, operand_compare hvalue]
  all_goals nofun

omit hvalue in
theorem compares_statusName (bits : String) :
    m.compares statusName .eq bits = statusAgrees m.record.status bits := by
  simp only [compares, show Text.sameAscii statusName statusField = true by decide, if_true]
  rfl

omit hvalue in
theorem compares_typeName (type : String) : m.compares typeName .eq type = true ↔
    Text.lowercase m.record.type.toList = Text.lowercase type.toList := by
  have hstatus : Text.sameAscii typeName statusField = false := by decide
  have htype : Text.sameAscii typeName typeField = true := by decide
  simp only [compares, hstatus, htype, Bool.false_eq_true, if_false, if_true, Comparison.accepts,
    beq_iff_eq]
  constructor
  · exact Text.eq_of_cmpChars
  · intro h
    rw [h, Text.cmpChars_self]

/-- The status clause is a conjunct of the last segment. -/
theorem reading_withStatus (status : StatusFilter) (backend : Nat)
    (scope : Option (List String)) (e : Expr) :
    (withStatus status backend e).reading value scope =
      (e.reading value scope).step .and (m.statusHolds status backend) := by
  unfold withStatus statusHolds
  cases status.bits? backend with
  | none => simp [statusAgrees, bitsAgree]
  | some bits =>
    rw [reading_and_group, reading_compare hvalue, Reading.holds_ofOperand, compares_statusName,
      Option.getD_some]

/-- Bounds hold when one of them does. -/
theorem holds_reading_orBounds (op : Comparison) (date : Date) (scope : Option (List String))
    (names : List String) : ∀ left : Expr,
      ((orBounds op date left names).reading value scope).holds =
        ((left.reading value scope).holds ||
          names.any fun name => m.compares name op date.toText) := by
  induction names with
  | nil => simp [orBounds]
  | cons name names ih =>
    intro left
    rw [orBounds, List.foldl_cons, ← orBounds, ih, Expr.reading, bound, operand_compare hvalue,
      List.any_cons, Reading.step_or]
    simp only [Reading.holds, Bool.or_assoc]

/-- The clause of a bound is a conjunct of the last segment. -/
theorem reading_withBound (fields : List String) (op : Comparison) (date : Option Date)
    (scope : Option (List String)) (e : Expr) :
    (withBound fields op date e).reading value scope =
      (e.reading value scope).step .and (m.boundHolds fields op date) := by
  unfold withBound boundHolds
  cases date with
  | none => simp
  | some d =>
    rcases fieldNames fields with - | ⟨name, names⟩
    · simp
    · simp only [reduceCtorEq, if_false, reading_and_group, bounds,
        holds_reading_orBounds hvalue, bound, reading_compare hvalue, Reading.holds_ofOperand,
        List.any_cons]

omit hvalue in
/-- A restriction to fields makes one segment of all that is before it. -/
theorem reading_withFields (fields : List String) (e : Expr) :
    (withFields fields e).reading value none =
      if fieldNames fields = [] then e.reading value none
      else .ofOperand (e.reading value (some (fieldNames fields))).holds := by
  unfold withFields
  split
  · rfl
  · rw [Expr.reading, Expr.operand]
    all_goals nofun

/-- **When a query with clauses holds**: an earlier segment decides by itself, but for the bounds
after a restriction to fields, and the last segment needs all the clauses. -/
theorem holds_reading_withClauses_iff {o : SearchOptions} {backend : Nat} {e : Expr} :
    ((withClauses o backend e).reading value none).holds = true ↔
      ((e.reading value (scopeOf o.fields)).earlier = true ∧
        (fieldNames o.fields ≠ [] → m.boundHolds o.dateFields .ge o.minDate = true ∧
          m.boundHolds o.dateFields .le o.maxDate = true)) ∨
      ((e.reading value (scopeOf o.fields)).last = true ∧ m.statusHolds o.status backend = true ∧
        m.boundHolds o.dateFields .ge o.minDate = true ∧
          m.boundHolds o.dateFields .le o.maxDate = true) := by
  rw [withClauses, reading_withBound hvalue, reading_withBound hvalue, reading_withFields, scopeOf]
  split
  · -- no restriction: every clause is a conjunct of the last segment
    rename_i hfields
    rw [reading_withStatus hvalue]
    simp only [Reading.step_and, Reading.holds, Bool.or_eq_true, Bool.and_eq_true, hfields, ne_eq,
      not_true_eq_false, false_implies, and_true, and_assoc]
  · -- all that is before the restriction is one operand, and the bounds come after it
    rename_i hfields
    rw [reading_withStatus hvalue]
    simp only [Reading.step_and, Reading.holds, Reading.ofOperand, Bool.or_eq_true,
      Bool.and_eq_true, Bool.false_or, hfields, ne_eq, not_false_eq_true, forall_const, and_assoc,
      or_and_right]

end Reading

/-! ### Escaping -/

/-- A name that stands for the status word or the type in a comparison. -/
def isReserved (name : String) : Bool :=
  Text.sameAscii name statusField || Text.sameAscii name typeField

/-- **A record escapes the filters.** -/
inductive Escapes (m : Matcher) (value : Valuation) (o : SearchOptions) (backend : Nat)
    (base : Expr) : Prop
  /-- An earlier segment of the query holds, and the bounds after a restriction to fields do. -/
  | earlier (hearlier : (base.reading value (scopeOf o.fields)).earlier = true)
    (hbounds : fieldNames o.fields ≠ [] → m.boundHolds o.dateFields .ge o.minDate = true ∧
      m.boundHolds o.dateFields .le o.maxDate = true)
  /-- The query with its clauses holds, but a date bound looks at the status word or the type. -/
  | reserved (hholds : ((withClauses o backend base).reading value none).holds = true)
    (hrange : o.hasDateRange = true) (name : String) (hname : name ∈ fieldNames o.dateFields)
    (hreserved : isReserved name = true)

variable {m}

/-- A comparison of a field looks at its values. -/
theorem compares_of_isReserved_eq_false {name : String} (h : isReserved name = false)
    (op : Comparison) (value : String) :
    m.compares name op value = (m.record.values name).any fun v =>
      (compareValues (m.backend.kindOf name) v value).any op.accepts := by
  simp only [isReserved, Bool.or_eq_false_iff] at h
  simp only [compares, h.1, h.2, Bool.false_eq_true, if_false]

/-- **What a comparison looks at**: the status word, the type, or the values of its field. -/
theorem compares_congr (m m' : Matcher) {name : String} (hbackend : m.backend = m'.backend)
    (hstatus : m.record.status = m'.record.status) (htype : m.record.type = m'.record.type)
    (hvalues : isReserved name = false → m.record.values name = m'.record.values name)
    (op : Comparison) (value : String) : m.compares name op value = m'.compares name op value := by
  cases hreserved : isReserved name with
  | false =>
    rw [compares_of_isReserved_eq_false hreserved, compares_of_isReserved_eq_false hreserved,
      hbackend, hvalues hreserved]
  | true =>
    rw [isReserved, Bool.or_eq_true] at hreserved
    unfold compares
    split
    · rw [hstatus]
    · next hname =>
      rw [if_pos (hreserved.resolve_left hname), if_pos (hreserved.resolve_left hname), htype]

/-- A bound on a field that is not reserved is one on its values. -/
theorem hasDate_of_boundHolds {fields : List String} {op : Comparison} {date : Date}
    (hreserved : ∀ name ∈ fieldNames fields, isReserved name = false)
    (h : m.boundHolds fields op (some date) = true) : m.HasDate fields op date := by
  intro hne
  simp only [boundHolds, hne, if_false] at h
  obtain ⟨name, hname, hcompares⟩ := List.any_eq_true.1 h
  rw [compares_of_isReserved_eq_false (hreserved name hname)] at hcompares
  obtain ⟨v, hv, hcompare⟩ := List.any_eq_true.1 hcompares
  exact ⟨name, hname, v, hv, hcompare⟩

/-- The last segment of a query with a record type has that type. -/
theorem type_of_last {value : Valuation} (hvalue : m.Compares value) {raw : String}
    {o : SearchOptions} {base : Expr} (hbase : parse (queryText raw o) = .ok base)
    {scope : Option (List String)} (hlast : (base.reading value scope).last = true) {type : String}
    (htype : o.recordType = some type) (hplain : IsPlain type) :
    Text.lowercase m.record.type.toList = Text.lowercase type.toList := by
  obtain ⟨-, e, -, rfl⟩ := (parse_queryText_eq_ok_iff htype hplain).1 hbase
  rw [Expr.reading, operand_compare hvalue, Reading.step_and, Bool.and_eq_true] at hlast
  exact (compares_typeName type).1 hlast.2

/-- **The last segment is filtered** by all the clauses, but for bounds on reserved names. -/
theorem satisfies_of_last {value : Valuation} (hvalue : m.Compares value) {raw : String}
    {o : SearchOptions} {backend : Nat} {base : Expr} (hbase : parse (queryText raw o) = .ok base)
    {scope : Option (List String)} (hlast : (base.reading value scope).last = true)
    (hstatus : m.statusHolds o.status backend = true)
    (hmin : m.boundHolds o.dateFields .ge o.minDate = true)
    (hmax : m.boundHolds o.dateFields .le o.maxDate = true)
    (hreserved : o.hasDateRange = true →
      ∀ name ∈ fieldNames o.dateFields, isReserved name = false) :
    m.Satisfies o backend := by
  refine ⟨?_, ?_, ?_, ?_⟩
  · exact StatusFilter.statusAgrees_bits?_iff.1 hstatus
  · intro type htype hplain
    exact type_of_last hvalue hbase hlast htype hplain
  · intro date hdate
    rw [hdate] at hmin
    exact hasDate_of_boundHolds (hreserved (by simp [SearchOptions.hasDateRange, hdate])) hmin
  · intro date hdate
    rw [hdate] at hmax
    exact hasDate_of_boundHolds (hreserved (by simp [SearchOptions.hasDateRange, hdate])) hmax

/-- **A record that is found satisfies the filters, or escapes them.** -/
theorem satisfies_or_escapes {value : Valuation} (hvalue : m.Compares value) {raw : String}
    {o : SearchOptions} {backend : Nat} {base : Expr} (hbase : parse (queryText raw o) = .ok base)
    (h : ((withClauses o backend base).reading value none).holds = true) :
    m.Satisfies o backend ∨ m.Escapes value o backend base := by
  rcases (holds_reading_withClauses_iff hvalue).1 h with
    ⟨hearlier, hbounds⟩ | ⟨hlast, hstatus, hmin, hmax⟩
  · exact .inr (.earlier hearlier hbounds)
  · -- the last segment has all the clauses; a bound can fail to say what is asked for only by the
    -- name that it is about
    by_cases hreserved : o.hasDateRange = true ∧
        ∃ name ∈ fieldNames o.dateFields, isReserved name = true
    · obtain ⟨hrange, name, hname, hname'⟩ := hreserved
      exact .inr (.reserved h hrange name hname hname')
    · refine .inl (satisfies_of_last hvalue hbase hlast hstatus hmin hmax
        fun hrange name hname => Bool.eq_false_iff.2 fun hname' => ?_)
      exact hreserved ⟨hrange, name, hname, hname'⟩

/-- A record that escapes is found. -/
theorem Escapes.holds {value : Valuation} (hvalue : m.Compares value) {o : SearchOptions}
    {backend : Nat} {base : Expr} (h : m.Escapes value o backend base) :
    ((withClauses o backend base).reading value none).holds = true := by
  cases h with
  | earlier hearlier hbounds =>
    exact (holds_reading_withClauses_iff hvalue).2 (.inl ⟨hearlier, hbounds⟩)
  | reserved hholds _ _ _ _ => exact hholds

/-! ### Plans -/

/-- What the leaves say of a record when a thesaurus may be used. -/
def leafValue (m : Matcher) : Option Thesaurus → Valuation
  | none => m.holds
  | some t => m.expandedLeaf [t]

theorem compares_leafValue (m : Matcher) (t : Option Thesaurus) : m.Compares (m.leafValue t) := by
  intro scope field op v
  cases t <;> rfl

end FederatedSearch.Index.Matcher

namespace FederatedSearch.Query

open Index

/-- What a plan of a compiled query finds is what its leaves are read to find. -/
theorem holds_of_targetOf {b : Backend} {thesaurus? : Nat → Option Thesaurus} {id : Nat}
    {collections : List Nat} {q : CompiledQuery} {e : Expr} (hq : q.tree = e.normalize) {p : Plan}
    (hplan : (targetOf b thesaurus? id collections q).plan? = some p) (m : Matcher) :
    m.holds none p.query.tree =
      (e.reading (m.leafValue (targetOf b thesaurus? id collections q).thesaurus?) none).holds := by
  unfold targetOf at hplan ⊢
  split
  · -- without a thesaurus the tree of the plan is the normal form
    rename_i hnone
    simp only [hnone, Target.plan?, Option.some.injEq] at hplan
    rw [← hplan, hq]
    exact m.holds_normalize none e
  · -- with one it is the normal form with each leaf expanded
    rename_i t hsome
    simp only [hsome, Target.plan?, Option.some.injEq] at hplan
    rw [← hplan]
    simp only [hq, Matcher.holds_expand, Expr.means_normalize]
    rfl

/-- **What a plan finds is what its text is read to find**, with the clauses of the options. -/
theorem Target.exists_of_plan? {c : Catalog} {thesaurus? : Nat → Option Thesaurus}
    {o : SearchOptions} {text : String} {id : Nat} {p : Plan}
    (hplan : (target c thesaurus? o text id).plan? = some p) :
    ∃ base, parse text = .ok base ∧ ∀ m : Matcher, m.holds none p.query.tree =
      ((withClauses o id base).reading
        (m.leafValue (target c thesaurus? o text id).thesaurus?) none).holds := by
  obtain ⟨b, q, hq, htarget⟩ := targetOf_of_plan? hplan
  obtain ⟨e, he, rfl⟩ := compile_eq_ok_iff.1 hq
  obtain ⟨-, base, hbase, rfl⟩ := parse_backendQueryText_eq_ok_iff.1 he
  rw [htarget] at hplan ⊢
  exact ⟨base, hbase, holds_of_targetOf rfl hplan⟩

/-- **What a plan finds satisfies the filters, but for what escapes them**, and all that escapes is
found: being found implies the filters for a record exactly when escaping implies them. -/
theorem Target.satisfies_iff {c : Catalog} {thesaurus? : Nat → Option Thesaurus}
    {o : SearchOptions} {raw : String} {id : Nat} {p : Plan}
    (hplan : (target c thesaurus? o (queryText raw o) id).plan? = some p) :
    ∃ base, parse (queryText raw o) = .ok base ∧ ∀ m : Matcher,
      (m.holds none p.query.tree = true → m.Satisfies o id) ↔
        (m.Escapes (m.leafValue (target c thesaurus? o (queryText raw o) id).thesaurus?) o id base →
          m.Satisfies o id) := by
  obtain ⟨base, hbase, hholds⟩ := Target.exists_of_plan? hplan
  refine ⟨base, hbase, fun m => ?_⟩
  have hvalue := m.compares_leafValue
    (target c thesaurus? o (queryText raw o) id).thesaurus?
  rw [hholds m]
  constructor
  · intro h hescapes
    exact h (hescapes.holds hvalue)
  · intro h hfound
    rcases Matcher.satisfies_or_escapes hvalue hbase hfound with hsatisfies | hescapes
    · exact hsatisfies
    · exact h hescapes

/-! ### A record that escapes -/

/-- The options of a search of the press photos whose status bit 4 is set. -/
def flaggedOnly : SearchOptions :=
  { backends := [1], collections := [10], status := .require .empty 4 1 true }

/-- What becomes of the photos in a search for a text. -/
def photosTarget (raw : String) : Target :=
  target ⟨[Demo.photosBackend]⟩ (fun _ => none) flaggedOnly (queryText raw flaggedOnly) 1

/-- A photo of a beach, whose status bits are all clear. -/
def beachPhoto : Matcher where
  backend := Demo.photosBackend
  record := Demo.image 102 10 [("Title", "Crowded beach in August")]
  business := false
  stemmer := none

/-- A search for one word finds only what satisfies the filters, since no record escapes. -/
theorem satisfies_of_word : ∃ p, (photosTarget "beach").plan? = some p ∧
    ∀ m : Matcher, m.holds none p.query.tree = true → m.Satisfies flaggedOnly 1 := by
  have hplan : (photosTarget "beach").plan?.isSome = true := by decide +kernel
  have hsegments : ((parse (queryText "beach" flaggedOnly)).toOption.all
      (!·.hasSegments)) = true := by decide +kernel
  obtain ⟨p, hp⟩ := Option.isSome_iff_exists.1 hplan
  obtain ⟨base, hbase, hiff⟩ := Target.satisfies_iff hp
  refine ⟨p, hp, fun m => (hiff m).2 fun hescapes => ?_⟩
  rw [hbase, Except.toOption, Option.all_some, Bool.not_eq_true'] at hsegments
  cases hescapes with
  | earlier hearlier =>
    rw [Expr.earlier_reading_eq_false _ _ _ hsegments] at hearlier
    cases hearlier
  | reserved _ hrange => cases hrange

/-- **Not every record that is found satisfies the filters**: a search for a beach or a sunset finds
a photo of a beach whose status bit is clear. -/
theorem not_forall_satisfies :
    ¬ ∀ (c : Catalog) (thesaurus? : Nat → Option Thesaurus) (o : SearchOptions) (raw : String)
      (id : Nat) (p : Plan), (target c thesaurus? o (queryText raw o) id).plan? = some p →
        ∀ m : Matcher, m.holds none p.query.tree = true → m.Satisfies o id := by
  intro h
  have hplan : ((photosTarget "beach OR sunset").plan?.any fun p =>
      beachPhoto.holds none p.query.tree) = true := by decide +kernel
  obtain ⟨p, hp, hfound⟩ := (Option.any_eq_true _ _).1 hplan
  have hbit := (h _ _ _ _ _ p hp beachPhoto hfound).status 4 true (by decide) (by decide)
    (StatusFilter.lookup_require _ _ _ _)
  exact absurd hbit (by decide)

end FederatedSearch.Query
