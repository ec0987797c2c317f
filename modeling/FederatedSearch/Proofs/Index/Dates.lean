import FederatedSearch.Proofs.Calendar.Reading
import FederatedSearch.Proofs.Index.Filters

/-!
# Date bounds in the text of a query

A date bound is written into the text of a query, scanned, read and folded with it, and the date is
read from the text again when a record is compared. For the years 0 to 9999 nothing is lost on this
way: a search for dates alone finds the records that have a day within the bounds. A value whose
first ten bytes are no date counts as none. Where no field is named, no bound can be written, and
the search finds everything.

* `FederatedSearch.Record.HasDay`: a record has a day with a property.
* `FederatedSearch.Backend.IsDateName`: the names that a bound can be written on.
* `FederatedSearch.Index.Matcher.boundHolds_iff`: **what the clause of a bound says**.
* `FederatedSearch.Query.Target.finds_in_range`: **what a search for dates finds**.
-/

namespace FederatedSearch

open Calendar Index Query

/-- **A record has a day with a property** in one of some fields: the first ten bytes of some value
are the day. -/
def Record.HasDay (r : Record) (names : List String) (P : Date → Prop) : Prop :=
  ∃ name ∈ names, ∃ v ∈ r.values name, ∃ day, Date.ofField? v = some day ∧ P day

/-- **The name of a date field** of a backend that a bound can be written on. -/
structure Backend.IsDateName (b : Backend) (name : String) : Prop where
  /-- It can be written into a clause. -/
  written : isFieldName name = true
  /-- It is no keyword. -/
  keyword : isKeyword name = false
  /-- It does not stand for the status word or the type. -/
  reserved : Matcher.isReserved name = false
  /-- The first field with this name holds dates. -/
  kind : ∃ f, b.field? name = some f ∧ f.kind = .date

/-- **Nothing is asked for but dates.** -/
structure SearchOptions.OnlyDates (o : SearchOptions) : Prop where
  recordType : o.recordType = none
  fields : o.fields = []
  status : o.status = .empty

/-- Names of date fields can be written, all of them. -/
theorem fieldNames_of_isDateName {b : Backend} {names : List String}
    (h : ∀ name ∈ names, b.IsDateName name) : fieldNames names = names :=
  List.filter_eq_self.2 fun name hname => (h name hname).written

namespace Index.Matcher

variable {m : Matcher} {name : String} {date : Date}

/-! ### Bounds -/

/-- The values of a date field are compared as days. -/
theorem compares_date_iff (hname : m.backend.IsDateName name) (hdate : date.IsFourDigit)
    (op : Comparison) : m.compares name op date.toText = true ↔
      ∃ v ∈ m.record.values name, ∃ day, Date.ofField? v = some day ∧
        op.accepts (day.cmp date) = true := by
  obtain ⟨f, hf, hkind⟩ := hname.kind
  have hdates : m.backend.kindOf name = .date := by
    rw [Backend.kindOf, hf, Option.map_some, Option.getD_some, hkind]
  have hcompare (v : String) : compareValues .date v date.toText =
      (Date.ofField? v).map (·.cmp date) := by
    rw [compareValues, Date.ofField?_toText hdate]
    cases Date.ofField? v <;> rfl
  rw [compares_of_isReserved_eq_false hname.reserved, hdates]
  simp only [hcompare, List.any_eq_true, Option.any_map, Option.any_eq_true]

/-- **What the clause of a bound says** of a record: it has a day that is in the bound, if there is
a bound and a field to look at. -/
theorem boundHolds_iff {names : List String} (hnames : ∀ name ∈ names, m.backend.IsDateName name)
    {bound : Option Date} (hbound : ∀ d ∈ bound, d.IsFourDigit) (op : Comparison) :
    m.boundHolds names op bound = true ↔ ∀ d ∈ bound, names = [] ∨
      m.record.HasDay names fun day => op.accepts (day.cmp d) = true := by
  cases bound with
  | none => simp [boundHolds]
  | some d =>
    have hdate : d.IsFourDigit := hbound d rfl
    simp only [boundHolds, fieldNames_of_isDateName hnames, Option.mem_def, Option.some.injEq,
      forall_eq']
    split
    · next hnil => exact iff_of_true rfl (.inl hnil)
    · next hne =>
      rw [or_iff_right hne, List.any_eq_true, Record.HasDay]
      refine exists_congr fun name => and_congr_right fun hname => ?_
      exact compares_date_iff (hnames name hname) hdate op

/-- Without a requirement, every status word agrees. -/
theorem statusHolds_empty (m : Matcher) (backend : Nat) :
    m.statusHolds .empty backend = true := by
  have hbits : StatusFilter.empty.bits? backend = none := by rfl
  rw [statusHolds, hbits]
  rfl

end Index.Matcher

/-! ### Searches for dates -/

namespace Query

section OnlyDates

variable {c : Catalog} {thesaurus? : Nat → Option Thesaurus} {o : SearchOptions} {raw : String}
  {id : Nat} {b : Backend}

/-- A blank text with nothing but dates is the query that finds every record. -/
theorem queryText_of_onlyDates (hblank : Text.isBlankText raw = true) (ho : o.OnlyDates) :
    queryText raw o = matchAll := by
  simp only [queryText, ho.recordType, hblank, if_true]

/-- The bounds on date fields can be read. -/
theorem writable_of_onlyDates (ho : o.OnlyDates)
    (hnames : ∀ name ∈ o.dateFields, b.IsDateName name) :
    Writable o := by
  have hkeys : ∀ name ∈ fieldNames o.dateFields, isKeyword name = false := fun name hname =>
    (hnames name (List.mem_filter.1 hname).1).keyword
  refine ⟨fun name hname => ?_, fun _ => hkeys, fun _ => hkeys⟩
  rw [ho.fields] at hname
  cases hname

/-- A search for dates holds of a record when the clauses of the bounds do. -/
theorem holds_of_onlyDates (ho : o.OnlyDates) (m : Matcher) {value : Valuation}
    (hvalue : m.Compares value) (hall : ∀ scope, value scope .all = true) :
    ((withClauses o id .all).reading value none).holds = true ↔
      m.boundHolds o.dateFields .ge o.minDate = true ∧
        m.boundHolds o.dateFields .le o.maxDate = true := by
  have hreading (scope : Option (List String)) :
      Expr.all.reading value scope = .ofOperand true := by
    rw [Expr.reading, Expr.operand, Expr.means_leaf rfl, hall]
    all_goals nofun
  rw [Matcher.holds_reading_withClauses_iff hvalue, hreading, ho.status, m.statusHolds_empty]
  simp [Reading.ofOperand]

/-- **Date bounds survive the trip through the text of a query.** A search with a blank text, for
nothing but dates of the years 0 to 9999, in any number of fields of a backend that hold dates, has
a plan for the backend. The plan finds a record if and only if it has a day that is not before the
first and a day that is not after the last that is asked for, in these fields; but a bound is on
nothing when there is no field for it. -/
theorem Target.finds_in_range (hblank : Text.isBlankText raw = true) (ho : o.OnlyDates)
    (hb : c.backend? id = some b) (hcollections : c.authorized id o.collections ≠ [])
    (hnames : ∀ name ∈ o.dateFields, b.IsDateName name)
    (hmin : ∀ d ∈ o.minDate, d.IsFourDigit) (hmax : ∀ d ∈ o.maxDate, d.IsFourDigit) :
    ∃ p, (target c thesaurus? o (queryText raw o) id).plan? = some p ∧
      ∀ m : Matcher, m.backend = b → (m.holds none p.query.tree = true ↔
        (∀ d ∈ o.minDate, o.dateFields = [] ∨
          m.record.HasDay o.dateFields fun day => (day.cmp d).isGE = true) ∧
        ∀ d ∈ o.maxDate, o.dateFields = [] ∨
          m.record.HasDay o.dateFields fun day => (day.cmp d).isLE = true) := by
  have htext := queryText_of_onlyDates hblank ho
  have hread : Readable (queryText raw o) o :=
    ⟨⟨.all, htext ▸ parse_matchAll⟩, writable_of_onlyDates ho hnames⟩
  obtain ⟨p, hp⟩ : ∃ p, (target c thesaurus? o (queryText raw o) id).plan? = some p :=
    planned_iff.2 ⟨hcollections, hread⟩
  refine ⟨p, hp, fun m hm => ?_⟩
  subst hm
  obtain ⟨base, hbase, hholds⟩ := Target.exists_of_plan? hp
  obtain rfl : Expr.all = base := Except.ok.inj (parse_matchAll.symm.trans (htext ▸ hbase))
  have hall (scope : Option (List String)) :
      m.leafValue (target c thesaurus? o (queryText raw o) id).thesaurus? scope .all = true := by
    cases (target c thesaurus? o (queryText raw o) id).thesaurus? <;> rfl
  have hge (x : Ordering) : Comparison.ge.accepts x = x.isGE := by cases x <;> rfl
  have hle (x : Ordering) : Comparison.le.accepts x = x.isLE := by cases x <;> rfl
  rw [hholds m, holds_of_onlyDates ho m (m.compares_leafValue _) hall,
    Matcher.boundHolds_iff hnames hmin, Matcher.boundHolds_iff hnames hmax]
  simp only [hge, hle]

end OnlyDates

/-- A search of the press photos for those that were shot in the year 2021. -/
def shotIn2021 : SearchOptions where
  backends := [1]
  collections := [10]
  dateFields := ["shotdate"]
  minDate := some ⟨2021, 1, 1, by decide⟩
  maxDate := some ⟨2021, 12, 31, by decide⟩

/-- A photo that was shot in July 2021 is found. -/
theorem finds_in_range_of_july : ∃ p,
    (target ⟨[Demo.photosBackend]⟩ (fun _ => none) shotIn2021 (queryText "" shotIn2021) 1).plan? =
      some p ∧
    Matcher.holds ⟨Demo.photosBackend, Demo.image 101 10 [("ShotDate", "2021-07-14")], false, none⟩
      none p.query.tree = true := by
  have hname : Demo.photosBackend.IsDateName "shotdate" :=
    ⟨by decide +kernel, by decide +kernel, by decide +kernel, by decide +kernel⟩
  obtain ⟨p, hp, hfinds⟩ := @Target.finds_in_range ⟨[Demo.photosBackend]⟩ (fun _ => none)
    shotIn2021 "" 1 Demo.photosBackend (by decide) ⟨rfl, rfl, rfl⟩ rfl (by decide)
    (by simpa [shotIn2021] using hname) (by simp [shotIn2021, Date.IsFourDigit])
    (by simp [shotIn2021, Date.IsFourDigit])
  have hday : Date.ofField? "2021-07-14" = some ⟨2021, 7, 14, by decide⟩ := by decide +kernel
  refine ⟨p, hp, (hfinds _ rfl).2 ⟨fun d hd => .inr ?_, fun d hd => .inr ?_⟩⟩
  all_goals
    obtain rfl := Option.some.inj hd
    exact ⟨"shotdate", List.mem_cons_self, "2021-07-14", by decide +kernel, _, hday, by decide⟩

/-- A search of the press photos from the year 2020 on, for which no field is named. -/
def sinceWithoutField : SearchOptions where
  backends := [1]
  collections := [10]
  minDate := some ⟨2020, 1, 1, by decide⟩

/-- **A bound without a field finds everything**, also a photo without a date. -/
theorem not_forall_finds_in_range :
    ¬∀ (c : Catalog) (thesaurus? : Nat → Option Thesaurus) (o : SearchOptions) (raw : String)
      (id : Nat) (b : Backend), Text.isBlankText raw = true → o.OnlyDates →
      c.backend? id = some b → c.authorized id o.collections ≠ [] →
      (∀ name ∈ o.dateFields, b.IsDateName name) →
      (∀ d ∈ o.minDate, d.IsFourDigit) → (∀ d ∈ o.maxDate, d.IsFourDigit) →
      ∃ p, (target c thesaurus? o (queryText raw o) id).plan? = some p ∧
        ∀ m : Matcher, m.backend = b → (m.holds none p.query.tree = true ↔
          (∀ d ∈ o.minDate, m.record.HasDay o.dateFields fun day => (day.cmp d).isGE = true) ∧
          ∀ d ∈ o.maxDate, m.record.HasDay o.dateFields fun day => (day.cmp d).isLE = true) := by
  intro h
  let m : Matcher := ⟨Demo.photosBackend, Demo.image 102 10 [("Title", "Beach")], false, none⟩
  obtain ⟨p, hp, hfinds⟩ := h ⟨[Demo.photosBackend]⟩ (fun _ => none) sinceWithoutField "" 1
    Demo.photosBackend (by decide) ⟨rfl, rfl, rfl⟩ rfl (by decide) (by simp [sinceWithoutField])
    (by simp [sinceWithoutField, Date.IsFourDigit]) (by simp [sinceWithoutField])
  have hfound : ((target ⟨[Demo.photosBackend]⟩ (fun _ => none) sinceWithoutField
      (queryText "" sinceWithoutField) 1).plan?.all fun p => m.holds none p.query.tree) = true := by
    decide +kernel
  rw [hp, Option.all_some] at hfound
  obtain ⟨name, hname, -⟩ := ((hfinds m rfl).1 hfound).1 _ rfl
  cases hname

end Query

end FederatedSearch
