import FederatedSearch.Index.Demo
import FederatedSearch.Proofs.Index.Filters

/-!
# Business fields

Words and phrases are looked for in the values that are searchable, and where business fields are
not enabled the values of these are not. A comparison does not ask what is searchable: it reads the
values of the field that it names, whatever the field. So the values of business fields are kept
from every expression that compares none of them, and from no other family of expressions.

* `FederatedSearch.Backend.isBusiness`: a name is that of a business field.
* `FederatedSearch.Record.openPart`: a record without the values of business fields.
* `FederatedSearch.Query.Expr.comparedFields`: the fields that the comparisons of an expression
  name.
* `FederatedSearch.Backend.conceals_iff`: for which fields comparisons keep business values from
  the result of a match.
-/

namespace FederatedSearch

open Index Query

/-! ### Business fields -/

/-- **The name is that of a business field.** -/
def Backend.isBusiness (b : Backend) (name : String) : Bool :=
  (b.field? name).any (·.business)

theorem Backend.field?_congr (b : Backend) {name name' : String}
    (h : Text.sameAscii name name' = true) : b.field? name = b.field? name' := by
  simp only [field?, Text.sameAscii, Text.sameAscii_iff.1 h]

/-- **The record without the values of business fields.** Two records have the same open part when
they differ in nothing but these values. -/
def Record.openPart (b : Backend) (r : Record) : Record :=
  { r with fields := r.fields.filter (!b.isBusiness ·.name) }

/-- The open part has all values of a field that is no business field. -/
theorem Record.values_openPart {b : Backend} {name : String} (h : b.isBusiness name = false)
    (r : Record) : (r.openPart b).values name = r.values name := by
  unfold values openPart
  rw [List.filter_filter]
  refine congrArg (List.map _) (List.filter_congr fun f _ => ?_)
  cases hname : Text.sameAscii f.name name with
  | false => rfl
  | true =>
    -- the two names find the same description
    have hfield : b.isBusiness f.name = false := by
      rw [← h, Backend.isBusiness, b.field?_congr hname, Backend.isBusiness]
    rw [hfield]
    rfl

/-! ### Compared fields -/

namespace Query.Expr

/-- The field that a comparison names. -/
def comparedField? : Expr → Option String
  | .compare field _ _ => some field
  | _ => none

/-- **The fields that the comparisons of an expression name.** -/
def comparedFields (e : Expr) : List String := e.leaves.filterMap comparedField?

@[simp] theorem comparedFields_compare (field : String) (op : Comparison) (value : String) :
    (compare field op value).comparedFields = [field] := rfl

end Query.Expr

/-! ### Matching the open part -/

namespace Index.Matcher

/-- The search of the open part of the record. -/
def ofOpenPart (m : Matcher) : Matcher := { m with record := m.record.openPart m.backend }

/-- **A comparison of the field reads no business value**: the name is not that of a business field,
or it stands for the status word or the type. -/
def ComparesOpenly (b : Backend) (name : String) : Prop :=
  b.isBusiness name = true → isReserved name = true

variable {m : Matcher} (hbusiness : m.business = false)

include hbusiness in
/-- Where business fields are not enabled, all other fields may be searched. -/
theorem mayLookAt_eq (name : String) : m.mayLookAt name = !m.backend.isBusiness name := by
  unfold mayLookAt Backend.isBusiness
  cases m.backend.field? name with
  | none => rfl
  | some field => simp [hbusiness]

include hbusiness in
/-- Where business fields are not enabled, all searchable values are in the open part. -/
theorem searchable_ofOpenPart (scope : Option (List String)) :
    m.ofOpenPart.searchable scope = m.searchable scope := by
  unfold searchable
  change (List.filter _ (List.filter _ m.record.fields)).map _ = _
  rw [List.filter_filter]
  refine congrArg (List.map _) (List.filter_congr fun f _ => ?_)
  have hlook : m.ofOpenPart.mayLookAt f.name = !m.backend.isBusiness f.name :=
    mayLookAt_eq (m := m.ofOpenPart) hbusiness f.name
  rw [hlook, mayLookAt_eq hbusiness]
  cases m.backend.isBusiness f.name <;> simp

/-- A comparison that reads no business value says the same of the open part. -/
theorem compares_ofOpenPart {name : String} (hname : ComparesOpenly m.backend name)
    (op : Comparison) (value : String) :
    m.ofOpenPart.compares name op value = m.compares name op value := by
  -- the status word and the type are no fields, and are the same in the open part
  refine compares_congr m.ofOpenPart m rfl rfl rfl (fun hreserved => ?_) op value
  have hopen : m.backend.isBusiness name = false := by
    rw [← Bool.not_eq_true]
    intro h
    rw [hname h] at hreserved
    cases hreserved
  exact Record.values_openPart hopen m.record

include hbusiness in
theorem hasTerm_ofOpenPart (scope : Option (List String)) (word : String) :
    m.ofOpenPart.hasTerm scope word = m.hasTerm scope word := by
  unfold hasTerm
  rw [searchable_ofOpenPart hbusiness]
  rfl

include hbusiness in
theorem hasPhrase_ofOpenPart (scope : Option (List String)) (phrase : String) :
    m.ofOpenPart.hasPhrase scope phrase = m.hasPhrase scope phrase := by
  unfold hasPhrase
  rw [searchable_ofOpenPart hbusiness]
  rfl

include hbusiness in
/-- **An expression that compares no business field says the same of the open part**, where business
fields are not enabled. -/
theorem holds_ofOpenPart (scope : Option (List String)) (e : Expr)
    (h : ∀ name ∈ e.comparedFields, ComparesOpenly m.backend name) :
    m.ofOpenPart.holds scope e = m.holds scope e := by
  rw [← means_holds, ← means_holds]
  refine Expr.means_congr (fun scope leaf hmem => ?_) scope
  have hleaf := Expr.isLeaf_of_mem_leaves hmem
  cases leaf with
  | all => rfl
  | term word => rw [holds, holds, hasTerm_ofOpenPart hbusiness]
  | phrase text => rw [holds, holds, hasPhrase_ofOpenPart hbusiness]
  | compare field op value =>
    have hfield : field ∈ e.comparedFields := List.mem_filterMap.2 ⟨_, hmem, rfl⟩
    rw [holds, holds, compares_ofOpenPart (h field hfield)]
  | vocabulary field word => cases field <;> rw [holds, holds, hasTerm_ofOpenPart hbusiness]
  | and | or | except | within | group => cases hleaf

end Index.Matcher

/-! ### What is concealed -/

/-- **An expression conceals the values of business fields**: of two records that differ in these
values only, in a collection where business fields are not enabled, it says the same. -/
def Backend.Conceals (b : Backend) (e : Expr) : Prop :=
  ∀ (business : List Nat) (stemmer : Option Stemmer) (scope : Option (List String))
    (r r' : Record), r.openPart b = r'.openPart b → r.collection ∉ business →
      Matcher.holds ⟨b, r, business.contains r.collection, stemmer⟩ scope e =
        Matcher.holds ⟨b, r', business.contains r'.collection, stemmer⟩ scope e

/-- An expression that compares no business field conceals their values. -/
theorem Backend.conceals_of_comparesOpenly {b : Backend} {e : Expr}
    (h : ∀ name ∈ e.comparedFields, Matcher.ComparesOpenly b name) : b.Conceals e := by
  intro business stemmer scope r r' hopen hcollection
  have hsame : r'.collection = r.collection := (congrArg Record.collection hopen).symm
  have hbusiness : business.contains r.collection = false := by simpa using hcollection
  rw [hsame, hbusiness,
    ← Matcher.holds_ofOpenPart (m := ⟨b, r, false, stemmer⟩) rfl scope e h,
    ← Matcher.holds_ofOpenPart (m := ⟨b, r', false, stemmer⟩) rfl scope e h]
  unfold Matcher.ofOpenPart
  rw [hopen]

/-- For every kind of values there is one that a comparison tells from another. -/
theorem Index.exists_told_apart (kind : FieldKind) : ∃ v w : String,
    (compareValues kind v v).any Comparison.eq.accepts = true ∧
      (compareValues kind w v).any Comparison.eq.accepts = false := by
  cases kind with
  | text => exact ⟨"a", "b", by decide +kernel⟩
  | date => exact ⟨"2020-01-01", "2020-01-02", by decide +kernel⟩
  | number => exact ⟨"1", "2", by decide +kernel⟩

/-- The only value of a field decides a comparison of that field. -/
theorem Index.Matcher.compares_image {m : Matcher} {name : String}
    (hname : Matcher.isReserved name = false) {v : String} {id collection : Nat}
    (hrecord : m.record = Demo.image id collection [(name, v)]) (op : Comparison)
    (value : String) :
    m.compares name op value = (compareValues (m.backend.kindOf name) v value).any op.accepts := by
  have hvalues : m.record.values name = [v] := by
    simp [hrecord, Record.values, Demo.image]
  rw [Matcher.compares_of_isReserved_eq_false hname, hvalues, List.any_cons, List.any_nil,
    Bool.or_false]

/-- A business field that a comparison reads is revealed by one. -/
theorem Backend.exists_not_conceals {b : Backend} {name : String}
    (h : ¬Matcher.ComparesOpenly b name) : ∃ op v, ¬b.Conceals (.compare name op v) := by
  obtain ⟨hbusiness, hname⟩ := Classical.not_imp.1 h
  obtain ⟨v, w, hv, hw⟩ := exists_told_apart (b.kindOf name)
  refine ⟨.eq, v, fun hconceals => ?_⟩
  have hopen : (Demo.image 1 0 [(name, v)]).openPart b =
      (Demo.image 1 0 [(name, w)]).openPart b := by
    simp [Record.openPart, Demo.image, hbusiness]
  have hsame := hconceals [] none none _ _ hopen (by simp)
  have hname' := Bool.eq_false_iff.2 hname
  rw [Matcher.holds, Matcher.holds, Matcher.compares_image hname' rfl,
    Matcher.compares_image hname' rfl, hv, hw] at hsame
  cases hsame

/-- **Which expressions keep business values from the result of a match**: all expressions whose
comparisons are of some fields do so exactly when none of these is a business field, but for the
names of the status word and the type. -/
theorem Backend.conceals_iff (b : Backend) (names : List String) :
    (∀ e : Expr, e.comparedFields ⊆ names → b.Conceals e) ↔
      ∀ name ∈ names, b.isBusiness name = true → Matcher.isReserved name = true := by
  constructor
  · intro h name hname
    by_contra hopen
    obtain ⟨op, v, hreveals⟩ := exists_not_conceals hopen
    exact hreveals (h _ (by simpa using hname))
  · intro h e he
    exact conceals_of_comparesOpenly fun name hname => h name (he hname)

/-- **Not every expression conceals business values**: a comparison with the rights of a photo tells
two photos apart that differ in nothing else. -/
theorem Backend.not_forall_conceals : ¬∀ (b : Backend) (e : Expr), b.Conceals e := by
  intro h
  have hsame := h Demo.photosBackend (.compare "Rights" .eq "exclusive") [] none none
    (Demo.image 102 10 [("Rights", "exclusive")]) (Demo.image 102 10 [("Rights", "free")])
    (by decide +kernel) (by decide)
  exact absurd hsame (by decide +kernel)

end FederatedSearch
