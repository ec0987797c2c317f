import FederatedSearch.Engine.Page
import FederatedSearch.Proofs.Engine.Hits
import Mathlib.Data.List.Nodup

/-!
# What a server shows of some collections

A caller is authorized for some collections, and the records of all others are hidden from it. An
index restricted to these collections has only the records that are shown. Executions that stay
within the collections find the same in the restricted index as in the whole one, and a hit that
they give is looked up with the same outcome in both, since no two records of an index share an id.

How long an execution takes is not a matter of records, so a restricted server forgets the times.

* `FederatedSearch.Server.restrict`: the server with the records of some collections only.
* `FederatedSearch.Server.execute_restrict`: an execution within these collections.
* `FederatedSearch.Server.Confined`: no two records share an id, and all hits are of records that
  are shown.
* `FederatedSearch.Server.fetch?_restrict`: a window of the hits of a confined server.
-/

namespace FederatedSearch

open Index Query

/-! ### Restricted indexes -/

/-- **The record is shown** to callers that are authorized for some collections: its collection is
one of these, and one of its backend. -/
def Backend.shows (b : Backend) (allowed : List Nat) (r : Record) : Bool :=
  (b.authorized allowed).contains r.collection

/-- **The index with the records that are shown.** -/
def BackendIndex.restrict (allowed : List Nat) (i : BackendIndex) : BackendIndex :=
  { i with records := i.records.filter (i.backend.shows allowed) }

/-- **The dataset with the records that are shown.** Two datasets that are restricted to the same
one differ in nothing but records of other collections. -/
def Dataset.restrict (allowed : List Nat) (d : Dataset) : Dataset :=
  ⟨d.indexes.map (·.restrict allowed)⟩

/-- No two records of the index have the same id. -/
def BackendIndex.HasKeys (i : BackendIndex) : Prop := (i.records.map (·.id)).Nodup

instance (i : BackendIndex) : Decidable i.HasKeys :=
  inferInstanceAs (Decidable (i.records.map (·.id)).Nodup)

/-- Where no two records share an id, each record is found by its id. -/
theorem BackendIndex.HasKeys.record?_eq_some {i : BackendIndex} (h : i.HasKeys) {id : Nat}
    {r : Record} (hmem : r ∈ i.records) (hid : r.id = id) : i.record? id = some r := by
  obtain ⟨r', hr'⟩ : ∃ r', i.record? id = some r' :=
    Option.isSome_iff_exists.1 (List.find?_isSome.2 ⟨r, hmem, beq_iff_eq.2 hid⟩)
  have hid' : (r'.id == id) = true := List.find?_some (p := fun r : Record => r.id == id) hr'
  have hsame : r'.id = r.id := (beq_iff_eq.1 hid').trans hid.symm
  rw [hr', List.inj_on_of_nodup_map h (List.mem_of_find?_eq_some hr') hmem hsame]

/-- A record that is found in the restricted index is found in the whole one. -/
theorem BackendIndex.record?_of_restrict {i : BackendIndex} (h : i.HasKeys) {allowed : List Nat}
    {id : Nat} {r : Record} (hr : (i.restrict allowed).record? id = some r) :
    i.record? id = some r := by
  have hmem : r ∈ i.records := (List.mem_filter.1 (List.mem_of_find?_eq_some hr)).1
  have hid : (r.id == id) = true := List.find?_some (p := fun r : Record => r.id == id) hr
  exact h.record?_eq_some hmem (beq_iff_eq.1 hid)

/-- **A query within the collections finds the same** in the restricted index. -/
theorem Execution.found_restrict {x : Execution} {i : BackendIndex} {allowed : List Nat}
    (h : x.collections ⊆ i.backend.authorized allowed) :
    x.found (i.restrict allowed) = x.found i := by
  unfold found BackendIndex.restrict
  rw [List.filter_filter]
  refine congrArg _ (List.filter_congr fun r _ => ?_)
  cases hcollection : x.collections.contains r.collection with
  | false => simp only [finds, hcollection, Bool.false_and]
  | true =>
    -- a record in one of the collections that are searched is shown
    have hshown : i.backend.shows allowed r = true :=
      List.contains_iff_mem.2 (h (List.contains_iff_mem.1 hcollection))
    rw [hshown, Bool.and_true]

theorem Execution.hits_restrict {x : Execution} {i : BackendIndex} {allowed : List Nat}
    (h : x.collections ⊆ i.backend.authorized allowed) :
    x.hits (i.restrict allowed) = x.hits i := by
  rw [hits, hits, found_restrict h]

/-! ### Restricted servers -/

namespace Server

variable (allowed : List Nat) (s : Server)

/-- **The server with the records that are shown**, and without the times of executions. -/
def restrict : Server :=
  { s with indexes := s.indexes.map (·.restrict allowed), timing := [] }

@[simp] theorem catalog_restrict : (s.restrict allowed).catalog = s.catalog := by
  simp [catalog, restrict, Function.comp_def, BackendIndex.restrict]

@[simp] theorem index?_restrict (backend : Nat) :
    (s.restrict allowed).index? backend = (s.index? backend).map (·.restrict allowed) := by
  simp only [index?, restrict, List.find?_map]
  rfl

@[simp] theorem thesaurus?_restrict : (s.restrict allowed).thesaurus? = s.thesaurus? := by
  funext backend
  simp only [thesaurus?, index?_restrict]
  cases s.index? backend <;> rfl

@[simp] theorem cursor?_restrict (id : String) : (s.restrict allowed).cursor? id = s.cursor? id :=
  rfl

end Server

/-! ### Executions -/

/-- The report without its time. -/
def Report.untimed (r : Report) : Report := { r with elapsed := .zero false }

/-- The outcome without its time. -/
def Outcome.untimed (x : Outcome) : Outcome :=
  { x with result := x.result.map (·.map Report.untimed) }

namespace Server

variable {allowed : List Nat} {s : Server}

theorem authorized_of_index? {backend : Nat} {i : BackendIndex} (h : s.index? backend = some i) :
    s.catalog.authorized backend allowed = i.backend.authorized allowed := by
  rw [Catalog.authorized, s.backend?_catalog, h]
  rfl

theorem catalog_execute (s : Server) (x : Execution) : (s.execute x).2.catalog = s.catalog :=
  catalog_congr (s.condition_execute x)

/-- **An execution within the collections** does the same on a restricted server, up to its time. -/
theorem execute_restrict {x : Execution}
    (h : x.collections ⊆ s.catalog.authorized x.backend allowed) :
    (s.restrict allowed).execute x =
      ((s.execute x).1.map (·.map Report.untimed), (s.execute x).2.restrict allowed) := by
  unfold execute
  rw [index?_restrict]
  change (if s.silent.contains x.backend then _
    else if !s.available x.backend then _ else _) = _
  split
  · rfl
  · split
    · rfl
    · cases hindex : s.index? x.backend with
      | none => rfl
      | some i =>
        simp only [Option.map_some, cursor?_restrict]
        cases hcursor : s.cursor? x.session with
        | none => rfl
        | some c =>
          rw [authorized_of_index? hindex] at h
          simp only [Execution.hits_restrict h, afterExecution]
          rfl

end Server

/-- **Executing plans within the collections** does the same on a restricted server, up to times. -/
theorem executePlans_restrict {allowed : List Nat} {s : Server} (o : SearchOptions)
    (session : String) {plans : List Plan}
    (h : ∀ p ∈ plans, p.collections ⊆ s.catalog.authorized p.backend allowed) :
    executePlans o session plans (s.restrict allowed) =
      ((executePlans o session plans s).1.map Outcome.untimed,
        (executePlans o session plans s).2.restrict allowed) := by
  induction plans generalizing s with
  | nil => rfl
  | cons p rest ih =>
    obtain ⟨hfirst, hrest⟩ := List.forall_mem_cons.1 h
    -- the rest is executed on a server with the same catalog
    rw [← s.catalog_execute (p.execution s.catalog o session)] at hrest
    simp only [executePlans, Server.catalog_restrict]
    rw [Server.execute_restrict (x := p.execution s.catalog o session) hfirst]
    simp only [ih hrest]
    rfl

theorem catalog_executePlans (o : SearchOptions) (session : String) (plans : List Plan)
    (s : Server) : (executePlans o session plans s).2.catalog = s.catalog :=
  Server.catalog_congr (condition_executePlans o session plans s)

namespace Summary

/-- The total has no part in times. -/
theorem total_untimed (unparsed : List Nat) (outcomes : List Outcome) :
    (ofOutcomes unparsed (outcomes.map Outcome.untimed)).total =
      (ofOutcomes unparsed outcomes).total := by
  induction outcomes with
  | nil => rfl
  | cons x rest ih =>
    obtain ⟨backend, result⟩ := x
    rcases result with e | _ | r
    · exact ih
    · exact ih
    · exact congrArg (r.hits + ·) ih

/-- Whether everything failed has no part in times. -/
theorem allFailed_untimed (unparsed : List Nat) (outcomes : List Outcome) :
    (ofOutcomes unparsed (outcomes.map Outcome.untimed)).allFailed =
      (ofOutcomes unparsed outcomes).allFailed := by
  have hfailed : (outcomes.map Outcome.untimed).filterMap Outcome.failed? =
      outcomes.filterMap Outcome.failed? := by
    rw [List.filterMap_map]
    refine List.filterMap_congr fun x _ => ?_
    obtain ⟨backend, e | _ | r⟩ := x <;> rfl
  have hsilent : (outcomes.map Outcome.untimed).filterMap Outcome.silent? =
      outcomes.filterMap Outcome.silent? := by
    rw [List.filterMap_map]
    refine List.filterMap_congr fun x _ => ?_
    obtain ⟨backend, e | _ | r⟩ := x <;> rfl
  have hresults : ((outcomes.map Outcome.untimed).filterMap Outcome.report?).isEmpty =
      (outcomes.filterMap Outcome.report?).isEmpty := by
    clear hfailed hsilent
    induction outcomes with
    | nil => rfl
    | cons x rest ih =>
      obtain ⟨backend, e | _ | r⟩ := x
      · exact ih
      · exact ih
      · rfl
  simp only [allFailed, ofOutcomes, hfailed, hsilent, hresults]

end Summary

/-! ### Confined servers -/

namespace Server

variable {allowed : List Nat} {s t : Server}

/-- The hit is of a record that is shown. -/
def ShowsHit (allowed : List Nat) (s : Server) (h : Hit) : Prop :=
  ((s.restrict allowed).record? h.backend h.record).isSome

theorem ShowsHit.congr {h : Hit} (hs : s.ShowsHit allowed h) (hindexes : t.indexes = s.indexes) :
    t.ShowsHit allowed h := by
  unfold ShowsHit restrict record? index? at hs ⊢
  rwa [hindexes]

/-- **A confined server**: no two records of a backend share an id, and all hits of all sessions are
of records that are shown. -/
structure Confined (allowed : List Nat) (s : Server) : Prop where
  keys : ∀ i ∈ s.indexes, i.HasKeys
  hits : ∀ id c, s.cursor? id = some c → ∀ h ∈ c.hits, s.ShowsHit allowed h

/-- A record that is shown is the same in the whole server. -/
theorem record?_of_restrict (hkeys : ∀ i ∈ s.indexes, i.HasKeys) {backend record : Nat}
    {r : Record} (h : (s.restrict allowed).record? backend record = some r) :
    s.record? backend record = some r := by
  rw [record?, index?_restrict] at h
  rw [record?]
  cases hindex : s.index? backend with
  | none => simp [hindex] at h
  | some i =>
    rw [hindex] at h
    exact BackendIndex.record?_of_restrict (hkeys i (List.mem_of_find?_eq_some hindex)) h

/-- A hit of a record that is shown is looked up with the same outcome. -/
theorem fetchHit_restrict (hkeys : ∀ i ∈ s.indexes, i.HasKeys) {h : Hit}
    (hshown : s.ShowsHit allowed h) (show' : String → String) :
    (s.restrict allowed).fetchHit show' h = s.fetchHit show' h := by
  obtain ⟨r, hr⟩ := Option.isSome_iff_exists.1 hshown
  rw [fetchHit, fetchHit, hr, record?_of_restrict hkeys hr]

/-- **A window of hits is the same** in the restricted server. -/
theorem fetch?_restrict (h : s.Confined allowed) (session : String) (start count : Nat)
    (markers : Option Markers) :
    (s.restrict allowed).fetch? session start count markers =
      s.fetch? session start count markers := by
  unfold fetch?
  rw [cursor?_restrict]
  change (if start == 0 || !s.reachable then _ else _) = _
  split
  · rfl
  · cases hcursor : s.cursor? session with
    | none => rfl
    | some c =>
      rw [Option.map_some, Option.map_some, Option.some.injEq]
      refine List.map_congr_left fun hit hhit => ?_
      have hmem : hit ∈ c.hits := List.mem_of_mem_drop (List.mem_of_mem_take hhit)
      exact fetchHit_restrict h.keys (h.hits session c hcursor hit hmem) _

/-- **All hits of a query within the collections** are of records that are shown. -/
theorem showsHit_of_hits {x : Execution} {i : BackendIndex} (hindex : s.index? x.backend = some i)
    (h : x.collections ⊆ s.catalog.authorized x.backend allowed) {hit : Hit}
    (hhit : hit ∈ x.hits i) : s.ShowsHit allowed hit := by
  rw [authorized_of_index? hindex] at h
  rw [← Execution.hits_restrict h] at hhit
  obtain ⟨r, hr, rfl⟩ := List.mem_map.1 hhit
  have hfound := ((sortRecords_perm _ _ _).mem_iff.1 hr)
  have hmem : r ∈ (i.restrict allowed).records := (List.mem_filter.1 hfound).1
  rw [ShowsHit, record?, index?_restrict, hindex]
  exact List.find?_isSome.2 ⟨r, hmem, beq_self_eq_true r.id⟩

/-! ### Staying confined -/

theorem Confined.of_indexes (h : s.Confined allowed) (hindexes : t.indexes = s.indexes)
    (hhits : ∀ id c, t.cursor? id = some c → ∀ hit ∈ c.hits, s.ShowsHit allowed hit) :
    t.Confined allowed where
  keys := by
    rw [hindexes]
    exact h.keys
  hits id c hc hit hhit := (hhits id c hc hit hhit).congr hindexes

/-- A change that leaves the sessions alone. -/
theorem Confined.of_sessions (h : s.Confined allowed) (hindexes : t.indexes = s.indexes)
    (hsessions : t.sessions = s.sessions) : t.Confined allowed :=
  h.of_indexes hindexes fun id c hc => h.hits id c (by rwa [cursor?, ← hsessions])

/-- A cursor whose hits are shown may be put in place. -/
theorem Confined.putCursor (h : s.Confined allowed) (id : String) {c : Cursor}
    (hc : ∀ hit ∈ c.hits, s.ShowsHit allowed hit) : (s.putCursor id c).Confined allowed := by
  refine h.of_indexes rfl fun k c' hc' => ?_
  rw [cursor?_putCursor] at hc'
  split at hc'
  · obtain rfl := Option.some.inj hc'
    exact hc
  · exact h.hits k c' hc'

theorem Confined.closeSession (h : s.Confined allowed) (id : String) :
    (s.closeSession id).Confined allowed := by
  refine h.of_indexes rfl fun k c hc => ?_
  rw [cursor?, Server.closeSession, Table.find?_erase] at hc
  split at hc
  · cases hc
  · exact h.hits k c hc

theorem Confined.clearResults (h : s.Confined allowed) (id : String) :
    (s.clearResults id).Confined allowed := by
  unfold Server.clearResults
  cases s.cursor? id with
  | none => exact h
  | some c => exact h.putCursor id (by simp [Cursor.empty])

/-- **An execution within the collections** keeps the server confined. -/
theorem Confined.execute (h : s.Confined allowed) {x : Execution}
    (hx : x.collections ⊆ s.catalog.authorized x.backend allowed) :
    (s.execute x).2.Confined allowed := by
  unfold Server.execute
  split
  · exact h
  · split
    · exact h
    · cases hindex : s.index? x.backend with
      | none => exact h
      | some i =>
        cases hcursor : s.cursor? x.session with
        | none => exact h
        | some c =>
          -- the cursor has the hits that it had and those of the query
          have hhits : ∀ hit ∈ (c.append (x.hits i) x.query.positiveTerms x.stemming).hits,
              s.ShowsHit allowed hit := by
            intro hit hhit
            rcases List.mem_append.1 hhit with hold | hnew
            · exact h.hits _ c hcursor hit hold
            · exact showsHit_of_hits hindex hx hnew
          exact (h.putCursor x.session hhits).of_sessions rfl rfl

end Server

/-- Executing plans within the collections keeps the server confined. -/
theorem executePlans_confined {allowed : List Nat} {s : Server} (hs : s.Confined allowed)
    (o : SearchOptions) (session : String) {plans : List Plan}
    (h : ∀ p ∈ plans, p.collections ⊆ s.catalog.authorized p.backend allowed) :
    (executePlans o session plans s).2.Confined allowed := by
  induction plans generalizing s with
  | nil => exact hs
  | cons p rest ih =>
    obtain ⟨hfirst, hrest⟩ := List.forall_mem_cons.1 h
    rw [← s.catalog_execute (p.execution s.catalog o session)] at hrest
    exact ih (hs.execute (x := p.execution s.catalog o session) hfirst) hrest

end FederatedSearch
