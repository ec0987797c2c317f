import FederatedSearch.Proofs.Engine.Outage
import FederatedSearch.Proofs.Engine.Paging
import Mathlib.Data.Set.Card

/-!
# How often a record is found

Each execution on a backend finds a record once. A search is executed on a backend as often as its
options name the backend, and the hits of all executions come together in one cursor, so **a record
is in the cursor as often as its backend is named**. The total counts hits, and is the number of
different records that are found exactly when no backend of such a record is named twice.

* `FederatedSearch.Attempt.Finds`: the records that a search finds.
* `FederatedSearch.Server.count_planHits`: how often a hit is among those of some plans.
* `FederatedSearch.Attempt.count_hits`: how often a record is found.
* `FederatedSearch.Engine.Reached.search_multiplicity`: the cursor and the page of a search.
* `FederatedSearch.Engine.not_forall_search_nodup`: a search that names its backend twice.
-/

namespace FederatedSearch

open Query

/-! ### Executions -/

namespace Server

variable {s : Server}

/-- **The hits of an execution** are the records of the index that answers which the query finds. -/
theorem mem_hitsOf {x : Execution} {h : Hit} :
    h ∈ s.hitsOf x ↔ x.backend = h.backend ∧ ∃ i, s.answering? x.backend = some i ∧
      ∃ r ∈ i.records, r.id = h.record ∧ x.finds i.backend r = true := by
  unfold hitsOf
  cases hanswer : s.answering? x.backend with
  | none => simp
  | some i =>
    rw [Option.map_some, Option.getD_some, Execution.hits, List.mem_map]
    simp only [Execution.found, (Index.sortRecords_perm _ _ _).mem_iff, List.mem_filter]
    constructor
    · rintro ⟨r, ⟨hr, hfinds⟩, rfl⟩
      exact ⟨rfl, i, rfl, r, hr, rfl, hfinds⟩
    · rintro ⟨hbackend, _, ⟨⟩, r, hr, hid, hfinds⟩
      exact ⟨r, ⟨hr, hfinds⟩, by rw [hbackend, hid]⟩

/-- **An execution finds a record once.** -/
theorem nodup_hitsOf (hs : ∀ i ∈ s.indexes, i.HasKeys) (x : Execution) : (s.hitsOf x).Nodup := by
  unfold hitsOf
  cases hanswer : s.answering? x.backend with
  | none => exact List.nodup_nil
  | some i =>
    obtain ⟨hindex, -⟩ := Option.filter_eq_some_iff.1 hanswer
    have hkeys : (i.records.map (·.id)).Nodup := hs i (List.mem_of_find?_eq_some hindex)
    have hfound : ((x.found i).map (·.id)).Nodup :=
      ((Index.sortRecords_perm _ _ _).map _).nodup_iff.2 ((List.filter_sublist.map _).nodup hkeys)
    -- different records of one backend make different hits
    have hids : (x.hits i).map (·.record) = (x.found i).map (·.id) := by
      rw [Execution.hits, List.map_map]
      rfl
    exact List.Nodup.of_map _ (hids ▸ hfound)

variable {o : SearchOptions} {session raw : String}

theorem nodup_hitsFor (hs : ∀ i ∈ s.indexes, i.HasKeys) (id : Nat) :
    (s.hitsFor o session raw id).Nodup := by
  unfold hitsFor
  split
  · exact List.nodup_nil
  · exact nodup_hitsOf hs _

/-- **How often a hit is among those of a search**: as often as its backend gives it, each time that
the backend is named. -/
theorem count_planHits (s : Server) (o : SearchOptions) (session raw : String) (h : Hit) :
    (s.planHits o session (plan s.catalog s.thesaurus? raw o).plans).count h =
      o.backends.count h.backend * (s.hitsFor o session raw h.backend).count h := by
  rw [s.planHits_plan]
  induction o.backends with
  | nil => simp
  | cons id rest ih =>
    rw [List.flatMap_cons, List.count_append, ih]
    by_cases hid : id = h.backend
    · rw [hid, List.count_cons_self, Nat.add_mul, Nat.one_mul, Nat.add_comm]
    · have hnone : (s.hitsFor o session raw id).count h = 0 :=
        List.count_eq_zero.2 fun hmem => hid (s.backend_of_mem_hitsFor hmem).symm
      rw [hnone, List.count_cons_of_ne hid, Nat.zero_add]

end Server

/-! ### Searches -/

namespace Attempt

variable {a : Attempt} {hit : Hit}

/-- **The search finds a record**: something is planned for its backend, and is executed on an index
that answers and finds a record with its id there. -/
def Finds (a : Attempt) (hit : Hit) : Prop :=
  ∃ p ∈ a.request.plans, p.backend = hit.backend ∧
    ∃ i, a.engine.server.answering? p.backend = some i ∧ ∃ r ∈ i.records, r.id = hit.record ∧
      (p.execution a.engine.catalog a.effective a.session).finds i.backend r = true

theorem mem_hits : hit ∈ a.hits ↔ a.Finds hit := by
  simp only [hits, Server.planHits, List.mem_flatMap, Server.mem_hitsOf]
  rfl

/-- Something is found only on backends that are named. -/
theorem Finds.backend_mem (h : a.Finds hit) : hit.backend ∈ a.effective.backends := by
  obtain ⟨p, hp, hbackend, -⟩ := h
  rw [← hbackend]
  exact (mem_plans.1 hp).1

/-- **A record is found as often as its backend is named.** -/
theorem count_hits (hkeys : ∀ i ∈ a.engine.server.indexes, i.HasKeys) (h : a.Finds hit) :
    a.hits.count hit = a.effective.backends.count hit.backend := by
  have hcount : a.hits.count hit = a.effective.backends.count hit.backend *
      (a.engine.server.hitsFor a.effective a.session a.text hit.backend).count hit :=
    a.engine.server.count_planHits a.effective a.session a.text hit
  have hpos : 0 < a.hits.count hit := List.count_pos_iff.2 (mem_hits.2 h)
  have hle : (a.engine.server.hitsFor a.effective a.session a.text hit.backend).count hit ≤ 1 :=
    List.nodup_iff_count_le_one.1 (Server.nodup_hitsFor hkeys hit.backend) hit
  have hone : (a.engine.server.hitsFor a.effective a.session a.text hit.backend).count hit = 1 := by
    refine Nat.le_antisymm hle (Nat.pos_of_ne_zero fun hzero => ?_)
    rw [hcount, hzero] at hpos
    omega
  rw [hcount, hone, Nat.mul_one]

/-- **No record is found twice** when no backend is named twice that something is found on, and only
then. -/
theorem nodup_hits_iff (hkeys : ∀ i ∈ a.engine.server.indexes, i.HasKeys) :
    a.hits.Nodup ↔ ∀ hit, a.Finds hit → a.effective.backends.count hit.backend = 1 := by
  rw [List.nodup_iff_count_eq_one]
  refine forall_congr' fun hit => ⟨fun h hfinds => ?_, fun h hmem => ?_⟩
  · rw [← count_hits hkeys hfinds]
    exact h (mem_hits.2 hfinds)
  · rw [count_hits hkeys (mem_hits.1 hmem)]
    exact h (mem_hits.1 hmem)

/-- There are as many hits as different records are found exactly when no record is found twice. -/
theorem length_hits_eq_iff : a.hits.length = {hit | a.Finds hit}.ncard ↔ a.hits.Nodup := by
  have hset : {hit | a.Finds hit} = (a.hits.toFinset : Set Hit) := by
    ext hit
    simp [mem_hits]
  rw [hset, Set.ncard_coe_finset, List.card_toFinset]
  constructor
  · intro hlength
    rw [← List.dedup_eq_self]
    exact (List.dedup_sublist a.hits).eq_of_length hlength.symm
  · intro hnodup
    rw [hnodup.dedup]

/-- **What an execution leaves**: the cursor of its session has the hits of the search, whether its
row can be written or not, and the total of a page is their number. -/
theorem leaves_of_searchIn {k : Caller} {offset asked : Nat} {r : Except Failure Page} {v' : Visit}
    (hopen : (a.engine.server.cursor? a.session).isSome)
    (hdecide : a.engine.cache.decide a.session a.request.text k.force = .ok .recompute)
    (hsearch : Visit.searchIn a.session a.text offset asked a.options ⟨a.engine, k⟩ = (r, v')) :
    ∃ cursor, v'.engine.server.cursor? a.session = some cursor ∧ cursor.hits = a.hits ∧
      ∀ page, r = .ok page → page.total = a.hits.length := by
  obtain ⟨-, cursor, hcursor, hhits⟩ :=
    Cache.exists_cursor_executed hopen a.effective a.request
  rw [searchIn_apply, Cache.answer_of_recompute hdecide] at hsearch
  cases hexecute : Cache.execute a.session a.effective a.request a.engine.cache with
  | mk x c =>
    rw [hexecute] at hsearch
    obtain ⟨⟨store, rfl, -⟩, hok⟩ := Cache.execute_outcome hexecute
    cases x with
    | error failure =>
      obtain ⟨rfl, rfl⟩ := Prod.mk.inj hsearch
      exact ⟨cursor, hcursor, hhits, fun _ hpage => by cases hpage⟩
    | ok row? =>
      obtain ⟨rfl, rfl⟩ := Prod.mk.inj hsearch
      refine ⟨cursor, hcursor, hhits, fun page hpage => ?_⟩
      obtain rfl := Except.ok.inj hpage
      obtain ⟨-, ⟨hfailed, rfl⟩ | ⟨-, row, rfl, hrow⟩⟩ := hok row? rfl
      · rw [hits_eq_nil hfailed hopen]
        rfl
      · exact (Visit.pageOf_shows _ _ _ _ _ _ _).total.trans
          (hrow.trans (Cache.total_executed hopen a.effective a.request))

end Attempt

/-! ### Runs -/

namespace Engine

variable {start e : Engine} {h : History} {d : Dataset} {store : Store} {now : Calendar.Instant}
  {config : Config}

/-- The backends of an engine over a dataset stay those of the dataset. -/
theorem Reached.ids_eq (hstart : ofConfig (.ofDataset d) store now config = .ok start)
    (hreached : Reached start h e) : e.catalog.ids = d.indexes.map (·.backend.id) := by
  obtain ⟨hserver, -⟩ := ofConfig_ok hstart
  have hcatalog : e.catalog = start.server.catalog := hreached.narrows.catalog_eq
  rw [hcatalog, hserver, Catalog.ids, Server.catalog, List.map_map]
  rfl

/-- **How often a record is in the cursor.** Let a search be executed on an engine over a dataset in
which the records of a backend have different ids. Then the cursor of its session holds exactly the
records that the search finds, each as often as the options name its backend, whether the search
gives a page or not; the total of the page counts the hits in the cursor. No record is in the cursor
twice, and the total is the number of different records that are found, exactly when no backend is
named twice that something is found on. When different backends have different ids, this holds for
options that name no backend twice, or none at all. -/
theorem Reached.search_multiplicity
    (hstart : ofConfig (.ofDataset d) store now config = .ok start) (hreached : Reached start h e)
    (hkeys : ∀ i ∈ d.indexes, i.HasKeys) {k : Caller} {text : String} {offset asked : Nat}
    {options : SearchOptions} {a : Attempt} {r : Except Failure Page} {v' : Visit}
    (hattempt : (Step.search k text offset asked options).attempt? e = some a)
    (hsearch : Visit.search text offset asked options ⟨e, k⟩ = (r, v')) :
    ∃ cursor, v'.engine.server.cursor? a.session = some cursor ∧
      (∀ hit, hit ∈ cursor.hits ↔ a.Finds hit) ∧
      (∀ hit, a.Finds hit → cursor.hits.count hit = a.effective.backends.count hit.backend) ∧
      (cursor.hits.Nodup ↔ ∀ hit, a.Finds hit → a.effective.backends.count hit.backend = 1) ∧
      (∀ page, r = .ok page → page.total = cursor.hits.length ∧
        (page.total = {hit | a.Finds hit}.ncard ↔
          ∀ hit, a.Finds hit → a.effective.backends.count hit.backend = 1)) ∧
      ((d.indexes.map (·.backend.id)).Nodup → options.backends.Nodup →
        a.effective.backends.Nodup ∧ cursor.hits.Nodup) := by
  obtain ⟨session, v, hattach, rfl, hdecide⟩ := Step.exists_attach_of_attempt? hattempt
  have hcondition := Cache.condition_eq (Visit.attach_stands hattach).setting
  have hindexes : v.engine.server.indexes = e.server.indexes :=
    congrArg Condition.indexes hcondition
  have hcatalog : v.engine.catalog = e.catalog := Server.catalog_congr hcondition
  obtain ⟨hserver, -⟩ := ofConfig_ok hstart
  have hkeys' : ∀ i ∈ v.engine.server.indexes, i.HasKeys := by
    rw [hindexes]
    exact hreached.narrows.hasKeys (hserver ▸ hkeys)
  rw [Visit.search_eq, Action.bind_apply, hattach] at hsearch
  let a : Attempt := ⟨session, text, options, v.engine⟩
  obtain ⟨cursor, hcursor, hhits, htotal⟩ :=
    Attempt.leaves_of_searchIn (a := a) (Visit.isOpen_of_attach hattach) hdecide hsearch
  have hnodup := Attempt.nodup_hits_iff (a := a) hkeys'
  refine ⟨cursor, hcursor, fun hit => ?_, fun hit hfinds => ?_, ?_, fun page hpage => ⟨?_, ?_⟩,
    fun hids hbackends => ?_⟩
  · rw [hhits]
    exact Attempt.mem_hits
  · rw [hhits]
    exact Attempt.count_hits hkeys' hfinds
  · rw [hhits]
    exact hnodup
  · rw [hhits, htotal page hpage]
  · rw [htotal page hpage, ← hnodup]
    exact Attempt.length_hits_eq_iff
  · have heffective : a.effective.backends.Nodup := by
      have hcatalog' : v.engine.catalog.ids.Nodup := by
        rw [hcatalog, hreached.ids_eq hstart]
        exact hids
      simp only [Attempt.effective, effectiveOptions]
      split
      · exact hcatalog'
      · exact hbackends
    refine ⟨heffective, ?_⟩
    rw [hhits, hnodup]
    exact fun hit hfinds => List.count_eq_one_of_mem heffective hfinds.backend_mem

/-- A search for the sea that names the photos twice finds each photo twice, and each document
once. -/
theorem search_multiplicity_of_photos_twice :
    ∃ start page v cursor, ofConfig (.ofDataset Demo.dataset) .empty ⟨0, 0⟩ {} = .ok start ∧
      Visit.search "sea" 0 10 { SearchOptions.standard with backends := [1, 2, 1] }
        ⟨start, { user := some 1 }⟩ = (.ok page, v) ∧
      v.engine.server.cursor? "mem-00000001" = some cursor ∧ cursor.hits.count ⟨1, 101⟩ = 2 ∧
      cursor.hits.count ⟨2, 201⟩ = 1 ∧ page.total = cursor.hits.length := by
  obtain ⟨options, hoptions⟩ : ∃ o, o = { SearchOptions.standard with backends := [1, 2, 1] } :=
    ⟨_, rfl⟩
  obtain ⟨start, hstart⟩ :
      ∃ e, ofConfig (.ofDataset Demo.dataset) .empty ⟨0, 0⟩ {} = .ok e := ⟨_, rfl⟩
  have hattempted : ((Step.search { user := some 1 } "sea" 0 10 options).attempt? start).map
      (fun a => (a.session, a.effective.backends)) = some ("mem-00000001", [1, 2, 1]) := by
    cases hstart
    rw [hoptions]
    decide +kernel
  have hfound : ((Visit.search "sea" 0 10 options
      ⟨start, { user := some 1 }⟩).2.engine.server.cursor? "mem-00000001").any
        (fun c => c.hits.contains ⟨1, 101⟩ && c.hits.contains ⟨2, 201⟩) = true := by
    cases hstart
    rw [hoptions]
    decide +kernel
  have hanswered : (Visit.search "sea" 0 10 options ⟨start, { user := some 1 }⟩).1.isOk =
      true := by
    cases hstart
    rw [hoptions]
    decide +kernel
  obtain ⟨a, ha, hattempt⟩ := Option.map_eq_some_iff.1 hattempted
  obtain ⟨hsession, hbackends⟩ := Prod.mk.inj hattempt
  cases hsearch : Visit.search "sea" 0 10 options ⟨start, { user := some 1 }⟩ with
  | mk r v =>
    rw [hsearch] at hfound hanswered
    cases r with
    | error failure => cases hanswered
    | ok page =>
      obtain ⟨cursor, hcursor, hmem, hcount, -, htotal, -⟩ :=
        Reached.search_multiplicity hstart .start (by decide) ha hsearch
      rw [hsession] at hcursor
      simp only [hcursor, Option.any_some, Bool.and_eq_true, List.contains_iff_mem] at hfound
      refine ⟨start, page, v, cursor, hstart, hoptions ▸ hsearch, hcursor, ?_, ?_,
        (htotal page rfl).1⟩
      · rw [hcount _ ((hmem _).1 hfound.1), hbackends]
        rfl
      · rw [hcount _ ((hmem _).1 hfound.2), hbackends]
        rfl

/-- **A backend that is named twice gives its hits twice**, although the backends and the records of
each have different ids. -/
theorem not_forall_search_nodup :
    ¬∀ (d : Dataset) (store : Store) (now : Calendar.Instant) (config : Config) (start : Engine)
        (k : Caller) (text : String) (options : SearchOptions) (a : Attempt) (page : Page)
        (v : Visit) (cursor : Cursor),
      ofConfig (.ofDataset d) store now config = .ok start →
        (d.indexes.map (·.backend.id)).Nodup → (∀ i ∈ d.indexes, i.HasKeys) →
          (Step.search k text 0 10 options).attempt? start = some a →
            Visit.search text 0 10 options ⟨start, k⟩ = (.ok page, v) →
              v.engine.server.cursor? a.session = some cursor →
                cursor.hits.Nodup ∧ page.total = {hit | a.Finds hit}.ncard := by
  intro hforall
  obtain ⟨options, hoptions⟩ : ∃ o, o = { SearchOptions.standard with backends := [1, 1] } :=
    ⟨_, rfl⟩
  obtain ⟨start, hstart⟩ :
      ∃ e, ofConfig (.ofDataset Demo.dataset) .empty ⟨0, 0⟩ {} = .ok e := ⟨_, rfl⟩
  have hattempted : ((Step.search { user := some 1 } "sea" 0 10 options).attempt? start).map
      (·.session) = some "mem-00000001" := by
    cases hstart
    rw [hoptions]
    decide +kernel
  have htwice : ((Visit.search "sea" 0 10 options
      ⟨start, { user := some 1 }⟩).2.engine.server.cursor? "mem-00000001").map
        (fun c => decide c.hits.Nodup) = some false := by
    cases hstart
    rw [hoptions]
    decide +kernel
  have hanswered : (Visit.search "sea" 0 10 options ⟨start, { user := some 1 }⟩).1.isOk =
      true := by
    cases hstart
    rw [hoptions]
    decide +kernel
  obtain ⟨a, ha, hsession⟩ := Option.map_eq_some_iff.1 hattempted
  cases hsearch : Visit.search "sea" 0 10 options ⟨start, { user := some 1 }⟩ with
  | mk r v =>
    rw [hsearch] at htwice hanswered
    cases r with
    | error failure => cases hanswered
    | ok page =>
      obtain ⟨cursor, hcursor, hnot⟩ := Option.map_eq_some_iff.1 htwice
      rw [← hsession] at hcursor
      exact of_decide_eq_false hnot (hforall _ _ _ _ start _ _ options a page v cursor hstart
        (by decide) (by decide) ha hsearch hcursor).1

end Engine

end FederatedSearch
