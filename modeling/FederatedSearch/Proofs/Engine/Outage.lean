import FederatedSearch.Proofs.Engine.Aside
import FederatedSearch.Proofs.Engine.Executing
import FederatedSearch.Proofs.Query.Targets

/-!
# Backends that are down

A backend that is down takes its own hits away from a search and nothing else. Without the thesaurus
of the backend its query is not expanded, and the query fails on the backend in any case; the other
backends are planned and executed as if all were up.

* `FederatedSearch.Server.planHits_eq_filter`, `FederatedSearch.Attempt.hits_eq_filter`: the hits of
  a search are those that it has when all backends are up, without those of the backends that are
  down.
* `FederatedSearch.Attempt.allFailed_iff_down`: everything fails when all are down that something is
  planned for.
* `FederatedSearch.Engine.Reached.silent_eq_nil`: no backend of a dataset is silent.
-/

namespace FederatedSearch

open Query

/-! ### Plans -/

namespace Query

variable {c : Catalog} {o : SearchOptions} {raw text : String} {id : Nat}
  {thesaurus? thesaurus?' : Nat → Option Thesaurus}

/-- What becomes of a backend depends on its own thesaurus. -/
theorem target_congr (h : thesaurus? id = thesaurus?' id) :
    target c thesaurus? o text id = target c thesaurus?' o text id := by
  simp only [target, targetOf, h]

end Query

/-! ### Hits -/

namespace Server

variable (s : Server) {down : List Nat}

/-- The hits that a backend gives to a search. -/
def hitsFor (o : SearchOptions) (session raw : String) (id : Nat) : List Hit :=
  match (target s.catalog s.thesaurus? o (queryText raw o) id).plan? with
  | none => []
  | some p => s.hitsOf (p.execution s.catalog o session)

/-- The hits of a search, backend by backend. -/
theorem planHits_plan (o : SearchOptions) (session raw : String) :
    s.planHits o session (plan s.catalog s.thesaurus? raw o).plans =
      o.backends.flatMap (s.hitsFor o session raw) := by
  simp only [planHits, plan, List.filterMap_map]
  induction o.backends with
  | nil => rfl
  | cons id rest ih =>
    rw [List.flatMap_cons, ← ih, List.filterMap_cons, Function.comp_apply, hitsFor]
    cases (target s.catalog s.thesaurus? o (queryText raw o) id).plan? with
    | none => rfl
    | some p => rfl

/-- A hit is of the backend that was asked. -/
theorem backend_of_mem_hitsOf {x : Execution} {h : Hit} (hh : h ∈ s.hitsOf x) :
    h.backend = x.backend := by
  unfold hitsOf at hh
  cases hanswer : s.answering? x.backend with
  | none =>
    rw [hanswer] at hh
    cases hh
  | some i =>
    rw [hanswer] at hh
    obtain ⟨r, -, rfl⟩ := List.mem_map.1 hh
    rfl

theorem backend_of_mem_hitsFor {o : SearchOptions} {session raw : String} {id : Nat} {h : Hit}
    (hh : h ∈ s.hitsFor o session raw id) : h.backend = id := by
  unfold hitsFor at hh
  split at hh
  · cases hh
  · rename_i p hp
    exact (s.backend_of_mem_hitsOf hh).trans ((of_plan? hp).1)

/-- A backend that is down gives no hits. -/
theorem hitsFor_of_down {o : SearchOptions} {session raw : String} {id : Nat}
    (h : id ∈ s.down) : s.hitsFor o session raw id = [] := by
  unfold hitsFor
  split
  · rfl
  · rename_i p hp
    have havailable : s.available p.backend = false := by
      simp [available, (of_plan? hp).1, h]
    have hnone : s.answering? (p.execution s.catalog o session).backend = none := by
      simp [answering?, show (p.execution s.catalog o session).backend = p.backend from rfl,
        havailable]
    rw [hitsOf, hnone]
    rfl

/-- A backend that is up gives the hits that it gives when all are. -/
theorem hitsFor_of_up {o : SearchOptions} {session raw : String} {id : Nat}
    (h : id ∉ s.down) :
    s.hitsFor o session raw id = (s.withDown []).hitsFor o session raw id := by
  have havailable : (s.withDown []).available id = s.available id := by
    simp only [available, withDown, List.contains_nil, Bool.not_false, Bool.and_true]
    simp [h]
  have hthesaurus : (s.withDown []).thesaurus? id = s.thesaurus? id := by
    simp only [thesaurus?, havailable]
    rfl
  have hanswering : (s.withDown []).answering? id = s.answering? id := by
    simp only [answering?, havailable]
    rfl
  unfold hitsFor
  rw [show (s.withDown []).catalog = s.catalog from rfl, target_congr hthesaurus]
  split
  · rfl
  · rename_i p hp
    have hbackend : (p.execution s.catalog o session).backend = id := (of_plan? hp).1
    simp only [hitsOf, hbackend, hanswering]

/-- A backend gives the hits that it gives when all are up, unless it is down. -/
theorem hitsFor_eq_filter (o : SearchOptions) (session raw : String) (id : Nat) :
    s.hitsFor o session raw id =
      ((s.withDown []).hitsFor o session raw id).filter (·.backend ∉ s.down) := by
  have hsame : ∀ h ∈ (s.withDown []).hitsFor o session raw id,
      decide (h.backend ∉ s.down) = decide (id ∉ s.down) := fun h hh => by
    rw [(s.withDown []).backend_of_mem_hitsFor hh]
  rw [List.filter_congr hsame]
  by_cases hdown : id ∈ s.down
  · simp [s.hitsFor_of_down hdown, hdown]
  · rw [s.hitsFor_of_up hdown]
    exact (List.filter_eq_self.2 fun _ _ => decide_eq_true hdown).symm

/-- A backend of which something may be seen answers unless it is down, when the server is within
reach and no backend keeps silent. -/
theorem answering?_isNone_iff (hreachable : s.reachable = true) (hsilent : s.silent = []) {id : Nat}
    {allowed : List Nat} (hsome : s.catalog.authorized id allowed ≠ []) :
    (s.answering? id).isNone = true ↔ id ∈ s.down := by
  cases hindex : s.index? id with
  | none => simp [Catalog.authorized, s.backend?_catalog, hindex] at hsome
  | some i => simp [answering?, hindex, available, hreachable, hsilent]

/-- **The hits of a search are those that it has when all backends are up**, without those of the
backends that are down. -/
theorem planHits_eq_filter (o : SearchOptions) (session raw : String) :
    s.planHits o session (plan s.catalog s.thesaurus? raw o).plans =
      ((s.withDown []).planHits o session
        (plan s.catalog (s.withDown []).thesaurus? raw o).plans).filter (·.backend ∉ s.down) := by
  rw [s.planHits_plan, show s.catalog = (s.withDown []).catalog from rfl,
    (s.withDown []).planHits_plan, List.filter_flatMap]
  exact congrArg (o.backends.flatMap ·) (funext (s.hitsFor_eq_filter o session raw))

end Server

/-! ### Executions -/

namespace Attempt

variable {a : Attempt}

/-- The execution of the same search when all backends are up. -/
def allUp (a : Attempt) : Attempt := { a with engine := a.engine.withDown [] }

/-- **The hits of a search** are those that it has when all backends are up, without those of the
backends that are down. -/
theorem hits_eq_filter (a : Attempt) :
    a.hits = a.allUp.hits.filter (·.backend ∉ a.engine.server.down) :=
  a.engine.server.planHits_eq_filter a.effective a.session a.text

/-- **Everything fails** when some backend is asked for, and all are down that something is planned
for. -/
theorem allFailed_iff_down (hreachable : a.engine.server.reachable = true)
    (hsilent : a.engine.server.silent = [])
    (hopen : (a.engine.server.cursor? a.session).isSome) :
    a.summary.allFailed = true ↔ (a.request.plans ≠ [] ∨ a.request.failures ≠ []) ∧
      ∀ p ∈ a.request.plans, p.backend ∈ a.engine.server.down := by
  have hdown : ∀ p ∈ a.request.plans,
      (a.engine.cache.server.answering? p.backend).isNone = true ↔
        p.backend ∈ a.engine.server.down := fun p hp => by
    obtain ⟨hsome, -⟩ := planned_iff.1 ⟨p, (mem_plans.1 hp).2⟩
    exact a.engine.server.answering?_isNone_iff hreachable hsilent hsome
  rw [summary, Cache.allFailed_executed hopen, Bool.and_eq_true, List.all_eq_true, and_comm]
  refine and_congr ?_ (forall₂_congr hdown)
  simp only [Bool.not_eq_true', Bool.and_eq_false_iff, List.isEmpty_eq_false_iff, ne_eq,
    List.map_eq_nil_iff]

end Attempt

/-! ### Engines over datasets -/

namespace Engine

variable {start e : Engine} {h : History}

/-- **No backend of a dataset is silent**, whatever is done to the engine. -/
theorem Reached.silent_eq_nil {d : Dataset} {store : Store} {now : Calendar.Instant}
    {config : Config} (hstart : ofConfig (.ofDataset d) store now config = .ok start)
    (hreached : Reached start h e) : e.server.silent = [] := by
  refine (advances_runsAlong.reached hreached).silent.trans ?_
  unfold ofConfig at hstart
  split at hstart
  · cases hstart
    rfl
  · cases hstart

/-- **A backend that is down takes its own hits away, and nothing else.** Let a search be executed
on an engine over a dataset whose server is within reach. When all backends are up the same search
is executed in the same session. The hits in the cursor are those that it finds then, in the same
order, without those of the backends that are down, and the total is their number. The page is the
error page exactly when some backend is planned or refused, and all that are planned are down. None
is refused when the text with the record type can be read and no name in a clause is a keyword. -/
theorem Reached.search_loses_down {d : Dataset} {store : Store} {now : Calendar.Instant}
    {config : Config} (hstart : ofConfig (.ofDataset d) store now config = .ok start)
    (hreached : Reached start h e) (hreachable : e.server.reachable = true) {k : Caller}
    {text : String} {offset asked : Nat} {options : SearchOptions} {a : Attempt} {page : Page}
    {v' : Visit}
    (hattempt : (Step.search k text offset asked options).attempt? e = some a)
    (hsearch : Visit.search text offset asked options ⟨e, k⟩ = (.ok page, v')) :
    ∃ page₀ v₀ cursor cursor₀,
      (Step.search k text offset asked options).attempt? (e.withDown []) = some a.allUp ∧
      Visit.search text offset asked options ⟨e.withDown [], k⟩ = (.ok page₀, v₀) ∧
      v'.engine.server.cursor? a.session = some cursor ∧
      v₀.engine.server.cursor? a.session = some cursor₀ ∧
      cursor.hits = cursor₀.hits.filter (·.backend ∉ e.server.down) ∧
      page.total = cursor.hits.length ∧
      (page.isSuccess = false ↔ (a.request.plans ≠ [] ∨ a.request.failures ≠ []) ∧
        ∀ p ∈ a.request.plans, p.backend ∈ e.server.down) ∧
      (Readable (queryText text options) options → a.request.failures = []) := by
  obtain ⟨session, v, hattach, rfl, hdecide⟩ := Step.exists_attach_of_attempt? hattempt
  have hopen := Visit.isOpen_of_attach hattach
  have hcondition := Cache.condition_eq (Visit.attach_stands hattach).setting
  have hdown : v.engine.server.down = e.server.down := congrArg Condition.down hcondition
  have hreachable' : v.engine.server.reachable = true :=
    (congrArg Condition.reachable hcondition).trans hreachable
  have hsilent : v.engine.server.silent = [] :=
    (congrArg Condition.silent hcondition).trans (hreached.silent_eq_nil hstart)
  let a : Attempt := ⟨session, text, options, v.engine⟩
  rw [Visit.search_eq, Action.bind_apply, hattach] at hsearch
  obtain ⟨husable, cursor, hcursor, hhits, htotal, hsuccess⟩ :=
    Attempt.shows_of_searchIn (a := a) hreachable' hopen hdecide hsearch
  -- the caller is attached to the same session when all backends are up
  have hattach₀ : Visit.attach text ⟨e.withDown [], k⟩ = (.ok session, v.withDown []) := by
    have hcommutes := Visit.attach_withDown [] text ⟨e, k⟩
    rwa [hattach] at hcommutes
  have hdecide₀ : a.allUp.engine.cache.decide session a.allUp.request.text v.caller.force =
      .ok .recompute := hdecide
  have hattempt₀ : (Step.search k text offset asked options).attempt? (e.withDown []) =
      some a.allUp :=
    (Step.attempt?_eq_some_iff hattach₀ offset asked options).2
      ((Visit.attach_forceFree text).force_of_eq hattach ▸ hdecide₀)
  -- it is executed there as well, and its outcome is written into the same store
  obtain ⟨row?, c, hexecute⟩ := Cache.exists_execute (c := a.allUp.engine.cache) husable session
    a.allUp.effective a.allUp.request
  obtain ⟨page₀, v₀, hsearch₀⟩ : ∃ page₀ v₀, Visit.searchIn session text offset asked options
      ⟨a.allUp.engine, v.caller⟩ = (.ok page₀, v₀) := by
    have happly := a.allUp.searchIn_apply v.caller offset asked
    have hanswer : Cache.answer a.allUp.session a.allUp.effective a.allUp.request v.caller.force
        a.allUp.engine.cache = (.ok row?, c) := (Cache.answer_of_recompute hdecide₀).trans hexecute
    rw [hanswer] at happly
    exact ⟨_, _, happly⟩
  obtain ⟨-, cursor₀, hcursor₀, hhits₀, -⟩ :=
    Attempt.shows_of_searchIn (a := a.allUp) hreachable' hopen hdecide₀ hsearch₀
  refine ⟨page₀, v₀, cursor, cursor₀, hattempt₀, ?_, hcursor, hcursor₀, ?_, ?_, ?_, fun hread => ?_⟩
  · rw [Visit.search_eq, Action.bind_apply, hattach₀]
    exact hsearch₀
  · rw [hhits, hhits₀, a.hits_eq_filter, ← hdown]
  · rw [hhits, htotal]
  · rw [hsuccess, ← hdown, ← a.allFailed_iff_down hreachable' hsilent hopen]
    simp
  · -- filling the options in changes neither the record type nor the clauses
    exact failures_eq_nil (o := a.effective)
      ⟨hread.text, ⟨hread.clauses.fields, hread.clauses.minDate, hread.clauses.maxDate⟩⟩

/-- Without the photos a search finds what the other backend has. -/
theorem search_loses_down_of_photos :
    ∃ start page v cursor, ofConfig (.ofDataset Demo.dataset) .empty ⟨0, 0⟩ {} = .ok start ∧
      Visit.search "sea" 0 10 .standard
        ⟨Step.run start (.setAvailable 1 false), ⟨some 1, none, false⟩⟩ = (.ok page, v) ∧
      v.engine.server.cursor? "mem-00000001" = some cursor ∧
      (∀ h ∈ cursor.hits, h.backend ≠ 1) ∧ page.total = cursor.hits.length := by
  let s : Step := .search ⟨some 1, none, false⟩ "sea" 0 10 .standard
  obtain ⟨start, hstart⟩ : ∃ start,
      ofConfig (.ofDataset Demo.dataset) .empty ⟨0, 0⟩ {} = .ok start := ⟨_, rfl⟩
  let e := Step.run start (.setAvailable 1 false)
  have hattempted : (s.attempt? e).map (·.session) = some "mem-00000001" := by
    cases hstart
    decide +kernel
  have hanswered : (Visit.search "sea" 0 10 .standard ⟨e, ⟨some 1, none, false⟩⟩).1.isOk =
      true := by
    cases hstart
    decide +kernel
  have hdown : e.server.down = [1] := by
    cases hstart
    rfl
  have hreachable : e.server.reachable = true := by
    cases hstart
    rfl
  obtain ⟨a, ha, hsession⟩ := Option.map_eq_some_iff.1 hattempted
  cases hsearch : Visit.search "sea" 0 10 .standard ⟨e, ⟨some 1, none, false⟩⟩ with
  | mk r v =>
    rw [hsearch] at hanswered
    cases r with
    | error failure => cases hanswered
    | ok page =>
      obtain ⟨page₀, v₀, cursor, cursor₀, -, -, hcursor, -, hhits, htotal, -⟩ :=
        Reached.search_loses_down hstart (.step _ .start) hreachable ha hsearch
      rw [hsession] at hcursor
      refine ⟨start, page, v, cursor, hstart, hsearch, hcursor, fun h hh => ?_, htotal⟩
      rw [hhits, hdown, List.mem_filter] at hh
      simpa using hh.2

/-- A record type that cannot be written into a query has every search refused, with all backends
up: the page is the error page, and no backend is planned. -/
theorem not_forall_error_of_planned :
    ¬∀ (d : Dataset) (start e : Engine) (h : History) (k : Caller) (text : String)
      (offset asked : Nat) (options : SearchOptions) (a : Attempt) (page : Page) (v' : Visit),
      ofConfig (.ofDataset d) .empty ⟨0, 0⟩ {} = .ok start → Reached start h e →
      e.server.reachable = true → (∃ x, parse text = .ok x) → Writable options →
      (Step.search k text offset asked options).attempt? e = some a →
      Visit.search text offset asked options ⟨e, k⟩ = (.ok page, v') →
      (page.isSuccess = false ↔
        a.request.plans ≠ [] ∧ ∀ p ∈ a.request.plans, p.backend ∈ e.server.down) := by
  intro hclaim
  let options : SearchOptions := { SearchOptions.standard with recordType := some "(" }
  let s : Step := .search ⟨some 1, none, false⟩ "sea" 0 10 options
  obtain ⟨start, hstart⟩ : ∃ start,
      ofConfig (.ofDataset Demo.dataset) .empty ⟨0, 0⟩ {} = .ok start := ⟨_, rfl⟩
  have hplans : (s.attempt? start).map (·.request.plans.isEmpty) = some true := by
    cases hstart
    decide +kernel
  have herror : (Visit.search "sea" 0 10 options ⟨start, ⟨some 1, none, false⟩⟩).1.toOption.map
      Page.isSuccess = some false := by
    cases hstart
    decide +kernel
  have hread : (parse "sea").toOption.isSome = true := by decide +kernel
  obtain ⟨a, ha, hempty⟩ := Option.map_eq_some_iff.1 hplans
  cases hparse : parse "sea" with
  | error failure => simp [hparse, Except.toOption] at hread
  | ok x =>
    cases hsearch : Visit.search "sea" 0 10 options ⟨start, ⟨some 1, none, false⟩⟩ with
    | mk r v =>
      rw [hsearch] at herror
      cases r with
      | error failure => cases herror
      | ok page =>
        have hwritable : Writable options := ⟨List.forall_mem_nil _, nofun, nofun⟩
        have hiff := hclaim Demo.dataset start start [] ⟨some 1, none, false⟩ "sea" 0 10 options a
          page v hstart .start (by cases hstart; rfl) ⟨x, hparse⟩ hwritable ha hsearch
        exact (hiff.1 (Option.some.inj herror)).1 (List.isEmpty_iff.1 hempty)

end Engine

end FederatedSearch
