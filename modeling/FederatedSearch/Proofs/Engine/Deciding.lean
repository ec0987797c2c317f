import FederatedSearch.Proofs.Engine.Executing
import FederatedSearch.Proofs.Engine.Upkeep
import FederatedSearch.Proofs.Session.Filing
import Mathlib.Algebra.GroupWithZero.Nat

/-!
# Reusing a row or executing anew

A search is answered by the row of its session when the row is of the same text and not too old, and
the caller does not ask for more; otherwise it is executed. In the first case nothing changes at
all, apart from the sessions that were swept before. In the second one the cursor of the session is
emptied and every plan goes to its backend, and the row is written anew. When nothing comes of an
execution on any backend, the row is emptied, and then no row answers in this session until an
execution there comes to something.

All this holds whatever store the rows are in and whatever rows an engine finds there when it is
started, as long as the store reads back the rows that are written to it.

* `FederatedSearch.Attempt.FailsEverywhere`: nothing comes of an execution.
* `FederatedSearch.Attempt.execute_cases`: what an execution writes.
* `FederatedSearch.Attempt.Reused`, `FederatedSearch.Attempt.Executed`: what the two cases mean.
* `FederatedSearch.Engine.Step.run_rows`, `FederatedSearch.Engine.Reached.rows`: where the rows come
  from.
* `FederatedSearch.Engine.Reached.quiet`: a session stays without a row that answers while nothing
  comes of its executions.
* `FederatedSearch.Engine.Moment.IsLegible`, `FederatedSearch.Engine.Reached.readsBack_of_newFile`:
  runs over a file, whose rows are read as they are written.
* `FederatedSearch.Engine.Reached.search_decides`: which of the two cases a search is.
-/

namespace FederatedSearch

open Calendar Query

/-! ### Decisions -/

/-- **A query is executed** when it is forced, or the row is of another one, or the row is too old;
otherwise the row is reused. -/
theorem Cache.decide_of_row {c : Cache} {session : String} {row : Row}
    (hrow : c.entry session = .ok (some row)) (query : String) (force : Bool) :
    (c.decide session query force = .ok .recompute ↔ force = true ∨ row.query ≠ query ∨
        (c.now.since row.queryTime).longerThan c.staleAfter = true) ∧
      (c.decide session query force = .ok .recompute ∨
        c.decide session query force = .ok (.reuse row)) := by
  have hstale : (force || row.isStale query c.now c.staleAfter) = true ↔ force = true ∨
      row.query ≠ query ∨ (c.now.since row.queryTime).longerThan c.staleAfter = true := by
    simp [Row.isStale]
  rw [decide_of_entry hrow, ← hstale]
  split
  · rename_i hforced
    simp [hforced]
  · rename_i hfresh
    simp [hfresh]

/-- Where nothing is executed, nothing changes. -/
theorem Cache.answer_of_ne_recompute {c : Cache} {session : String} {o : SearchOptions}
    {r : Request} {force : Bool} (h : c.decide session r.text force ≠ .ok .recompute) :
    (Cache.answer session o r force c).2 = c := by
  simp only [answer, Action.bind_apply, Action.look_apply]
  cases hdecide : c.decide session r.text force with
  | error failure => rfl
  | ok decision =>
    cases decision with
    | reuse row => rfl
    | recompute => exact absurd hdecide h

/-- **The plans of a search** in an open session leave the store and the ids as they are. -/
theorem Cache.Kept.executed {P : Row → Prop} {c : Cache} {session : String} (hc : c.Kept P)
    (hopen : (c.server.cursor? session).isSome) (o : SearchOptions) (r : Request) :
    (c.executed session o r).2.Kept P := by
  obtain ⟨sessions, executions, hexecuted⟩ := c.executed_eq session o r
  have hothers := fun id (hid : id ≠ session) => Cache.cursor?_executed_of_ne hopen o r hid
  rw [hexecuted] at hothers ⊢
  refine ⟨hc.store, fun id hid => ?_⟩
  by_cases hsession : id = session
  · exact hc.issued id (hsession ▸ hopen)
  · exact hc.issued id (hothers id hsession ▸ hid)

/-! ### What comes of an execution -/

/-- The total is the sum of the hits that the backends reported. -/
theorem Summary.total_eq_sum (s : Summary) : s.total = (s.results.map (·.2.hits)).sum := by
  unfold total
  induction s.results with
  | nil => rfl
  | cons r rest ih => rw [List.foldr_cons, ih, List.map_cons, List.sum_cons]

/-- What a page says of its search is what the row says. -/
structure Page.Shows (p : Page) (row : Row) : Prop where
  query : p.query = row.query
  total : p.total = row.total
  duration : p.duration = row.duration

theorem Visit.pageOf_shows (v : Visit) (session : String) (o : SearchOptions) (r : Request)
    (offset count : Nat) (row : Row) :
    (v.pageOf session o r offset count (some row)).Shows row := by
  simp only [pageOf, Server.page]
  cases v.engine.server.fetch? session (rankAfter offset 1) count none <;> exact ⟨rfl, rfl, rfl⟩

namespace Attempt

variable {a : Attempt}

/-- **Nothing comes of the execution**: a plan was made for some backend or its query was refused,
and none gave a report. -/
def FailsEverywhere (a : Attempt) : Prop :=
  (a.request.plans ≠ [] ∨ a.request.failures ≠ []) ∧ a.summary.results = []

theorem allFailed_iff : a.summary.allFailed = true ↔ a.FailsEverywhere := by
  -- without reports, each plan has a failure or a silent backend
  have houtcomes : a.request.plans.isEmpty =
      (a.summary.results.isEmpty && (a.summary.failures.isEmpty && a.summary.empty.isEmpty)) := by
    rw [← isEmpty_executePlans a.effective a.request.plans
      (a.engine.cache.server.clearResults a.session)]
    exact Summary.isEmpty_outcomes (a.request.failures.map (·.1)) _
  have hunparsed : a.summary.unparsed.isEmpty = a.request.failures.isEmpty := List.isEmpty_map
  unfold FailsEverywhere Summary.allFailed
  rw [hunparsed]
  simp only [ne_eq, ← List.isEmpty_iff]
  generalize a.request.plans.isEmpty = plans, a.request.failures.isEmpty = refused,
    a.summary.results.isEmpty = results, a.summary.failures.isEmpty = failures,
    a.summary.empty.isEmpty = silent at houtcomes ⊢
  subst houtcomes
  cases results <;> cases failures <;> cases silent <;> simp

theorem row?_eq_none_iff : a.row? = none ↔ a.FailsEverywhere := by
  rw [← allFailed_iff]
  unfold row?
  split <;> simp [*]

/-- **The figures of an execution are legible**: the seconds that it took and the number of its hits
are read as they are written. -/
structure HasLegibleFigures (a : Attempt) : Prop where
  duration : (Json.real a.summary.duration).IsLegible
  total : a.summary.total ≤ Number.maxWord 64

/-- The row of an execution is legible when its time and its figures are. -/
theorem HasLegibleFigures.row (h : a.HasLegibleFigures) (hnow : a.engine.cache.now.IsLegible)
    {row : Row} (hrow : a.row? = some row) : row.IsLegible := by
  unfold row? at hrow
  split at hrow
  · cases hrow
  · cases hrow
    exact ⟨hnow, hnow, h.duration, h.total⟩

/-! ### What an execution leaves -/

variable {P : Row → Prop}

/-- The plans of a search leave the store and the ids as they are. -/
theorem kept_executed (hc : a.engine.cache.Kept P)
    (hopen : (a.engine.cache.server.cursor? a.session).isSome) :
    (a.engine.cache.executed a.session a.effective a.request).2.Kept P :=
  hc.executed hopen a.effective a.request

/-- **An execution writes the row of its session**, or fails to: then the row is as before. -/
theorem execute_cases (hc : a.engine.cache.Kept P) (hadmits : Row.Admits P a.engine.cache.now)
    (hrow : ∀ row, a.row? = some row → P row)
    (hopen : (a.engine.cache.server.cursor? a.session).isSome) :
    ∃ r c, Cache.execute a.session a.effective a.request a.engine.cache = (r, c) ∧ c.Kept P ∧
      c.server = (executePlans a.effective a.session a.request.plans
        (a.engine.cache.server.clearResults a.session)).2 ∧
      ((∃ failure, r = .error failure) ∧ (∀ id, c.entry id = a.engine.cache.entry id) ∨
        ∃ row, r = .ok a.row? ∧
          (a.row? = none ∧ row.query = "" ∧ row.total = 0 ∨ a.row? = some row) ∧
            ∀ id, c.entry id =
              if a.session = id then .ok (some row) else a.engine.cache.entry id) := by
  have hfilled := kept_executed hc hopen
  generalize hc' : (a.engine.cache.executed a.session a.effective a.request).2 = c' at hfilled
  have hserver : c'.server = (executePlans a.effective a.session a.request.plans
      (a.engine.cache.server.clearResults a.session)).2 := hc' ▸ rfl
  have hentries : ∀ id, c'.entry id = a.engine.cache.entry id := fun id => hc' ▸ rfl
  have hnow : c'.now = a.engine.cache.now := hc' ▸ rfl
  have hsummary : (a.engine.cache.executed a.session a.effective a.request).1 = a.summary := rfl
  cases hfailed : a.summary.allFailed with
  | true =>
    have hnone := row?_eq_none hfailed
    cases hinvalidate : c'.invalidate a.session with
    | error failure =>
      refine ⟨.error failure, c', ?_, hfilled, hserver, .inl ⟨⟨failure, rfl⟩, hentries⟩⟩
      simp only [Cache.execute, Action.bind_apply, Action.get_apply, Action.set_apply, hc',
        hsummary, hfailed, if_true, Action.step_apply, hinvalidate]
    | ok c =>
      obtain ⟨hkept, hsame, row, hquery, htotal, hafter⟩ :=
        hfilled.invalidate (hnow ▸ hadmits) hinvalidate
      refine ⟨.ok none, c, ?_, hkept, hsame.trans hserver,
        .inr ⟨row, hnone ▸ rfl, .inl ⟨hnone, hquery, htotal⟩, fun id => ?_⟩⟩
      · exact Cache.execute_of_allFailed hfailed (hc' ▸ hinvalidate)
      · rw [hafter, hentries]
  | false =>
    have hsome := row?_eq_some hfailed
    rw [← hnow] at hsome
    cases hrecord : c'.record a.session a.request.text a.summary.duration a.summary.total with
    | error failure =>
      refine ⟨.error failure, c', ?_, hfilled, hserver, .inl ⟨⟨failure, rfl⟩, hentries⟩⟩
      simp only [Cache.execute, Action.bind_apply, Action.get_apply, Action.set_apply, hc',
        hsummary, hfailed, Bool.false_eq_true, if_false, Action.stepWith_apply, hrecord]
    | ok written =>
      obtain ⟨row, c⟩ := written
      obtain ⟨rfl, hkept, hsame, hafter⟩ :=
        hfilled.record (hnow ▸ hadmits) (hrow _ hsome) hrecord
      refine ⟨.ok (some _), c, ?_, hkept, hsame.trans hserver,
        .inr ⟨_, congrArg Except.ok hsome.symm, .inr hsome, fun id => ?_⟩⟩
      · exact Cache.execute_of_not_allFailed hfailed (hc' ▸ hrecord)
      · rw [hafter, hentries]

/-! ### The two cases -/

/-- **A search that was answered by its row**: nothing is done after the caller was attached to its
session. Before that nothing is executed, and rows and cursors are as before or gone, unless the
session is new. -/
structure Reused (a : Attempt) (e : Engine) (row : Row) (page : Page) (v : Visit) : Prop where
  engine : v.engine = a.engine
  executions : v.engine.server.executions = e.server.executions
  rows : ∀ id, v.engine.cache.entry id = e.cache.entry id ∨ v.engine.cache.entry id = .ok none
  cursors : ∀ id c, v.engine.server.cursor? id = some c → e.server.cursor? id = some c ∨
    id = a.session ∧ e.server.cursor? id = none ∧ c.hits = []
  page : page.Shows row

/-- **A search that was executed**: the cursor of the session is emptied, every plan is submitted to
its backend, and the row says what came of it. -/
structure Executed (a : Attempt) (e : Engine) (offset : Nat) (page : Page) (v : Visit) : Prop where
  server : v.engine.server = (executePlans a.effective a.session a.request.plans
    (a.engine.server.clearResults a.session)).2
  written : ¬a.FailsEverywhere → ∃ row, v.engine.cache.entry a.session = .ok (some row) ∧
    row.query = a.request.text ∧ row.queryTime = e.cache.now ∧ row.lastAccess = e.cache.now ∧
      row.total = (a.summary.results.map (·.2.hits)).sum ∧ page.Shows row
  emptied : a.FailsEverywhere → ∃ row, v.engine.cache.entry a.session = .ok (some row) ∧
    row.query = "" ∧ row.total = 0 ∧ page = .failed a.request.text offset
      (Message.unableToExecute.text (.ofLocale a.options.locale))

variable {e : Engine} {k k' : Caller} {offset asked : Nat} {page : Page} {v' : Visit}

/-- **A search whose row is reused.** -/
theorem reused_of_searchIn (he : e.cache.Kept P)
    (hgains : Visit.Gains ⟨e, k'⟩ a.session ⟨a.engine, k⟩) {row : Row}
    (hrow : a.engine.cache.entry a.session = .ok (some row)) (hquery : row.query = a.request.text)
    (hdecide : a.engine.cache.decide a.session a.request.text k.force = .ok (.reuse row))
    (hsearch : Visit.searchIn a.session a.text offset asked a.options ⟨a.engine, k⟩ =
      (.ok page, v')) : a.Reused e row page v' := by
  rw [searchIn_of_reuse hdecide, Prod.mk.injEq, Except.ok.injEq] at hsearch
  obtain ⟨rfl, rfl⟩ := hsearch
  refine ⟨rfl, hgains.executions, ?_, fun id c hc => ?_, Visit.pageOf_shows _ _ _ _ _ _ _⟩
  · -- the row is of a query, so it was not written just now
    rcases hgains.rows with hrows | hcreated
    · exact hrows
    · obtain rfl := Option.some.inj (Except.ok.inj (hrow.symm.trans hcreated))
      exact absurd hquery.symm a.text_ne_empty
  · rcases hgains.cursors id c hc with hbefore | ⟨hid, hnext, hhits⟩
    · exact .inl hbefore
    · exact .inr ⟨hid, hnext ▸ he.cursor?_next, hhits⟩

/-- **A search that is executed.** -/
theorem executed_of_searchIn (hc : a.engine.cache.Kept P)
    (hadmits : Row.Admits P a.engine.cache.now) (hrow : ∀ row, a.row? = some row → P row)
    (hopen : (a.engine.cache.server.cursor? a.session).isSome)
    (hnow : a.engine.cache.now = e.cache.now)
    (hdecide : a.engine.cache.decide a.session a.request.text k.force = .ok .recompute)
    (hsearch : Visit.searchIn a.session a.text offset asked a.options ⟨a.engine, k⟩ =
      (.ok page, v')) : a.Executed e offset page v' ∧ v'.engine.cache.Kept P := by
  obtain ⟨r, c, hexecute, hkept, hserver, ⟨⟨failure, rfl⟩, -⟩ | ⟨row, rfl, hcase, hentries⟩⟩ :=
    execute_cases hc hadmits hrow hopen
  · rw [searchIn_apply] at hsearch
    simp only [Cache.answer, Action.bind_apply, Action.look_apply, hdecide, hexecute] at hsearch
    cases hsearch
  · rw [searchIn_of_recompute hdecide hexecute, Prod.mk.injEq, Except.ok.injEq] at hsearch
    obtain ⟨rfl, rfl⟩ := hsearch
    have hentry : c.entry a.session = .ok (some row) := (hentries a.session).trans (if_pos rfl)
    refine ⟨⟨hserver, fun hcame => ?_, fun hfails => ?_⟩, hkept⟩
    · rcases hcase with ⟨hnone, -⟩ | hsome
      · exact absurd (row?_eq_none_iff.1 hnone) hcame
      · -- the row that was written is the one that the page is made of
        have hvalues := row?_eq_some (a := a) (Bool.eq_false_iff.2 (hcame ∘ allFailed_iff.1))
        obtain rfl := Option.some.inj (hvalues.symm.trans hsome)
        rw [hsome]
        exact ⟨_, hentry, rfl, hnow, hnow, a.summary.total_eq_sum,
          Visit.pageOf_shows _ _ _ _ _ _ _⟩
    · have hnone := row?_eq_none_iff.2 hfails
      rw [hnone] at hcase ⊢
      rcases hcase with ⟨-, hquery, htotal⟩ | hsome
      · exact ⟨row, hentry, hquery, htotal, rfl⟩
      · cases hsome

end Attempt

/-! ### Steps -/

/-- **No row of the session is of a query.** -/
def Cache.Quiet (c : Cache) (session : String) : Prop :=
  ∀ row, c.entry session = .ok (some row) → row.query = ""

theorem Cache.Rests.quiet {P : Row → Prop} {c c' : Cache} {session : String} (h : c.Rests P c')
    (hquiet : c.Quiet session) : c'.Quiet session :=
  fun row hrow => (h.rows session row hrow).elim (hquiet row) id

namespace Engine

variable {P : Row → Prop} {start e e' : Engine} {h : History} {id : String}

/-- **The rows that a step may write** are of the kind: those of no query, and that of the execution
that it comes to. -/
structure Moment.Admitted (P : Row → Prop) (m : Moment) : Prop where
  rows : Row.Admits P m.before.cache.now
  executed : ∀ a, m.step.attempt? m.before = some a → ∀ row, a.row? = some row → P row

/-- **A step is taken care of**: the cache is kept up, no row is of a query that it was not of
before, and no cursor is filled. -/
structure Minds (P : Row → Prop) (e e' : Engine) : Prop where
  kept : e'.cache.Kept P
  rows : ∀ id row, e'.cache.entry id = .ok (some row) →
    e.cache.entry id = .ok (some row) ∨ row.query = ""
  cursors : ∀ id k, e'.server.cursor? id = some k →
    e.server.cursor? id = some k ∨ ∃ n, e.server.nextSession ≤ n ∧ id = Server.sessionId n
  nextSession : e.server.nextSession ≤ e'.server.nextSession

theorem Minds.of_rests (h : e.cache.Rests P e'.cache) : Minds P e e' :=
  ⟨h.kept, h.rows, h.cursors, h.nextSession⟩

theorem Minds.of_spares (h : e.Spares e') (he : e.cache.Kept P) : Minds P e e' := by
  have hentry : ∀ id, e'.cache.entry id = e.cache.entry id :=
    fun id => congrArg (Store.get? · id) h.store
  have hcursor : ∀ id, e'.cache.server.cursor? id = e.cache.server.cursor? id :=
    fun id => congrArg (Table.find? id) h.sessions
  refine ⟨⟨h.store ▸ he.store, fun id hid => ?_⟩, fun id row hrow => ?_, fun id k hk => ?_,
    Nat.le_of_eq h.nextSession.symm⟩
  · obtain ⟨n, hn, heq⟩ := he.issued id (hcursor id ▸ hid)
    exact ⟨n, h.nextSession ▸ hn, heq⟩
  · exact .inl ((hentry id).symm.trans hrow)
  · exact .inl ((hcursor id).symm.trans hk)

theorem minds_follows :
    Follows fun e e' => e.cache.Kept P → Row.Admits P e.cache.now → Minds P e e' where
  spares h he _ := .of_spares h he
  checkSession caller e he hadmits :=
    .of_rests (Visit.checkSession_resting ⟨e, caller⟩ he hadmits)
  clearCache caller e he hadmits := .of_rests (Visit.clearCache_resting ⟨e, caller⟩ he hadmits)
  clearAll cutoff? e he hadmits :=
    .of_rests (Cache.resting_of_trimming (Cache.clearAll_trimming cutoff?) e.cache he hadmits)
  connect e he _ := .of_rests (connect_trimming e he).rests

/-- **What is left of a search in a session**: every row is as before, or of no query, or it is the
row of the execution. -/
theorem answer_rows {a : Attempt} {force : Bool} (hc : a.engine.cache.Kept P)
    (hadmits : Row.Admits P a.engine.cache.now)
    (hopen : (a.engine.cache.server.cursor? a.session).isSome)
    (hrow : a.engine.cache.decide a.session a.request.text force = .ok .recompute →
      ∀ row, a.row? = some row → P row) :
    let c := (Cache.answer a.session a.effective a.request force a.engine.cache).2
    c.Kept P ∧ ∀ id row, c.entry id = .ok (some row) →
      a.engine.cache.entry id = .ok (some row) ∨ row.query = "" ∨
        a.session = id ∧ a.row? = some row ∧
          a.engine.cache.decide a.session a.request.text force = .ok .recompute := by
  by_cases hdecide : a.engine.cache.decide a.session a.request.text force = .ok .recompute
  · obtain ⟨r, c, hexecute, hkept, -, hcases⟩ :=
      Attempt.execute_cases hc hadmits (hrow hdecide) hopen
    simp only [Cache.answer, Action.bind_apply, Action.look_apply, hdecide, hexecute]
    refine ⟨hkept, fun id row hafter => ?_⟩
    rcases hcases with ⟨-, hentries⟩ | ⟨written, -, hwritten, hentries⟩
    · exact .inl ((hentries id).symm.trans hafter)
    · rw [hentries] at hafter
      split at hafter
      · rename_i hid
        obtain rfl := Option.some.inj (Except.ok.inj hafter)
        rcases hwritten with ⟨-, hquery, -⟩ | hsome
        · exact .inr (.inl hquery)
        · exact .inr (.inr ⟨hid, hsome, trivial⟩)
      · exact .inl hafter
  · rw [Cache.answer_of_ne_recompute hdecide]
    exact ⟨hc, fun _ _ => .inl⟩

/-- **A step keeps the cache up**, and every row after it is as before, or of no query, or the row
of the execution that the step comes to. -/
theorem Step.run_rows (he : e.cache.Kept P) (s : Step) (hm : (Moment.mk s e).Admitted P) :
    (s.run e).cache.Kept P ∧ ∀ id row, (s.run e).cache.entry id = .ok (some row) →
      e.cache.entry id = .ok (some row) ∨ row.query = "" ∨
        ∃ a, (Moment.mk s e).attemptIn? id = some a ∧ a.row? = some row := by
  by_cases hs : ∀ caller text offset asked options, s ≠ .search caller text offset asked options
  · have hminds := minds_follows.run e hs he hm.rows
    exact ⟨hminds.kept, fun id row hrow => (hminds.rows id row hrow).imp_right .inl⟩
  · simp only [ne_eq, not_forall, not_not] at hs
    obtain ⟨caller, text, offset, asked, options, rfl⟩ := hs
    have hrests := Visit.attach_resting text ⟨e, caller⟩ he hm.rows
    cases hattach : Visit.attach text ⟨e, caller⟩ with
    | mk r v =>
      rw [hattach] at hrests
      have hrests : e.cache.Rests P v.engine.cache := hrests
      simp only [Step.run, Visit.search_eq, Action.bind_apply, hattach]
      cases r with
      | error failure =>
        exact ⟨hrests.kept, fun id row hrow => (hrests.rows id row hrow).imp_right .inl⟩
      | ok session =>
        let a : Attempt := ⟨session, text, options, v.engine⟩
        have hgains := Visit.attach_gains he hm.rows hattach
        have hforce : v.caller.force = caller.force :=
          (Visit.attach_forceFree text).force_of_eq hattach
        have hattempt := Step.attempt?_eq_some_iff hattach offset asked options
        have hnow : v.engine.cache.now = e.cache.now := Cache.now_eq hrests.setting
        have hafter : (Visit.searchIn session text offset asked options v).2.engine.cache =
            (Cache.answer session a.effective a.request caller.force v.engine.cache).2 :=
          hforce ▸ congrArg Engine.cache (a.engine_searchIn v.caller offset asked)
        obtain ⟨hkept, hrows⟩ := answer_rows (a := a) hrests.kept (hnow ▸ hm.rows) hgains.isOpen
          fun hdecide => hm.executed a (hattempt.2 hdecide)
        dsimp only
        rw [hafter]
        refine ⟨hkept, fun id row hrow => ?_⟩
        rcases hrows id row hrow with hbefore | hempty | ⟨hid, hwritten, hdecide⟩
        · exact (hrests.rows id row hbefore).imp_right .inl
        · exact .inr (.inl hempty)
        · exact .inr (.inr ⟨a,
            Option.filter_eq_some_iff.2 ⟨hattempt.2 hdecide, beq_iff_eq.2 hid⟩, hwritten⟩)

/-! ### Runs -/

/-- **Where a row comes from**: it was there at the start, or it is of no query, or it is that of an
execution in its session. -/
theorem Reached.rows (he : e.cache.Kept P) (hreached : Reached e h e')
    (hadmitted : ∀ m ∈ h, m.Admitted P) :
    e'.cache.Kept P ∧ ∀ id row, e'.cache.entry id = .ok (some row) →
      e.cache.entry id = .ok (some row) ∨ row.query = "" ∨
        ∃ m ∈ h, ∃ a, m.attemptIn? id = some a ∧ a.row? = some row := by
  induction hreached with
  | start => exact ⟨he, fun _ _ => .inl⟩
  | @step h e' s _ ih =>
    obtain ⟨hfirst, hrest⟩ := List.forall_mem_cons.1 hadmitted
    obtain ⟨hkept, hrows⟩ := ih hrest
    obtain ⟨hkept', hrows'⟩ := s.run_rows hkept hfirst
    refine ⟨hkept', fun id row hrow => ?_⟩
    rcases hrows' id row hrow with hbefore | hempty | hlast
    · refine (hrows id row hbefore).imp_right (.imp_right ?_)
      rintro ⟨m, hm, hexecuted⟩
      exact ⟨m, List.mem_cons_of_mem _ hm, hexecuted⟩
    · exact .inr (.inl hempty)
    · exact .inr (.inr ⟨_, List.mem_cons_self, hlast⟩)

/-- **A session with no row of a query** has none while nothing comes of the executions in it. -/
theorem Reached.quiet (he : e.cache.Kept P) (hreached : Reached e h e')
    (hadmitted : ∀ m ∈ h, m.Admitted P) :
    e'.cache.Kept P ∧ ∀ id, (∀ m ∈ h, ∀ a, m.attemptIn? id = some a → a.FailsEverywhere) →
      e.cache.Quiet id → e'.cache.Quiet id := by
  obtain ⟨hkept, hrows⟩ := hreached.rows he hadmitted
  refine ⟨hkept, fun id hfails hbefore row hrow => ?_⟩
  rcases hrows id row hrow with hold | hempty | ⟨m, hm, a, ha, hwritten⟩
  · exact hbefore row hold
  · exact hempty
  · rw [Attempt.row?_eq_none_iff.2 (hfails m hm a ha)] at hwritten
    cases hwritten

/-- **Every search in a session is executed** from here on, until something comes of one. -/
def RetriesIn (P : Row → Prop) (e : Engine) (session : String) : Prop :=
  ∀ h e', Reached e h e' → (∀ m ∈ h, m.Admitted P) →
    (∀ m ∈ h, ∀ a, m.attemptIn? session = some a → a.FailsEverywhere) →
      ∀ k text offset asked options v, Row.Admits P e'.cache.now →
        Visit.attach text ⟨e', k⟩ = (.ok session, v) →
          (Step.search k text offset asked options).attempt? e' =
            some ⟨session, text, options, v.engine⟩

/-- A session with no row of a query answers nothing. -/
theorem retriesIn_of_quiet (he : e.cache.Kept P) (hquiet : e.cache.Quiet id) :
    e.RetriesIn P id := by
  intro h e' hreached hadmitted hfails k text offset asked options v hadmits hattach
  obtain ⟨he', hquiet'⟩ := hreached.quiet he hadmitted
  refine (Step.attempt?_eq_some_iff hattach offset asked options).2 ?_
  have hrests := Visit.attach_resting text ⟨e', k⟩ he' hadmits
  obtain ⟨row, hrow⟩ := (Visit.attach_gains he' hadmits hattach).row
  rw [hattach] at hrests
  have hempty := hrests.quiet (hquiet' id hfails hquiet) row hrow
  refine (Cache.decide_of_row hrow _ _).1.2 (.inr (.inl ?_))
  rw [hempty]
  exact (Attempt.text_ne_empty ⟨id, text, options, v.engine⟩).symm

/-- **An engine that was started over a store** with rows of the kind: no session is open. -/
structure Started (e : Engine) (P : Row → Prop) : Prop where
  store : e.cache.store.Faithful P
  sessions : e.server.sessions = []

theorem Started.kept (hstart : start.Started P) : start.cache.Kept P := by
  refine ⟨hstart.store, fun id hid => ?_⟩
  have hnone : start.cache.server.cursor? id = none := congrArg (Table.find? id) hstart.sessions
  rw [hnone] at hid
  cases hid

/-- The engine over the server of a dataset and a store, as it is started by a configuration. -/
theorem ofConfig_started {d : Dataset} {store : Store} {now : Instant} {config : Config}
    (hstore : store.Faithful P) (h : ofConfig (.ofDataset d) store now config = .ok e) :
    e.Started P := by
  unfold ofConfig at h
  split at h
  · cases h
    exact ⟨hstore, rfl⟩
  · cases h

/-- **A moment is legible** when its time is, and the figures of the execution that it comes to. -/
structure Moment.IsLegible (m : Moment) : Prop where
  now : m.before.cache.now.IsLegible
  figures : ∀ a, m.step.attempt? m.before = some a → a.HasLegibleFigures

/-- A legible moment writes legible rows. -/
theorem Moment.IsLegible.admitted {m : Moment} (h : m.IsLegible) : m.Admitted Row.IsLegible := by
  refine ⟨Row.admits_isLegible h.now, fun a ha row hrow => ?_⟩
  have hnow : a.engine.cache.now = m.before.cache.now := by
    obtain ⟨s, e⟩ := m
    cases s with
    | search k text offset asked options =>
      obtain ⟨session, v, hattach, rfl, -⟩ := Step.exists_attach_of_attempt? ha
      exact Cache.now_eq (Visit.attach_stands hattach).setting
    | _ => cases ha
  exact (h.figures a ha).row (hnow ▸ h.now) hrow

/-- An engine that is started over a new file reads back legible rows. -/
theorem ofConfig_newFile_started {d : Dataset} {f : FileState} {now : Instant} {config : Config}
    (hf : f.IsNew) (h : ofConfig (.ofDataset d) (.file f) now config = .ok e) :
    e.Started Row.IsLegible :=
  ofConfig_started (Store.newFile_faithful hf) h

/-- **The file of a run that was started over a new one** holds a table of legible rows after any
legible moments, and the table is read back from its text. -/
theorem Reached.readsBack_of_newFile {d : Dataset} {f : FileState} {now : Instant} {config : Config}
    (hf : f.IsNew) (hstart : ofConfig (.ofDataset d) (.file f) now config = .ok start)
    (hreached : Reached start h e) (hlegible : ∀ m ∈ h, m.IsLegible) {rows : Table String Row}
    (hrows : e.cache.store.rows = .ok rows) :
    Row.TableOf Row.IsLegible rows ∧ Row.ReadsBack rows := by
  have hkept := (hreached.rows (ofConfig_newFile_started hf hstart).kept
    fun m hm => (hlegible m hm).admitted).1
  have htable := hkept.store.holds rows hrows
  exact ⟨htable, Row.readsBack_of_isLegible htable⟩

/-- **What decides of a search.** Let an engine be started over a store that reads back rows of some
kind, and let the rows that are written be of this kind. Then in every engine that is reached, a
search that gives a page looks at the row of the session that its caller was attached to. It is
executed exactly when it is forced, or the row is of another text, or the row is older than the
window; otherwise nothing is done. When nothing comes of the execution, the row is emptied, and
every later search in the session is executed, until something comes of one.

Rows in memory are read back whatever they are (`FederatedSearch.Store.memory_faithful`), and rows
in a file when their parts are (`FederatedSearch.Store.newFile_faithful`), which legible moments see
to (`FederatedSearch.Engine.Moment.IsLegible.admitted`). -/
theorem Reached.search_decides (hstart : start.Started P) (hreached : Reached start h e)
    {k : Caller} {text : String} {offset asked : Nat} {options : SearchOptions} {page : Page}
    {v' : Visit}
    (hadmitted : ∀ m ∈ ⟨.search k text offset asked options, e⟩ :: h, m.Admitted P)
    (hsearch : Visit.search text offset asked options ⟨e, k⟩ = (.ok page, v')) :
    ∃ session v row, Visit.attach text ⟨e, k⟩ = (.ok session, v) ∧
      v.engine.cache.entry session = .ok (some row) ∧
      let a : Attempt := ⟨session, text, options, v.engine⟩
      let stale := k.force = true ∨ row.query ≠ a.request.text ∨
        (e.cache.now.since row.queryTime).longerThan e.cache.staleAfter = true
      ((Step.search k text offset asked options).attempt? e = some a ↔ stale) ∧
        (¬stale → a.Reused e row page v') ∧
        (stale → a.Executed e offset page v' ∧
          (a.FailsEverywhere → v'.engine.RetriesIn P session)) := by
  obtain ⟨hm, hearlier⟩ := List.forall_mem_cons.1 hadmitted
  obtain ⟨he, -⟩ := hreached.quiet hstart.kept hearlier
  have hrests := Visit.attach_resting text ⟨e, k⟩ he hm.rows
  rw [Visit.search_eq, Action.bind_apply] at hsearch
  cases hattach : Visit.attach text ⟨e, k⟩ with
  | mk r v =>
    rw [hattach] at hsearch hrests
    cases r with
    | error failure => cases hsearch
    | ok session =>
      have hgains := Visit.attach_gains he hm.rows hattach
      have hforce : v.caller.force = k.force := (Visit.attach_forceFree text).force_of_eq hattach
      obtain ⟨e₁, k₁⟩ := v
      obtain ⟨row, hrow⟩ := hgains.row
      have hnow : e₁.cache.now = e.cache.now := Cache.now_eq hrests.setting
      have hwindow : e₁.cache.staleAfter = e.cache.staleAfter :=
        congrArg Setting.staleAfter hrests.setting
      let a : Attempt := ⟨session, text, options, e₁⟩
      obtain ⟨hiff, hcases⟩ := Cache.decide_of_row hrow a.request.text k.force
      have hattempt := Step.attempt?_eq_some_iff hattach offset asked options
      rw [hnow, hwindow] at hiff
      refine ⟨session, ⟨e₁, k₁⟩, row, rfl, hrow, hattempt.trans hiff, fun hfresh => ?_,
        fun hstale => ?_⟩
      · have hreuse := hcases.resolve_left (hfresh ∘ hiff.1)
        rw [← hforce] at hreuse
        have hquery : row.query = a.request.text := by
          by_contra hne
          exact hfresh (.inr (.inl hne))
        exact Attempt.reused_of_searchIn (a := a) he hgains hrow hquery hreuse hsearch
      · have hrecompute := hiff.2 hstale
        have hwritten := hm.executed a (hattempt.2 hrecompute)
        rw [← hforce] at hrecompute
        obtain ⟨hexecuted, hkept⟩ := Attempt.executed_of_searchIn (a := a) hrests.kept
          (hnow ▸ hm.rows) hwritten hgains.isOpen hnow hrecompute hsearch
        refine ⟨hexecuted, fun hfails => retriesIn_of_quiet hkept fun written hentry => ?_⟩
        obtain ⟨emptied, hemptied, hquery, -⟩ := hexecuted.emptied hfails
        obtain rfl := Option.some.inj (Except.ok.inj (hemptied.symm.trans hentry))
        exact hquery

/-- A query that is asked twice is executed once: the second page is made of the row. -/
theorem search_decides_after_search :
    let start : Engine := { demo with sweepAfter := ⟨3600 * nanosPerSecond⟩ }
    let e := Step.run start (.search ⟨some 1, none, false⟩ "sea" 0 10 .standard)
    ∃ page v row, Visit.search "sea" 0 10 .standard ⟨e, ⟨some 1, some "mem-00000001", false⟩⟩ =
        (.ok page, v) ∧ e.cache.entry "mem-00000001" = .ok (some row) ∧ page.Shows row ∧
      v.engine.server.executions = e.server.executions := by
  intro start e
  let k : Caller := ⟨some 1, some "mem-00000001", false⟩
  have hanswer : (Visit.search "sea" 0 10 .standard ⟨e, k⟩).1.isOk = true := by decide +kernel
  have hsession : (Visit.attach "sea" ⟨e, k⟩).1.toOption = some "mem-00000001" := by decide +kernel
  have hreused : ((Step.search k "sea" 0 10 .standard).attempt? e).isNone = true := by
    decide +kernel
  cases hsearch : Visit.search "sea" 0 10 .standard ⟨e, k⟩ with
  | mk answer v =>
    rw [hsearch] at hanswer
    cases answer with
    | error failure => cases hanswer
    | ok page =>
      obtain ⟨session, v₁, row, hattach, hrow, hiff, hfresh, -⟩ :=
        Reached.search_decides (P := fun _ => True) ⟨Store.memory_faithful (.nil _), rfl⟩
          (.step _ .start) (fun _ _ => ⟨⟨fun _ => trivial, fun _ _ => trivial⟩,
            fun _ _ _ _ => trivial⟩) hsearch
      rw [hattach] at hsession
      obtain rfl : session = "mem-00000001" := Option.some.inj hsession
      have hcase := hfresh fun hstale => by
        rw [hiff.2 hstale] at hreused
        cases hreused
      have hengine : v.engine = v₁.engine := hcase.engine
      refine ⟨page, v, row, rfl, ?_, hcase.page, hcase.executions⟩
      rw [← hengine] at hrow
      rcases hcase.rows "mem-00000001" with hsame | hgone
      · exact hsame.symm.trans hrow
      · rw [hgone] at hrow
        cases hrow

end Engine

end FederatedSearch
