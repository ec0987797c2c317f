import FederatedSearch.Proofs.Engine.History
import FederatedSearch.Proofs.Engine.Standing

/-!
# Executing over any store

Whatever store the rows are in, an execution changes cursors and a count on the server, and the row
of its session. It succeeds when the store can be read and written, and a search that succeeds
leaves such a store. What holds of each part of a search and wherever sessions and rows are left
alone holds of every step of an engine.

* `FederatedSearch.Cache.execute_outcome`, `FederatedSearch.Cache.exists_execute`: what an execution
  does, and when it succeeds.
* `FederatedSearch.Attempt.shows_of_searchIn`: what is shown of an execution.
* `FederatedSearch.Engine.RunsAlong`: a relation that every step follows.
-/

namespace FederatedSearch

open FederatedSearch.Action Query

/-! ### Executions -/

namespace Cache

variable {c c' : Cache} {session : String} {o : SearchOptions} {r : Request}

/-- **What an execution does**, whatever store the rows are in: it executes the plans and writes
into the store, if it can. There is a row unless everything failed. -/
theorem execute_outcome {x : Except Failure (Option Row)} (h : execute session o r c = (x, c')) :
    (∃ store, c' = { (c.executed session o r).2 with store } ∧
        (store = c.store ∨ c.store.Usable)) ∧
      ∀ row?, x = .ok row? → c.store.Usable ∧
        ((c.executed session o r).1.allFailed = true ∧ row? = none ∨
          (c.executed session o r).1.allFailed = false ∧
            ∃ row, row? = some row ∧ row.total = (c.executed session o r).1.total) := by
  simp only [execute, Action.bind_apply, Action.get_apply, Action.set_apply] at h
  cases hfailed : (c.executed session o r).1.allFailed with
  | true =>
    rw [hfailed, if_pos rfl, Action.bind_apply, Action.step_apply] at h
    cases hinvalidate : (c.executed session o r).2.invalidate session with
    | error e =>
      rw [hinvalidate] at h
      obtain ⟨rfl, rfl⟩ := Prod.mk.inj h
      exact ⟨⟨c.store, rfl, .inl rfl⟩, fun row? hrow => by cases hrow⟩
    | ok d =>
      rw [hinvalidate] at h
      obtain ⟨rfl, rfl⟩ := Prod.mk.inj h
      obtain ⟨old, -, hput⟩ := invalidate_ok hinvalidate
      have husable : (c.executed session o r).2.store.Usable := usable_of_putRow hput
      obtain ⟨store, -, rfl⟩ := putRow_ok hput
      exact ⟨⟨store, rfl, .inr husable⟩,
        fun row? hrow => ⟨husable, .inl ⟨rfl, (Except.ok.inj hrow).symm⟩⟩⟩
  | false =>
    rw [hfailed, if_neg (by decide), Action.bind_apply, Action.stepWith_apply] at h
    cases hrecord : (c.executed session o r).2.record session r.text
      (c.executed session o r).1.duration (c.executed session o r).1.total with
    | error e =>
      rw [hrecord] at h
      obtain ⟨rfl, rfl⟩ := Prod.mk.inj h
      exact ⟨⟨c.store, rfl, .inl rfl⟩, fun row? hrow => by cases hrow⟩
    | ok p =>
      obtain ⟨row, d⟩ := p
      rw [hrecord] at h
      obtain ⟨rfl, rfl⟩ := Prod.mk.inj h
      obtain ⟨old, -, hwritten, hput⟩ := record_ok hrecord
      have husable : (c.executed session o r).2.store.Usable := usable_of_putRow hput
      obtain ⟨store, -, rfl⟩ := putRow_ok hput
      refine ⟨⟨store, rfl, .inr husable⟩,
        fun row? hrow => ⟨husable, .inr ⟨rfl, row, (Except.ok.inj hrow).symm, ?_⟩⟩⟩
      rw [hwritten]
      rfl

/-- A search that is decided to be executed is executed. -/
theorem answer_of_recompute {force : Bool}
    (h : c.decide session r.text force = .ok .recompute) :
    answer session o r force c = execute session o r c := by
  simp only [answer, Action.bind_apply, Action.look_apply, h]

/-- An execution succeeds when the store can be read and written. -/
theorem exists_execute (h : c.store.Usable) (session : String) (o : SearchOptions) (r : Request) :
    ∃ row? c', execute session o r c = (.ok row?, c') := by
  have husable : (c.executed session o r).2.store.Usable := h
  obtain ⟨old, hold⟩ := exists_entryOrCreated husable session
  simp only [execute, Action.bind_apply, Action.get_apply, Action.set_apply]
  cases (c.executed session o r).1.allFailed with
  | true =>
    obtain ⟨d, hput⟩ := exists_putRow husable (old.emptied (c.executed session o r).2.now)
    have hinvalidate : (c.executed session o r).2.invalidate session = .ok d := by
      simp only [invalidate, hold, bind, Except.bind, hput]
    refine ⟨none, d, ?_⟩
    rw [if_pos rfl, Action.bind_apply, Action.step_apply, hinvalidate]
    rfl
  | false =>
    let row := old.executed r.text (c.executed session o r).2.now
      (c.executed session o r).1.duration (c.executed session o r).1.total
    obtain ⟨d, hput⟩ := exists_putRow husable row
    have hrecord : (c.executed session o r).2.record session r.text
        (c.executed session o r).1.duration (c.executed session o r).1.total = .ok (row, d) := by
      simp only [record, hold, bind, Except.bind, row, hput]
      rfl
    refine ⟨some row, d, ?_⟩
    rw [if_neg (by decide), Action.bind_apply, Action.stepWith_apply, hrecord]
    rfl

/-- The cursor of an open session after the plans of a search. -/
theorem exists_cursor_executed (hopen : (c.server.cursor? session).isSome) (o : SearchOptions)
    (r : Request) :
    (c.executed session o r).2.server.condition = c.server.condition ∧
      ∃ cursor, (c.executed session o r).2.server.cursor? session = some cursor ∧
        cursor.hits = c.server.planHits o session r.plans := by
  obtain ⟨old, hold⟩ := Option.isSome_iff_exists.1 hopen
  have hempty := c.server.cursor?_putCursor session (.empty old.user) session
  rw [if_pos rfl] at hempty
  have hfill := executePlans_extends (s := c.server.putCursor session (.empty old.user)) o r.plans
    (by rw [hempty]; rfl)
  simp only [executed, Server.clearResults_eq hold]
  exact ⟨hfill.condition, hfill.cursor _ hempty⟩

/-- The cursors of other sessions stay as they are. -/
theorem cursor?_executed_of_ne (hopen : (c.server.cursor? session).isSome) (o : SearchOptions)
    (r : Request) {id : String} (hid : id ≠ session) :
    (c.executed session o r).2.server.cursor? id = c.server.cursor? id := by
  obtain ⟨old, hold⟩ := Option.isSome_iff_exists.1 hopen
  have hempty := c.server.cursor?_putCursor session (.empty old.user)
  have hfill := executePlans_extends (s := c.server.putCursor session (.empty old.user)) o r.plans
    (by rw [hempty session, if_pos rfl]; rfl)
  simp only [executed, Server.clearResults_eq hold]
  exact (hfill.others id hid).trans ((hempty id).trans (if_neg (Ne.symm hid)))

/-- **The plans of a search change cursors and a count** on the server, and nothing else. -/
theorem executed_eq (c : Cache) (session : String) (o : SearchOptions) (r : Request) :
    ∃ sessions executions, (c.executed session o r).2 =
      { c with server := { c.server with sessions, executions } } := by
  have hclear : ∃ sessions, c.server.clearResults session = { c.server with sessions } := by
    unfold Server.clearResults
    split <;> exact ⟨_, rfl⟩
  obtain ⟨cleared, hclear⟩ := hclear
  obtain ⟨sessions, executions, hplans⟩ :=
    executePlans_eq o session r.plans (c.server.clearResults session)
  rw [hclear] at hplans
  exact ⟨sessions, executions, by simp only [executed, hclear, hplans]⟩

/-- **What an answer changes**: cursors and a count on the server, and the rows in the store. -/
theorem answer_eq (session : String) (o : SearchOptions) (r : Request) (force : Bool) (c : Cache) :
    ∃ sessions executions store, (answer session o r force c).2 =
      { c with server := { c.server with sessions, executions }, store } ∧
        (store = c.store ∨ c.store.Usable) := by
  simp only [answer, Action.bind_apply, Action.look_apply]
  cases c.decide session r.text force with
  | error failure => exact ⟨_, _, _, rfl, .inl rfl⟩
  | ok decision =>
    cases decision with
    | reuse row => exact ⟨_, _, _, rfl, .inl rfl⟩
    | recompute =>
      obtain ⟨sessions, executions, hexecuted⟩ := c.executed_eq session o r
      dsimp only
      cases hexecute : execute session o r c with
      | mk x c' =>
        obtain ⟨⟨store, rfl, hstore⟩, -⟩ := execute_outcome hexecute
        exact ⟨sessions, executions, store, by rw [hexecuted], hstore⟩

end Cache

/-- A page of a row in an open session of a server within reach shows no error. -/
theorem Visit.pageOf_some {v : Visit} {session : String}
    (hreachable : v.engine.server.reachable = true)
    (hopen : (v.engine.server.cursor? session).isSome) (o : SearchOptions) (r : Request)
    (offset count : Nat) (row : Row) :
    (v.pageOf session o r offset count (some row)).isSuccess = true ∧
      (v.pageOf session o r offset count (some row)).total = row.total := by
  obtain ⟨cursor, hcursor⟩ := Option.isSome_iff_exists.1 hopen
  have hmax : 0 < maxRank := by decide
  have hstart : (rankAfter offset 1 == 0) = false := by
    simp only [rankAfter, beq_eq_false_iff_ne]
    omega
  simp only [pageOf, Server.page, Server.fetch?, hreachable, hcursor, hstart, Bool.not_true,
    Bool.or_false, Bool.false_eq_true, if_false, Option.map_some]
  exact ⟨rfl, rfl⟩

/-- The error page shows an error, and no hits. -/
theorem Page.failed_unableToExecute (query : String) (offset : Nat) (language : Language) :
    (failed query offset (Message.unableToExecute.text language)).isSuccess = false := by
  have htext : (Message.unableToExecute.text language).isEmpty = false := by
    cases language <;> decide
  exact htext

namespace Attempt

variable {a : Attempt} {k : Caller} {offset asked : Nat} {page : Page} {v' : Visit}

/-- **What a search shows that is executed**: its total is the number of hits in the cursor, which
are those of its plans, and it is the error page when everything failed. -/
theorem shows_of_searchIn (hreachable : a.engine.server.reachable = true)
    (hopen : (a.engine.server.cursor? a.session).isSome)
    (hdecide : a.engine.cache.decide a.session a.request.text k.force = .ok .recompute)
    (hsearch : Visit.searchIn a.session a.text offset asked a.options ⟨a.engine, k⟩ =
      (.ok page, v')) :
    a.engine.cache.store.Usable ∧ ∃ cursor, v'.engine.server.cursor? a.session = some cursor ∧
      cursor.hits = a.hits ∧ page.total = a.hits.length ∧
        page.isSuccess = !a.summary.allFailed := by
  rw [searchIn_apply, Cache.answer_of_recompute hdecide] at hsearch
  cases hexecute : Cache.execute a.session a.effective a.request a.engine.cache with
  | mk r c =>
    rw [hexecute] at hsearch
    cases r with
    | error failure => cases hsearch
    | ok row? =>
      obtain ⟨hpage, rfl⟩ := Prod.mk.inj hsearch
      obtain rfl := Except.ok.inj hpage
      obtain ⟨⟨store, rfl, -⟩, hok⟩ := Cache.execute_outcome hexecute
      obtain ⟨husable, hrow⟩ := hok row? rfl
      obtain ⟨hcondition, cursor, hcursor, hhits⟩ :=
        Cache.exists_cursor_executed hopen a.effective a.request
      refine ⟨husable, cursor, hcursor, hhits, ?_⟩
      have htotal : a.summary.total = a.hits.length :=
        Cache.total_executed hopen a.effective a.request
      rcases hrow with ⟨hfailed, rfl⟩ | ⟨hfailed, row, rfl, hrow⟩
      · rw [hits_eq_nil hfailed hopen, show a.summary.allFailed = true from hfailed]
        exact ⟨rfl, Page.failed_unableToExecute _ _ _⟩
      · have hreachable' : (Cache.executed a.engine.cache a.session a.effective
            a.request).2.server.reachable = true :=
          (congrArg Condition.reachable hcondition).trans hreachable
        obtain ⟨hsuccess, hshown⟩ := Visit.pageOf_some
          (v := a.answered k { (a.engine.cache.executed a.session a.effective a.request).2 with
            store })
          hreachable' (Option.isSome_iff_exists.2 ⟨cursor, hcursor⟩) a.effective a.request offset
          (a.engine.pageSize asked) row
        rw [show a.summary.allFailed = false from hfailed]
        exact ⟨hshown.trans (hrow.trans htotal), hsuccess⟩

end Attempt

/-! ### Relations that steps follow -/

namespace Engine

/-- **A relation that every step follows**: the parts of a search lead along it, and it holds where
sessions and rows are left alone. -/
structure RunsAlong (R : Engine → Engine → Prop) : Prop extends AttachesAlong R where
  answer : ∀ session o r force, Along R (onCache (Cache.answer session o r force))
  spares : ∀ {e e' : Engine}, e.Spares e' → R e e'

variable {R : Engine → Engine → Prop} {e : Engine}

theorem RunsAlong.follows (h : RunsAlong R) : Follows R where
  spares := h.spares
  checkSession caller e := h.toAttachesAlong.checkSession ⟨e, caller⟩
  clearCache caller e := h.toAttachesAlong.clearCache ⟨e, caller⟩
  clearAll := h.toAttachesAlong.clearAll
  connect := h.connect

/-- **A search** leads along such a relation, also when it fails. -/
theorem RunsAlong.search (h : RunsAlong R) (v : Visit) (text : String) (offset asked : Nat)
    (options : SearchOptions) :
    R v.engine (Visit.search text offset asked options v).2.engine := by
  have hattached := h.toAttachesAlong.attach text v
  rw [Visit.search_eq, Action.bind_apply]
  cases hattach : Visit.attach text v with
  | mk r w =>
    rw [hattach] at hattached
    cases r with
    | error failure => exact hattached
    | ok session =>
      refine h.trans _ _ _ hattached ?_
      let a : Attempt := ⟨session, text, options, w.engine⟩
      exact (a.engine_searchIn w.caller offset asked).symm ▸ h.answer _ _ _ _ w.engine

/-- **Every step** leads along such a relation. -/
theorem RunsAlong.run (h : RunsAlong R) (e : Engine) (s : Step) : R e (s.run e) := by
  by_cases hs : ∀ caller text offset asked options, s ≠ .search caller text offset asked options
  · exact h.follows.run e hs
  · simp only [ne_eq, not_forall, not_not] at hs
    obtain ⟨caller, text, offset, asked, options, rfl⟩ := hs
    exact h.search ⟨e, caller⟩ text offset asked options

/-- **Every run** leads along such a relation. -/
theorem RunsAlong.reached (h : RunsAlong R) {start : Engine} {past : History}
    (hreached : Reached start past e) : R start e := by
  induction hreached with
  | start => exact h.refl start
  | step s _ ih => exact h.trans _ _ _ ih (h.run _ s)

/-- A search leaves the condition of the server as it is, and the configuration. -/
theorem condition_search (v : Visit) (text : String) (offset asked : Nat)
    (options : SearchOptions) :
    (Visit.search text offset asked options v).2.engine.server.condition =
      v.engine.server.condition := by
  rw [Visit.search_eq, Action.bind_apply]
  cases hattach : Visit.attach text v with
  | mk r w =>
    have hstands := Cache.condition_eq (Visit.attach_stands hattach).setting
    cases r with
    | error failure => exact hstands
    | ok session =>
      refine Eq.trans ?_ hstands
      let a : Attempt := ⟨session, text, options, w.engine⟩
      obtain ⟨sessions, executions, store, hanswer, -⟩ :=
        Cache.answer_eq session a.effective a.request w.caller.force w.engine.cache
      have hengine := congrArg Engine.cache (a.engine_searchIn w.caller offset asked)
      exact (congrArg (·.server.condition) hengine).trans (congrArg (·.server.condition) hanswer)

/-- **What every step keeps up**: no backend becomes silent or speaks up, ids are not taken back,
and a connection stays; an engine that connects has a server that is connected to. -/
structure Advances (e e' : Engine) : Prop where
  silent : e'.server.silent = e.server.silent
  nextSession : e.server.nextSession ≤ e'.server.nextSession
  wired : e.server.connected = true → e'.server.connected = true
  connected : e.connected = true → e'.connected = true
  linked : e'.connected = true → e.connected = true ∨ e'.server.connected = true

theorem Advances.refl (e : Engine) : e.Advances e := ⟨rfl, Nat.le_refl _, id, id, .inl⟩

/-- **No step undoes what earlier ones did.** -/
theorem advances_runsAlong : RunsAlong Advances where
  refl := .refl
  trans a b c h h' := ⟨h'.silent.trans h.silent, Nat.le_trans h.nextSession h'.nextSession,
    h'.wired ∘ h.wired, h'.connected ∘ h.connected,
    fun hc => (h'.linked hc).elim (fun hb => (h.linked hb).imp_right h'.wired) .inr⟩
  connect := by
    refine .step .refl fun e e' h => ?_
    unfold connect at h
    split at h
    · cases h
      exact .refl e
    · split at h
      · cases h
      · unfold Server.connect at h
        split at h
        · cases h
          exact ⟨rfl, Nat.le_refl _, fun _ => rfl, fun _ => rfl, fun _ => .inr rfl⟩
        · cases h
  close session e := by
    simp only [onCache, onPart_apply, Cache.close, bind_apply, modify_apply, stepWith_apply,
      Cache.removeRow]
    cases e.cache.store.remove session <;> exact ⟨rfl, Nat.le_refl _, id, id, .inl⟩
  openSession user e := by
    simp only [onCache, onPart_apply, stepWith_apply, Visit.openSession, Server.createSession]
    by_cases hwired : e.cache.server.connected = true
    · rw [if_pos hwired]
      exact ⟨rfl, Nat.le_succ _, id, id, .inl⟩
    · rw [if_neg hwired]
      exact .refl e
  register session e := by
    simp only [onCache, onPart_apply, step_apply]
    cases hregister : e.cache.register session with
    | error failure => exact .refl e
    | ok c =>
      obtain ⟨store, rfl⟩ := Cache.exists_store_of_register hregister
      exact ⟨rfl, Nat.le_refl _, id, id, .inl⟩
  answer session o r force e := by
    obtain ⟨sessions, executions, store, hanswer, -⟩ := Cache.answer_eq session o r force e.cache
    rw [onCache, onPart_apply, hanswer]
    exact ⟨rfl, Nat.le_refl _, id, id, .inl⟩
  spares h := ⟨h.silent, Nat.le_of_eq h.nextSession.symm, h.wired.trans, h.connected.trans,
    fun hc => .inl (h.connected.symm.trans hc)⟩

end Engine

/-- An execution leaves what is known of its engine as it is, besides rows and cursors. -/
theorem Attempt.stands_of_execute {a : Attempt} {x : Except Failure (Option Row)} {c : Cache}
    (h : Cache.execute a.session a.effective a.request a.engine.cache = (x, c)) :
    a.engine.Stands { a.engine with cache := c } ∧
      a.engine.Advances { a.engine with cache := c } := by
  obtain ⟨sessions, executions, hexecuted⟩ :=
    a.engine.cache.executed_eq a.session a.effective a.request
  obtain ⟨⟨store, rfl, -⟩, -⟩ := Cache.execute_outcome h
  rw [hexecuted]
  exact ⟨⟨rfl, rfl, rfl⟩, rfl, Nat.le_refl _, id, id, .inl⟩

/-- An answer leaves as much as it is, whether or not it is executed. -/
theorem Attempt.stands_of_answer {a : Attempt} {force : Bool} {x : Except Failure (Option Row)}
    {c : Cache}
    (h : Cache.answer a.session a.effective a.request force a.engine.cache = (x, c)) :
    a.engine.Stands { a.engine with cache := c } ∧
      a.engine.Advances { a.engine with cache := c } := by
  obtain ⟨sessions, executions, store, hanswer, -⟩ :=
    Cache.answer_eq a.session a.effective a.request force a.engine.cache
  rw [h] at hanswer
  subst hanswer
  exact ⟨⟨rfl, rfl, rfl⟩, rfl, Nat.le_refl _, id, id, .inl⟩

end FederatedSearch
