import FederatedSearch.Proofs.Engine.Ownership
import FederatedSearch.Proofs.Engine.Paging

/-!
# Sessions that recall a search

A search that was answered leaves its caller in a session that recalls it: the row of the session
answers the search, or it is empty because nothing came of the search on any backend. In the second
case the search is executed again whenever it is made, and nothing comes of it as long as the same
backends answer. So in both cases it is known what is shown when the search is made once more, until
one of the two windows has passed.

* `FederatedSearch.Attempt.Recalls`: a session that recalls a search.
* `FederatedSearch.Attempt.Recalls.searchIn`: what is shown in such a session.
* `FederatedSearch.Visit.Answered`: a caller whose search was answered.
* `FederatedSearch.Engine.Reached.answered`: every search that gives a page leaves such a caller.
* `FederatedSearch.Visit.Answered.attach_at`: the caller is attached to its session again.
-/

namespace FederatedSearch

open FederatedSearch.Action Calendar

variable {P : Row → Prop}

/-! ### Sessions -/

namespace Attempt

/-- **The session of a search recalls it**: its row answers the search, or is empty and nothing
comes of the search. -/
def Recalls (a : Attempt) (row? : Option Row) : Prop :=
  ∃ row, a.engine.cache.entry a.session = .ok (some row) ∧
    (row? = some row ∧ row.query = a.request.text ∨
      row? = none ∧ row.query = "" ∧ a.FailsEverywhere)

variable {a : Attempt} {row? : Option Row}

/-- A session goes on recalling a search on an engine that plans alike and has the same row. -/
theorem Recalls.of_plansAlike (h : a.Recalls row?) {e : Engine} (halike : a.engine.PlansAlike e)
    (hopen : (a.engine.server.cursor? a.session).isSome)
    (hopen' : (e.server.cursor? a.session).isSome)
    (hentry : e.cache.entry a.session = a.engine.cache.entry a.session) :
    (a.again a.session e).Recalls row? := by
  obtain ⟨row, hrow, hcase⟩ := h
  refine ⟨row, hentry.trans hrow, hcase.imp (And.imp_right fun hquery => ?_)
    (And.imp_right (And.imp_right fun hfails => hfails.of_plansAlike halike hopen hopen'))⟩
  rw [(plan_of_plansAlike halike a.session).2]
  exact hquery

/-- **What is shown in a session that recalls a search**: the page of the row that answers, or the
error page when the row is empty. -/
theorem Recalls.searchIn (h : a.Recalls row?)
    (hfresh : ∀ row, row? = some row →
      (a.engine.cache.now.since row.queryTime).longerThan a.engine.cache.staleAfter = false)
    {k : Caller} (hforce : k.force = false) (offset asked : Nat) :
    ∃ w, Visit.searchIn a.session a.text offset asked a.options ⟨a.engine, k⟩ =
      (.ok ((⟨a.engine, k⟩ : Visit).pageOf a.session a.effective a.request offset
        (a.engine.pageSize asked) row?), w) := by
  obtain ⟨row, hrow, ⟨rfl, hquery⟩ | ⟨rfl, hquery, hfails⟩⟩ := h
  · have hdecide : a.engine.cache.decide a.session a.request.text k.force = .ok (.reuse row) := by
      rw [Cache.decide_of_entry hrow, Row.isStale, hforce, hquery, hfresh row rfl]
      simp
    exact ⟨_, searchIn_of_reuse hdecide⟩
  · -- no row answers, and the row that is written for an execution is empty again
    have hdecide : a.engine.cache.decide a.session a.request.text k.force = .ok .recompute :=
      (Cache.decide_of_row hrow _ _).1.2 (.inr (.inl (hquery ▸ a.text_ne_empty.symm)))
    obtain ⟨row?, c, hexecute⟩ := Cache.exists_execute (Store.usable_of_get? hrow) a.session
      a.effective a.request
    have hfailed : (a.engine.cache.executed a.session a.effective a.request).1.allFailed = true :=
      allFailed_iff.2 hfails
    obtain ⟨-, rfl⟩ | ⟨hcame, -⟩ := ((Cache.execute_outcome hexecute).2 row? rfl).2
    · refine ⟨a.answered k c, ?_⟩
      rw [searchIn_apply, Cache.answer_of_recompute hdecide, hexecute]
      rfl
    · rw [hfailed] at hcame
      cases hcame

end Attempt

/-! ### Callers -/

/-- The engine at a time. -/
def Engine.setClock (e : Engine) (now : Instant) : Engine :=
  { e with cache := e.cache.setClock now }

namespace Visit

/-- The visit at a time. -/
def setClock (v : Visit) (now : Instant) : Visit := { v with engine := v.engine.setClock now }

/-- **Neither window has passed** for the row of the session of the caller: it is not too old to
answer its query, and it is not swept. -/
def InTime (v : Visit) : Prop :=
  ∃ row cutoff, v.sessionEntry = .ok (some row) ∧ v.engine.sweepCutoff = .ok cutoff ∧
    (row.query ≠ "" → (v.engine.cache.now.since row.queryTime).longerThan
      v.engine.cache.staleAfter = false) ∧ row.idleSince cutoff = false

/-- **A caller whose search was answered.** -/
structure Answered (P : Row → Prop) (a : Attempt) (row? : Option Row) (v : Visit) : Prop where
  engine : v.engine = a.engine
  kept : v.engine.cache.Kept P
  ready : ∃ user, v.Ready a.text user ∧ v.engine.server.opens a.session user = true
  claims : v.caller.session = some a.session
  unmarked : v.caller.force = false
  recalls : a.Recalls row?

/-- **A caller that is back in the session that recalls its search**: what is shown to it is the
same as before. -/
structure Returned (a : Attempt) (row? : Option Row) (w : Visit) : Prop where
  config : w.engine.config = a.engine.config
  condition : w.engine.server.condition = a.engine.server.condition
  cursor : w.engine.server.cursor? a.session = a.engine.server.cursor? a.session
  isOpen : (w.engine.server.cursor? a.session).isSome
  unmarked : w.caller.force = false
  recalls : (a.again a.session w.engine).Recalls row?
  fresh : ∀ row, row? = some row → (w.engine.cache.now.since row.queryTime).longerThan
    w.engine.cache.staleAfter = false

end Visit

/-- **The caller of a search that was answered is attached to its session again**, as long as
neither window has passed. -/
theorem Visit.Answered.attach_at {a : Attempt} {row? : Option Row} {v : Visit}
    (h : v.Answered P a row?) {t : Instant} (hintime : (v.setClock t).InTime) :
    ∃ w, attach a.text (v.setClock t) = (.ok a.session, w) ∧ w.Returned a row? := by
  obtain ⟨user, hready, hopens⟩ := h.ready
  obtain ⟨row, hrow, hcase⟩ := h.recalls
  have hrow' : (v.setClock t).engine.cache.entry a.session = .ok (some row) :=
    (congrArg (·.cache.entry a.session) h.engine).trans hrow
  obtain ⟨row', cutoff, hentry, hcutoff, hfresh, hactive⟩ := hintime
  obtain rfl : row = row' := by
    simp only [sessionEntry, show (v.setClock t).caller.session = some a.session from h.claims,
      hrow'] at hentry
    exact Option.some.inj (Except.ok.inj hentry)
  have hready' : (v.setClock t).Ready a.text user :=
    ⟨hready.user, hready.length, hready.connected, hready.wired, cutoff, hcutoff⟩
  obtain ⟨w, hattach, hafter, hcursor⟩ := hready'.attach_of_active
    ⟨⟨h.kept.store, h.kept.issued⟩, Store.usable_of_get? hrow'⟩ h.claims hopens hrow'
    fun cutoff' hcutoff' => by
      obtain rfl := Except.ok.inj (hcutoff.symm.trans hcutoff')
      exact hactive
  have hstands := attach_stands hattach
  have hcondition : w.engine.server.condition = a.engine.server.condition :=
    (Cache.condition_eq hstands.setting).trans (congrArg (·.server.condition) h.engine)
  have hconfig : w.engine.config = a.engine.config :=
    hstands.config.trans (show v.engine.config = a.engine.config from congrArg _ h.engine)
  have hsame : w.engine.server.cursor? a.session = a.engine.server.cursor? a.session :=
    hcursor.trans (congrArg (·.server.cursor? a.session) h.engine)
  have hopen : (a.engine.server.cursor? a.session).isSome :=
    Server.isSome_of_opens (h.engine ▸ hopens)
  refine ⟨w, hattach, hconfig, hcondition, hsame, hsame ▸ hopen,
    ((attach_forceFree a.text).force_of_eq hattach).trans h.unmarked,
    h.recalls.of_plansAlike (Engine.plansAlike_of_condition hconfig hcondition) hopen
      (hsame ▸ hopen) (hafter.trans hrow.symm), fun row' hsome => ?_⟩
  obtain ⟨hanswers, hquery⟩ | ⟨hnone, -⟩ := hcase
  · obtain rfl := Option.some.inj (hanswers.symm.trans hsome)
    have hstaleAfter : w.engine.cache.staleAfter = (v.setClock t).engine.cache.staleAfter :=
      congrArg Setting.staleAfter hstands.setting
    rw [Cache.now_eq hstands.setting, hstaleAfter]
    exact hfresh (hquery ▸ a.text_ne_empty)
  · rw [hnone] at hsome
    cases hsome

/-! ### Searches that were answered -/

namespace Engine

variable {start e : Engine} {h : History}

/-- An engine that was started just now has not connected. -/
theorem ofConfig_linked {server : Server} {store : Store} {now : Instant} {config : Config}
    (hstart : ofConfig server store now config = .ok start) : start.Linked := by
  obtain ⟨-, -, hconnected⟩ := ofConfig_ok hstart
  intro hc
  rw [hconnected] at hc
  cases hc

/-- **Every search that gives a page** leaves a caller whose search was answered, and its page is
the one of the row that its session recalls. -/
theorem Reached.answered (hstarted : start.Started P) (hlinked : start.Linked)
    (hreached : Reached start h e) {k : Caller} {text : String} {offset asked : Nat}
    {options : SearchOptions} {page : Page} {v : Visit}
    (hadmitted : ∀ m ∈ ⟨.search k text offset asked options, e⟩ :: h, m.Admitted P)
    (hsearch : Visit.search text offset asked options ⟨e, k⟩ = (.ok page, v)) :
    ∃ session row?, let a : Attempt := ⟨session, text, options, v.engine⟩
      v.Answered P a row? ∧ page = v.pageOf session a.effective a.request offset
        (v.engine.pageSize asked) row? := by
  let s : Step := .search k text offset asked options
  obtain ⟨hm, hearlier⟩ := List.forall_mem_cons.1 hadmitted
  obtain ⟨he, -⟩ := hreached.quiet hstarted.kept hearlier
  have hafter : v.engine = s.run e := (congrArg (·.2.engine) hsearch).symm
  have hkept : v.engine.cache.Kept P :=
    hafter ▸ ((hreached.step s).quiet hstarted.kept hadmitted).1
  rw [Visit.search_eq] at hsearch
  obtain ⟨session, u, hattach, hsearchIn⟩ := ok_of_bind hsearch
  have hrests := Visit.attach_resting text ⟨e, k⟩ he hm.rows
  rw [hattach] at hrests
  have hopen := Visit.isOpen_of_attach hattach
  have hforce : u.caller.force = k.force := (Visit.attach_forceFree text).force_of_eq hattach
  obtain ⟨⟨user, hready, hopens⟩, -⟩ := Visit.ready_of_attach (v := ⟨e, k⟩) he hm.rows
    ((advances_runsAlong.reached hreached).linked_of hlinked) hattach
  obtain ⟨-, -, -, hcaller⟩ := Visit.attach_ok hattach
  let b : Attempt := ⟨session, text, options, u.engine⟩
  obtain ⟨row?, c, hanswer, rfl, hpage⟩ := Attempt.ok_of_searchIn (a := b) hsearchIn
  obtain ⟨row, hrow, hcase⟩ := Attempt.entry_after_answer hrests.kept
    (Cache.now_eq hrests.setting ▸ hm.rows) (fun hdecide => hm.executed b
      ((Step.attempt?_eq_some_iff hattach offset asked options).2 (hforce ▸ hdecide))) hopen hanswer
  obtain ⟨hstands, hadvances⟩ := Attempt.stands_of_answer hanswer
  have howner := Cache.owner?_answer b.session b.effective b.request u.caller.force b.engine.cache
  rw [hanswer] at howner
  have hopens' : c.server.opens session user = true :=
    Server.opens_iff_owner?.2 ((congrFun howner session).trans (Server.opens_iff_owner?.1 hopens))
  have halike : b.engine.PlansAlike (b.answered u.caller c).engine :=
    plansAlike_of_condition rfl (Cache.condition_eq hstands.setting)
  obtain ⟨heffective, hrequest⟩ := Attempt.plan_of_plansAlike halike session
  refine ⟨session, row?, ⟨rfl, hkept, ⟨user, hready.of_stands hstands hadvances rfl, hopens'⟩,
    congrArg Caller.session hcaller, rfl, row, hrow, ?_⟩, ?_⟩
  · refine hcase.imp (And.imp_right fun hquery => hquery.trans ?_)
      (And.imp_right (And.imp_right fun hfails => hfails.of_plansAlike halike hopen
        (Server.isSome_of_opens hopens')))
    exact congrArg Query.Request.text hrequest.symm
  · rw [hpage, ← heffective, ← hrequest]
    rfl

end Engine

end FederatedSearch
