import FederatedSearch.Proofs.Engine.Deciding
import FederatedSearch.Proofs.Engine.Executing
import FederatedSearch.Proofs.Engine.Explained

/-!
# Where rows and hits come from

In every engine that was started over a store without rows, be it in memory or in a file, the row of
an open session that is of a query and the hits in its cursor come from one execution, the last one
in the session. The invariant behind it is that a history traces an engine; each step keeps it.

* `FederatedSearch.Engine.Step.run_session`: what a step does to one session.
* `FederatedSearch.Engine.Traced`: a history traces an engine.
* `FederatedSearch.Engine.Traced.step`: a step keeps it.
* `FederatedSearch.Engine.Reached.traced`: it holds of all that is reached.
-/

namespace FederatedSearch

variable {P : Row → Prop}

/-! ### One session -/

/-- **Nothing is executed in a session**: its row is as before or of no query, and its cursor is as
before or gone, unless the session is new. -/
structure Engine.Leaves (e e' : Engine) (id : String) : Prop where
  row : ∀ row, e'.cache.entry id = .ok (some row) →
    e.cache.entry id = .ok (some row) ∨ row.query = ""
  cursor : ∀ k, e'.server.cursor? id = some k →
    e.server.cursor? id = some k ∨ ∃ n, e.server.nextSession ≤ n ∧ id = Server.sessionId n

/-- **An execution fills its session**: the row is that of the execution or of no query, and the
cursor has its hits. -/
structure Attempt.Fills (a : Attempt) (e : Engine) : Prop where
  isOpen : (a.engine.server.cursor? a.session).isSome
  row : ∃ row, e.cache.entry a.session = .ok (some row) ∧ (row.query = "" ∨ a.row? = some row)
  cursor : ∃ k, e.server.cursor? a.session = some k ∧ k.hits = a.hits

/-- **An execution in a session with a row** succeeds: it fills the session, and leaves all others
alone. -/
theorem Attempt.execute_fills {a : Attempt} (hc : a.engine.cache.Kept P)
    (hadmits : Row.Admits P a.engine.cache.now) (hrow : ∀ row, a.row? = some row → P row)
    (hopen : (a.engine.server.cursor? a.session).isSome)
    (hthere : ∃ row, a.engine.cache.entry a.session = .ok (some row)) :
    ∃ c, Cache.execute a.session a.effective a.request a.engine.cache = (.ok a.row?, c) ∧
      c.Kept P ∧ a.Fills { a.engine with cache := c } ∧
        ∀ id ≠ a.session, c.entry id = a.engine.cache.entry id ∧
          c.server.cursor? id = a.engine.server.cursor? id := by
  obtain ⟨old, hold⟩ := hthere
  -- a store with a row can be written, so the execution does not fail
  obtain ⟨row?, c', hok⟩ := Cache.exists_execute (Store.usable_of_get? hold) a.session a.effective
    a.request
  obtain ⟨r, c, hexecute, hkept, hserver, hcases⟩ := execute_cases hc hadmits hrow hopen
  obtain ⟨-, cursor, hcursor, hhits⟩ := Cache.exists_cursor_executed hopen a.effective a.request
  have hothers : ∀ id ≠ a.session,
      (a.engine.cache.executed a.session a.effective a.request).2.server.cursor? id =
        a.engine.server.cursor? id :=
    fun id hid => Cache.cursor?_executed_of_ne hopen _ _ hid
  have hexecuted : c.server =
      (a.engine.cache.executed a.session a.effective a.request).2.server := hserver
  rw [← hexecuted] at hcursor hothers
  rcases hcases with ⟨⟨failure, rfl⟩, -⟩ | ⟨row, rfl, hwritten, hentries⟩
  · rw [hok] at hexecute
    cases hexecute
  · refine ⟨c, hexecute, hkept, ⟨hopen, ⟨row, (hentries a.session).trans (if_pos rfl), ?_⟩, cursor,
      hcursor, hhits⟩, fun id hid => ⟨?_, hothers id hid⟩⟩
    · exact hwritten.imp_left (·.2.1)
    · exact (hentries id).trans (if_neg (Ne.symm hid))

namespace Engine

variable {e e' : Engine} {id : String}

theorem leaves_of_rests (h : e.cache.Rests P e'.cache) (id : String) : e.Leaves e' id :=
  ⟨h.rows id, h.cursors id⟩

/-- **What a step does to one session**: nothing is executed in it, or it is filled. -/
theorem Step.run_session (he : e.cache.Kept P) (s : Step) (hm : (Moment.mk s e).Admitted P)
    (id : String) :
    (Moment.mk s e).attemptIn? id = none ∧ e.Leaves (s.run e) id ∨
      ∃ a, (Moment.mk s e).attemptIn? id = some a ∧ a.session = id ∧ a.Fills (s.run e) := by
  by_cases hs : ∀ caller text offset asked options, s ≠ .search caller text offset asked options
  · have hminds := minds_follows.run e hs he hm.rows
    have hnone : s.attempt? e = none := by
      cases s with
      | search caller text offset asked options =>
        exact absurd rfl (hs caller text offset asked options)
      | _ => rfl
    exact .inl ⟨by simp [Moment.attemptIn?, hnone], hminds.rows id, hminds.cursors id⟩
  · simp only [ne_eq, not_forall, not_not] at hs
    obtain ⟨caller, text, offset, asked, options, rfl⟩ := hs
    have hrests := Visit.attach_resting text ⟨e, caller⟩ he hm.rows
    cases hattach : Visit.attach text ⟨e, caller⟩ with
    | mk r v =>
      rw [hattach] at hrests
      have hrests : e.cache.Rests P v.engine.cache := hrests
      cases r with
      | error failure =>
        simp only [Step.run, Visit.search_eq, Action.bind_apply, hattach, Moment.attemptIn?,
          Step.attempt?, Option.filter_none]
        exact .inl ⟨trivial, leaves_of_rests hrests id⟩
      | ok session =>
        let a : Attempt := ⟨session, text, options, v.engine⟩
        have hgains := Visit.attach_gains he hm.rows hattach
        have hforce : v.caller.force = caller.force :=
          (Visit.attach_forceFree text).force_of_eq hattach
        have hattempt := Step.attempt?_eq_some_iff hattach offset asked options
        have hafter : (Step.search caller text offset asked options).run e =
            { v.engine with cache :=
              (Cache.answer session a.effective a.request caller.force v.engine.cache).2 } := by
          simp only [Step.run, Visit.search_eq, Action.bind_apply, hattach]
          exact hforce ▸ a.engine_searchIn v.caller offset asked
        by_cases hdecide :
            v.engine.cache.decide session a.request.text caller.force = .ok .recompute
        · obtain ⟨c, hexecute, -, hfills, hothers⟩ := Attempt.execute_fills (a := a) hrests.kept
            (Cache.now_eq hrests.setting ▸ hm.rows) (hm.executed a (hattempt.2 hdecide))
            hgains.isOpen hgains.row
          rw [hafter, Cache.answer_of_recompute hdecide, hexecute]
          by_cases hid : session = id
          · exact .inr ⟨a, Option.filter_eq_some_iff.2 ⟨hattempt.2 hdecide, beq_iff_eq.2 hid⟩, hid,
              hfills⟩
          · -- an execution in another session does not touch this one
            obtain ⟨hentry, hcursor⟩ := hothers id (Ne.symm hid)
            refine .inl ⟨by simp [Moment.attemptIn?, hattempt.2 hdecide, hid], fun row hrow => ?_,
              fun k hk => ?_⟩
            · exact hrests.rows id row (hentry.symm.trans hrow)
            · exact hrests.cursors id k (hcursor.symm.trans hk)
        · rw [hafter, Cache.answer_of_ne_recompute hdecide]
          refine .inl ⟨?_, leaves_of_rests hrests id⟩
          rw [Moment.attemptIn?, Option.filter_eq_none_iff]
          intro b hb
          obtain ⟨session', w, hattach', rfl, hdecide'⟩ := Step.exists_attach_of_attempt? hb
          obtain ⟨hsession, rfl⟩ := Prod.mk.inj (hattach.symm.trans hattach')
          obtain rfl := Except.ok.inj hsession
          exact absurd (hforce ▸ hdecide') hdecide

/-! ### Histories that trace an engine -/

/-- **A history traces an engine**: the row of an open session that is of a query, and the hits in
its cursor, are those of the last execution in it. No id that is to come has a row of a query. -/
structure Traced (P : Row → Prop) (h : History) (e : Engine) : Prop where
  kept : e.cache.Kept P
  free : ∀ n, e.server.nextSession ≤ n → e.cache.Quiet (Server.sessionId n)
  rows : ∀ id row cursor, e.cache.entry id = .ok (some row) → row.query ≠ "" →
    e.server.cursor? id = some cursor →
      ∃ a, h.lastAttempt? id = some a ∧ row.total = a.hits.length ∧ cursor.hits = a.hits

variable {start : Engine} {h : History}

/-- An engine over a store without rows is traced by having no history. -/
theorem Started.traced (hstart : start.Started P) (hempty : start.cache.store.rows = .ok []) :
    Traced P [] start := by
  have hnone : ∀ id row, start.cache.entry id ≠ .ok (some row) := by
    intro id row hrow
    rw [Cache.entry, Store.get?, hempty] at hrow
    cases hrow
  exact ⟨hstart.kept, fun n _ row hrow => absurd hrow (hnone _ row),
    fun id row _ hrow => absurd hrow (hnone id row)⟩

/-- **A step keeps an engine traced** by its history. -/
theorem Traced.step (hh : Traced P h e) (s : Step) (hm : (Moment.mk s e).Admitted P) :
    Traced P (⟨s, e⟩ :: h) (s.run e) := by
  have hkept := (s.run_rows hh.kept hm).1
  have hissued := (advances_runsAlong.run e s).nextSession
  refine ⟨hkept, fun n hn row hrow => ?_, fun id row cursor hrow hquery hcursor => ?_⟩
  · rcases s.run_session hh.kept hm (Server.sessionId n) with ⟨-, hleaves⟩ | ⟨a, -, hid, hfills⟩
    · exact (hleaves.row row hrow).elim (hh.free n (Nat.le_trans hissued hn) row) fun h => h
    · -- the session is open, so its id is not one to come
      obtain ⟨k, hk, -⟩ := hfills.cursor
      exact absurd hid.symm (hkept.ne_of_isSome (Option.isSome_iff_exists.2 ⟨k, hk⟩) hn)
  · rcases s.run_session hh.kept hm id with ⟨hnone, hleaves⟩ | ⟨a, hsome, rfl, hfills⟩
    · rw [lastAttempt?_cons_of_none hnone]
      have hbefore := (hleaves.row row hrow).resolve_right hquery
      rcases hleaves.cursor cursor hcursor with hsame | ⟨n, hn, rfl⟩
      · exact hh.rows id row cursor hbefore hquery hsame
      · exact absurd (hh.free n hn row hbefore) hquery
    · rw [lastAttempt?_cons_of_some hsome]
      obtain ⟨k, hk, hhits⟩ := hfills.cursor
      obtain rfl := Option.some.inj (hk.symm.trans hcursor)
      obtain ⟨row', hrow', hwritten⟩ := hfills.row
      obtain rfl := Option.some.inj (Except.ok.inj (hrow'.symm.trans hrow))
      exact ⟨a, rfl, Attempt.total_eq (hwritten.resolve_left hquery) hfills.isOpen, hhits⟩

/-- **Every engine that is reached from one over a store without rows is traced** by its history. -/
theorem Reached.traced (hstart : start.Started P) (hempty : start.cache.store.rows = .ok [])
    (hreached : Reached start h e) (hadmitted : ∀ m ∈ h, m.Admitted P) : Traced P h e := by
  induction hreached with
  | start => exact hstart.traced hempty
  | step s _ ih =>
    obtain ⟨hfirst, hrest⟩ := List.forall_mem_cons.1 hadmitted
    exact (ih hrest).step s hfirst

end Engine

end FederatedSearch
