import FederatedSearch.Proofs.Engine.Deciding
import FederatedSearch.Proofs.Engine.Tending

/-!
# Searches that are refused

Over rows in memory a search fails before anything that it does for its caller: when its text is too
long, when the engine cannot connect or has no time to sweep from, or when the caller cannot be
attached to a session. The caller is then as it came, nothing was executed and no session opened,
and of the sessions at most those are gone that were idle for too long.

* `FederatedSearch.Attempt.exists_searchIn`: a search that has a session gives a page.
* `FederatedSearch.Visit.checkSession_error`: a caller that cannot be attached is left alone.
* `FederatedSearch.Engine.inMemory_runsAlong`: rows in memory stay there.
* `FederatedSearch.Engine.Reached.search_refused`: what is left of a search that fails.
-/

namespace FederatedSearch

open FederatedSearch.Action Calendar

variable {P : Row → Prop}

/-! ### What cannot fail -/

/-- A row can be looked for in a store that can be read. -/
theorem Store.Usable.exists_get? {s : Store} (h : s.Usable) (session : String) :
    ∃ row?, s.get? session = .ok row? := by
  obtain ⟨rows, hrows⟩ := h.rows
  exact ⟨Table.find? session rows, by simp only [Store.get?, hrows]; rfl⟩

/-- **A search that has a session gives a page**, where the store can be read and written. -/
theorem Attempt.exists_searchIn {a : Attempt} (h : a.engine.cache.store.Usable) (k : Caller)
    (offset asked : Nat) :
    ∃ page v, Visit.searchIn a.session a.text offset asked a.options ⟨a.engine, k⟩ =
      (.ok page, v) := by
  obtain ⟨row?, c, hanswer⟩ : ∃ row? c, Cache.answer a.session a.effective a.request k.force
      a.engine.cache = (.ok row?, c) := by
    obtain ⟨row?, hentry⟩ := h.exists_get? a.session
    by_cases hdecide :
        a.engine.cache.decide a.session a.request.text k.force = .ok .recompute
    · rw [Cache.answer_of_recompute hdecide]
      exact Cache.exists_execute h _ _ _
    · cases row? with
      | none =>
        refine absurd ?_ hdecide
        simp only [Cache.decide, Cache.entry, hentry]
        rfl
      | some row =>
        have hreuse := (Cache.decide_of_row hentry a.request.text k.force).2.resolve_left hdecide
        exact ⟨some row, _, by simp only [Cache.answer, bind_apply, look_apply, hreuse]; rfl⟩
  rw [searchIn_apply, hanswer]
  exact ⟨_, _, rfl⟩

namespace Visit

variable {v v' : Visit}

/-- **A caller that cannot be attached to a session** is left alone, and so is the engine. -/
theorem checkSession_error (hv : v.engine.cache.Sweepable P) {failure : Failure}
    (h : checkSession v = (.error failure, v')) : v' = v := by
  cases huser : v.caller.user with
  | none =>
    simp only [checkSession, bind_apply, get_apply, huser, fail_apply, Prod.mk.injEq] at h
    exact h.2.symm
  | some user =>
    cases hwired : v.engine.server.connected with
    | true =>
      -- a user at a connected server is never turned away
      obtain ⟨session, w, hok⟩ := exists_checkSession huser hwired hv
      rw [hok] at h
      cases (Prod.mk.inj h).1
    | false =>
      cases hown : v.ownSession? user with
      | some session =>
        obtain ⟨c, hregister⟩ := hv.exists_register session
        simp [checkSession, huser, hown, onCache, onEngine, Engine.onCache, hregister] at h
      | none =>
        have hcreate : v.engine.cache.server.createSession user = .error .notConnected :=
          if_neg (Bool.eq_false_iff.1 hwired)
        simp [checkSession, huser, hown, attachNew, onCache, onEngine, Engine.onCache, openSession,
          hcreate] at h
        exact h.2.symm

end Visit

/-! ### What a search has done before its caller has a session -/

namespace Cache

/-- **Every row and every cursor is as before.** -/
def SameSessions (c c' : Cache) : Prop :=
  ∀ id, c'.entry id = c.entry id ∧ c'.server.cursor? id = c.server.cursor? id

end Cache

namespace Visit

variable {v v' : Visit} {text : String}

/-- **Before a search looks at its caller** it leaves all sessions as they are, or closes the idle
ones. -/
theorem prepare_clears (hv : v.engine.cache.Sweepable P) (text : String) :
    let c := (prepare text v).2.engine.cache
    v.engine.cache.SameSessions c ∨ ∃ cutoff, v.engine.sweepCutoff = .ok cutoff ∧
      v.engine.cache.Clears c (v.engine.cache.isIdle cutoff) := by
  dsimp only
  rw [prepare_apply]
  cases v.engine.checkLength text with
  | error failure => exact .inl fun _ => ⟨rfl, rfl⟩
  | ok _ =>
    dsimp only
    cases htend : v.engine.tend with
    | mk r e =>
      cases r with
      | error failure =>
        rcases (Engine.tend_error hv htend).1 with rfl | ⟨wired, rfl⟩
        · exact .inl fun _ => ⟨rfl, rfl⟩
        · exact .inl fun _ => ⟨rfl, rfl⟩
      | ok n =>
        obtain ⟨wired, cutoff, c, rfl, hcutoff, -, hclears⟩ := Engine.tend_ok hv htend
        exact .inr ⟨cutoff, hcutoff, hclears⟩

/-- **Where a caller gets no session**, nothing was done but what is done before it is looked at. -/
theorem attach_error (hv : v.engine.cache.Sweepable P) {failure : Failure}
    (h : attach text v = (.error failure, v')) : v' = (prepare text v).2 := by
  rw [attach, bind_apply] at h
  cases hprepare : prepare text v with
  | mk r w =>
    rw [hprepare] at h
    cases r with
    | error failure' => exact (Prod.mk.inj h).2.symm
    | ok _ =>
      have hw : w.engine.cache.Sweepable P := by
        rw [prepare_apply] at hprepare
        cases hlength : v.engine.checkLength text with
        | error failure' =>
          rw [hlength] at hprepare
          cases (Prod.mk.inj hprepare).1
        | ok _ =>
          rw [hlength] at hprepare
          obtain ⟨hresult, rfl⟩ := Prod.mk.inj hprepare
          cases htend : v.engine.tend with
          | mk r e =>
            rw [htend] at hresult
            cases r with
            | error failure' => cases hresult
            | ok n =>
              obtain ⟨wired, cutoff, c, rfl, -, hc, -⟩ := Engine.tend_ok hv htend
              exact hc
      exact checkSession_error hw h

end Visit

/-! ### Rows in memory -/

namespace Cache

variable {c c' : Cache}

theorem InMemory.usable (h : c.InMemory) : c.store.Usable := by
  obtain ⟨rows, hrows⟩ := h
  rw [hrows]
  exact ⟨⟨rows, rfl⟩, ⟨rows, _, rfl⟩⟩

/-- The cache after an action on one whose rows are in memory. -/
abbrev Memorized (c c' : Cache) : Prop := c.InMemory → c'.InMemory

theorem memorized_refl (c : Cache) : c.Memorized c := id

theorem memorized_trans (a b c : Cache) (h : a.Memorized b) (h' : b.Memorized c) :
    a.Memorized c :=
  h' ∘ h

theorem InMemory.of_putRow (h : c.InMemory) {row : Row} (hput : c.putRow row = .ok c') :
    c'.InMemory := by
  obtain ⟨d, hd, hwrites⟩ := h.putRow row
  obtain rfl := Except.ok.inj (hd.symm.trans hput)
  exact hwrites.inMemory

theorem close_memorized (session : String) : Along Memorized (close session) := by
  intro c hc
  have hserver : Cache.InMemory { c with server := c.server.closeSession session } := hc
  obtain ⟨b, d, hremove, hwrites⟩ := hserver.removeRow session
  simp only [close, bind_apply, modify_apply, stepWith_apply, hremove]
  exact hwrites.inMemory

theorem register_memorized (session : String) :
    Along Memorized (Action.step (·.register session)) := by
  refine .step memorized_refl fun c c' h hc => ?_
  rcases register_ok h with ⟨row, -, rfl⟩ | hput
  · exact hc
  · exact hc.of_putRow hput

theorem answer_memorized (session : String) (o : SearchOptions) (r : Query.Request)
    (force : Bool) : Along Memorized (answer session o r force) := by
  refine .bind memorized_trans (.look memorized_refl _) fun decision => ?_
  cases decision with
  | reuse row => exact .pure memorized_refl _
  | recompute =>
    intro c hc
    -- the plans are executed on the server, and then one row is written
    have hexecuted : (c.executed session o r).2.InMemory := hc
    have hinvalidate : Along Memorized (Action.step (·.invalidate session)) :=
      .step memorized_refl fun d d' h hd => by
        obtain ⟨old, -, hput⟩ := invalidate_ok h
        exact hd.of_putRow hput
    have hrecord : ∀ duration total, Along Memorized
        (Action.stepWith (·.record session r.text duration total)) := fun duration total =>
      .stepWith memorized_refl fun d row d' h hd => by
        obtain ⟨old, -, -, hput⟩ := record_ok h
        exact hd.of_putRow hput
    simp only [execute, bind_apply, get_apply, set_apply]
    split
    · exact Along.bind memorized_trans hinvalidate
        (fun _ => .pure memorized_refl _) _ hexecuted
    · exact Along.bind memorized_trans (hrecord _ _)
        (fun _ => .pure memorized_refl _) _ hexecuted

end Cache

namespace Engine

variable {start e : Engine} {h : History}

/-- **Rows in memory stay there**, whatever is done. -/
theorem inMemory_runsAlong : RunsAlong fun e e' => Cache.Memorized e.cache e'.cache where
  refl _ := id
  trans _ _ _ h h' := h' ∘ h
  connect := by
    refine .step (fun _ => id) fun e e' h => ?_
    obtain ⟨wired, rfl⟩ := connect_ok h
    exact id
  close session e := Cache.close_memorized session e.cache
  openSession user e := by
    simp only [onCache, onPart_apply, stepWith_apply, Visit.openSession]
    cases e.cache.server.createSession user <;> exact id
  register session e := Cache.register_memorized session e.cache
  answer session o r force e := Cache.answer_memorized session o r force e.cache
  spares h := by
    rw [Cache.Memorized, Cache.InMemory, Cache.InMemory, h.store]
    exact id

/-- Rows in memory can be of any kind. -/
theorem Moment.admitted_true (m : Moment) : m.Admitted fun _ => True :=
  ⟨⟨fun _ => trivial, fun _ _ => trivial⟩, fun _ _ _ _ => trivial⟩

/-- Over rows in memory the store can be read and written all the time. -/
theorem Reached.sweepable (hreached : Reached start h e) (hstart : start.Started fun _ => True)
    (hmemory : start.cache.InMemory) : e.cache.Sweepable fun _ => True := by
  obtain ⟨hkept, -⟩ := hreached.quiet hstart.kept fun m _ => m.admitted_true
  exact ⟨hkept, (inMemory_runsAlong.reached hreached hmemory).usable⟩

/-- **A search that fails leaves no trace.** Let an engine be started with its rows in memory. In
every engine that is reached, a search that fails leaves its caller as it came, with its session and
its mark; it executes nothing and opens no session; and every row and every cursor is as before, but
that sessions may be gone together with their rows if these were not written after the time that is
swept from. -/
theorem Reached.search_refused (hstart : start.Started fun _ => True)
    (hmemory : start.cache.InMemory) (hreached : Reached start h e) {k : Caller} {text : String}
    {offset asked : Nat} {options : SearchOptions} {failure : Failure} {v' : Visit}
    (hsearch : Visit.search text offset asked options ⟨e, k⟩ = (.error failure, v')) :
    v'.caller = k ∧ e.Stands v'.engine ∧ v'.engine.server.nextSession = e.server.nextSession ∧
      v'.engine.server.executions = e.server.executions ∧
        (e.cache.SameSessions v'.engine.cache ∨
          ∃ cutoff, e.sweepCutoff = .ok cutoff ∧
            e.cache.Clears v'.engine.cache (e.cache.isIdle cutoff)) := by
  have hadmits : Row.Admits (fun _ => True) e.cache.now := ⟨fun _ => trivial, fun _ _ => trivial⟩
  have he := hreached.sweepable hstart hmemory
  -- a search that has a session gives a page, so this one failed before it had one
  have hattach : Visit.attach text ⟨e, k⟩ = (.error failure, v') := by
    rw [Visit.search_eq, bind_apply] at hsearch
    cases hattach : Visit.attach text ⟨e, k⟩ with
    | mk r v =>
      rw [hattach] at hsearch
      cases r with
      | error failure' =>
        obtain ⟨hfailure, rfl⟩ := Prod.mk.inj hsearch
        rw [Except.error.inj hfailure]
      | ok session =>
        obtain ⟨row, hrow⟩ := (Visit.attach_gains he.kept hadmits hattach).row
        let a : Attempt := ⟨session, text, options, v.engine⟩
        obtain ⟨page, w, hpage⟩ :=
          a.exists_searchIn (Store.usable_of_get? hrow) v.caller offset asked
        cases (Prod.mk.inj (hsearch.symm.trans hpage)).1
  have hstands := Visit.attach_stands hattach
  obtain rfl := Visit.attach_error he hattach
  have htrims := Visit.prepare_trimming text ⟨e, k⟩ he.kept
  exact ⟨(Visit.prepare_along text ⟨e, k⟩).2, hstands, htrims.nextSession, htrims.executions,
    Visit.prepare_clears he text⟩

/-- A caller without a user is refused after the session of another caller, which was idle, was
swept. -/
theorem search_refused_of_anonymous :
    let e := Step.run demo (.search ⟨some 1, none, false⟩ "sea" 0 10 .standard)
    ∃ failure v', Visit.search "sea" 0 10 .standard ⟨e, { force := true }⟩ =
        (.error failure, v') ∧ v'.caller = { force := true } ∧
      v'.engine.server.executions = e.server.executions ∧
        e.server.hasSession "mem-00000001" = true ∧
          v'.engine.server.hasSession "mem-00000001" = false := by
  intro e
  have hrefused : (Visit.search "sea" 0 10 .standard ⟨e, { force := true }⟩).1.isOk = false := by
    decide +kernel
  have hswept : (Visit.search "sea" 0 10 .standard
      ⟨e, { force := true }⟩).2.engine.server.hasSession "mem-00000001" = false := by
    decide +kernel
  cases hsearch : Visit.search "sea" 0 10 .standard ⟨e, { force := true }⟩ with
  | mk answer v' =>
    rw [hsearch] at hrefused hswept
    cases answer with
    | ok page => cases hrefused
    | error failure =>
      obtain ⟨hcaller, -, -, hexecutions, -⟩ := Reached.search_refused
        ⟨Store.memory_faithful (.nil _), rfl⟩ ⟨[], rfl⟩ (.step _ .start) hsearch
      exact ⟨failure, v', rfl, hcaller, hexecutions, by decide +kernel, hswept⟩

end Engine

end FederatedSearch
