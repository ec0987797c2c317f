import FederatedSearch.Proofs.Engine.Executing
import FederatedSearch.Proofs.Engine.Upkeep
import FederatedSearch.Proofs.Session.Sweeping

/-!
# Callers that come back

A caller that was attached to a session is not refused when it comes back, as long as the store can
be read and written: the text is no longer than before, the engine stays connected, and the time is
the same. When the row of its session was not swept before, it is not swept now, and the caller
finds its session as it was.

* `FederatedSearch.Visit.Ready`: a caller that is not refused.
* `FederatedSearch.Visit.ready_of_attach`, `FederatedSearch.Visit.Ready.of_stands`: a caller that
  was attached is ready, and stays so.
* `FederatedSearch.Visit.Ready.exists_attach`: a caller that is ready gets a session.
* `FederatedSearch.Visit.Ready.attach_of_active`: the session with a row that is not idle.
-/

namespace FederatedSearch

open FederatedSearch.Action

variable {P : Row → Prop}

/-! ### Engines that stay connected -/

/-- A session can be registered where the store can be read and written. -/
theorem Cache.exists_register {c : Cache} (h : c.store.Usable) (session : String) :
    ∃ c', c.register session = .ok c' := by
  obtain ⟨rows, hrows⟩ := h.rows
  have hentry : c.entry session = .ok (Table.find? session rows) := by
    simp only [Cache.entry, Store.get?, hrows]
    rfl
  simp only [Cache.register, hentry, bind, Except.bind]
  cases Table.find? session rows with
  | some row => exact ⟨c, rfl⟩
  | none => exact Cache.exists_putRow h _

theorem Cache.Sweepable.exists_register {c : Cache} (hc : c.Sweepable P)
    (session : String) : ∃ c', c.register session = .ok c' :=
  Cache.exists_register hc.usable session

/-- An engine that has connected has a server that is connected to. -/
def Engine.Linked (e : Engine) : Prop := e.connected = true → e.server.connected = true

theorem Engine.Advances.linked_of {e e' : Engine} (h : e.Advances e') (he : e.Linked) : e'.Linked :=
  fun hc => (h.linked hc).elim (h.wired ∘ he) id

theorem Engine.connected_of_connect {e e' : Engine} (h : e.connect = .ok e') :
    e'.connected = true := by
  unfold connect at h
  split at h
  · cases h
    assumption
  · split at h
    · cases h
    · cases hconnect : e.server.connect e.config.server.host e.config.server.port with
      | error failure =>
        rw [hconnect] at h
        cases h
      | ok server =>
        rw [hconnect] at h
        cases h
        rfl

namespace Visit

variable {v w : Visit} {text session : String} {user : Nat}

/-! ### The parts of a search before its session is known -/

/-- **What a search has done before it looks at its caller**: the text is not too long, the engine
has connected, and no session is idle. -/
theorem prepare_ok {u : Unit} (hv : v.engine.cache.Kept P) (h : prepare text v = (.ok u, w)) :
    v.engine.checkLength text = .ok () ∧ w.engine.connected = true ∧
      ∃ cutoff, w.engine.sweepCutoff = .ok cutoff ∧
        ∀ id, w.engine.cache.isIdle cutoff id = false := by
  obtain ⟨_, v₁, hlook, h⟩ := ok_of_bind h
  obtain ⟨hlength, rfl⟩ := Prod.mk.inj hlook
  obtain ⟨_, v₂, hconnects, h⟩ := ok_of_bind h
  obtain ⟨e, hconnect, rfl⟩ := ok_of_onPart hconnects
  obtain ⟨_, v₃, hsweeps, h⟩ := ok_of_bind h
  obtain ⟨e', hsweep, rfl⟩ := ok_of_onPart hsweeps
  obtain ⟨cutoff, e₁, hlook, hsweep⟩ := ok_of_bind hsweep
  obtain ⟨hcutoff, rfl⟩ := Prod.mk.inj hlook
  obtain ⟨c, hclear, rfl⟩ := ok_of_onPart hsweep
  obtain ⟨-, rfl⟩ := Prod.mk.inj h
  have hkept := Engine.connect_trimming (P := P) v.engine hv
  have hconnected := Engine.connected_of_connect (ok_of_step hconnect)
  rw [hconnect] at hkept
  have htrims := Cache.clearAll_trimming (P := P) (some cutoff) e.cache hkept.kept
  rw [hclear] at htrims
  refine ⟨hlength, hconnected, cutoff, ?_, (hkept.kept.clearAll hclear).isIdle_eq_false⟩
  rw [← hcutoff]
  simp only [Engine.sweepCutoff, show c.now = e.cache.now from Cache.now_eq htrims.setting]

/-! ### Callers that are ready -/

/-- **A caller that is not refused**: it is a user, its text is not too long, the engine is
connected, and there is a time to sweep from. -/
structure Ready (v : Visit) (text : String) (user : Nat) : Prop where
  user : v.caller.user = some user
  length : v.engine.checkLength text = .ok ()
  connected : v.engine.connected = true
  wired : v.engine.server.connected = true
  cutoff : ∃ cutoff, v.engine.sweepCutoff = .ok cutoff

/-- A caller stays ready while the configuration and the time stay. -/
theorem Ready.of_stands (h : v.Ready text user) (hstands : v.engine.Stands w.engine)
    (hadvances : v.engine.Advances w.engine) (hcaller : w.caller.user = v.caller.user) :
    w.Ready text user := by
  have hnow : w.engine.cache.now = v.engine.cache.now := Cache.now_eq hstands.setting
  refine ⟨hcaller.trans h.user, ?_, hadvances.connected h.connected, hadvances.wired h.wired, ?_⟩
  · rw [← h.length, Engine.checkLength, Engine.checkLength, hstands.config]
  · obtain ⟨cutoff, hcutoff⟩ := h.cutoff
    refine ⟨cutoff, ?_⟩
    rw [← hcutoff, Engine.sweepCutoff, Engine.sweepCutoff, hnow, hstands.sweepAfter]

theorem attach_advances {r : Except Failure String} (h : attach text v = (r, w)) :
    v.engine.Advances w.engine := by
  have hadvances := Engine.advances_runsAlong.toAttachesAlong.attach text v
  rwa [h] at hadvances

/-- **A caller that was attached to a session is ready** to come back, and no row but one of no
query was swept from it. -/
theorem ready_of_attach (hv : v.engine.cache.Kept P) (hadmits : Row.Admits P v.engine.cache.now)
    (hlinked : v.engine.Linked) (h : attach text v = (.ok session, w)) :
    (∃ user, w.Ready text user ∧ w.engine.server.opens session user = true) ∧
      ∀ cutoff row, w.engine.sweepCutoff = .ok cutoff →
        w.engine.cache.entry session = .ok (some row) → row.query ≠ "" →
          row.idleSince cutoff = false := by
  obtain ⟨user, huser, hopens, hcaller⟩ := attach_ok h
  have hlinked' := (attach_advances h).linked_of hlinked
  have hstands := attach_stands h
  obtain ⟨_, v₁, hprepare, hcheck⟩ := ok_of_bind h
  obtain ⟨hlength, hconnected, cutoff, hcutoff, hactive⟩ := prepare_ok hv hprepare
  have htrims := prepare_trimming (P := P) text v hv
  rw [hprepare] at htrims
  -- what the caller is attached to is registered, and nothing is swept any more
  have hstands₁ := Engine.stands_attachesAlong.checkSession v₁
  have hadvances₁ := Engine.advances_runsAlong.toAttachesAlong.checkSession v₁
  rw [hcheck] at hstands₁ hadvances₁
  have hnow : w.engine.cache.now = v₁.engine.cache.now := Cache.now_eq hstands₁.setting
  have hcutoff' : w.engine.sweepCutoff = .ok cutoff := by
    rw [← hcutoff, Engine.sweepCutoff, Engine.sweepCutoff, hnow, hstands₁.sweepAfter]
  have hconnected' := hadvances₁.connected hconnected
  refine ⟨⟨user, ⟨?_, ?_, hconnected', hlinked' hconnected', cutoff, hcutoff'⟩, hopens⟩,
    fun cutoff' row hcutoff'' hrow hquery => ?_⟩
  · rw [hcaller]
    exact huser
  · rw [← hlength, Engine.checkLength, Engine.checkLength, hstands.config]
  · obtain rfl := Except.ok.inj (hcutoff'.symm.trans hcutoff'')
    have hgains := checkSession_gains htrims.kept (Cache.now_eq htrims.setting ▸ hadmits) hcheck
    rcases hgains.rows with hrows | hcreated
    · rcases hrows session with hsame | hgone
      · have hidle := hactive session
        rwa [Cache.isIdle_of_entry (hsame.symm.trans hrow)] at hidle
      · rw [hgone] at hrow
        cases hrow
    · obtain rfl := Option.some.inj (Except.ok.inj (hcreated.symm.trans hrow))
      exact absurd rfl hquery

/-! ### Attaching a caller that is ready -/

/-- **A search that is not refused** sweeps the idle sessions before it looks at its caller. -/
theorem Ready.exists_prepare (h : v.Ready text user) (hv : v.engine.cache.Sweepable P) :
    ∃ c cutoff, prepare text v = (.ok (), ⟨{ v.engine with cache := c }, v.caller⟩) ∧
      v.engine.sweepCutoff = .ok cutoff ∧ c.Sweepable P ∧ c.server.connected = true ∧
        v.engine.cache.Clears c (v.engine.cache.isIdle cutoff) := by
  obtain ⟨cutoff, hcutoff⟩ := h.cutoff
  obtain ⟨n, c, hsweep, hc⟩ := Cache.clearAll_succeeds (some cutoff) v.engine.cache hv
  have hadvances := Engine.advances_runsAlong.toAttachesAlong.clearAll (some cutoff) v.engine
  rw [Engine.onCache, onPart_apply, hsweep] at hadvances
  have hconnect : v.engine.connect = .ok v.engine := if_pos h.connected
  refine ⟨c, cutoff, ?_, hcutoff, hc, hadvances.wired h.wired, hv.kept.clearAll hsweep⟩
  simp only [prepare, bind_apply, look_apply, onEngine, onPart_apply, step_apply, Engine.sweep,
    Engine.onCache, h.length, hconnect, hcutoff, hsweep, pure_apply]

/-- **A user at a connected server is attached to a session**, its own or a new one. -/
theorem exists_checkSession (huser : v.caller.user = some user)
    (hwired : v.engine.server.connected = true) (hv : v.engine.cache.Sweepable P) :
    ∃ session w, checkSession v = (.ok session, w) := by
  cases hown : v.ownSession? user with
  | some session =>
    obtain ⟨c, hregister⟩ := hv.exists_register session
    exact ⟨session, ⟨{ v.engine with cache := c }, v.caller⟩,
      by simp [checkSession, huser, hown, onCache, onEngine, Engine.onCache, hregister]⟩
  | none =>
    have hwired' : v.engine.cache.server.connected = true := hwired
    obtain ⟨id, server, hcreate⟩ : ∃ id server,
        v.engine.cache.server.createSession user = .ok (id, server) :=
      ⟨_, _, if_pos hwired'⟩
    have hcreated : Cache.Sweepable P { v.engine.cache with server } :=
      ⟨hv.kept.createSession hcreate, hv.usable⟩
    obtain ⟨c, hregister⟩ := hcreated.exists_register id
    exact ⟨id, ⟨{ v.engine with cache := c }, { v.caller with session := some id }⟩,
      by simp [checkSession, huser, hown, attachNew, onCache, onEngine, Engine.onCache, openSession,
        hcreate, hregister, modifyCaller]⟩

/-- **A caller that is ready gets a session.** -/
theorem Ready.exists_attach (h : v.Ready text user) (hv : v.engine.cache.Sweepable P) :
    ∃ session w, attach text v = (.ok session, w) := by
  obtain ⟨c, cutoff, hprepare, -, hc, hwired, -⟩ := h.exists_prepare hv
  obtain ⟨session, w, hcheck⟩ := exists_checkSession
    (v := ⟨{ v.engine with cache := c }, v.caller⟩) h.user hwired hc
  refine ⟨session, w, ?_⟩
  rw [attach, bind_apply, hprepare]
  exact hcheck

/-- **A caller whose row is not idle** finds its session as it was. -/
theorem Ready.attach_of_active (h : v.Ready text user) (hv : v.engine.cache.Sweepable P)
    (hsession : v.caller.session = some session)
    (hopens : v.engine.server.opens session user = true) {row : Row}
    (hrow : v.engine.cache.entry session = .ok (some row))
    (hactive : ∀ cutoff, v.engine.sweepCutoff = .ok cutoff → row.idleSince cutoff = false) :
    ∃ w, attach text v = (.ok session, w) ∧ w.engine.cache.entry session = .ok (some row) ∧
      w.engine.server.cursor? session = v.engine.server.cursor? session := by
  obtain ⟨c, cutoff, hprepare, hcutoff, -, -, hclears⟩ := h.exists_prepare hv
  have hidle : v.engine.cache.isIdle cutoff session = false :=
    (Cache.isIdle_of_entry hrow cutoff).trans (hactive cutoff hcutoff)
  have hrow' : c.entry session = .ok (some row) := (hclears.entry_of_not hidle).trans hrow
  have hcursor : c.server.cursor? session = v.engine.cache.server.cursor? session :=
    hclears.cursor_of_not hidle
  have hown : (⟨{ v.engine with cache := c }, v.caller⟩ : Visit).ownSession? user =
      some session := by
    refine Option.filter_eq_some_iff.2 ⟨hsession, ?_⟩
    rw [Server.opens] at hopens ⊢
    exact (congrArg (Option.any _) hcursor).trans hopens
  have hregister : c.register session = .ok c := by
    simp only [Cache.register, hrow']
    rfl
  refine ⟨⟨{ v.engine with cache := c }, v.caller⟩, ?_, hrow', hcursor⟩
  rw [attach, bind_apply, hprepare]
  simp [checkSession, h.user, hown, onCache, onEngine, Engine.onCache, hregister]

end Visit

end FederatedSearch
