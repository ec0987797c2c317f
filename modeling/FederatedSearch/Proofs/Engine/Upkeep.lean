import FederatedSearch.Proofs.Engine.History
import FederatedSearch.Proofs.Session.Upkeep

/-!
# The upkeep of an engine

Before a search looks at the row of its session, the engine connects, sweeps, and attaches the
caller to a session. Here this is followed over any store that reads back what it is given: no row
becomes one of another query, and the session that the caller gets is open and has a row.

* `FederatedSearch.Visit.attach_resting`: the cache rests, also when the caller gets no session.
* `FederatedSearch.Visit.attach_gains`: what the caller gets.
-/

namespace FederatedSearch

variable {P : Row → Prop}

/-! ### Opening a session -/

/-- A cache stays kept up when a session is opened. -/
theorem Cache.Kept.createSession {c : Cache} (hc : c.Kept P) {server : Server} {user : Nat}
    {id : String} (h : c.server.createSession user = .ok (id, server)) :
    ({ c with server } : Cache).Kept P := by
  obtain ⟨hid, hnext, -, -, hcursor⟩ := Server.createSession_ok h
  refine ⟨hc.store, fun k hk => ?_⟩
  dsimp only at hk ⊢
  rw [hcursor] at hk
  rw [hnext]
  split at hk
  · rename_i heq
    exact ⟨_, Nat.lt_succ_self _, heq ▸ hid⟩
  · obtain ⟨n, hn, heq⟩ := hc.issued k hk
    exact ⟨n, Nat.lt_succ_of_lt hn, heq⟩

/-! ### Before the session is known -/

namespace Engine

/-- The engine after an action that trims its cache. -/
abbrev Trimmed (P : Row → Prop) (e e' : Engine) : Prop := Cache.Trimmed P e.cache e'.cache

theorem trimmed_refl (e : Engine) : Trimmed P e e := Cache.trimmed_refl e.cache

theorem trimmed_trans (a b c : Engine) (h : Trimmed P a b) (h' : Trimmed P b c) : Trimmed P a c :=
  Cache.trimmed_trans a.cache b.cache c.cache h h'

theorem connect_trimming : Action.Along (Trimmed P) (Action.step connect) := by
  refine .step trimmed_refl fun e e' h hc => ?_
  unfold connect at h
  split at h
  · cases h
    exact .refl hc
  · split at h
    · cases h
    · unfold Server.connect at h
      split at h
      · cases h
        exact ⟨⟨hc.store, hc.issued⟩, rfl, rfl, rfl, fun _ => .inl rfl, fun _ => .inl rfl⟩
      · cases h

theorem sweep_trimming : Action.Along (Trimmed P) sweep :=
  .bind trimmed_trans (.look trimmed_refl _) fun _ =>
    (Cache.clearAll_trimming _).onPart fun _ _ h => h

end Engine

namespace Visit

/-- The visit after an action that trims the cache. -/
abbrev Trimmed (P : Row → Prop) (v v' : Visit) : Prop := Engine.Trimmed P v.engine v'.engine

theorem trimmed_refl (v : Visit) : Trimmed P v v := v.engine.trimmed_refl

theorem trimmed_trans (a b c : Visit) (h : Trimmed P a b) (h' : Trimmed P b c) : Trimmed P a c :=
  Engine.trimmed_trans a.engine b.engine c.engine h h'

/-- **Before a caller is attached** the cache is trimmed. -/
theorem prepare_trimming (text : String) : Action.Along (Trimmed P) (prepare text) := by
  refine .bind trimmed_trans (.look trimmed_refl _) fun _ => ?_
  refine .bind trimmed_trans (Engine.connect_trimming.onPart fun _ _ h => h) fun _ => ?_
  exact .bind trimmed_trans (Engine.sweep_trimming.onPart fun _ _ h => h) fun _ =>
    .pure trimmed_refl _

/-! ### Attaching a caller -/

/-- The visit after an action that lets the cache rest. -/
abbrev Rested (P : Row → Prop) (v v' : Visit) : Prop :=
  Cache.Rested P v.engine.cache v'.engine.cache

theorem rested_refl (v : Visit) : Rested P v v := Cache.rested_refl v.engine.cache

theorem rested_trans (a b c : Visit) (h : Rested P a b) (h' : Rested P b c) : Rested P a c :=
  Cache.rested_trans a.engine.cache b.engine.cache c.engine.cache h h'

theorem onCache_resting {α : Type} {x : Action Cache α} (hx : Action.Along (Cache.Rested P) x) :
    Action.Along (Rested P) (onCache x) :=
  fun v => hx v.engine.cache

theorem openSession_resting (user : Nat) :
    Action.Along (Cache.Rested P) (Action.stepWith (openSession user)) := by
  refine .stepWith Cache.rested_refl fun c id c' h hc _ => ?_
  unfold openSession at h
  split at h
  · cases h
  · rename_i session server hcreate
    obtain ⟨rfl, rfl⟩ := Prod.mk.inj (Except.ok.inj h)
    obtain ⟨hid, hnext, hcondition, -, hcursor⟩ := Server.createSession_ok hcreate
    refine ⟨hc.createSession hcreate, ?_, fun _ _ => .inl, fun k cursor hk => ?_, ?_⟩
    · simp only [Cache.setting, hcondition]
    · have hcase := (hcursor k).symm.trans hk
      split at hcase
      · rename_i heq
        exact .inr ⟨_, Nat.le_refl _, heq ▸ hid⟩
      · exact .inl hcase
    · exact hnext ▸ Nat.le_succ _

theorem attachNew_resting (user : Nat) : Action.Along (Rested P) (attachNew user) :=
  .bind rested_trans (onCache_resting (openSession_resting user)) fun session =>
    .bind rested_trans (onCache_resting (Cache.register_resting session)) fun _ =>
      .bind rested_trans (.modify fun v => v.rested_refl) fun _ => .pure rested_refl _

theorem checkSession_resting : Action.Along (Rested P) checkSession := by
  refine .bind rested_trans (.get rested_refl) fun v => ?_
  cases v.caller.user with
  | none => exact .fail rested_refl _
  | some user =>
    dsimp only
    cases v.ownSession? user with
    | none => exact attachNew_resting user
    | some session =>
      exact .bind rested_trans (onCache_resting (Cache.register_resting session)) fun _ =>
        .pure rested_refl _

/-- **Attaching a caller lets the cache rest**, also when it fails. -/
theorem attach_resting (text : String) : Action.Along (Rested P) (attach text) :=
  .bind rested_trans ((prepare_trimming text).mono fun _ _ h hc _ => (h hc).rests) fun _ =>
    checkSession_resting

/-- Giving up a session trims the cache. -/
theorem clearCache_trimming : Action.Along (Trimmed P) clearCache := by
  refine .bind trimmed_trans (.get trimmed_refl) fun v => ?_
  cases v.caller.session with
  | none => exact .pure trimmed_refl _
  | some session =>
    refine .bind trimmed_trans (.modify fun v => v.trimmed_refl) fun _ => ?_
    have hclose : Action.Along (Trimmed P) (onCache (Cache.close session)) :=
      fun v => Cache.close_trimming session v.engine.cache
    exact .bind trimmed_trans hclose fun _ => .pure trimmed_refl _

theorem clearCache_resting : Action.Along (Rested P) clearCache :=
  clearCache_trimming.mono fun _ _ h hc _ => (h hc).rests

/-- **What a caller gets**: a session that is open and has a row. Nothing is executed. Rows are as
before or gone, unless the row of the session was written just now; cursors are as before or gone,
unless the session is new. -/
structure Gains (v : Visit) (session : String) (v' : Visit) : Prop where
  origin : v.caller.session = some session ∨
    session = Server.sessionId v.engine.cache.server.nextSession
  isOpen : (v'.engine.cache.server.cursor? session).isSome
  row : ∃ row, v'.engine.cache.entry session = .ok (some row)
  executions : v'.engine.cache.server.executions = v.engine.cache.server.executions
  rows : (∀ id, v'.engine.cache.entry id = v.engine.cache.entry id ∨
      v'.engine.cache.entry id = .ok none) ∨
    v'.engine.cache.entry session = .ok (some (.created session v.engine.cache.now))
  cursors : ∀ id c, v'.engine.cache.server.cursor? id = some c →
    v.engine.cache.server.cursor? id = some c ∨
      id = session ∧ id = Server.sessionId v.engine.cache.server.nextSession ∧ c.hits = []

section Gains

variable {v v' : Visit} {session : String}

theorem checkSession_gains (hv : v.engine.cache.Kept P) (hadmits : Row.Admits P v.engine.cache.now)
    (h : checkSession v = (.ok session, v')) : v.Gains session v' := by
  cases huser : v.caller.user with
  | none => simp [checkSession, huser] at h
  | some user =>
    cases hown : v.ownSession? user with
    | some claimed =>
      cases hregister : v.engine.cache.register claimed with
      | error e =>
        simp [checkSession, huser, hown, onCache, onEngine, Engine.onCache, hregister] at h
      | ok c =>
        -- the session that is claimed is open, and the row is its own
        simp [checkSession, huser, hown, onCache, onEngine, Engine.onCache, hregister] at h
        obtain ⟨rfl, rfl⟩ := h
        obtain ⟨hserver, hrow, hrows⟩ := hv.register hadmits hregister
        obtain ⟨hclaimed, hopen⟩ := ownSession?_eq_some hown
        refine ⟨.inl hclaimed, ?_, hrow, congrArg Server.executions hserver,
          hrows.imp_left fun hsame id => .inl (hsame id), fun id k hk => .inl ?_⟩
        · rw [hserver]
          exact hopen
        · rw [← hk, hserver]
    | none =>
      have hnew : attachNew user v = (.ok session, v') := by
        simpa [checkSession, huser, hown] using h
      obtain ⟨server, c, hcreate, hregister, rfl⟩ := attachNew_ok hnew
      obtain ⟨hid, -, -, hexecutions, hcursor⟩ := Server.createSession_ok hcreate
      obtain ⟨hserver, hrow, hrows⟩ := (hv.createSession hcreate).register hadmits hregister
      refine ⟨.inr hid, ?_, hrow, ?_, hrows.imp_left fun hsame id => .inl (hsame id),
        fun id k hk => ?_⟩
      · rw [hserver]
        exact Option.isSome_iff_exists.2 ⟨_, (hcursor session).trans (if_pos rfl)⟩
      · rw [hserver]
        exact hexecutions
      · rw [hserver] at hk
        have hcase := (hcursor id).symm.trans hk
        split at hcase
        · rename_i heq
          subst heq
          obtain rfl := Option.some.inj hcase
          exact .inr ⟨rfl, hid, rfl⟩
        · exact .inl hcase

/-- **A caller that was attached.** -/
theorem attach_gains {text : String} (hv : v.engine.cache.Kept P)
    (hadmits : Row.Admits P v.engine.cache.now) (h : attach text v = (.ok session, v')) :
    v.Gains session v' := by
  have htrims := prepare_trimming text v hv
  have hcaller := (prepare_along text v).2
  obtain ⟨_, v₁, hprepare, hcheck⟩ := Action.ok_of_bind h
  rw [hprepare] at htrims hcaller
  have hnow : v₁.engine.cache.now = v.engine.cache.now := Cache.now_eq htrims.setting
  have hgains := checkSession_gains htrims.kept (hnow ▸ hadmits) hcheck
  refine ⟨hgains.origin.imp (congrArg Caller.session hcaller).symm.trans
    fun hid => htrims.nextSession ▸ hid, hgains.isOpen, hgains.row,
    hgains.executions.trans htrims.executions, ?_, fun id c hc => ?_⟩
  · refine hgains.rows.imp (fun hrows id => ?_) fun hcreated => hnow ▸ hcreated
    rcases hrows id with hsame | hgone
    · rw [hsame]
      exact htrims.rows id
    · exact .inr hgone
  · rcases hgains.cursors id c hc with hbefore | ⟨hid, hnext, hhits⟩
    · rcases htrims.cursors id with hsame | hgone
      · exact .inl (hsame.symm.trans hbefore)
      · rw [hgone] at hbefore
        cases hbefore
    · exact .inr ⟨hid, htrims.nextSession ▸ hnext, hhits⟩

end Gains

end Visit

end FederatedSearch
