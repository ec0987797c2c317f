import FederatedSearch.Proofs.Engine.Attaching
import FederatedSearch.Proofs.Session.Upkeep

/-!
# What attaching a caller leaves as it is

Attaching a caller to a session connects the engine, closes idle sessions, opens one and registers
one. A relation of engines that each of these follows is one that attaching follows. Most of what
answers depend on is left as it is by all of them, whatever store the rows are in.

* `FederatedSearch.Engine.AttachesAlong`: a relation that attaching follows.
* `FederatedSearch.Visit.attach_stands`: the setting and the configuration stay.
* `FederatedSearch.Visit.attach_ok`: the session that the caller gets is open for it.
-/

namespace FederatedSearch

open FederatedSearch.Action

/-! ### Relations that attaching follows -/

/-- **A relation that attaching a caller follows**: each of its parts leads along it. -/
structure Engine.AttachesAlong (R : Engine → Engine → Prop) : Prop where
  refl : ∀ e, R e e
  trans : ∀ a b c, R a b → R b c → R a c
  connect : Along R (Action.step connect)
  close : ∀ session, Along R (onCache (Cache.close session))
  openSession : ∀ user, Along R (onCache (Action.stepWith (Visit.openSession user)))
  register : ∀ session, Along R (onCache (Action.step (·.register session)))

namespace Engine.AttachesAlong

variable {R : Engine → Engine → Prop}

/-- Closing idle sessions, seen from the engine around the cache. -/
theorem sweepSessions (h : AttachesAlong R) (cutoff : Calendar.Instant) (sessions : List String) :
    Along (fun c c' => ∀ e : Engine, R { e with cache := c } { e with cache := c' })
      (Cache.sweepSessions cutoff sessions) := by
  have hrefl : ∀ (c : Cache) (e : Engine), R { e with cache := c } { e with cache := c } :=
    fun c e => h.refl _
  have htrans : ∀ a b c : Cache, (∀ e : Engine, R { e with cache := a } { e with cache := b }) →
      (∀ e : Engine, R { e with cache := b } { e with cache := c }) →
        ∀ e : Engine, R { e with cache := a } { e with cache := c } :=
    fun a b c hab hbc e => h.trans _ _ _ (hab e) (hbc e)
  induction sessions with
  | nil => exact .pure hrefl _
  | cons session rest ih =>
    refine .bind htrans (.bind htrans (.look hrefl _) fun row? => ?_) fun _ =>
      .bind htrans ih fun _ => .pure hrefl _
    cases row? with
    | none => exact .pure hrefl _
    | some row =>
      dsimp only
      split
      · exact fun c e => h.close session { e with cache := c }
      · exact .pure hrefl _

theorem clearAll (h : AttachesAlong R) (cutoff? : Option Calendar.Instant) :
    Along R (onCache (Cache.clearAll cutoff?)) := by
  intro e
  simp only [onCache, onPart_apply, Cache.clearAll, bind_apply, get_apply, look_apply]
  cases e.cache.store.expired (cutoff?.getD e.cache.now) with
  | error failure => exact h.refl e
  | ok sessions => exact h.sweepSessions _ sessions e.cache e

theorem sweep (h : AttachesAlong R) : Along R sweep :=
  .bind h.trans (.look h.refl _) fun _ => h.clearAll _

theorem onEngine {α : Type} {x : Action Engine α} (hx : Along R x) :
    Along (fun v v' : Visit => R v.engine v'.engine) (Visit.onEngine x) :=
  hx.onPart fun _ _ h => h

theorem checkSession (h : AttachesAlong R) :
    Along (fun v v' : Visit => R v.engine v'.engine) Visit.checkSession := by
  have hrefl : ∀ v : Visit, R v.engine v.engine := fun v => h.refl v.engine
  have htrans : ∀ a b c : Visit, R a.engine b.engine → R b.engine c.engine →
      R a.engine c.engine := fun a b c => h.trans a.engine b.engine c.engine
  refine .bind htrans (.get hrefl) fun v => ?_
  cases v.caller.user with
  | none => exact .fail hrefl _
  | some user =>
    dsimp only
    cases v.ownSession? user with
    | none =>
      exact .bind htrans (onEngine (h.openSession user)) fun session =>
        .bind htrans (onEngine (h.register session)) fun _ =>
          .bind htrans (.modify hrefl) fun _ => .pure hrefl _
    | some session =>
      exact .bind htrans (onEngine (h.register session)) fun _ => .pure hrefl _

theorem clearCache (h : AttachesAlong R) :
    Along (fun v v' : Visit => R v.engine v'.engine) Visit.clearCache := by
  have hrefl : ∀ v : Visit, R v.engine v.engine := fun v => h.refl v.engine
  have htrans : ∀ a b c : Visit, R a.engine b.engine → R b.engine c.engine →
      R a.engine c.engine := fun a b c => h.trans a.engine b.engine c.engine
  refine .bind htrans (.get hrefl) fun v => ?_
  cases v.caller.session with
  | none => exact .pure hrefl _
  | some session =>
    exact .bind htrans (.modify hrefl) fun _ =>
      .bind htrans (onEngine (h.close session)) fun _ => .pure hrefl _

/-- What a search does before it looks at its caller leads along the relation. -/
theorem prepare (h : AttachesAlong R) (text : String) :
    Along (fun v v' : Visit => R v.engine v'.engine) (Visit.prepare text) := by
  have hrefl : ∀ v : Visit, R v.engine v.engine := fun v => h.refl v.engine
  have htrans : ∀ a b c : Visit, R a.engine b.engine → R b.engine c.engine →
      R a.engine c.engine := fun a b c => h.trans a.engine b.engine c.engine
  exact .bind htrans (.look hrefl _) fun _ => .bind htrans (onEngine h.connect) fun _ =>
    .bind htrans (onEngine h.sweep) fun _ => .pure hrefl _

/-- **Attaching a caller** leads along the relation, also when it fails. -/
theorem attach (h : AttachesAlong R) (text : String) :
    Along (fun v v' : Visit => R v.engine v'.engine) (Visit.attach text) :=
  .bind (fun a b c : Visit => h.trans a.engine b.engine c.engine) (h.prepare text) fun _ =>
    h.checkSession

end Engine.AttachesAlong

/-! ### The setting -/

/-- Registering a session leaves all but the store as it is. -/
theorem Cache.exists_store_of_register {c c' : Cache} {session : String}
    (h : c.register session = .ok c') : ∃ store, c' = { c with store } := by
  rcases register_ok h with ⟨row, -, rfl⟩ | hput
  · exact ⟨c'.store, rfl⟩
  · obtain ⟨store, -, rfl⟩ := putRow_ok hput
    exact ⟨store, rfl⟩

namespace Engine

/-- **What attaching a caller leaves as it is** of an engine. -/
structure Stands (e e' : Engine) : Prop where
  setting : e'.cache.setting = e.cache.setting
  config : e'.config = e.config
  sweepAfter : e'.sweepAfter = e.sweepAfter

theorem stands_attachesAlong : AttachesAlong Stands where
  refl e := ⟨rfl, rfl, rfl⟩
  trans a b c h h' := ⟨h'.setting.trans h.setting, h'.config.trans h.config,
    h'.sweepAfter.trans h.sweepAfter⟩
  connect := by
    refine .step (fun e => ⟨rfl, rfl, rfl⟩) fun e e' h => ?_
    unfold Engine.connect at h
    split at h
    · cases h
      exact ⟨rfl, rfl, rfl⟩
    · split at h
      · cases h
      · unfold Server.connect at h
        split at h
        · cases h
          exact ⟨rfl, rfl, rfl⟩
        · cases h
  close session e := by
    refine ⟨?_, rfl, rfl⟩
    simp only [onCache, onPart_apply, Cache.close, bind_apply, modify_apply, stepWith_apply,
      Cache.removeRow]
    cases e.cache.store.remove session <;> rfl
  openSession user e := by
    refine ⟨?_, rfl, rfl⟩
    simp only [onCache, onPart_apply, stepWith_apply, Visit.openSession]
    cases hcreate : e.cache.server.createSession user with
    | error fault => rfl
    | ok r =>
      obtain ⟨-, -, hcondition, -⟩ := Server.createSession_ok hcreate
      exact congrArg (Setting.mk · _ _) hcondition
  register session e := by
    refine ⟨?_, rfl, rfl⟩
    simp only [onCache, onPart_apply, step_apply]
    cases hregister : e.cache.register session with
    | error failure => rfl
    | ok c =>
      obtain ⟨store, rfl⟩ := Cache.exists_store_of_register hregister
      rfl

end Engine

namespace Visit

variable {v v' : Visit} {text session : String}

/-- **Attaching a caller** changes neither the setting nor the configuration. -/
theorem attach_stands {r : Except Failure String} (h : attach text v = (r, v')) :
    v.engine.Stands v'.engine := by
  have hstands := Engine.stands_attachesAlong.attach text v
  rwa [h] at hstands

/-! ### The session of the caller -/

/-- **A caller that was attached to a session** is a user, and the session is open for it. -/
theorem checkSession_ok (h : checkSession v = (.ok session, v')) :
    ∃ user, v.caller.user = some user ∧ v'.engine.server.opens session user = true ∧
      v'.caller = { v.caller with session := some session } := by
  cases huser : v.caller.user with
  | none => simp [checkSession, huser] at h
  | some user =>
    refine ⟨user, rfl, ?_⟩
    cases hown : v.ownSession? user with
    | some claimed =>
      cases hregister : v.engine.cache.register claimed with
      | error e =>
        simp [checkSession, huser, hown, onCache, onEngine, Engine.onCache, hregister] at h
      | ok c =>
        simp [checkSession, huser, hown, onCache, onEngine, Engine.onCache, hregister] at h
        obtain ⟨rfl, rfl⟩ := h
        obtain ⟨store, rfl⟩ := Cache.exists_store_of_register hregister
        obtain ⟨hclaimed, hopens⟩ := Option.filter_eq_some_iff.1 hown
        exact ⟨hopens, by rw [← hclaimed]⟩
    | none =>
      have hnew : attachNew user v = (.ok session, v') := by
        simpa [checkSession, huser, hown] using h
      obtain ⟨server, c, hcreate, hregister, rfl⟩ := attachNew_ok hnew
      obtain ⟨-, -, -, -, hcursor⟩ := Server.createSession_ok hcreate
      obtain ⟨store, rfl⟩ := Cache.exists_store_of_register hregister
      have hopened := (hcursor session).trans (if_pos rfl)
      refine ⟨?_, rfl⟩
      change (server.cursor? session).any _ = true
      rw [hopened]
      exact beq_self_eq_true user

/-- **A caller that was attached to a session by a search.** -/
theorem attach_ok (h : attach text v = (.ok session, v')) :
    ∃ user, v.caller.user = some user ∧ v'.engine.server.opens session user = true ∧
      v'.caller = { v.caller with session := some session } := by
  obtain ⟨_, v₁, hprepare, hcheck⟩ := ok_of_bind h
  have hcaller := (prepare_along text v).2
  rw [hprepare] at hcaller
  exact hcaller ▸ checkSession_ok hcheck

/-- **The session that a caller was attached to is open.** -/
theorem isOpen_of_attach (h : attach text v = (.ok session, v')) :
    (v'.engine.cache.server.cursor? session).isSome := by
  obtain ⟨user, -, hopens, -⟩ := attach_ok h
  exact Server.isSome_of_opens hopens

end Visit

end FederatedSearch
