import FederatedSearch.Engine.Search
import FederatedSearch.Proofs.Session.Settling

/-!
# Attaching a caller to a session

Before a search looks at the row of its session, the engine connects, sweeps, and attaches the
caller to a session. None of this executes anything: the cache settles. The caller ends in the
session that it came with, or in one without results, and the mark that forces an execution has no
part in it.

* `FederatedSearch.Visit.attach`: the part of a search before the row is looked at.
* `FederatedSearch.Visit.attach_session`: the session that the caller is attached to.
* `FederatedSearch.Visit.attach_forceFree`: the mark of the caller plays no part.
-/

namespace FederatedSearch

open Calendar

/-! ### Engines that settle -/

namespace Engine

/-- **An engine settles** when its cache does and its configuration stays. -/
structure Settles (e e' : Engine) : Prop where
  cache : e.cache.Settles e'.cache
  config : e'.config = e.config

/-- The engine after an action on an orderly one. -/
abbrev Settled (e e' : Engine) : Prop := e.cache.Orderly → e.Settles e'

theorem settled_refl (e : Engine) : e.Settled e := fun h => ⟨.refl h, rfl⟩

theorem settled_trans (a b c : Engine) (h : a.Settled b) (h' : b.Settled c) : a.Settled c :=
  fun ha =>
    have hb := h ha
    have hc := h' hb.cache.orderly
    ⟨hb.cache.trans hc.cache, hc.config.trans hb.config⟩

theorem onCache_settling {α : Type} {x : Action Cache α} (hx : Action.Along Cache.Settled x) :
    Action.Along Settled (onCache x) :=
  hx.onPart fun _ _ h hc => ⟨h hc, rfl⟩

/-- Connecting changes nothing about sessions. -/
theorem connect_settling : Action.Along Settled (Action.step connect) := by
  refine .step settled_refl fun e e' h hc => ?_
  unfold connect at h
  split at h
  · cases h
    exact ⟨.refl hc, rfl⟩
  · split at h
    · cases h
    · unfold Server.connect at h
      split at h
      · cases h
        exact ⟨⟨⟨hc.inMemory, hc.sound, hc.issued⟩, rfl, fun _ => .inl rfl⟩, rfl⟩
      · cases h

theorem sweep_settling : Action.Along Settled sweep :=
  .bind settled_trans (.look settled_refl _) fun _ => onCache_settling (Cache.clearAll_settling _)

end Engine

/-- A session that belongs to some user is open. -/
theorem Server.isSome_of_opens {s : Server} {session : String} {user : Nat}
    (h : s.opens session user = true) : (s.cursor? session).isSome := by
  rw [opens, Option.any_eq_true] at h
  obtain ⟨cursor, hcursor, -⟩ := h
  exact Option.isSome_iff_exists.2 ⟨cursor, hcursor⟩

namespace Visit

/-- The visit after an action on one of an orderly engine. -/
abbrev Settled (v v' : Visit) : Prop := v.engine.Settled v'.engine

theorem settled_refl (v : Visit) : v.Settled v := v.engine.settled_refl

theorem settled_trans (a b c : Visit) (h : a.Settled b) (h' : b.Settled c) : a.Settled c :=
  Engine.settled_trans _ _ _ h h'

theorem onEngine_settling {α : Type} {x : Action Engine α} (hx : Action.Along Engine.Settled x) :
    Action.Along Settled (onEngine x) :=
  hx.onPart fun _ _ h => h

theorem onCache_settling {α : Type} {x : Action Cache α} (hx : Action.Along Cache.Settled x) :
    Action.Along Settled (onCache x) :=
  onEngine_settling (Engine.onCache_settling hx)

/-! ### Sessions of callers -/

section Sessions

variable {v v' : Visit}

/-- A session of the caller is open. -/
theorem ownSession?_eq_some {user : Nat} {session : String}
    (h : v.ownSession? user = some session) :
    v.caller.session = some session ∧ (v.engine.cache.slot session).cursor.isSome := by
  obtain ⟨hclaimed, hopens⟩ := Option.filter_eq_some_iff.1 h
  exact ⟨hclaimed, Server.isSome_of_opens hopens⟩

/-- What opening a session does, whatever store the rows are in. -/
theorem attachNew_ok {user : Nat} {id : String} (h : attachNew user v = (.ok id, v')) :
    ∃ server c', v.engine.cache.server.createSession user = .ok (id, server) ∧
      ({ v.engine.cache with server } : Cache).register id = .ok c' ∧
      v' = ⟨{ v.engine with cache := c' }, { v.caller with session := some id }⟩ := by
  cases hcreate : v.engine.cache.server.createSession user with
  | error fault =>
    simp [attachNew, onCache, onEngine, Engine.onCache, openSession, hcreate] at h
  | ok r =>
    obtain ⟨session, server⟩ := r
    cases hregister : ({ v.engine.cache with server } : Cache).register session with
    | error e =>
      simp [attachNew, onCache, onEngine, Engine.onCache, openSession, hcreate, hregister] at h
    | ok c' =>
      simp [attachNew, onCache, onEngine, Engine.onCache, openSession, hcreate, hregister,
        modifyCaller] at h
      obtain ⟨rfl, rfl⟩ := h
      exact ⟨server, c', rfl, hregister, rfl⟩

/-- **A new session is without results**, and all others stay as they are. -/
theorem attachNew_eq (hv : v.engine.cache.Orderly) (user : Nat) :
    (∃ e, attachNew user v = (.error e, v)) ∨
      ∃ session c', attachNew user v = (.ok session,
          ⟨{ v.engine with cache := c' }, { v.caller with session := some session }⟩) ∧
        v.engine.cache.Writes c' session (.opened session user v.engine.cache.now) ∧
          c'.Orderly := by
  cases hcreate : v.engine.cache.server.createSession user with
  | error fault =>
    refine .inl ⟨.session (.notCreated fault), ?_⟩
    simp [attachNew, onCache, onEngine, Engine.onCache, openSession, hcreate]
  | ok r =>
    obtain ⟨session, server⟩ := r
    obtain ⟨c', hregister, hwrites, horderly⟩ := hv.open hcreate
    refine .inr ⟨session, c', ?_, hwrites, horderly⟩
    simp [attachNew, onCache, onEngine, Engine.onCache, openSession, hcreate, hregister,
      modifyCaller]

/-- **A caller that was attached to a session**: the session is open, and it is the one that the
caller came with or without results. -/
structure Attached (v : Visit) (session : String) (v' : Visit) : Prop where
  engine : v.engine.Settles v'.engine
  isOpen : (v'.engine.cache.slot session).cursor.isSome
  origin : v.caller.session = some session ∨ (v'.engine.cache.slot session).Blank

/-- **Attaching a caller** fails and changes nothing, or gives it a session. -/
theorem checkSession_eq (hv : v.engine.cache.Orderly) :
    (∃ e, checkSession v = (.error e, v)) ∨
      ∃ session v', checkSession v = (.ok session, v') ∧ v.Attached session v' := by
  cases huser : v.caller.user with
  | none => exact .inl ⟨.session .anonymous, by simp [checkSession, huser]⟩
  | some user =>
    cases hown : v.ownSession? user with
    | some session =>
      -- the session that is claimed is open, and has a row already
      obtain ⟨hclaimed, hopen⟩ := ownSession?_eq_some hown
      refine .inr ⟨session, v, ?_, ⟨.refl hv, rfl⟩, hopen, .inl hclaimed⟩
      simp [checkSession, huser, hown, onCache, onEngine, Engine.onCache,
        hv.register_of_open hopen]
    | none =>
      have hcheck : checkSession v = attachNew user v := by simp [checkSession, huser, hown]
      rw [hcheck]
      rcases attachNew_eq hv user with ⟨e, he⟩ | ⟨session, c', hok, hwrites, horderly⟩
      · exact .inl ⟨e, he⟩
      · have hblank := Slot.opened_blank session user v.engine.cache.now
        have hslot := hwrites.slot_same.symm ▸ hblank
        refine .inr ⟨session, _, hok, ⟨hwrites.settles horderly hblank, rfl⟩, ?_, .inr hslot⟩
        rw [hwrites.slot_same]
        rfl

theorem checkSession_settling : Action.Along Settled checkSession := by
  intro v hv
  rcases checkSession_eq hv with ⟨e, he⟩ | ⟨session, v', hok, hattached⟩
  · rw [he]
    exact v.settled_refl hv
  · rw [hok]
    exact hattached.engine

theorem clearCache_settling : Action.Along Settled clearCache := by
  refine .bind settled_trans (.get settled_refl) fun v => ?_
  cases v.caller.session with
  | none => exact .pure settled_refl _
  | some session =>
    refine .bind settled_trans (.modify fun v => v.settled_refl) fun _ => ?_
    exact .bind settled_trans (onCache_settling (Cache.close_settling session)) fun _ =>
      .pure settled_refl _

end Sessions

/-! ### The first part of a search -/

/-- What a search does to the engine before it looks at its caller. -/
def prepare (text : String) : Action Visit Unit := do
  Action.look (·.engine.checkLength text)
  onEngine (Action.step Engine.connect)
  let _ ← onEngine Engine.sweep
  return ()

/-- **All of a search before the row of its session is looked at.** -/
def attach (text : String) : Action Visit String := do
  prepare text
  checkSession

/-- A search attaches the caller to a session, and then searches in it. -/
theorem search_eq (text : String) (offset asked : Nat) (options : SearchOptions) :
    search text offset asked options =
      attach text >>= fun session => searchIn session text offset asked options := by
  simp only [search, attach, prepare, bind_assoc, pure_bind]

/-- The engine settles, and the caller stays as it is. -/
theorem prepare_along (text : String) :
    Action.Along (fun v v' : Visit => v.engine.Settled v'.engine ∧ v'.caller = v.caller)
      (prepare text) := by
  have hrefl : ∀ v : Visit, v.engine.Settled v.engine ∧ v.caller = v.caller :=
    fun v => ⟨v.engine.settled_refl, rfl⟩
  have htrans : ∀ a b c : Visit, (a.engine.Settled b.engine ∧ b.caller = a.caller) →
      (b.engine.Settled c.engine ∧ c.caller = b.caller) →
        a.engine.Settled c.engine ∧ c.caller = a.caller :=
    fun a b c h h' => ⟨Engine.settled_trans _ _ _ h.1 h'.1, h'.2.trans h.2⟩
  refine .bind htrans (.look hrefl _) fun _ => ?_
  refine .bind htrans (Engine.connect_settling.onPart fun _ _ h => ⟨h, rfl⟩) fun _ => ?_
  exact .bind htrans (Engine.sweep_settling.onPart fun _ _ h => ⟨h, rfl⟩) fun _ => .pure hrefl _

/-- **A search fails before it looks at a row, or attaches its caller to a session.** -/
theorem attach_session {v : Visit} (text : String) (hv : v.engine.cache.Orderly) :
    (∃ e v', attach text v = (.error e, v') ∧ v.engine.Settles v'.engine) ∨
      ∃ session v', attach text v = (.ok session, v') ∧ v.Attached session v' := by
  obtain ⟨hsettled, hcaller⟩ := prepare_along text v
  have hv₁ := hsettled hv
  simp only [attach, Action.bind_apply]
  generalize prepare text v = r at hsettled hcaller hv₁
  obtain ⟨_ | _, v₁⟩ := r
  · exact .inl ⟨_, v₁, rfl, hv₁⟩
  · -- what is claimed after the preparation is what was claimed before it
    rcases checkSession_eq hv₁.cache.orderly with ⟨e, he⟩ | ⟨session, v', hok, hattached⟩
    · exact .inl ⟨e, v₁, he, hv₁⟩
    · have hengine := Engine.settled_trans _ _ _ hsettled (fun _ => hattached.engine) hv
      exact .inr ⟨session, v', hok, hengine, hattached.isOpen,
        hattached.origin.imp_left (congrArg Caller.session hcaller).symm.trans⟩

/-! ### The mark of the caller -/

/-- The visit with the mark of its caller set. -/
def withForce (v : Visit) (force : Bool) : Visit :=
  { v with caller := { v.caller with force } }

/-- **An action that the mark of the caller plays no part in.** -/
def ForceFree {α : Type} (x : Action Visit α) : Prop :=
  ∀ v force, x (v.withForce force) = ((x v).1, (x v).2.withForce force)

namespace ForceFree

variable {α β : Type}

theorem commutes {x : Action Visit α} (hx : ForceFree x) (force : Bool) :
    Action.Commutes (·.withForce force) x :=
  fun v => hx v force

theorem pure (a : α) : ForceFree (Pure.pure a : Action Visit α) := fun _ _ => rfl

theorem bind {x : Action Visit α} {f : α → Action Visit β} (hx : ForceFree x)
    (hf : ∀ a, ForceFree (f a)) : ForceFree (x >>= f) :=
  fun v force => ((hx.commutes force).bind fun a => (hf a).commutes force) v

theorem onEngine (x : Action Engine α) : ForceFree (Visit.onEngine x) := fun _ _ => rfl

/-- The mark stays as it is. -/
theorem force_eq {x : Action Visit α} (hx : ForceFree x) (v : Visit) :
    (x v).2.caller.force = v.caller.force :=
  congrArg (·.2.caller.force) (hx v v.caller.force)

theorem force_of_eq {x : Action Visit α} (hx : ForceFree x) {v v' : Visit} {r : Except Failure α}
    (h : x v = (r, v')) : v'.caller.force = v.caller.force := by
  rw [← hx.force_eq v, h]

end ForceFree

theorem attachNew_forceFree (user : Nat) : ForceFree (attachNew user) :=
  .bind (.onEngine _) fun _ => .bind (.onEngine _) fun _ =>
    .bind (fun _ _ => rfl) fun _ => .pure _

theorem checkSession_forceFree : ForceFree checkSession := by
  intro v force
  have hown : ∀ user, (v.withForce force).ownSession? user = v.ownSession? user := fun _ => rfl
  simp only [checkSession, Action.bind_apply, Action.get_apply]
  rw [show (v.withForce force).caller.user = v.caller.user from rfl]
  cases v.caller.user with
  | none => rfl
  | some user =>
    simp only [hown]
    cases v.ownSession? user with
    | none => exact attachNew_forceFree user v force
    | some session => exact (ForceFree.onEngine _).bind (fun _ => .pure _) v force

/-- **Attaching goes the same way with and without the mark.** -/
theorem attach_forceFree (text : String) : ForceFree (attach text) :=
  .bind (.bind (fun _ _ => rfl) fun _ => .bind (.onEngine _) fun _ =>
    .bind (.onEngine _) fun _ => .pure _) fun _ => checkSession_forceFree

end Visit

end FederatedSearch
