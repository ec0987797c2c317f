import FederatedSearch.Engine.Service
import FederatedSearch.Index.Demo
import FederatedSearch.Proofs.Engine.Answer

/-!
# The history of an engine

An engine changes by steps: searches and other calls of its callers, changes of the indexes and of
what can be reached, and the passing of time. Which slots are filled, and with what, is explained by
the executions among the steps that led to an engine.

* `FederatedSearch.Engine.Step`, `FederatedSearch.Engine.Reached`: the steps, and the engines that
  they lead to.
* `FederatedSearch.Engine.Step.attempt?`: the execution that a step comes to, if any.
* `FederatedSearch.Engine.Step.run_cases`: what one step does to the slots.
-/

namespace FederatedSearch.Engine

open Calendar

/-! ### Steps -/

/-- **A step of an engine.** -/
inductive Step where
  /-- A caller searches. -/
  | search (caller : Caller) (text : String) (offset asked : Nat) (options : SearchOptions)
  /-- A caller is attached to a session. -/
  | checkSession (caller : Caller)
  /-- A caller gives up its session. -/
  | clearCache (caller : Caller)
  /-- A caller has its next query executed. -/
  | resetCache (caller : Caller)
  /-- Sessions are closed that were not used after a time. -/
  | clearAll (cutoff? : Option Instant)
  /-- The engine connects. -/
  | connect
  /-- Something is indexed anew. -/
  | update (item : Indexable)
  /-- Something is removed from its index. -/
  | remove (item : Indexable)
  /-- A backend goes up or down. -/
  | setAvailable (backend : Nat) (up : Bool)
  /-- The server comes within reach or goes out of it. -/
  | setReachable (reachable : Bool)
  /-- The clock is set. -/
  | setClock (now : Instant)
  /-- Time passes. -/
  | advance (d : Span)
  /-- Executions come to take other times. -/
  | setTiming (timing : List (Nat × Number.Binary64))

namespace Step

/-- **The engine after a step**, whether the step succeeds or fails. -/
def run (e : Engine) : Step → Engine
  | search caller text offset asked options =>
    (Visit.search text offset asked options ⟨e, caller⟩).2.engine
  | checkSession caller => (Visit.checkSession ⟨e, caller⟩).2.engine
  | clearCache caller => (Visit.clearCache ⟨e, caller⟩).2.engine
  | resetCache caller => (Visit.resetCache ⟨e, caller⟩).2.engine
  | clearAll cutoff? => (onCache (Cache.clearAll cutoff?) e).2
  | connect => (Action.step Engine.connect e).2
  | update item => (Action.step (·.update item) e).2
  | remove item => (Action.step (·.remove item) e).2
  | setAvailable backend up => e.withServer (e.server.setAvailable backend up)
  | setReachable reachable => e.withServer (e.server.setReachable reachable)
  | setClock now => { e with cache := e.cache.setClock now }
  | advance d => (onCache (Action.step (·.advance d)) e).2
  | setTiming timing => e.withServer { e.server with timing }

/-- **The execution that a step comes to**: that of a search whose row does not answer. -/
def attempt? (e : Engine) : Step → Option Attempt
  | search caller text _ _ options =>
    match Visit.attach text ⟨e, caller⟩ with
    | (.error _, _) => none
    | (.ok session, v) =>
      let a : Attempt := ⟨session, text, options, v.engine⟩
      match v.engine.cache.decide session a.request.text v.caller.force with
      | .ok .recompute => some a
      | _ => none
  | _ => none

/-- An execution has the options of its search. -/
theorem attempt?_options {e : Engine} {caller : Caller} {text : String} {offset asked : Nat}
    {options : SearchOptions} {a : Attempt}
    (h : (search caller text offset asked options).attempt? e = some a) : a.options = options := by
  simp only [attempt?] at h
  generalize Visit.attach text ⟨e, caller⟩ = r at h
  obtain ⟨failure | session, v⟩ := r
  · cases h
  · dsimp only at h
    split at h
    · obtain rfl := Option.some.inj h
      rfl
    · cases h

/-- An execution of a search is one in the session that its caller is attached to. -/
theorem exists_attach_of_attempt? {e : Engine} {k : Caller} {text : String} {offset asked : Nat}
    {options : SearchOptions} {a : Attempt}
    (h : (search k text offset asked options).attempt? e = some a) :
    ∃ session v, Visit.attach text ⟨e, k⟩ = (.ok session, v) ∧
      a = ⟨session, text, options, v.engine⟩ ∧
        v.engine.cache.decide a.session a.request.text v.caller.force = .ok .recompute := by
  simp only [attempt?] at h
  cases hattach : Visit.attach text ⟨e, k⟩ with
  | mk r v =>
    rw [hattach] at h
    cases r with
    | error failure => cases h
    | ok session =>
      dsimp only at h
      split at h
      · rename_i hdecide
        obtain rfl := Option.some.inj h
        exact ⟨session, v, rfl, rfl, hdecide⟩
      · cases h

/-- A search comes to an execution exactly when that is decided in its session. -/
theorem attempt?_eq_some_iff {e : Engine} {k : Caller} {text session : String} {v : Visit}
    (hattach : Visit.attach text ⟨e, k⟩ = (.ok session, v)) (offset asked : Nat)
    (options : SearchOptions) :
    (search k text offset asked options).attempt? e =
        some ⟨session, text, options, v.engine⟩ ↔
      v.engine.cache.decide session (⟨session, text, options, v.engine⟩ : Attempt).request.text
        k.force = .ok .recompute := by
  have hforce : v.caller.force = k.force := (Visit.attach_forceFree text).force_of_eq hattach
  simp only [attempt?, hattach, hforce]
  split
  · rename_i hdecide
    simp [hdecide]
  · rename_i hdecide
    simpa using hdecide

end Step

/-! ### Histories -/

/-- A step with the engine before it. -/
structure Moment where
  step : Step
  before : Engine

namespace Moment

/-- The engine after the step. -/
def after (m : Moment) : Engine := m.step.run m.before

/-- The execution in a session that the step comes to. -/
def attemptIn? (m : Moment) (session : String) : Option Attempt :=
  (m.step.attempt? m.before).filter (·.session == session)

/-- **Nothing changes that answers depend on**: no record, and nothing that can be reached. -/
structure Undisturbed (m : Moment) : Prop where
  indexes : m.after.server.indexes = m.before.server.indexes
  down : m.after.server.down = m.before.server.down
  reachable : m.after.server.reachable = m.before.server.reachable

end Moment

/-- **The steps that led to an engine**, the last one first. -/
abbrev History := List Moment

namespace History

/-- **The last execution in a session.** -/
def lastAttempt? (session : String) (h : History) : Option Attempt :=
  h.findSome? (·.attemptIn? session)

/-- The moments after the last execution in a session. -/
def sinceAttempt (session : String) (h : History) : History :=
  h.takeWhile fun m => (m.attemptIn? session).isNone

end History

/-- **The engines that steps lead to** from a start, with their histories. -/
inductive Reached (start : Engine) : History → Engine → Prop
  | start : Reached start [] start
  | step {h : History} {e : Engine} (s : Step) (reached : Reached start h e) :
      Reached start (⟨s, e⟩ :: h) (s.run e)

/-- **An engine that was started just now**: there is no row, and no session is open. -/
structure Fresh (e : Engine) : Prop where
  store : e.cache.store = .empty
  sessions : e.server.sessions = []

/-- The engine over the server of a dataset is fresh when its store is. -/
theorem ofConfig_fresh {d : Dataset} {now : Instant} {config : Config} {e : Engine}
    (h : ofConfig (.ofDataset d) .empty now config = .ok e) : e.Fresh := by
  unfold ofConfig at h
  split at h
  · cases h
    exact ⟨rfl, rfl⟩
  · cases h

/-- An engine over the built-in dataset, at the start of 1970. -/
def demo : Engine where
  cache := { server := .ofDataset Demo.dataset, store := .empty, now := ⟨0, 0⟩, staleAfter := ⟨0⟩ }
  config := {}
  sweepAfter := ⟨0⟩

theorem demo_fresh : demo.Fresh := ⟨rfl, rfl⟩

/-! ### What a step does -/

/-- **Sessions and rows are left alone.** -/
structure Spares (e e' : Engine) : Prop where
  store : e'.cache.store = e.cache.store
  sessions : e'.server.sessions = e.server.sessions
  nextSession : e'.server.nextSession = e.server.nextSession
  config : e'.config = e.config
  silent : e'.server.silent = e.server.silent
  connected : e'.connected = e.connected
  wired : e'.server.connected = e.server.connected
  sweepAfter : e'.sweepAfter = e.sweepAfter

theorem Spares.refl (e : Engine) : e.Spares e := ⟨rfl, rfl, rfl, rfl, rfl, rfl, rfl, rfl⟩

theorem update_spares {e e' : Engine} {item : Indexable} (h : e.update item = .ok e') :
    e.Spares e' := by
  cases item with
  | feedEntry id => cases h
  | record backend record | story backend record =>
    simp only [update, Server.markForReindex] at h
    cases hrecord : e.server.record? backend record with
    | none =>
      rw [hrecord] at h
      cases h
    | some r =>
      rw [hrecord] at h
      cases h
      exact ⟨rfl, rfl, rfl, rfl, rfl, rfl, rfl, rfl⟩

theorem remove_spares {e e' : Engine} {item : Indexable} (h : e.remove item = .ok e') :
    e.Spares e' := by
  cases item with
  | feedEntry id => cases h
  | record backend record | story backend record =>
    simp only [remove, Server.removeRecord] at h
    cases hindex : e.server.index? backend with
    | none =>
      rw [hindex] at h
      cases h
    | some i =>
      rw [hindex] at h
      dsimp only at h
      split at h
      · cases h
        exact ⟨rfl, rfl, rfl, rfl, rfl, rfl, rfl, rfl⟩
      · cases h

/-- The step opens, closes, sweeps or searches sessions, or connects. -/
def Step.isCall : Step → Bool
  | search .. | checkSession _ | clearCache _ | clearAll _ | connect => true
  | _ => false

/-- **Every other step** leaves sessions and rows alone. -/
theorem Step.run_spares (e : Engine) {s : Step} (hs : s.isCall = false) : e.Spares (s.run e) := by
  cases s with
  | search caller text offset asked options => cases hs
  | checkSession caller => cases hs
  | clearCache caller => cases hs
  | clearAll cutoff? => cases hs
  | connect => cases hs
  | resetCache caller => exact .refl e
  | update item =>
    simp only [Step.run, Action.step_apply]
    cases hupdate : e.update item with
    | ok e' => exact update_spares hupdate
    | error failure => exact .refl e
  | remove item =>
    simp only [Step.run, Action.step_apply]
    cases hremove : e.remove item with
    | ok e' => exact remove_spares hremove
    | error failure => exact .refl e
  | setAvailable backend up => exact ⟨rfl, rfl, rfl, rfl, rfl, rfl, rfl, rfl⟩
  | setReachable reachable => exact ⟨rfl, rfl, rfl, rfl, rfl, rfl, rfl, rfl⟩
  | setClock now => exact ⟨rfl, rfl, rfl, rfl, rfl, rfl, rfl, rfl⟩
  | advance d =>
    simp only [Step.run, onCache, Action.onPart_apply, Action.step_apply, Cache.advance]
    cases e.cache.now.shift? d with
    | none => exact .refl e
    | some now => exact ⟨rfl, rfl, rfl, rfl, rfl, rfl, rfl, rfl⟩
  | setTiming timing => exact ⟨rfl, rfl, rfl, rfl, rfl, rfl, rfl, rfl⟩

/-- **A relation that steps follow**: it holds where sessions and rows are left alone, and the calls
that open and close sessions lead along it. -/
structure Follows (R : Engine → Engine → Prop) : Prop where
  spares : ∀ {e e' : Engine}, e.Spares e' → R e e'
  checkSession : ∀ caller e, R e (Visit.checkSession ⟨e, caller⟩).2.engine
  clearCache : ∀ caller e, R e (Visit.clearCache ⟨e, caller⟩).2.engine
  clearAll : ∀ cutoff? e, R e (onCache (Cache.clearAll cutoff?) e).2
  connect : ∀ e, R e (Action.step Engine.connect e).2

/-- **Every step but a search** follows such a relation. -/
theorem Follows.run {R : Engine → Engine → Prop} (h : Follows R) (e : Engine) {s : Step}
    (hs : ∀ caller text offset asked options, s ≠ .search caller text offset asked options) :
    R e (s.run e) := by
  cases s with
  | search caller text offset asked options =>
    exact absurd rfl (hs caller text offset asked options)
  | checkSession caller => exact h.checkSession caller e
  | clearCache caller => exact h.clearCache caller e
  | clearAll cutoff? => exact h.clearAll cutoff? e
  | connect => exact h.connect e
  | _ => exact h.spares (Step.run_spares e rfl)

/-- **A step without an execution**: each session is as before or without results. -/
structure Calms (e e' : Engine) : Prop where
  orderly : e'.cache.Orderly
  slots : ∀ id, e'.cache.slot id = e.cache.slot id ∨ (e'.cache.slot id).Blank
  config : e'.config = e.config
  silent : e'.server.silent = e.server.silent

theorem Settles.calms {e e' : Engine} (h : e.Settles e') : e.Calms e' :=
  ⟨h.cache.orderly, h.cache.slots, h.config,
    congrArg Condition.silent (Cache.condition_eq h.cache.setting)⟩

/-- A change that leaves sessions and rows alone. -/
theorem Spares.calms {e e' : Engine} (h : e.Spares e') (he : e.cache.Orderly) : e.Calms e' := by
  have hslot : e'.cache.slot = e.cache.slot := by
    funext id
    refine Slot.ext ?_ (congrArg (Table.find? id) h.sessions)
    simp only [Cache.slot, Cache.row?, h.store]
  refine ⟨⟨?_, ?_, ?_⟩, fun id => .inl (congrFun hslot id), h.config, h.silent⟩
  · rw [Cache.InMemory, h.store]
    exact he.inMemory
  · rw [hslot]
    exact he.sound
  · rw [hslot]
    intro id hid
    obtain ⟨n, hn, heq⟩ := he.issued id hid
    exact ⟨n, h.nextSession ▸ hn, heq⟩

/-- Without a search, each session of an orderly engine is as before or without results. -/
theorem calms_follows : Follows fun e e' => e.cache.Orderly → e.Calms e' where
  spares h := h.calms
  checkSession caller e he := (Visit.checkSession_settling ⟨e, caller⟩ he).calms
  clearCache caller e he := (Visit.clearCache_settling ⟨e, caller⟩ he).calms
  clearAll cutoff? e he := (onCache_settling (Cache.clearAll_settling cutoff?) e he).calms
  connect e he := (connect_settling e he).calms

end FederatedSearch.Engine

namespace FederatedSearch

/-- **A step that came to an execution**: the engine settled before it, and the execution wrote the
slot of its session and nothing else. -/
structure Attempt.Ran (a : Attempt) (e e' : Engine) : Prop where
  before : e.Settles a.engine
  isOpen : (a.engine.cache.slot a.session).cursor.isSome
  orderly : e'.cache.Orderly
  writes : ∃ s, a.engine.cache.Writes e'.cache a.session s ∧
    (a.row? = none ∧ s.Blank ∨ a.Wrote s)
  config : e'.config = a.engine.config

namespace Engine

/-- **What a search does**: it settles the engine, or it comes to an execution. -/
theorem Step.run_search {e : Engine} (he : e.cache.Orderly) (caller : Caller) (text : String)
    (offset asked : Nat) (options : SearchOptions) :
    let s := Step.search caller text offset asked options
    s.attempt? e = none ∧ e.Settles (s.run e) ∨ ∃ a, s.attempt? e = some a ∧ a.Ran e (s.run e) := by
  simp only [Step.attempt?, Step.run, Visit.search_eq, Action.bind_apply]
  rcases Visit.attach_session text (v := ⟨e, caller⟩) he with
    ⟨failure, v, hattach, hsettles⟩ | ⟨session, v, hattach, hattached⟩
  · rw [hattach]
    exact .inl ⟨rfl, hsettles⟩
  · rw [hattach]
    have hv := hattached.engine.cache.orderly
    rcases Attempt.searchIn_cases (a := ⟨session, text, options, v.engine⟩) hv hattached.isOpen
      v.caller offset asked with
      ⟨row, hdecide, hsame⟩ | ⟨hdecide, c, s, hwrites, horderly, hslot, hafter⟩
    · -- the row answers, and the search ends where the attachment did
      dsimp only at hdecide hsame ⊢
      rw [hdecide, hsame]
      exact .inl ⟨rfl, hattached.engine⟩
    · dsimp only at hdecide hafter ⊢
      rw [hdecide, hafter]
      exact .inr ⟨_, rfl, hattached.engine, hattached.isOpen, horderly, ⟨s, hwrites, hslot⟩, rfl⟩

/-- **What a step does**: it leaves each session as it was or without results, or it comes to an
execution. -/
theorem Step.run_cases {e : Engine} (he : e.cache.Orderly) (s : Step) :
    s.attempt? e = none ∧ e.Calms (s.run e) ∨ ∃ a, s.attempt? e = some a ∧ a.Ran e (s.run e) := by
  cases s with
  | search caller text offset asked options =>
    exact (run_search he caller text offset asked options).imp_left (·.imp_right Settles.calms)
  | _ => exact .inl ⟨rfl, calms_follows.run e (fun _ _ _ _ _ h => nomatch h) he⟩

end Engine

end FederatedSearch
