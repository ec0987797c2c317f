import FederatedSearch.Proofs.Engine.Blocking

/-!
# Sessions that are lost

A caller without a session of its own gets a new one in two steps: the server opens it, and the cache
writes a row for it. When the row cannot be written, the caller is refused, and the session stays
open. Its caller does not know of it, and a sweep, which goes by the rows, does not find it. A caller
that is refused in any other way leaves everything as it was.

* `FederatedSearch.Cache.register_fails_iff`: a session cannot be registered over a store that cannot
  be used, and over no other.
* `FederatedSearch.Visit.IsNewcomer`: callers that a session is opened for.
* `FederatedSearch.Engine.Loses`: a session that was opened and lost.
* `FederatedSearch.Visit.checkSession_refused`: what a caller that is refused leaves.
* `FederatedSearch.Visit.checkSession_loses_each`: **every attempt loses one more session**.
* `FederatedSearch.Visit.checkSession_leaks_iff`: **a failed check leaks a session exactly when the
  caller is a newcomer**.
-/

namespace FederatedSearch

open FederatedSearch.Action FederatedSearch.Engine

/-! ### Registering -/

namespace Cache

variable {c : Cache}

/-- **A session cannot be registered** over a store that cannot be used, and over no other. -/
theorem register_fails_iff (c : Cache) (session : String) :
    (∃ failure, c.register session = .error failure) ↔ ¬c.store.Usable := by
  constructor
  · rintro ⟨failure, hfails⟩ h
    obtain ⟨c', hregister⟩ := exists_register h session
    cases hregister.symm.trans hfails
  · intro h
    exact register_of_not_usable h session

end Cache

/-! ### Lost sessions -/

namespace Engine

variable {e e' : Engine} {user : Nat}

/-- **A session that was lost**: the server has opened its next session for a user, no row of it can
be read, and nothing else has changed. -/
structure Loses (e : Engine) (user : Nat) (e' : Engine) : Prop where
  opened : e.server.createSession user = .ok (Server.sessionId e.server.nextSession, e'.server)
  rest : e' = { e with cache := { e.cache with server := e'.server } }
  rowless : ∀ row, e'.cache.entry (Server.sessionId e.server.nextSession) ≠ .ok (some row)

theorem Loses.store (h : e.Loses user e') : e'.cache.store = e.cache.store := by
  rw [h.rest]

/-- The session that was lost is open and without results, and no other was touched. -/
theorem Loses.cursor? (h : e.Loses user e') (id : String) : e'.server.cursor? id =
    if Server.sessionId e.server.nextSession = id then some (.empty user)
    else e.server.cursor? id := by
  obtain ⟨-, -, -, -, hcursor⟩ := Server.createSession_ok h.opened
  exact hcursor id

theorem Loses.nextSession (h : e.Loses user e') :
    e'.server.nextSession = e.server.nextSession + 1 := by
  obtain ⟨-, hnext, -⟩ := Server.createSession_ok h.opened
  exact hnext

/-- The server stays connected. -/
theorem Loses.connected (h : e.Loses user e') : e'.server.connected = e.server.connected := by
  have hopened := h.opened
  unfold Server.createSession at hopened
  split at hopened
  · rw [← (Prod.mk.inj (Except.ok.inj hopened)).2]
  · cases hopened

/-- **It is the only session that is open now** and was not before. -/
theorem Loses.hasSession_iff (h : e.Loses user e') (id : String) :
    e'.server.hasSession id = true ↔
      e.server.hasSession id = true ∨ id = Server.sessionId e.server.nextSession := by
  rw [Server.hasSession, h.cursor?]
  split
  · rename_i heq
    exact iff_of_true rfl (.inr heq.symm)
  · rename_i hne
    exact ⟨.inl, fun hopen => hopen.resolve_right (Ne.symm hne)⟩

/-! ### An engine over a corrupt file -/

/-- The built-in dataset at a server that is connected to, over a file that is not JSON. -/
def overCorrupt : Engine :=
  { demo with
    cache := { demo.cache with
      server := { demo.cache.server with connected := true }
      store := .file (.text "\x7bnot json") }
    connected := true }

/-- A corrupt file cannot be used. -/
theorem not_usable_overCorrupt : ¬overCorrupt.cache.store.Usable := by
  intro h
  obtain ⟨rows, hrows⟩ := h.rows
  cases hrows.symm.trans isCorrupt_notJson.rows_eq

end Engine

/-! ### Callers that are refused -/

namespace Visit

variable {v v' : Visit} {failure : Failure}

/-- **A newcomer**: a user without a session of its own, at a server that opens one. -/
structure IsNewcomer (v : Visit) (user : Nat) : Prop where
  claims : v.caller.user = some user
  unattached : v.ownSession? user = none
  connected : v.engine.server.connected = true

/-- **For a newcomer the server opens its next session**, and the cache registers it. -/
theorem IsNewcomer.checkSession_eq {user : Nat} (h : v.IsNewcomer user) : ∃ server,
    v.engine.server.createSession user =
      .ok (Server.sessionId v.engine.server.nextSession, server) ∧
    checkSession v = match ({ v.engine.cache with server } : Cache).register
        (Server.sessionId v.engine.server.nextSession) with
      | .error failure =>
        (.error failure, ⟨{ v.engine with cache := { v.engine.cache with server } }, v.caller⟩)
      | .ok cache =>
        (.ok (Server.sessionId v.engine.server.nextSession), ⟨{ v.engine with cache },
          { v.caller with session := some (Server.sessionId v.engine.server.nextSession) }⟩) := by
  obtain ⟨server, hcreate⟩ : ∃ server, v.engine.cache.server.createSession user =
      .ok (Server.sessionId v.engine.server.nextSession, server) := ⟨_, if_pos h.connected⟩
  have hattach : checkSession v = attachNew user v := by
    simp only [checkSession, bind_apply, get_apply, h.claims, h.unattached]
  refine ⟨server, hcreate, ?_⟩
  simp only [hattach, attachNew, bind_apply, onCache, onEngine, Engine.onCache, onPart_apply,
    stepWith_apply, step_apply, openSession, hcreate]
  cases ({ v.engine.cache with server } : Cache).register
    (Server.sessionId v.engine.server.nextSession) <;> rfl

/-- **A newcomer over a store that cannot be used** is refused, and its session is lost. -/
theorem IsNewcomer.loses {user : Nat} (h : v.IsNewcomer user)
    (hstore : ¬v.engine.cache.store.Usable) : ∃ failure e,
      checkSession v = (.error failure, ⟨e, v.caller⟩) ∧ v.engine.Loses user e := by
  obtain ⟨server, hcreate, hcheck⟩ := h.checkSession_eq
  obtain ⟨failure, hregister⟩ := (Cache.register_fails_iff { v.engine.cache with server }
    (Server.sessionId v.engine.server.nextSession)).2 hstore
  rw [hregister] at hcheck
  exact ⟨failure, _, hcheck, hcreate, rfl, fun row hrow => hstore (Store.usable_of_get? hrow)⟩

/-- A newcomer is refused over no other store. -/
theorem IsNewcomer.not_usable {user : Nat} (h : v.IsNewcomer user)
    (hfails : checkSession v = (.error failure, v')) : ¬v.engine.cache.store.Usable := by
  obtain ⟨server, -, hcheck⟩ := h.checkSession_eq
  refine (Cache.register_fails_iff { v.engine.cache with server }
    (Server.sessionId v.engine.server.nextSession)).1 ?_
  cases hregister : ({ v.engine.cache with server } : Cache).register
      (Server.sessionId v.engine.server.nextSession) with
  | error failure => exact ⟨failure, rfl⟩
  | ok c =>
    rw [hregister] at hcheck
    cases (Prod.mk.inj (hcheck.symm.trans hfails)).1

/-- **Who is no newcomer** is refused without a trace. -/
theorem checkSession_of_not_newcomer (hnew : ∀ user, ¬v.IsNewcomer user)
    (h : checkSession v = (.error failure, v')) : v' = v := by
  cases huser : v.caller.user with
  | none =>
    simp only [checkSession, bind_apply, get_apply, huser, fail_apply, Prod.mk.injEq] at h
    exact h.2.symm
  | some user =>
    cases hown : v.ownSession? user with
    | some session =>
      cases hregister : v.engine.cache.register session with
      | ok c => simp [checkSession, huser, hown, onCache, onEngine, Engine.onCache, hregister] at h
      | error failure' =>
        simp [checkSession, huser, hown, onCache, onEngine, Engine.onCache, hregister] at h
        exact h.2.symm
    | none =>
      have hwired : ¬v.engine.cache.server.connected = true := fun hwired =>
        hnew user ⟨huser, hown, hwired⟩
      have hcreate : v.engine.cache.server.createSession user = .error .notConnected :=
        if_neg hwired
      simp [checkSession, huser, hown, attachNew, onCache, onEngine, Engine.onCache, openSession,
        hcreate] at h
      exact h.2.symm

/-- **What a caller that is refused leaves**: everything as it was, or a lost session. -/
theorem checkSession_refused (h : checkSession v = (.error failure, v')) :
    ((∀ user, ¬v.IsNewcomer user) ∧ v' = v) ∨
      ∃ user, v.IsNewcomer user ∧ ¬v.engine.cache.store.Usable ∧ v'.caller = v.caller ∧
        v.engine.Loses user v'.engine := by
  by_cases hnew : ∃ user, v.IsNewcomer user
  · obtain ⟨user, hnew⟩ := hnew
    have hstore := hnew.not_usable h
    obtain ⟨failure', e, hcheck, hloses⟩ := hnew.loses hstore
    obtain ⟨-, rfl⟩ := Prod.mk.inj (hcheck.symm.trans h)
    exact .inr ⟨user, hnew, hstore, rfl, hloses⟩
  · rw [not_exists] at hnew
    exact .inl ⟨hnew, checkSession_of_not_newcomer hnew h⟩

/-! ### Trying again -/

/-- What a caller and the engine are after some attempts to attach the caller. -/
def afterChecks (n : Nat) (v : Visit) : Visit := (fun v => (checkSession v).2)^[n] v

/-- A caller that came without a session is a newcomer again when it is refused. -/
theorem IsNewcomer.again {user : Nat} {e : Engine} (h : v.IsNewcomer user)
    (hcaller : v.caller.session = none) (hloses : v.engine.Loses user e) :
    (⟨e, v.caller⟩ : Visit).IsNewcomer user where
  claims := h.claims
  unattached := by simp [ownSession?, hcaller]
  connected := hloses.connected.trans h.connected

/-- **Every attempt loses one more session**: the sessions that are open after a number of attempts
are those that were open before and as many that no row and no caller names. -/
theorem checkSession_loses_each {user : Nat} (h : v.IsNewcomer user)
    (hcaller : v.caller.session = none) (hstore : ¬v.engine.cache.store.Usable) (n : Nat) :
    (v.afterChecks n).caller = v.caller ∧
      (v.afterChecks n).engine.cache.store = v.engine.cache.store ∧
        ∀ id, (v.afterChecks n).engine.server.hasSession id = true ↔
          v.engine.server.hasSession id = true ∨
            ∃ i < n, id = Server.sessionId (v.engine.server.nextSession + i) := by
  induction n generalizing v with
  | zero => exact ⟨rfl, rfl, by simp [afterChecks]⟩
  | succ n ih =>
    obtain ⟨failure, e, hcheck, hloses⟩ := h.loses hstore
    have hafter : v.afterChecks (n + 1) = (⟨e, v.caller⟩ : Visit).afterChecks n := by
      rw [afterChecks, Function.iterate_succ_apply, hcheck, afterChecks]
    obtain ⟨hsame, hkept, hopen⟩ :=
      ih (h.again hcaller hloses) hcaller (hloses.store.symm ▸ hstore)
    rw [hafter]
    refine ⟨hsame, hkept.trans hloses.store, fun id => ?_⟩
    rw [hopen, hloses.hasSession_iff, hloses.nextSession, or_assoc]
    refine or_congr_right ?_
    constructor
    · rintro (rfl | ⟨i, hi, rfl⟩)
      · exact ⟨0, Nat.succ_pos n, rfl⟩
      · exact ⟨i + 1, Nat.succ_lt_succ hi, by rw [Nat.add_right_comm, Nat.add_assoc]⟩
    · rintro ⟨i | i, hi, rfl⟩
      · exact .inl rfl
      · exact .inr ⟨i, Nat.lt_of_succ_lt_succ hi, by rw [Nat.add_right_comm, Nat.add_assoc]⟩

/-! ### Failed checks -/

theorem isNewcomer_overCorrupt : (⟨overCorrupt, { user := some 1 }⟩ : Visit).IsNewcomer 1 :=
  ⟨rfl, rfl, rfl⟩

/-- **A failed check of a session leaves the caller and the rows as they are, and leaks a session
exactly when the caller is a newcomer**: the sessions that are open are then the same and one more,
which has no row. Everyone else is refused without a trace. So over a store that can be read and
written nothing ever leaks. -/
theorem checkSession_leaks_iff (hfree : v.engine.server.hasSession
      (Server.sessionId v.engine.server.nextSession) = false)
    (h : checkSession v = (.error failure, v')) :
    v'.caller = v.caller ∧ v'.engine.cache.store = v.engine.cache.store ∧
      ((∀ id, v'.engine.server.hasSession id = v.engine.server.hasSession id) ↔
        ∀ user, ¬v.IsNewcomer user) ∧
      ((∀ user, ¬v.IsNewcomer user) → v' = v) ∧
      (∀ user, v.IsNewcomer user → v.engine.Loses user v'.engine) ∧
      (v.engine.cache.store.Usable → v' = v) := by
  rcases checkSession_refused h with ⟨hnew, rfl⟩ | ⟨user, hnew, hstore, hcaller, hloses⟩
  · exact ⟨rfl, rfl, iff_of_true (fun _ => rfl) hnew, fun _ => rfl,
      fun user hnew' => absurd hnew' (hnew user), fun _ => rfl⟩
  · have hknown : ¬∀ user, ¬v.IsNewcomer user := fun hnone => hnone user hnew
    have hleaks : ¬∀ id, v'.engine.server.hasSession id = v.engine.server.hasSession id := by
      intro hsame
      have hopen := (hloses.hasSession_iff _).2 (.inr rfl)
      rw [hsame, hfree] at hopen
      cases hopen
    refine ⟨hcaller, hloses.store, iff_of_false hleaks hknown, fun hnone => absurd hnone hknown, ?_,
      fun husable => absurd husable hstore⟩
    intro user' hnew'
    cases Option.some.inj (hnew.claims.symm.trans hnew'.claims)
    exact hloses

/-- The first user at a corrupt file is refused, and the first session of the server is lost. -/
theorem checkSession_leaks_iff_over_corrupt : ∃ failure v',
    checkSession ⟨overCorrupt, { user := some 1 }⟩ = (.error failure, v') ∧
      v'.caller = { user := some 1 } ∧
        v'.engine.server.hasSession (Server.sessionId 1) = true ∧
          ¬∀ id, v'.engine.server.hasSession id = overCorrupt.server.hasSession id := by
  obtain ⟨failure, e, hcheck, hloses⟩ := isNewcomer_overCorrupt.loses not_usable_overCorrupt
  obtain ⟨hcaller, -, hiff, -⟩ := checkSession_leaks_iff rfl hcheck
  exact ⟨failure, _, hcheck, hcaller, (hloses.hasSession_iff _).2 (.inr rfl),
    fun hsame => hiff.1 hsame 1 isNewcomer_overCorrupt⟩

/-- **A failed check need not leave the sessions as they are**: a user whose row cannot be written
leaves one behind. -/
theorem not_forall_checkSession_leaks_nothing :
    ¬∀ (v v' : Visit) (failure : Failure), checkSession v = (.error failure, v') →
      v'.caller = v.caller ∧
        ∀ id, v'.engine.server.hasSession id = v.engine.server.hasSession id := by
  intro hall
  obtain ⟨failure, e, hcheck, hloses⟩ := isNewcomer_overCorrupt.loses not_usable_overCorrupt
  obtain ⟨-, hsame⟩ := hall _ _ _ hcheck
  have hopen := (hloses.hasSession_iff (Server.sessionId 1)).2 (.inr rfl)
  rw [show e.server.hasSession (Server.sessionId 1) = false from hsame _] at hopen
  cases hopen

end Visit

end FederatedSearch
