import FederatedSearch.Proofs.Engine.Returning
import FederatedSearch.Proofs.Session.Clearing

/-!
# What is done before a search looks at its caller

A search first looks at the length of its text. Then it tends the engine: it connects, and sweeps
the idle sessions. The text and the caller have no part in that, so here it stands alone.

* `FederatedSearch.Engine.tend`: connecting and sweeping.
* `FederatedSearch.Engine.tend_ok`: what is left when it succeeds.
* `FederatedSearch.Engine.tend_error`: it has connected at most when it fails, and fails again.
* `FederatedSearch.Engine.tend_of_active`: a connected engine without idle sessions stays as it is.
-/

namespace FederatedSearch

open FederatedSearch.Action Calendar

variable {P : Row → Prop}

namespace Engine

variable {e e' : Engine}

/-! ### Connecting -/

/-- The engine with what it knows of its connection. -/
def withLink (e : Engine) (wired connected : Bool) : Engine :=
  { e with
    cache := { e.cache with server := { e.cache.server with connected := wired } }
    connected }

/-- **Connecting** changes what is known of the connection. -/
theorem connect_ok (h : e.connect = .ok e') : ∃ wired, e' = e.withLink wired true := by
  unfold connect at h
  split at h
  · rename_i hconnected
    obtain rfl := Except.ok.inj h
    exact ⟨e.cache.server.connected, by rw [withLink, ← hconnected]⟩
  · split at h
    · cases h
    · unfold Server.connect at h
      split at h
      · cases h
        exact ⟨true, rfl⟩
      · cases h

/-- What the engine knows of its connection has no part in the rows and the cursors. -/
theorem clears_withLink (e : Engine) (wired connected : Bool) {c : Cache} {gone : String → Bool}
    (h : (e.withLink wired connected).cache.Clears c gone) : e.cache.Clears c gone :=
  ⟨h.entry, h.cursor⟩

theorem sweepable_withLink (he : e.cache.Sweepable P) (wired connected : Bool) :
    (e.withLink wired connected).cache.Sweepable P :=
  ⟨⟨he.kept.store, he.kept.issued⟩, he.usable⟩

/-! ### Connecting and sweeping -/

/-- **Connect to the server and sweep the idle sessions.** -/
def tend : Action Engine Nat := do
  Action.step connect
  sweep

theorem sweep_apply (e : Engine) :
    sweep e = match e.sweepCutoff with
      | .error failure => (.error failure, e)
      | .ok cutoff => onCache (Cache.clearAll (some cutoff)) e := by
  simp only [sweep, bind_apply, look_apply]
  cases e.sweepCutoff <;> rfl

/-- **What tending an engine comes to**: it cannot connect, or it is swept after it has connected. -/
theorem tend_cases (e : Engine) :
    (∃ failure, e.tend = (.error failure, e)) ∨
      ∃ wired, e.tend = sweep (e.withLink wired true) := by
  simp only [tend, bind_apply, step_apply]
  cases hconnect : e.connect with
  | error failure => exact .inl ⟨failure, rfl⟩
  | ok e₁ =>
    obtain ⟨wired, rfl⟩ := connect_ok hconnect
    exact .inr ⟨wired, rfl⟩

/-- A connected engine is swept, and nothing else is done. -/
theorem tend_of_connected (h : e.connected = true) : e.tend = sweep e := by
  have hconnect : e.connect = .ok e := if_pos h
  simp only [tend, bind_apply, step_apply, hconnect]

/-- **A sweep fails** when there is no time to sweep from: the store can be read and written. -/
theorem sweep_error (he : e.cache.Sweepable P) {failure : Failure}
    (h : sweep e = (.error failure, e')) : e' = e := by
  rw [sweep_apply] at h
  cases hcutoff : e.sweepCutoff with
  | error failure' =>
    rw [hcutoff] at h
    exact (Prod.mk.inj h).2.symm
  | ok cutoff =>
    rw [hcutoff] at h
    obtain ⟨n, c, hclear, -⟩ := Cache.clearAll_succeeds (some cutoff) _ he
    simp only [onCache, onPart_apply, hclear] at h
    cases (Prod.mk.inj h).1

/-- **A sweep that succeeds** clears the idle sessions. -/
theorem sweep_ok (he : e.cache.Sweepable P) {n : Nat} (h : sweep e = (.ok n, e')) :
    ∃ cutoff c, e' = { e with cache := c } ∧ e.sweepCutoff = .ok cutoff ∧ c.Sweepable P ∧
      e.cache.Clears c (e.cache.isIdle cutoff) := by
  rw [sweep_apply] at h
  cases hcutoff : e.sweepCutoff with
  | error failure' =>
    rw [hcutoff] at h
    cases (Prod.mk.inj h).1
  | ok cutoff =>
    rw [hcutoff] at h
    obtain ⟨n', c, hclear, hc⟩ := Cache.clearAll_succeeds (some cutoff) _ he
    simp only [onCache, onPart_apply, hclear] at h
    exact ⟨cutoff, c, (Prod.mk.inj h).2.symm, rfl, hc, he.kept.clearAll hclear⟩

/-- **An engine that fails to be tended** has at most been connected, and fails again. -/
theorem tend_error (he : e.cache.Sweepable P) {failure : Failure}
    (h : e.tend = (.error failure, e')) :
    (e' = e ∨ ∃ wired, e' = e.withLink wired true) ∧ e'.tend = (.error failure, e') := by
  rcases tend_cases e with ⟨failure', hconnect⟩ | ⟨wired, hsweep⟩
  · obtain ⟨-, rfl⟩ := Prod.mk.inj (hconnect.symm.trans h)
    exact ⟨.inl rfl, h⟩
  · rw [hsweep] at h
    obtain rfl := sweep_error (sweepable_withLink he wired true) h
    exact ⟨.inr ⟨wired, rfl⟩, (tend_of_connected rfl).trans h⟩

/-- **An engine that was tended** is connected, and its idle sessions are gone. -/
theorem tend_ok (he : e.cache.Sweepable P) {n : Nat} (h : e.tend = (.ok n, e')) :
    ∃ wired cutoff c, e' = { e.withLink wired true with cache := c } ∧
      e.sweepCutoff = .ok cutoff ∧ c.Sweepable P ∧
        e.cache.Clears c (e.cache.isIdle cutoff) := by
  rcases tend_cases e with ⟨failure', hconnect⟩ | ⟨wired, hsweep⟩
  · cases (Prod.mk.inj (hconnect.symm.trans h)).1
  · rw [hsweep] at h
    obtain ⟨cutoff, c, he', hcutoff, hc, hclears⟩ := sweep_ok (sweepable_withLink he wired true) h
    exact ⟨wired, cutoff, c, he', hcutoff, hc, clears_withLink e wired true hclears⟩

/-- **A connected engine without idle sessions** is tended already. -/
theorem tend_of_active {cutoff : Instant} {rows : Table String Row}
    (hconnected : e.connected = true) (hcutoff : e.sweepCutoff = .ok cutoff)
    (hrows : e.cache.store.rows = .ok rows)
    (hactive : ∀ p ∈ rows, p.2.idleSince cutoff = false) : e.tend = (.ok 0, e) := by
  have hclear : Cache.clearAll (some cutoff) e.cache = (.ok 0, e.cache) :=
    Cache.clearAll_of_not_idle hrows hactive
  rw [tend_of_connected hconnected, sweep_apply, hcutoff]
  dsimp only
  rw [onCache, onPart_apply, hclear]

end Engine

/-- **A search looks at the length of its text, and tends the engine.** -/
theorem Visit.prepare_apply (text : String) (v : Visit) :
    prepare text v = match v.engine.checkLength text with
      | .error failure => (.error failure, v)
      | .ok _ => ((v.engine.tend).1.map fun _ => (), ⟨(v.engine.tend).2, v.caller⟩) := by
  simp only [prepare, onEngine, Engine.tend, bind_apply, look_apply, onPart_apply, step_apply,
    pure_apply]
  cases v.engine.checkLength text with
  | error failure => rfl
  | ok _ =>
    dsimp only
    cases v.engine.connect with
    | error failure => rfl
    | ok e =>
      dsimp only
      rcases Engine.sweep e with ⟨_ | _, _⟩ <;> rfl

end FederatedSearch
