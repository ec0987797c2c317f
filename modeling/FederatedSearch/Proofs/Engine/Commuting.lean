import FederatedSearch.Proofs.Engine.Hosting

/-!
# Searches of different sessions commute

Two callers that own different open sessions search one after the other. The first of them has the
engine connect and sweep, and then each search keeps to its own session. So in either order both get
the same pages, and the engine is left the same.

What is swept is the one thing that could come between them: a row that one search writes is not to
be swept by the other (`FederatedSearch.Engine.not_forall_searches_commute`).

* `FederatedSearch.Engine.Interchange`: two calls that can be made in either order.
* `FederatedSearch.Engine.same_of_touches`: two sessions that are touched in either order.
* `FederatedSearch.Engine.Reached.searches_commute`: searches of callers with different sessions.
-/

namespace FederatedSearch

open FederatedSearch.Action Calendar

/-- Stores that can be read have the same rows when each session has the same row in both. -/
theorem Cache.rows_eq_of_entry {P : Row → Prop} {c d : Cache} (hc : c.Sweepable P)
    (hd : d.Sweepable P) (h : ∀ id, c.entry id = d.entry id) : c.store.rows = d.store.rows := by
  obtain ⟨rows, hrows⟩ := hc.usable.rows
  obtain ⟨rows', hrows'⟩ := hd.usable.rows
  have hfind : ∀ id, Table.find? id rows = Table.find? id rows' := by
    intro id
    have hentry := h id
    simp only [entry, Store.get?, hrows, hrows'] at hentry
    exact Except.ok.inj hentry
  rw [hrows, hrows', (hc.kept.store.holds rows hrows).ascending.ext
    (hd.kept.store.holds rows' hrows').ascending hfind]

namespace Engine

variable {P : Row → Prop} {e e' : Engine} {k : Caller} {session : String}

/-! ### Searches in either order -/

/-- **Two engines are the same**: they have the same rows and cursors, and everything else that
their answers depend on. -/
structure Same (e f : Engine) : Prop where
  rows : f.cache.store.rows = e.cache.store.rows
  cursors : ∀ id, f.server.cursor? id = e.server.cursor? id
  executions : f.server.executions = e.server.executions
  nextSession : f.server.nextSession = e.server.nextSession
  stands : e.Stands f
  timing : f.server.timing = e.server.timing
  wired : f.server.connected = e.server.connected
  connected : f.connected = e.connected

theorem Same.refl (e : Engine) : e.Same e :=
  ⟨rfl, fun _ => rfl, rfl, rfl, ⟨rfl, rfl, rfl⟩, rfl, rfl, rfl⟩

theorem Same.symm {f : Engine} (h : e.Same f) : f.Same e :=
  ⟨h.rows.symm, fun id => (h.cursors id).symm, h.executions.symm, h.nextSession.symm,
    ⟨h.stands.setting.symm, h.stands.config.symm, h.stands.sweepAfter.symm⟩, h.timing.symm,
    h.wired.symm, h.connected.symm⟩

/-- What a call comes to at an engine. -/
abbrev Turn := Engine → Except Failure Page × Visit

/-- **Two calls can be made in either order**: each has the same outcome and leaves its caller the
same as when it is the first, and the engine is the same afterwards. -/
structure Interchange (x y : Turn) (e : Engine) : Prop where
  left : (x (y e).2.engine).1 = (x e).1
  leftCaller : (x (y e).2.engine).2.caller = (x e).2.caller
  right : (y (x e).2.engine).1 = (y e).1
  rightCaller : (y (x e).2.engine).2.caller = (y e).2.caller
  engine : (y (x e).2.engine).2.engine.Same (x (y e).2.engine).2.engine

theorem Interchange.symm {x y : Turn} (h : Interchange x y e) : Interchange y x e :=
  ⟨h.right, h.rightCaller, h.left, h.leftCaller, h.engine.symm⟩

/-- What is the same at another engine can be interchanged there. -/
theorem Interchange.of_eq {x y : Turn} (h : Interchange x y e') (hx : x e = x e')
    (hy : y e = y e') : Interchange x y e := by
  rcases h with ⟨hleft, hleft', hright, hright', hengine⟩
  rw [← hx, ← hy] at hleft hleft' hright hright' hengine
  exact ⟨hleft, hleft', hright, hright', hengine⟩

/-- A call that is refused, before and after another one, can be made in either order with it. -/
theorem interchange_of_refused {x y : Turn} {failure : Failure} {k : Caller}
    (hx : x e = (.error failure, ⟨e, k⟩))
    (hx' : x (y e).2.engine = (.error failure, ⟨(y e).2.engine, k⟩)) : Interchange x y e := by
  refine ⟨?_, ?_, ?_, ?_, ?_⟩
  all_goals simp only [hx, hx']
  exact .refl _

/-- Calls that are both refused can be made in either order. -/
theorem interchange_of_errors {x y : Turn} {failure failure' : Failure} {k k' : Caller}
    (hx : x e = (.error failure, ⟨e, k⟩)) (hy : y e = (.error failure', ⟨e, k'⟩)) :
    Interchange x y e := by
  refine interchange_of_refused hx ?_
  rw [hy]
  exact hx

/-! ### Two sessions -/

/-- **What is changed at one place and then at another** comes out the same in either order, when
each change is the same before and after the other one. -/
theorem eq_of_changes {α : Type} {f f₁ f₂ g₁ g₂ : String → α} {s₁ s₂ : String} (hne : s₁ ≠ s₂)
    (h₁ : ∀ id ≠ s₁, f₁ id = f id) (h₂ : ∀ id ≠ s₂, f₂ id = f id)
    (h₁₂ : ∀ id ≠ s₂, g₁ id = f₁ id) (h₂₁ : ∀ id ≠ s₁, g₂ id = f₂ id) (hfirst : f₁ s₁ = g₂ s₁)
    (hsecond : f₂ s₂ = g₁ s₂) (id : String) : g₂ id = g₁ id := by
  by_cases hid : id = s₁
  · subst hid
    exact hfirst.symm.trans (h₁₂ id hne).symm
  · by_cases hid' : id = s₂
    · subst hid'
      exact (h₂₁ id hid).trans hsecond
    · calc g₂ id = f₂ id := h₂₁ id hid
        _ = f id := h₂ id hid'
        _ = f₁ id := (h₁ id hid).symm
        _ = g₁ id := (h₁₂ id hid').symm

variable {s₁ s₂ : String} {e₁ e₂ f₁ f₂ : Engine}

/-- **Two sessions that are touched in either order** leave the engine the same, when each is
touched alike. -/
theorem same_of_touches (hne : s₁ ≠ s₂) (h₁ : e.Touches P s₁ e₁) (h₂ : e.Touches P s₂ e₂)
    (h₁₂ : e₁.Touches P s₂ f₁) (h₂₁ : e₂.Touches P s₁ f₂)
    (hfirst : e₁.SameAt P s₁ e₂.server.executions e.server.executions f₂)
    (hsecond : e₂.SameAt P s₂ e₁.server.executions e.server.executions f₁) : f₁.Same f₂ where
  rows := by
    refine Cache.rows_eq_of_entry h₂₁.cache.sweepable h₁₂.cache.sweepable fun id => ?_
    exact eq_of_changes hne h₁.cache.entries h₂.cache.entries h₁₂.cache.entries h₂₁.cache.entries
      hfirst.cache.entry hsecond.cache.entry id
  cursors := eq_of_changes hne h₁.cache.cursors h₂.cache.cursors h₁₂.cache.cursors h₂₁.cache.cursors
    hfirst.cache.server.cursor hsecond.cache.server.cursor
  executions := by
    have hcount₁ := hfirst.cache.server.executions
    have hcount₂ := hsecond.cache.server.executions
    simp only [server] at *
    omega
  nextSession := (h₂₁.cache.nextSession.trans h₂.cache.nextSession).trans
    (h₁₂.cache.nextSession.trans h₁.cache.nextSession).symm
  stands := ⟨(h₂₁.cache.setting.trans h₂.cache.setting).trans
      (h₁₂.cache.setting.trans h₁.cache.setting).symm,
    (h₂₁.config.trans h₂.config).trans (h₁₂.config.trans h₁.config).symm,
    (h₂₁.sweepAfter.trans h₂.sweepAfter).trans (h₁₂.sweepAfter.trans h₁.sweepAfter).symm⟩
  timing := (h₂₁.cache.timing.trans h₂.cache.timing).trans
    (h₁₂.cache.timing.trans h₁.cache.timing).symm
  wired := (h₂₁.cache.wired.trans h₂.cache.wired).trans
    (h₁₂.cache.wired.trans h₁.cache.wired).symm
  connected := (h₂₁.connected.trans h₂.connected).trans (h₁₂.connected.trans h₁.connected).symm

/-! ### Two searches -/

variable {text₁ text₂ : String} {offset₁ offset₂ asked₁ asked₂ : Nat}
  {options₁ options₂ : SearchOptions} {k₁ k₂ : Caller}

/-- **Searches in different sessions** of a tended engine can be made in either order. -/
theorem Tended.search_interchange (he : e.Tended P) (h₁ : e.Hosts k₁ s₁) (h₂ : e.Hosts k₂ s₂)
    (hne : s₁ ≠ s₂) (hlength₁ : e.checkLength text₁ = .ok ())
    (hlength₂ : e.checkLength text₂ = .ok ())
    (hm₁ : (Moment.mk (.search k₁ text₁ offset₁ asked₁ options₁) e).Admitted P)
    (hm₂ : (Moment.mk (.search k₂ text₂ offset₂ asked₂ options₂) e).Admitted P) :
    Interchange (fun f => Visit.search text₁ offset₁ asked₁ options₁ ⟨f, k₁⟩)
      (fun f => Visit.search text₂ offset₂ asked₂ options₂ ⟨f, k₂⟩) e := by
  have htouches₁ := he.search_touches h₁ hlength₁ hm₁
  have htouches₂ := he.search_touches h₂ hlength₂ hm₂
  obtain ⟨hpage₁, hcaller₁, htouches₂₁, hsame₁⟩ := he.search_after h₁ hlength₁ hm₁ htouches₂ hne
  obtain ⟨hpage₂, hcaller₂, htouches₁₂, hsame₂⟩ :=
    he.search_after h₂ hlength₂ hm₂ htouches₁ hne.symm
  exact ⟨hpage₁, hcaller₁, hpage₂, hcaller₂,
    same_of_touches hne htouches₁ htouches₂ htouches₁₂ htouches₂₁ hsame₁ hsame₂⟩

/-- **Searches that are not too long**, over a store that can be read and written. -/
theorem search_interchange_of_usable (he : e.cache.Sweepable P) (hwindow : 0 < e.sweepAfter.nanos)
    (hclock : e.cache.now.nano < 2 * nanosPerSecond) (h₁ : e.Hosts k₁ s₁) (h₂ : e.Hosts k₂ s₂)
    (hne : s₁ ≠ s₂) (hlength₁ : e.checkLength text₁ = .ok ())
    (hlength₂ : e.checkLength text₂ = .ok ())
    (hm₁ : (Moment.mk (.search k₁ text₁ offset₁ asked₁ options₁) e).Admitted P)
    (hm₂ : (Moment.mk (.search k₂ text₂ offset₂ asked₂ options₂) e).Admitted P) :
    Interchange (fun f => Visit.search text₁ offset₁ asked₁ options₁ ⟨f, k₁⟩)
      (fun f => Visit.search text₂ offset₂ asked₂ options₂ ⟨f, k₂⟩) e := by
  cases htend : e.tend with
  | mk r e₀ =>
    have hstands := tend_stands e
    rw [htend] at hstands
    have hlength₁' := (checkLength_eq hstands.config text₁).trans hlength₁
    have hlength₂' := (checkLength_eq hstands.config text₂).trans hlength₂
    cases r with
    | error failure =>
      have hagain := (tend_error he htend).2
      exact .of_eq (interchange_of_errors (search_of_tend_error hlength₁' hagain)
          (search_of_tend_error hlength₂' hagain))
        (search_of_attach (attach_of_tend hlength₁ htend hagain rfl))
        (search_of_attach (attach_of_tend hlength₂ htend hagain rfl))
    | ok n =>
      have he₀ := tended_of_tend he hwindow hclock htend
      have hattach₁ : Visit.attach text₁ ⟨e, k₁⟩ = Visit.attach text₁ ⟨e₀, k₁⟩ :=
        attach_of_tend hlength₁ htend he₀.tend_eq rfl
      have hattach₂ : Visit.attach text₂ ⟨e, k₂⟩ = Visit.attach text₂ ⟨e₀, k₂⟩ :=
        attach_of_tend hlength₂ htend he₀.tend_eq rfl
      exact .of_eq (he₀.search_interchange (h₁.of_tend he htend) (h₂.of_tend he htend) hne
          hlength₁' hlength₂' (admitted_of_attach hattach₁ hstands hm₁)
          (admitted_of_attach hattach₂ hstands hm₂))
        (search_of_attach hattach₁) (search_of_attach hattach₂)

/-- Searches that are not too long, over any other store. -/
theorem search_interchange_of_not_usable (he : ¬e.cache.store.Usable) (h₁ : e.Hosts k₁ s₁)
    (h₂ : e.Hosts k₂ s₂) (hlength₁ : e.checkLength text₁ = .ok ())
    (hlength₂ : e.checkLength text₂ = .ok ()) :
    Interchange (fun f => Visit.search text₁ offset₁ asked₁ options₁ ⟨f, k₁⟩)
      (fun f => Visit.search text₂ offset₂ asked₂ options₂ ⟨f, k₂⟩) e := by
  obtain ⟨r, e₀, htend, hagain, hlinked⟩ := tend_of_not_usable he
  obtain ⟨he₀, hk₁, hk₂⟩ : ¬e₀.cache.store.Usable ∧ e₀.Hosts k₁ s₁ ∧ e₀.Hosts k₂ s₂ := by
    rcases hlinked with rfl | ⟨wired, rfl⟩
    · exact ⟨he, h₁, h₂⟩
    · exact ⟨he, h₁.of_same ⟨rfl, rfl, rfl⟩ rfl rfl, h₂.of_same ⟨rfl, rfl, rfl⟩ rfl rfl⟩
  have hstands := tend_stands e
  rw [htend] at hstands
  obtain ⟨failure₁, hsearch₁⟩ : ∃ failure, Visit.search text₁ offset₁ asked₁ options₁ ⟨e₀, k₁⟩ =
      (.error failure, ⟨e₀, k₁⟩) :=
    search_of_not_usable he₀ hk₁ ((checkLength_eq hstands.config text₁).trans hlength₁) hagain
  obtain ⟨failure₂, hsearch₂⟩ : ∃ failure, Visit.search text₂ offset₂ asked₂ options₂ ⟨e₀, k₂⟩ =
      (.error failure, ⟨e₀, k₂⟩) :=
    search_of_not_usable he₀ hk₂ ((checkLength_eq hstands.config text₂).trans hlength₂) hagain
  exact .of_eq (interchange_of_errors hsearch₁ hsearch₂)
    (search_of_attach (attach_of_tend hlength₁ htend hagain rfl))
    (search_of_attach (attach_of_tend hlength₂ htend hagain rfl))

/-- **Searches of different sessions commute.** In every engine that is reached from a start, and
that does not sweep rows of age zero, let two callers own different open sessions, neither of which
is to be swept now. Whatever they search for, and whether or not they are refused: in either order
each of them has the same outcome and is left the same, and so is the engine, with its rows, its
cursors and its count of executions. The clock shows less than two seconds of nanoseconds, as every
time of the calendar does.

The rows are in memory, or in a file as rows that are read as they are written
(`FederatedSearch.Engine.ofConfig_newFile_started`). -/
theorem Reached.searches_commute {start : Engine} {h : History} (hstart : start.Started P)
    (hreached : Reached start h e) (hadmitted : ∀ m ∈ h, m.Admitted P)
    (hwindow : 0 < e.sweepAfter.nanos) (hclock : e.cache.now.nano < 2 * nanosPerSecond)
    (h₁ : e.Hosts k₁ s₁) (h₂ : e.Hosts k₂ s₂) (hne : s₁ ≠ s₂)
    (hm₁ : (Moment.mk (.search k₁ text₁ offset₁ asked₁ options₁) e).Admitted P)
    (hm₂ : (Moment.mk (.search k₂ text₂ offset₂ asked₂ options₂) e).Admitted P) :
    Interchange (fun f => Visit.search text₁ offset₁ asked₁ options₁ ⟨f, k₁⟩)
      (fun f => Visit.search text₂ offset₂ asked₂ options₂ ⟨f, k₂⟩) e := by
  have hconfig : ∀ k text offset asked options,
      (Visit.search text offset asked options ⟨e, k⟩).2.engine.config = e.config :=
    fun k text offset asked options => config_runsAlong.search ⟨e, k⟩ text offset asked options
  -- a text that is too long is refused before anything is done
  cases hlength₁ : e.checkLength text₁ with
  | error failure =>
    exact interchange_of_refused (search_of_tooLong hlength₁)
      (search_of_tooLong ((checkLength_eq (hconfig _ _ _ _ _) text₁).trans hlength₁))
  | ok _ =>
    cases hlength₂ : e.checkLength text₂ with
    | error failure =>
      exact (interchange_of_refused (search_of_tooLong hlength₂)
        (search_of_tooLong ((checkLength_eq (hconfig _ _ _ _ _) text₂).trans hlength₂))).symm
    | ok _ =>
      by_cases husable : e.cache.store.Usable
      · have hkept := (hreached.quiet hstart.kept hadmitted).1
        exact search_interchange_of_usable ⟨hkept, husable⟩ hwindow hclock h₁ h₂ hne hlength₁
          hlength₂ hm₁ hm₂
      · exact search_interchange_of_not_usable husable h₁ h₂ hlength₁ hlength₂

/-- The engine after the users 1 and 2 were attached to sessions at a time. -/
def attachTwo (e : Engine) (now : Instant) : Engine :=
  let first := Step.run (Step.run (Step.run e (.setClock now)) .connect)
    (.checkSession { user := some 1 })
  Step.run first (.checkSession { user := some 2 })

theorem reached_attachTwo (e : Engine) (now : Instant) : ∃ h, Reached e h (e.attachTwo now) :=
  ⟨_, .step (.checkSession { user := some 2 }) (.step (.checkSession { user := some 1 })
    (.step .connect (.step (.setClock now) .start)))⟩

/-- The user 1 with the session that it was attached to. -/
def firstUser : Caller := { user := some 1, session := some "mem-00000001" }

/-- The user 2 with the session that it was attached to. -/
def secondUser : Caller := { user := some 2, session := some "mem-00000002" }

/-- A caller owns a session that is not idle at the time that is swept from. -/
theorem hosts_of_shift {cutoff : Instant} (hclaims : k.session = some session)
    (hopens : k.user.any (e.server.opens session) = true)
    (hshift : e.cache.now.shift? e.sweepAfter.neg = some cutoff)
    (hactive : e.cache.isIdle cutoff session = false) : e.Hosts k session := by
  refine ⟨hclaims, (Option.any_eq_true _ _).1 hopens, fun cutoff' h => ?_⟩
  rw [sweepCutoff, hshift] at h
  obtain rfl := Except.ok.inj h
  exact hactive

/-- Two users of an engine that sweeps rows of an hour search in either order. -/
theorem searches_commute_of_two_users :
    let start : Engine := { demo with sweepAfter := ⟨3600 * nanosPerSecond⟩ }
    let e := start.attachTwo ⟨60, 0⟩
    e.Hosts firstUser "mem-00000001" ∧ e.Hosts secondUser "mem-00000002" ∧
      Interchange (fun f => Visit.search "sea" 0 10 .standard ⟨f, firstUser⟩)
        (fun f => Visit.search "boat" 0 10 .standard ⟨f, secondUser⟩) e := by
  intro start e
  have hshift : e.cache.now.shift? e.sweepAfter.neg = some ⟨-3540, 0⟩ := by decide +kernel
  have h₁ : e.Hosts firstUser "mem-00000001" :=
    hosts_of_shift rfl (by decide +kernel) hshift (by decide +kernel)
  have h₂ : e.Hosts secondUser "mem-00000002" :=
    hosts_of_shift rfl (by decide +kernel) hshift (by decide +kernel)
  obtain ⟨h, hreached⟩ := start.reached_attachTwo ⟨60, 0⟩
  refine ⟨h₁, h₂, ?_⟩
  exact Reached.searches_commute ⟨Store.memory_faithful (.nil _), rfl⟩ hreached
    (fun m _ => m.admitted_true) (by decide +kernel) (by decide +kernel) h₁ h₂ (by decide)
    (Moment.admitted_true _) (Moment.admitted_true _)

/-- **Where rows of age zero are swept** the second search can sweep the row of the first: the clock
was set back, so that both rows were written at a time to come when the first search began. -/
theorem not_forall_searches_commute :
    ¬∀ (start e : Engine) (h : History) (k₁ k₂ : Caller) (s₁ s₂ text₁ text₂ : String)
      (offset₁ offset₂ asked₁ asked₂ : Nat) (options₁ options₂ : SearchOptions),
      start.Fresh → Reached start h e → e.Hosts k₁ s₁ → e.Hosts k₂ s₂ → s₁ ≠ s₂ →
        Interchange (fun f => Visit.search text₁ offset₁ asked₁ options₁ ⟨f, k₁⟩)
          (fun f => Visit.search text₂ offset₂ asked₂ options₂ ⟨f, k₂⟩) e := by
  intro hcommute
  let e := Step.run (attachTwo demo ⟨3600, 0⟩) (.setClock ⟨3540, 0⟩)
  have hshift : e.cache.now.shift? e.sweepAfter.neg = some ⟨3540, 0⟩ := by decide +kernel
  have h₁ : e.Hosts firstUser "mem-00000001" :=
    hosts_of_shift rfl (by decide +kernel) hshift (by decide +kernel)
  have h₂ : e.Hosts secondUser "mem-00000002" :=
    hosts_of_shift rfl (by decide +kernel) hshift (by decide +kernel)
  obtain ⟨h, hreached⟩ := reached_attachTwo demo ⟨3600, 0⟩
  have hsame := (hcommute demo e _ _ _ _ _ "sea" "sea" 0 0 10 10 .standard .standard demo_fresh
    (.step _ hreached) h₁ h₂ (by decide)).engine.cursors "mem-00000001"
  exact absurd (congrArg Option.isSome hsame) (by decide +kernel)

end Engine

end FederatedSearch
