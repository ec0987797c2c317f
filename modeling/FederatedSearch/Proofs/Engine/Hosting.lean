import FederatedSearch.Proofs.Engine.Locality

/-!
# Callers that own a session

A caller that owns an open session searches in it. Its search first has the engine connect and sweep
the idle sessions; this one is not among them. What the search does then is all in this session. An
engine that was connected and swept is not changed by doing so again, and it stays so when a search
writes a row: this row is written at the time of the clock, and it is not idle then, as long as the
engine does not sweep rows of age zero.

* `FederatedSearch.Calendar.Instant.le_shift?_eq_false`: the time that is swept from is in the past.
* `FederatedSearch.Engine.Tended`: an engine that was connected and swept.
* `FederatedSearch.Engine.Hosts`: a caller that owns an open session.
* `FederatedSearch.Engine.Tended.search_after`: a search after another session was touched.
* `FederatedSearch.Engine.search_of_not_usable`: a search over a store that cannot be used.
-/

namespace FederatedSearch

open FederatedSearch.Action Calendar

/-! ### The time that is swept from -/

theorem Calendar.Instant.eq_of_within? {t t' : Instant} (h : t.within? = some t') : t' = t := by
  unfold within? at h
  split at h
  · exact (Option.some.inj h).symm
  · cases h

/-- **An instant some time ago** is in the past. -/
theorem Calendar.Instant.le_shift?_eq_false {t t' : Instant} {d : Span} (hd : 0 < d.nanos)
    (ht : t.nano < 2 * nanosPerSecond) (h : t.shift? d.neg = some t') : t.le t' = false := by
  have hsecond : nanosPerSecond = 1000000000 := rfl
  have hseconds : d.neg.wholeSeconds = -(d.nanos / 1000000000) := by
    rw [Span.wholeSeconds, Span.neg, Int.neg_tdiv, Int.tdiv_eq_ediv_of_nonneg (Int.le_of_lt hd)]
    rfl
  have hnanos : d.neg.subsecondNanos = -(d.nanos % 1000000000) := by
    rw [Span.subsecondNanos, Span.neg, Int.neg_tmod, Int.tmod_eq_emod_of_nonneg (Int.le_of_lt hd)]
    rfl
  rw [shift?, hseconds, hnanos] at h
  rw [Bool.eq_false_iff, ne_eq, le_iff]
  cases hleap : t.isLeap with
  | true =>
    -- the span goes back, so at most the leap second is left
    have hnano : nanosPerSecond ≤ t.nano := of_decide_eq_true hleap
    have hback : (0 < -(d.nanos / 1000000000) || (0 < -(d.nanos % 1000000000) &&
        2 * (nanosPerSecond : Int) - -(d.nanos % 1000000000) ≤ t.nano)) = false := by
      simp only [Bool.or_eq_false_iff, Bool.and_eq_false_iff, decide_eq_false_iff_not]
      omega
    rw [if_pos hleap, hback, if_neg (by decide)] at h
    split at h
    · obtain rfl := eq_of_within? h
      simp only [carry, hsecond] at *
      omega
    · obtain rfl := Option.some.inj h
      simp only [hsecond] at *
      omega
  | false =>
    have hnano : ¬nanosPerSecond ≤ t.nano := of_decide_eq_false hleap
    rw [hleap, if_neg (by decide)] at h
    obtain rfl := eq_of_within? h
    simp only [carry, hsecond] at *
    omega

/-! ### Stores that cannot be read or written -/

/-- A store that cannot be used has no rows that could be read. -/
theorem Store.rows_of_not_usable {s : Store} (h : ¬s.Usable) :
    (∃ failure, s.rows = .error failure) ∨ s.rows = .ok [] := by
  cases s with
  | memory rows => exact absurd ⟨⟨rows, rfl⟩, ⟨rows, _, rfl⟩⟩ h
  | file f =>
    cases f with
    | missing | unmakeable => exact .inr rfl
    | notAFile => exact .inl ⟨_, rfl⟩
    | text contents =>
      cases hrows : (file (.text contents)).rows with
      | error failure => exact .inl ⟨failure, rfl⟩
      | ok rows => exact absurd ⟨⟨rows, hrows⟩, ⟨[], _, rfl⟩⟩ h

namespace Cache

variable {c : Cache}

/-- Nothing is swept. -/
theorem clearAll_of_not_usable (h : ¬c.store.Usable) (cutoff? : Option Instant) :
    ∃ r, clearAll cutoff? c = (r, c) := by
  rcases Store.rows_of_not_usable h with ⟨failure, hrows⟩ | hrows
  · refine ⟨.error failure, ?_⟩
    simp only [clearAll, bind_apply, get_apply, look_apply, Store.expired, Store.list, hrows]
    rfl
  · exact ⟨_, clearAll_of_not_idle hrows (by simp)⟩

/-- No session is registered. -/
theorem register_of_not_usable (h : ¬c.store.Usable) (session : String) :
    ∃ failure, c.register session = .error failure := by
  cases hregister : c.register session with
  | error failure => exact ⟨failure, rfl⟩
  | ok c' =>
    rcases register_ok hregister with ⟨row, hrow, -⟩ | hput
    · exact absurd (Store.usable_of_get? hrow) h
    · exact absurd (usable_of_putRow hput) h

end Cache

namespace Engine

variable {P : Row → Prop} {e e' : Engine} {k : Caller} {session : String}

/-! ### Engines that were connected and swept -/

/-- **An engine that was connected and swept**: no row is idle, and none would be that is written
now. -/
structure Tended (P : Row → Prop) (e : Engine) : Prop where
  sweepable : e.cache.Sweepable P
  connected : e.connected = true
  active : ∃ cutoff, e.sweepCutoff = .ok cutoff ∧ e.cache.now.le cutoff = false ∧
    ∀ id, e.cache.isIdle cutoff id = false

/-- It is not tended again. -/
theorem Tended.tend_eq (h : e.Tended P) : e.tend = (.ok 0, e) := by
  obtain ⟨cutoff, hcutoff, -, hactive⟩ := h.active
  obtain ⟨rows, hrows⟩ := h.sweepable.usable.rows
  have htable := h.sweepable.kept.store.holds rows hrows
  exact tend_of_active h.connected hcutoff hrows fun p hp =>
    (Cache.isIdle_of_mem hrows htable hp).symm.trans (hactive p.1)

/-- The time that is swept from depends on what stands. -/
theorem Stands.sweepCutoff_eq (h : e.Stands e') : e'.sweepCutoff = e.sweepCutoff := by
  rw [sweepCutoff, sweepCutoff, h.sweepAfter,
    show e'.cache.now = e.cache.now from Cache.now_eq h.setting]

theorem tend_stands : Along Stands tend :=
  .bind stands_attachesAlong.trans stands_attachesAlong.connect fun _ => stands_attachesAlong.sweep

/-- **Tending an engine** is what makes it tended, when it sweeps no rows of age zero. -/
theorem tended_of_tend (he : e.cache.Sweepable P) (hwindow : 0 < e.sweepAfter.nanos)
    (hclock : e.cache.now.nano < 2 * nanosPerSecond) {n : Nat} (h : e.tend = (.ok n, e')) :
    e'.Tended P := by
  have hstands := tend_stands e
  rw [h] at hstands
  obtain ⟨wired, cutoff, c, rfl, hcutoff, hc, hclears⟩ := tend_ok he h
  have hnow : c.now = e.cache.now := Cache.now_eq hstands.setting
  refine ⟨hc, rfl, cutoff, hstands.sweepCutoff_eq.trans hcutoff, ?_, hclears.isIdle_eq_false⟩
  rw [show c.now = e.cache.now from hnow]
  unfold sweepCutoff at hcutoff
  split at hcutoff
  · cases hcutoff
  · rename_i hshift
    exact Except.ok.inj hcutoff ▸ Instant.le_shift?_eq_false hwindow hclock hshift

/-- **What touches one session** leaves a tended engine tended. -/
theorem Tended.of_touches (h : e.Tended P) (htouches : e.Touches P session e') : e'.Tended P := by
  obtain ⟨cutoff, hcutoff, hnow, hactive⟩ := h.active
  have hsame : e'.cache.now = e.cache.now := Cache.now_eq htouches.cache.setting
  refine ⟨htouches.cache.sweepable, htouches.connected.trans h.connected, cutoff,
    htouches.stands.sweepCutoff_eq.trans hcutoff, hsame ▸ hnow, fun id => ?_⟩
  by_cases hid : id = session
  · subst hid
    rcases htouches.cache.row with hbefore | ⟨row, hrow, hwritten⟩
    · rw [Cache.isIdle_congr hbefore, hactive]
    · rw [Cache.isIdle_of_entry hrow, Option.any_some, Row.idleSince, hwritten, hnow]
  · rw [Cache.isIdle_congr (htouches.cache.entries id hid), hactive]

/-! ### Callers with a session -/

/-- **A caller owns an open session**, which is not one to be swept now. -/
structure Hosts (e : Engine) (k : Caller) (session : String) : Prop where
  claims : k.session = some session
  owned : ∃ user, k.user = some user ∧ e.server.opens session user = true
  active : ∀ cutoff, e.sweepCutoff = .ok cutoff → e.cache.isIdle cutoff session = false

theorem Hosts.isOpen (h : e.Hosts k session) : (e.cache.server.cursor? session).isSome := by
  obtain ⟨user, -, hopens⟩ := h.owned
  exact Server.isSome_of_opens hopens

/-- A caller keeps its session where this session stays as it is. -/
theorem Hosts.of_same (h : e.Hosts k session) (hstands : e.Stands e')
    (hentry : e'.cache.entry session = e.cache.entry session)
    (hcursor : e'.server.cursor? session = e.server.cursor? session) : e'.Hosts k session := by
  obtain ⟨user, huser, hopens⟩ := h.owned
  refine ⟨h.claims, ⟨user, huser, ?_⟩, fun cutoff hnow => ?_⟩
  · rw [Server.opens, hcursor]
    exact hopens
  · rw [Cache.isIdle_congr hentry]
    exact h.active cutoff (hstands.sweepCutoff_eq ▸ hnow)

/-- **A caller keeps its session when the engine is tended.** -/
theorem Hosts.of_tend (h : e.Hosts k session) (he : e.cache.Sweepable P) {n : Nat}
    (htend : e.tend = (.ok n, e')) : e'.Hosts k session := by
  have hstands := tend_stands e
  rw [htend] at hstands
  obtain ⟨wired, cutoff, c, rfl, hcutoff, -, hclears⟩ := tend_ok he htend
  have hidle := h.active cutoff hcutoff
  exact h.of_same hstands (hclears.entry_of_not hidle) (hclears.cursor_of_not hidle)

/-- **A caller that owns a session** is attached to it when it can be registered, and stays as it
is. -/
theorem Hosts.checkSession_eq (h : e.Hosts k session) :
    Visit.checkSession ⟨e, k⟩ = match e.cache.register session with
      | .error failure => (.error failure, ⟨e, k⟩)
      | .ok cache => (.ok session, ⟨{ e with cache }, k⟩) := by
  obtain ⟨user, huser, hopens⟩ := h.owned
  have hown : (⟨e, k⟩ : Visit).ownSession? user = some session :=
    Option.filter_eq_some_iff.2 ⟨h.claims, hopens⟩
  simp only [Visit.checkSession, bind_apply, get_apply, huser, hown, Visit.onCache, Visit.onEngine,
    Engine.onCache, onPart_apply, step_apply]
  cases e.cache.register session <;> rfl

/-! ### What a search comes to -/

/-- No step changes the configuration. -/
theorem config_runsAlong : RunsAlong fun e e' => e'.config = e.config where
  refl _ := rfl
  trans _ _ _ h h' := h'.trans h
  connect := by
    refine Along.step (R := fun e e' : Engine => e'.config = e.config) (fun _ => rfl)
      fun e e' h => ?_
    obtain ⟨wired, rfl⟩ := connect_ok h
    rfl
  close _ _ := rfl
  openSession _ _ := rfl
  register _ _ := rfl
  answer _ _ _ _ _ := rfl
  spares h := h.config

theorem checkLength_eq (h : e'.config = e.config) (text : String) :
    e'.checkLength text = e.checkLength text := by
  rw [checkLength, checkLength, h]

variable {text : String} {offset asked : Nat} {options : SearchOptions}

/-- **A search whose text is too long** is refused, and nothing is done. -/
theorem search_of_tooLong {failure : Failure} (hlength : e.checkLength text = .error failure) :
    Visit.search text offset asked options ⟨e, k⟩ = (.error failure, ⟨e, k⟩) := by
  simp only [Visit.search_eq, Visit.attach, bind_apply, Visit.prepare_apply, hlength]

/-- A search of an engine that cannot be tended is refused. -/
theorem search_of_tend_error (hlength : e.checkLength text = .ok ()) {failure : Failure}
    (htend : e.tend = (.error failure, e')) :
    Visit.search text offset asked options ⟨e, k⟩ = (.error failure, ⟨e', k⟩) := by
  simp only [Visit.search_eq, Visit.attach, bind_apply, Visit.prepare_apply, hlength, htend]
  rfl

/-- In an engine that is tended already only the caller is looked at. -/
theorem attach_of_tended (hlength : e.checkLength text = .ok ()) {n : Nat}
    (htend : e.tend = (.ok n, e)) : Visit.attach text ⟨e, k⟩ = Visit.checkSession ⟨e, k⟩ := by
  simp only [Visit.attach, bind_apply, Visit.prepare_apply, hlength, htend]
  simp only [Except.map]

/-- **Tending an engine first** makes no difference to a caller that is attached. -/
theorem attach_of_tend (hlength : e.checkLength text = .ok ()) {r r' : Except Failure Nat}
    (htend : e.tend = (r, e')) (hagain : e'.tend = (r', e'))
    (hsame : r.map (fun _ => ()) = r'.map fun _ => ()) :
    Visit.attach text ⟨e, k⟩ = Visit.attach text ⟨e', k⟩ := by
  have hstands := tend_stands e
  rw [htend] at hstands
  have hlength' := (checkLength_eq hstands.config text).trans hlength
  simp only [Visit.attach, bind_apply, Visit.prepare_apply, hlength, hlength', htend, hagain, hsame]

/-- It makes no difference to a search. -/
theorem search_of_attach (hattach : Visit.attach text ⟨e, k⟩ = Visit.attach text ⟨e', k⟩) :
    Visit.search text offset asked options ⟨e, k⟩ =
      Visit.search text offset asked options ⟨e', k⟩ := by
  rw [Visit.search_eq, bind_apply, bind_apply, hattach]

/-- A search that is attached alike may write the same. -/
theorem admitted_of_attach (hattach : Visit.attach text ⟨e, k⟩ = Visit.attach text ⟨e', k⟩)
    (hstands : e.Stands e')
    (h : (Moment.mk (.search k text offset asked options) e).Admitted P) :
    (Moment.mk (.search k text offset asked options) e').Admitted P := by
  refine ⟨Cache.now_eq hstands.setting ▸ h.rows, fun a ha => h.executed a ?_⟩
  simp only [Step.attempt?, hattach]
  exact ha

/-! ### Searches over stores that cannot be used -/

/-- **Over a store that cannot be used** a sweep changes nothing. -/
theorem sweep_of_not_usable (h : ¬e.cache.store.Usable) : ∃ r, sweep e = (r, e) := by
  rw [sweep_apply]
  cases e.sweepCutoff with
  | error failure => exact ⟨_, rfl⟩
  | ok cutoff =>
    obtain ⟨r, hclear⟩ := Cache.clearAll_of_not_usable h (some cutoff)
    exact ⟨r, by simp only [onCache, onPart_apply, hclear]⟩

/-- Tending the engine connects it at most, and comes to the same again. -/
theorem tend_of_not_usable (h : ¬e.cache.store.Usable) :
    ∃ r e', e.tend = (r, e') ∧ e'.tend = (r, e') ∧
      (e' = e ∨ ∃ wired, e' = e.withLink wired true) := by
  rcases tend_cases e with ⟨failure, hconnect⟩ | ⟨wired, htend⟩
  · exact ⟨_, e, hconnect, hconnect, .inl rfl⟩
  · have hlinked : ¬(e.withLink wired true).cache.store.Usable := h
    obtain ⟨r, hsweep⟩ := sweep_of_not_usable hlinked
    exact ⟨r, _, htend.trans hsweep, (tend_of_connected rfl).trans hsweep, .inr ⟨wired, rfl⟩⟩

/-- A search over such a store is refused. -/
theorem search_of_not_usable (h : ¬e.cache.store.Usable) (hk : e.Hosts k session)
    (hlength : e.checkLength text = .ok ()) {r : Except Failure Nat} (htend : e.tend = (r, e)) :
    ∃ failure, Visit.search text offset asked options ⟨e, k⟩ = (.error failure, ⟨e, k⟩) := by
  cases r with
  | error failure => exact ⟨failure, search_of_tend_error hlength htend⟩
  | ok n =>
    obtain ⟨failure, hregister⟩ := Cache.register_of_not_usable h session
    refine ⟨failure, ?_⟩
    simp only [Visit.search_eq, bind_apply, attach_of_tended hlength htend, hk.checkSession_eq,
      hregister]

/-! ### Searches of tended engines -/

section Tended

variable {s other : String} {c : Cache}

/-- The caller of a search of a tended engine is attached to its session. -/
theorem Tended.attach_eq (he : e.Tended P) (hk : e.Hosts k s)
    (hlength : e.checkLength text = .ok ()) (hregister : e.cache.register s = .ok c) :
    Visit.attach text ⟨e, k⟩ = (.ok s, ⟨{ e with cache := c }, k⟩) := by
  rw [attach_of_tended hlength he.tend_eq, hk.checkSession_eq, hregister]

/-- **A search of a tended engine** is one in the session of its caller. -/
theorem Tended.search_eq (he : e.Tended P) (hk : e.Hosts k s)
    (hlength : e.checkLength text = .ok ()) (hregister : e.cache.register s = .ok c) :
    Visit.search text offset asked options ⟨e, k⟩ =
      Visit.searchIn s text offset asked options ⟨{ e with cache := c }, k⟩ := by
  rw [Visit.search_eq, bind_apply, he.attach_eq hk hlength hregister]

/-- It writes a row that it may write. -/
theorem Tended.admitsFor (he : e.Tended P) (hk : e.Hosts k s)
    (hlength : e.checkLength text = .ok ()) (hregister : e.cache.register s = .ok c)
    (hm : (Moment.mk (.search k text offset asked options) e).Admitted P) :
    (⟨s, text, options, { e with cache := c }⟩ : Attempt).AdmitsFor P k := by
  intro hdecide hcame
  have hattach := he.attach_eq hk hlength hregister
  exact hm.executed _ ((Step.attempt?_eq_some_iff hattach offset asked options).2 hdecide) _
    (Attempt.row?_eq_some hcame)

/-- Registering a session touches it. -/
theorem Tended.register_touches (he : e.Tended P) (hadmits : Row.Admits P e.cache.now)
    (hregister : e.cache.register s = .ok c) : e.Touches P s { e with cache := c } :=
  ⟨he.sweepable.register_touches hadmits hregister, rfl, rfl, rfl⟩

/-- **A search of a tended engine** touches the session of its caller. -/
theorem Tended.search_touches (he : e.Tended P) (hk : e.Hosts k s)
    (hlength : e.checkLength text = .ok ())
    (hm : (Moment.mk (.search k text offset asked options) e).Admitted P) :
    e.Touches P s (Visit.search text offset asked options ⟨e, k⟩).2.engine := by
  obtain ⟨c, hregister⟩ := he.sweepable.exists_register s
  have hfirst := he.register_touches hm.rows hregister
  have hwritten := he.admitsFor hk hlength hregister hm
  obtain ⟨store, rfl⟩ := Cache.exists_store_of_register hregister
  let a : Attempt := ⟨s, text, options, { e with cache := { e.cache with store } }⟩
  rw [he.search_eq hk hlength hregister]
  exact hfirst.trans (a.searchIn_touches hfirst.cache.sweepable hk.isOpen hm.rows hwritten offset
    asked)

/-- **A search after another session was touched** goes the same way as before. -/
theorem Tended.search_after (he : e.Tended P) (hk : e.Hosts k s)
    (hlength : e.checkLength text = .ok ())
    (hm : (Moment.mk (.search k text offset asked options) e).Admitted P)
    (hother : e.Touches P other e') (hne : s ≠ other) :
    let x := Visit.search text offset asked options ⟨e, k⟩
    let y := Visit.search text offset asked options ⟨e', k⟩
    y.1 = x.1 ∧ y.2.caller = x.2.caller ∧ e'.Touches P s y.2.engine ∧
      x.2.engine.SameAt P s e'.server.executions e.server.executions y.2.engine := by
  have hk' : e'.Hosts k s :=
    hk.of_same hother.stands (hother.cache.entries s hne) (hother.cache.cursors s hne)
  have hlength' : e'.checkLength text = .ok () := (checkLength_eq hother.config text).trans hlength
  have hadmits' : Row.Admits P e'.cache.now := Cache.now_eq hother.cache.setting ▸ hm.rows
  have he' := he.of_touches hother
  -- both callers are attached, and the engines are the same at the session then
  obtain ⟨c, hregister⟩ := he.sweepable.exists_register s
  obtain ⟨d, hregister'⟩ := he'.sweepable.exists_register s
  have hbefore := hother.sameAt he.sweepable hk.isOpen hne
  have hsame : ({ e with cache := c } : Engine).SameAt P s e'.server.executions
      e.server.executions { e' with cache := d } :=
    ⟨hbefore.cache.register hm.rows hregister hregister', hbefore.config, hbefore.sweepAfter⟩
  have hwritten := he.admitsFor hk hlength hregister hm
  have hfirst := he'.register_touches hadmits' hregister'
  obtain ⟨store, rfl⟩ := Cache.exists_store_of_register hregister
  obtain ⟨store', rfl⟩ := Cache.exists_store_of_register hregister'
  let a : Attempt := ⟨s, text, options, { e with cache := { e.cache with store } }⟩
  let b := a.again s { e' with cache := { e'.cache with store := store' } }
  obtain ⟨hpage, hcaller, hafter⟩ := a.searchIn_sameAt hsame hm.rows hwritten offset asked
  have htouches := b.searchIn_touches hfirst.cache.sweepable hk'.isOpen hadmits'
    (hwritten.again hsame) offset asked
  rw [he.search_eq hk hlength hregister, he'.search_eq hk' hlength' hregister']
  exact ⟨hpage.symm, hcaller.symm, hfirst.trans htouches, hafter⟩

end Tended

end Engine

end FederatedSearch
