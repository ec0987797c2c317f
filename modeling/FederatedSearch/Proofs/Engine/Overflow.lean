import FederatedSearch.Proofs.Calendar.Shifting
import FederatedSearch.Proofs.Engine.Hosting

/-!
# Windows that lead out of time

The two windows of a configuration are numbers of seconds. Both are made into spans when an engine
is made, and before each search the time to sweep from is looked for in the calendar, one window ago.
Both can go wrong for a configuration that is accepted: not every number of seconds is made into a
span, and not every span leads from the present into the calendar. Nothing else that an engine does
can leave the calendar. So whether a configuration is safe depends on its two windows alone.

* `FederatedSearch.Engine.longestSweep`: the longest window that the calendar has room for.
* `FederatedSearch.Config.HasUsableWindows`: the configurations that are safe.
* `FederatedSearch.Visit.searchIn_avoids`: a search that has a session does not leave the calendar.
* `FederatedSearch.Engine.search_never_overflows_iff`: searching is safe for these configurations,
  and for no others.
-/

namespace FederatedSearch

open FederatedSearch.Action Calendar

/-! ### Windows -/

namespace Engine

/-- The seconds from the start of the calendar to the year 0. -/
def longestSweep : Nat := (Instant.eraStart - Instant.firstSecond).toNat

theorem longestSweep_eq : longestSweep = 8272434009600 := rfl

/-- **A window is made into a span**: that of its seconds, or a long one when it is too long for a
number of seconds. -/
theorem eq_of_window? {n : Nat} {d : Span} (h : window? n = some d) :
    n ≤ maxMillis / 1000 ∧ d = ⟨n * nanosPerSecond⟩ ∨
      maxWindow < n ∧ d = ⟨(maxWindow / 1000 : Nat) * nanosPerSecond⟩ := by
  unfold window? Span.ofSeconds? at h
  by_cases hmax : n ≤ maxWindow
  · rw [if_pos hmax, Int.natAbs_natCast] at h
    split at h
    · rename_i hspan
      exact .inl ⟨hspan, (Option.some.inj h).symm⟩
    · cases h
  · rw [if_neg hmax, Int.natAbs_natCast, if_pos (by decide)] at h
    exact .inr ⟨Nat.lt_of_not_le hmax, (Option.some.inj h).symm⟩

/-- **A window of a span of time** is made into this span. -/
theorem window?_eq {n : Nat} (h : n ≤ maxMillis / 1000) :
    window? n = some ⟨n * nanosPerSecond⟩ := by
  have hmax : n ≤ maxWindow := Nat.le_trans h (by decide)
  rw [window?, Span.ofSeconds?, if_pos hmax, Int.natAbs_natCast, if_pos h]

/-- A window that is too long for a number of seconds is made into a span, too. -/
theorem exists_window? {n : Nat} (h : n ≤ maxMillis / 1000 ∨ maxWindow < n) :
    ∃ d, window? n = some d := by
  rcases h with hspan | hlong
  · exact ⟨_, window?_eq hspan⟩
  · refine ⟨⟨(maxWindow / 1000 : Nat) * nanosPerSecond⟩, ?_⟩
    rw [window?, Span.ofSeconds?, if_neg (Nat.not_le.2 hlong), Int.natAbs_natCast,
      if_pos (by decide)]

end Engine

/-- **The windows of a configuration are safe**: rows become stale after a span of time or never, and
a sweep from the year 0 on reaches back to an instant of the calendar. -/
structure Config.HasUsableWindows (c : Config) : Prop where
  stale : c.cache.staleAfterSecs ≤ maxMillis / 1000 ∨ Engine.maxWindow < c.cache.staleAfterSecs
  sweep : c.cache.sweepAfterSecs ≤ Engine.longestSweep

namespace Engine

variable {c : Config} {server : Server} {store : Store} {now : Instant} {e e' : Engine}

/-- An engine is made of safe windows, and sweeps after the seconds that are asked for. -/
theorem exists_ofConfig (h : c.HasUsableWindows) (server : Server) (store : Store)
    (now : Instant) : ∃ start, ofConfig server store now c = .ok start ∧
      start.sweepAfter = ⟨c.cache.sweepAfterSecs * nanosPerSecond⟩ := by
  obtain ⟨staleAfter, hstale⟩ := exists_window? h.stale
  have hsweep := window?_eq (Nat.le_trans h.sweep (by decide))
  exact ⟨_, by rw [ofConfig, hstale, hsweep], rfl⟩

/-- **An engine is made of the two windows**, when both are spans. -/
theorem eq_of_ofConfig (h : ofConfig server store now c = .ok e) :
    ∃ staleAfter sweepAfter, window? c.cache.staleAfterSecs = some staleAfter ∧
      window? c.cache.sweepAfterSecs = some sweepAfter ∧
        e = { cache := { server, store, now, staleAfter }, config := c, sweepAfter } := by
  unfold ofConfig at h
  split at h
  · rename_i staleAfter sweepAfter hstale hsweep
    exact ⟨staleAfter, sweepAfter, hstale, hsweep, (Except.ok.inj h).symm⟩
  · cases h

/-! ### The time that is swept from -/

/-- There is a time to sweep from, or it is not in the calendar. -/
theorem sweepCutoff_cases (e : Engine) :
    e.sweepCutoff = .error .timeOverflow ∨ ∃ cutoff, e.sweepCutoff = .ok cutoff := by
  unfold sweepCutoff
  split
  · exact .inl rfl
  · exact .inr ⟨_, rfl⟩

/-- **A safe window leads back into the calendar**, in the years 0 to 9999. -/
theorem exists_sweepCutoff {n : Nat} (hwindow : e.sweepAfter = ⟨n * nanosPerSecond⟩)
    (hn : n ≤ longestSweep) (hnow : e.cache.now.InEra) : ∃ cutoff, e.sweepCutoff = .ok cutoff := by
  have hstart := hnow.start
  rw [longestSweep_eq] at hn
  rw [Instant.eraStart_eq] at hstart
  obtain ⟨cutoff, hshift⟩ := Instant.exists_shift?_neg (n := n) hnow.inCalendar
    (by rw [Instant.firstSecond_eq]; omega)
  exact ⟨cutoff, by rw [sweepCutoff, hwindow, hshift]⟩

/-- **A window leads out of the calendar** when this had not begun by then. -/
theorem sweepCutoff_eq_error {n : Nat} (hwindow : e.sweepAfter = ⟨n * nanosPerSecond⟩)
    (hleap : e.cache.now.isLeap = false)
    (hn : e.cache.now.second < Instant.firstSecond + n) : e.sweepCutoff = .error .timeOverflow := by
  rw [sweepCutoff, hwindow, Instant.shift?_neg_eq_none hleap hn]

/-- A window that is too long leads out of it at the start of the year 0. -/
theorem eraStart_lt {n : Nat} (hn : longestSweep < n) :
    Instant.eraStart < Instant.firstSecond + n := by
  rw [longestSweep_eq] at hn
  rw [Instant.firstSecond_eq, Instant.eraStart_eq]
  omega

/-- **No step changes the window of the sweep.** -/
theorem sweepAfter_runsAlong : RunsAlong fun e e' => e'.sweepAfter = e.sweepAfter where
  refl _ := rfl
  trans _ _ _ h h' := h'.trans h
  connect := by
    refine Along.step (R := fun e e' : Engine => e'.sweepAfter = e.sweepAfter) (fun _ => rfl)
      fun e e' h => ?_
    obtain ⟨wired, rfl⟩ := connect_ok h
    rfl
  close _ _ := rfl
  openSession _ _ := rfl
  register _ _ := rfl
  answer _ _ _ _ _ := rfl
  spares h := h.sweepAfter

end Engine

/-! ### What does not leave the calendar -/

namespace Store

variable (s : Store)

theorem rows_ne_timeOverflow : s.rows ≠ .error .timeOverflow := by
  intro h
  cases s with
  | memory rows => cases h
  | file f =>
    cases f with
    | missing | unmakeable | notAFile => cases h
    | text contents =>
      simp only [rows, FileState.rows] at h
      split at h <;> cases h

theorem withRows_ne_timeOverflow (rows : Table String Row) :
    s.withRows rows ≠ .error .timeOverflow := by
  intro h
  cases s with
  | memory _ => cases h
  | file f => cases f <;> cases h

theorem get?_ne_timeOverflow (session : String) : s.get? session ≠ .error .timeOverflow :=
  bind_ne_error s.rows_ne_timeOverflow fun _ => ok_ne_error _ _

theorem list_ne_timeOverflow : s.list ≠ .error .timeOverflow :=
  bind_ne_error s.rows_ne_timeOverflow fun _ => ok_ne_error _ _

theorem expired_ne_timeOverflow (cutoff : Instant) : s.expired cutoff ≠ .error .timeOverflow :=
  bind_ne_error s.list_ne_timeOverflow fun _ => ok_ne_error _ _

theorem upsert_ne_timeOverflow (row : Row) : s.upsert row ≠ .error .timeOverflow :=
  bind_ne_error s.rows_ne_timeOverflow fun _ => s.withRows_ne_timeOverflow _

theorem remove_ne_timeOverflow (session : String) : s.remove session ≠ .error .timeOverflow := by
  refine bind_ne_error s.rows_ne_timeOverflow fun rows => ?_
  split
  · exact bind_ne_error (s.withRows_ne_timeOverflow _) fun _ => ok_ne_error _ _
  · exact ok_ne_error _ _

end Store

namespace Cache

variable (c : Cache) (session : String)

theorem putRow_ne_timeOverflow (row : Row) : c.putRow row ≠ .error .timeOverflow :=
  bind_ne_error (c.store.upsert_ne_timeOverflow row) fun _ => ok_ne_error _ _

theorem entryOrCreated_ne_timeOverflow : c.entryOrCreated session ≠ .error .timeOverflow :=
  bind_ne_error (c.store.get?_ne_timeOverflow session) fun _ => ok_ne_error _ _

theorem register_ne_timeOverflow : c.register session ≠ .error .timeOverflow := by
  refine bind_ne_error (c.store.get?_ne_timeOverflow session) fun row? => ?_
  cases row? with
  | none => exact c.putRow_ne_timeOverflow _
  | some row => exact ok_ne_error _ _

theorem decide_ne_timeOverflow (query : String) (force : Bool) :
    c.decide session query force ≠ .error .timeOverflow := by
  refine bind_ne_error (c.store.get?_ne_timeOverflow session) fun row? => ?_
  cases row? <;> exact ok_ne_error _ _

theorem record_ne_timeOverflow (query : String) (duration : Number.Binary64) (total : Nat) :
    c.record session query duration total ≠ .error .timeOverflow :=
  bind_ne_error (c.entryOrCreated_ne_timeOverflow session) fun _ =>
    bind_ne_error (c.putRow_ne_timeOverflow _) fun _ => ok_ne_error _ _

theorem invalidate_ne_timeOverflow : c.invalidate session ≠ .error .timeOverflow :=
  bind_ne_error (c.entryOrCreated_ne_timeOverflow session) fun _ => c.putRow_ne_timeOverflow _

theorem removeRow_ne_timeOverflow : c.removeRow session ≠ .error .timeOverflow :=
  bind_ne_error (c.store.remove_ne_timeOverflow session) fun _ => ok_ne_error _ _

/-- Sweeping some sessions does not leave the calendar. -/
theorem sweepSessions_avoids (cutoff : Instant) (sessions : List String) :
    Avoids .timeOverflow (sweepSessions cutoff sessions) := by
  induction sessions with
  | nil => exact .pure 0
  | cons session rest ih =>
    refine .bind (.bind (.look fun c => c.store.get?_ne_timeOverflow session) fun row? => ?_)
      fun _ => .bind ih fun _ => .pure _
    cases row? with
    | none => exact .pure false
    | some row =>
      dsimp only
      split
      · exact .bind (.modify _) fun _ => .stepWith fun c => c.removeRow_ne_timeOverflow session
      · exact .pure false

/-- **A sweep from a given time** does not leave the calendar. -/
theorem clearAll_avoids (cutoff? : Option Instant) : Avoids .timeOverflow (clearAll cutoff?) :=
  .bind .get fun _ => .bind (.look fun c => c.store.expired_ne_timeOverflow _) fun sessions =>
    sweepSessions_avoids _ sessions

/-- **Answering a search** does not leave the calendar. -/
theorem answer_avoids (o : SearchOptions) (r : Query.Request) (force : Bool) :
    Avoids .timeOverflow (answer session o r force) := by
  refine .bind (.look fun c => c.decide_ne_timeOverflow session _ force) fun decision => ?_
  cases decision with
  | reuse row => exact .pure (some row)
  | recompute =>
    refine .bind .get fun c => .bind (.set _) fun _ => ?_
    split
    · exact .bind (.step fun c => c.invalidate_ne_timeOverflow session) fun _ => .pure none
    · exact .bind (.stepWith fun c => c.record_ne_timeOverflow session _ _ _) fun _ => .pure _

end Cache

namespace Visit

theorem openSession_ne_timeOverflow (user : Nat) (c : Cache) :
    openSession user c ≠ .error .timeOverflow := by
  intro h
  unfold openSession at h
  split at h <;> cases h

/-- **Attaching a caller to a session** does not leave the calendar. -/
theorem checkSession_avoids : Avoids .timeOverflow checkSession := by
  have hregister : ∀ session,
      Avoids .timeOverflow (Visit.onCache (Action.step (·.register session))) := fun session =>
    .onPart (.onPart (.step fun c => c.register_ne_timeOverflow session))
  refine .bind .get fun v => ?_
  cases v.caller.user with
  | none => exact .fail (by decide)
  | some user =>
    dsimp only
    cases v.ownSession? user with
    | some session => exact .bind (hregister session) fun _ => .pure session
    | none =>
      exact .bind (.onPart (.onPart (.stepWith fun c => openSession_ne_timeOverflow user c)))
        fun session => .bind (hregister session) fun _ => .bind (.modify _) fun _ => .pure session

/-- **A search that has a session** does not leave the calendar. -/
theorem searchIn_avoids (session text : String) (offset asked : Nat) (options : SearchOptions) :
    Avoids .timeOverflow (searchIn session text offset asked options) :=
  .bind (.bind .get fun _ => .bind (.modify _) fun _ => .pure _) fun force => .bind .get fun _ =>
    .bind (.onPart (.onPart (Cache.answer_avoids session _ _ force))) fun _ =>
      .bind .get fun _ => .pure _

end Visit

namespace Engine

variable {server : Server} {store : Store} {now : Instant} {e : Engine} {k : Caller}

theorem checkLength_ne_timeOverflow (e : Engine) (text : String) :
    e.checkLength text ≠ .error .timeOverflow := by
  intro h
  unfold checkLength at h
  dsimp only at h
  split at h <;> cases h

theorem checkLength_empty (e : Engine) : e.checkLength "" = .ok () := by
  simp only [checkLength, String.length_empty, Nat.not_lt_zero, if_false]

theorem connect_ne_timeOverflow (e : Engine) : e.connect ≠ .error .timeOverflow := by
  intro h
  unfold connect at h
  split at h
  · cases h
  · split at h
    · cases h
    · unfold Server.connect at h
      split at h <;> cases h

/-- **Tending an engine** does not leave the calendar, when there is a time to sweep from. -/
theorem tend_ne_timeOverflow (h : ∃ cutoff, e.sweepCutoff = .ok cutoff) :
    e.tend.1 ≠ .error .timeOverflow := by
  obtain ⟨cutoff, hcutoff⟩ := h
  simp only [tend, bind_apply, step_apply]
  cases hconnect : e.connect with
  | error failure => exact error_ne_error e.connect_ne_timeOverflow hconnect
  | ok e' =>
    obtain ⟨wired, rfl⟩ := connect_ok hconnect
    have hcutoff' : (e.withLink wired true).sweepCutoff = .ok cutoff := hcutoff
    dsimp only
    rw [sweep_apply, hcutoff']
    exact Avoids.onPart (Cache.clearAll_avoids (some cutoff)) (e.withLink wired true)

/-- **A search does not leave the calendar**, when there is a time to sweep from. -/
theorem search_ne_timeOverflow (h : ∃ cutoff, e.sweepCutoff = .ok cutoff) (k : Caller)
    (text : String) (offset asked : Nat) (options : SearchOptions) :
    (Visit.search text offset asked options ⟨e, k⟩).1 ≠ .error .timeOverflow := by
  cases hlength : e.checkLength text with
  | error failure =>
    rw [search_of_tooLong hlength]
    exact error_ne_error (e.checkLength_ne_timeOverflow text) hlength
  | ok _ =>
    cases htend : e.tend with
    | mk r e' =>
      cases r with
      | error failure =>
        rw [search_of_tend_error hlength htend]
        exact error_ne_error (tend_ne_timeOverflow h) (congrArg Prod.fst htend)
      | ok n =>
        rw [Visit.search_eq, Visit.attach, bind_apply, bind_apply, Visit.prepare_apply, hlength,
          htend]
        exact Avoids.bind Visit.checkSession_avoids
          (fun session => Visit.searchIn_avoids session text offset asked options) ⟨e', k⟩

/-- **A search fails** where there is no time to sweep from. -/
theorem search_of_timeOverflow {e' : Engine} {text : String}
    (hlength : e.checkLength text = .ok ()) (hconnect : e.connect = .ok e')
    (h : e.sweepCutoff = .error .timeOverflow) (offset asked : Nat) (options : SearchOptions) :
    Visit.search text offset asked options ⟨e, k⟩ = (.error .timeOverflow, ⟨e', k⟩) := by
  refine search_of_tend_error hlength ?_
  obtain ⟨wired, rfl⟩ := connect_ok hconnect
  have h' : (e.withLink wired true).sweepCutoff = .error .timeOverflow := h
  simp only [tend, bind_apply, step_apply, hconnect, sweep_apply, h']

/-! ### Configurations that are safe -/

/-- A search of the built-in dataset fails where there is no time to sweep from. -/
theorem search_demo_of_timeOverflow {text : String}
    (hserver : e.cache.server = .ofDataset Demo.dataset) (hlength : e.checkLength text = .ok ())
    (h : e.sweepCutoff = .error .timeOverflow) (k : Caller) (offset asked : Nat)
    (options : SearchOptions) :
    (Visit.search text offset asked options ⟨e, k⟩).1 = .error .timeOverflow := by
  obtain ⟨e', hconnect⟩ : ∃ e', e.connect = .ok e' := by
    unfold connect
    split
    · exact ⟨_, rfl⟩
    · rw [catalog, server, hserver]
      exact ⟨_, rfl⟩
  rw [search_of_timeOverflow hlength hconnect h]

/-- **The configurations that are safe in the years 0 to 9999** are those with usable windows: an
engine is made over any server and any store, and no search of any engine that it becomes leaves the
calendar. Where a row is compared with the clock, the span between two instants of the calendar is
always one that there is. -/
theorem search_never_overflows_iff (c : Config) :
    (∀ later earlier : Instant, later.InCalendar → earlier.InCalendar →
      (later.since earlier).InRange) ∧
    ((∀ (server : Server) (store : Store) (now : Instant), now.InEra →
        ∃ start, ofConfig server store now c = .ok start ∧
          ∀ h e, Reached start h e → e.cache.now.InEra → ∀ k text offset asked options,
            (Visit.search text offset asked options ⟨e, k⟩).1 ≠ .error .timeOverflow) ↔
      c.HasUsableWindows) := by
  refine ⟨fun _ _ => Instant.since_inRange, ⟨fun hsafe => ?_, fun husable => ?_⟩⟩
  · -- the built-in dataset is searched at the start of the year 0
    obtain ⟨start, hstart, hsearch⟩ :=
      hsafe (.ofDataset Demo.dataset) .empty ⟨Instant.eraStart, 0⟩ Instant.inEra_eraStart
    obtain ⟨staleAfter, sweepAfter, hstale, hsweep, heq⟩ := eq_of_ofConfig hstart
    refine ⟨(eq_of_window? hstale).imp And.left And.left, Nat.le_of_not_lt fun hlong => ?_⟩
    obtain ⟨n, hn, hwindow⟩ : ∃ n : Nat, longestSweep < n ∧ sweepAfter = ⟨n * nanosPerSecond⟩ := by
      rcases eq_of_window? hsweep with ⟨-, hspan⟩ | ⟨-, hspan⟩
      · exact ⟨_, hlong, hspan⟩
      · exact ⟨_, by decide, hspan⟩
    subst heq
    exact hsearch [] _ .start Instant.inEra_eraStart {} "" 0 0 {}
      (search_demo_of_timeOverflow rfl (checkLength_empty _)
        (sweepCutoff_eq_error hwindow rfl (eraStart_lt hn)) _ _ _ _)
  · intro server store now _
    obtain ⟨start, hstart, hwindow⟩ := exists_ofConfig husable server store now
    refine ⟨start, hstart, fun h e hreached hnow k text offset asked options => ?_⟩
    have hsame : e.sweepAfter = start.sweepAfter := sweepAfter_runsAlong.reached hreached
    exact search_ne_timeOverflow
      (exists_sweepCutoff (hsame.trans hwindow) husable.sweep hnow) k text offset asked options

example : ({} : Config).HasUsableWindows := ⟨.inl (by decide), by decide⟩

/-- A configuration that is accepted and leads out of the calendar: it sweeps after some 317,000
years. -/
def sweepingLate : Config := { cache := { sweepAfterSecs := 10000000000000 } }

theorem validate_sweepingLate : sweepingLate.validate = .ok () :=
  Config.validate_eq_ok_iff.2 (by decide)

/-- An engine of this configuration has no time to sweep from. -/
theorem sweepCutoff_of_sweepingLate (hstart : ofConfig server store now sweepingLate = .ok e)
    (hnow : now.InEra) (hleap : now.isLeap = false) : e.sweepCutoff = .error .timeOverflow := by
  obtain ⟨staleAfter, sweepAfter, -, hsweep, rfl⟩ := eq_of_ofConfig hstart
  have hwindow : sweepAfter = ⟨(10000000000000 : Nat) * nanosPerSecond⟩ :=
    (Option.some.inj hsweep).symm
  have hend : Instant.eraEnd ≤ Instant.firstSecond + (10000000000000 : Nat) := by decide
  exact sweepCutoff_eq_error hwindow hleap (Int.lt_of_lt_of_le hnow.ends hend)

/-- **That a configuration is accepted does not make it safe**, although its windows are numbers of
64 bits. -/
theorem not_forall_search_in_time :
    ¬∀ c : Config, c.validate = .ok () → c.cache.staleAfterSecs < 2 ^ 64 →
      c.cache.sweepAfterSecs < 2 ^ 64 → ∀ (d : Dataset) (now : Instant), now.InEra →
        ∃ start, ofConfig (.ofDataset d) .empty now c = .ok start ∧
          ∀ k text offset asked options,
            (Visit.search text offset asked options ⟨start, k⟩).1 ≠ .error .timeOverflow := by
  intro hall
  have hera : (⟨1717232400, 0⟩ : Instant).InEra := ⟨by decide, by decide, by decide⟩
  obtain ⟨start, hstart, hsearch⟩ :=
    hall sweepingLate validate_sweepingLate (by decide) (by decide) Demo.dataset _ hera
  have hcutoff := sweepCutoff_of_sweepingLate hstart hera rfl
  obtain ⟨staleAfter, sweepAfter, -, -, rfl⟩ := eq_of_ofConfig hstart
  exact hsearch {} "sea" 0 10 {} (search_demo_of_timeOverflow rfl rfl hcutoff _ _ _ _)

end Engine

end FederatedSearch
