import FederatedSearch.Proofs.Session.Upkeep

/-!
# The sweep

A sweep looks at the rows that are there, and closes the sessions of those that were not written
after a time. Of these sessions nothing is left, and everything else stays as it is, whatever store
the rows are in. Where the store can be read and written the sweep succeeds.

* `FederatedSearch.Cache.isIdle`: a session that is to be swept.
* `FederatedSearch.Cache.Clears`: some sessions are gone, and all others are as before.
* `FederatedSearch.Cache.Kept.clearAll`: the sweep clears the idle sessions.
* `FederatedSearch.Cache.clearAll_succeeds`: it succeeds.
-/

namespace FederatedSearch.Cache

open Calendar

variable {P : Row → Prop} {c c' : Cache} {id : String} {cutoff : Instant}

/-! ### Idle sessions -/

/-- **The row of the session was not written after a time.** -/
def isIdle (c : Cache) (cutoff : Instant) (id : String) : Bool :=
  (c.entry id).toOption.any (·.any (·.idleSince cutoff))

theorem isIdle_of_entry {row? : Option Row} (h : c.entry id = .ok row?) (cutoff : Instant) :
    c.isIdle cutoff id = row?.any (·.idleSince cutoff) := by
  rw [isIdle, h]
  rfl

theorem isIdle_congr (h : c'.entry id = c.entry id) (cutoff : Instant) :
    c'.isIdle cutoff id = c.isIdle cutoff id := by
  rw [isIdle, isIdle, h]

/-- **The idle sessions are those that are swept.** -/
theorem Kept.mem_expired (hc : c.Kept P) {sessions : List String}
    (h : c.store.expired cutoff = .ok sessions) (hidle : c.isIdle cutoff id = true) :
    id ∈ sessions := by
  cases hentry : c.entry id with
  | error e =>
    rw [isIdle, hentry] at hidle
    cases hidle
  | ok row? =>
    rw [isIdle_of_entry hentry, Option.any_eq_true] at hidle
    obtain ⟨row, rfl, hrow⟩ := hidle
    obtain ⟨hsession, -⟩ := hc.store.get? hentry
    simp only [entry, Store.get?, Store.expired, Store.list] at hentry h
    cases hrows : c.store.rows with
    | error e =>
      rw [hrows] at hentry
      cases hentry
    | ok rows =>
      rw [hrows] at hentry h
      obtain rfl := Except.ok.inj h
      have hmem := Table.mem_of_find? (Except.ok.inj hentry)
      exact List.mem_map.2 ⟨row, List.mem_filter.2 ⟨List.mem_map.2 ⟨_, hmem, rfl⟩, hrow⟩, hsession⟩

/-! ### Clearing sessions -/

/-- **Some sessions are cleared**: they have neither a row nor a cursor any more, and all others are
as before. -/
structure Clears (c c' : Cache) (gone : String → Bool) : Prop where
  entry : ∀ id, c'.entry id = if gone id then .ok none else c.entry id
  cursor : ∀ id, c'.server.cursor? id = if gone id then none else c.server.cursor? id

/-- Nothing is cleared. -/
theorem Clears.refl {gone : String → Bool} (h : ∀ id, gone id = false) : c.Clears c gone :=
  ⟨fun id => by rw [h id]; rfl, fun id => by rw [h id]; rfl⟩

/-- Sessions are cleared one after the other. -/
theorem Clears.trans {c'' : Cache} {gone gone' : String → Bool} (h : c.Clears c' gone)
    (h' : c'.Clears c'' gone') : c.Clears c'' fun id => gone id || gone' id := by
  refine ⟨fun id => ?_, fun id => ?_⟩
  · rw [h'.entry, h.entry]
    cases gone id <;> cases gone' id <;> rfl
  · rw [h'.cursor, h.cursor]
    cases gone id <;> cases gone' id <;> rfl

theorem Clears.of_eq {gone gone' : String → Bool} (h : c.Clears c' gone)
    (heq : ∀ id, gone' id = gone id) : c.Clears c' gone' := by
  obtain rfl : gone' = gone := funext heq
  exact h

theorem Clears.entry_of_not {gone : String → Bool} (h : c.Clears c' gone) (hid : gone id = false) :
    c'.entry id = c.entry id := by
  rw [h.entry, hid]
  rfl

theorem Clears.cursor_of_not {gone : String → Bool} (h : c.Clears c' gone) (hid : gone id = false) :
    c'.server.cursor? id = c.server.cursor? id := by
  rw [h.cursor, hid]
  rfl

/-! ### The parts of a sweep -/

/-- **Closing a session** clears it. -/
theorem Kept.close (hc : c.Kept P) {b : Bool} (h : close id c = (.ok b, c')) :
    c.Clears c' (id == ·) := by
  have hcursor := c.server.cursor?_closeSession id
  simp only [Cache.close, Action.bind_apply, Action.modify_apply, Action.stepWith_apply,
    removeRow] at h
  cases hremove : c.store.remove id with
  | error e =>
    rw [hremove] at h
    cases h
  | ok r =>
    rw [hremove] at h
    obtain ⟨-, rfl⟩ := Prod.mk.inj h
    obtain ⟨-, hentries⟩ := hc.store.remove hremove
    refine ⟨fun k => (hentries k).trans ?_, fun k => (hcursor k).trans ?_⟩
    · simp only [beq_iff_eq, Cache.entry]
    · simp only [beq_iff_eq]

/-- A session is cleared if it is idle. -/
theorem Kept.sweepSession (hc : c.Kept P) {b : Bool}
    (h : sweepSession cutoff id c = (.ok b, c')) :
    c.Clears c' fun k => id == k && c.isIdle cutoff k := by
  simp only [Cache.sweepSession, Action.bind_apply, Action.look_apply] at h
  cases hentry : c.entry id with
  | error e =>
    rw [hentry] at h
    cases h
  | ok row? =>
    rw [hentry] at h
    have hidle := isIdle_of_entry hentry cutoff
    have hkept : c.isIdle cutoff id = false → ∀ k, (id == k && c.isIdle cutoff k) = false := by
      intro hnot k
      by_cases hk : id = k
      · rw [← hk, hnot, Bool.and_false]
      · rw [beq_false_of_ne hk, Bool.false_and]
    cases row? with
    | none =>
      obtain ⟨-, rfl⟩ := Prod.mk.inj h
      exact .refl (hkept hidle)
    | some row =>
      dsimp only at h
      cases hrow : row.idleSince cutoff with
      | false =>
        rw [hrow, if_neg (by decide)] at h
        obtain ⟨-, rfl⟩ := Prod.mk.inj h
        exact .refl (hkept (hidle.trans hrow))
      | true =>
        rw [hrow, if_pos rfl] at h
        refine (hc.close h).of_eq fun k => ?_
        by_cases hk : id = k
        · rw [← hk, hidle.trans hrow, Bool.and_true]
        · rw [beq_false_of_ne hk, Bool.false_and]

/-- **Of some sessions** the idle ones are cleared. -/
theorem Kept.sweepSessions (hc : c.Kept P) {sessions : List String} {n : Nat}
    (h : sweepSessions cutoff sessions c = (.ok n, c')) :
    c.Clears c' fun k => sessions.contains k && c.isIdle cutoff k := by
  induction sessions generalizing c n with
  | nil =>
    obtain ⟨-, rfl⟩ := Prod.mk.inj h
    exact .refl fun _ => rfl
  | cons id rest ih =>
    have hkept := (sweepSession_trimming (P := P) cutoff id c hc).kept
    simp only [Cache.sweepSessions, Action.bind_apply] at h
    cases hfirst : Cache.sweepSession cutoff id c with
    | mk r d =>
      rw [hfirst] at h hkept
      cases r with
      | error e => cases h
      | ok swept =>
        dsimp only at h hkept
        cases hrest : Cache.sweepSessions cutoff rest d with
        | mk r' d' =>
          rw [hrest] at h
          cases r' with
          | error e => cases h
          | ok count =>
            obtain ⟨-, rfl⟩ := Prod.mk.inj h
            have hcleared := hc.sweepSession hfirst
            refine (hcleared.trans (ih hkept hrest)).of_eq fun k => ?_
            -- what was cleared first is not idle any more
            have hidle : d.isIdle cutoff k = (!(id == k) && c.isIdle cutoff k) := by
              by_cases hk : (id == k && c.isIdle cutoff k) = true
              · have hentry := hcleared.entry k
                rw [if_pos hk] at hentry
                rw [isIdle_of_entry hentry]
                obtain ⟨hsame, -⟩ := Bool.and_eq_true_iff.1 hk
                rw [hsame]
                rfl
              · rw [isIdle_congr (hcleared.entry_of_not (Bool.eq_false_iff.2 hk))]
                revert hk
                cases id == k <;> cases c.isIdle cutoff k <;> simp
            rw [hidle, List.contains_cons, BEq.comm]
            cases id == k <;> cases rest.contains k <;> cases c.isIdle cutoff k <;> rfl

/-- **The sweep clears the sessions that are idle**, and no others. -/
theorem Kept.clearAll (hc : c.Kept P) {cutoff? : Option Instant} {n : Nat}
    (h : clearAll cutoff? c = (.ok n, c')) : c.Clears c' (c.isIdle (cutoff?.getD c.now)) := by
  simp only [Cache.clearAll, Action.bind_apply, Action.get_apply, Action.look_apply] at h
  cases hexpired : c.store.expired (cutoff?.getD c.now) with
  | error e =>
    rw [hexpired] at h
    cases h
  | ok sessions =>
    rw [hexpired] at h
    refine (hc.sweepSessions h).of_eq fun k => ?_
    cases hidle : c.isIdle (cutoff?.getD c.now) k with
    | false => rw [Bool.and_false]
    | true => rw [List.contains_iff_mem.2 (hc.mem_expired hexpired hidle), Bool.and_true]

/-- After a sweep no session is idle. -/
theorem Clears.isIdle_eq_false (h : c.Clears c' (c.isIdle cutoff)) (id : String) :
    c'.isIdle cutoff id = false := by
  cases hidle : c.isIdle cutoff id with
  | false => rw [isIdle_congr (h.entry_of_not hidle), hidle]
  | true =>
    have hentry := h.entry id
    rw [if_pos hidle] at hentry
    rw [isIdle_of_entry hentry]
    rfl

/-! ### Sweeps that succeed -/

/-- **A cache that can be swept**: it is kept up, and its store can be read and written. -/
structure Sweepable (P : Row → Prop) (c : Cache) : Prop where
  kept : c.Kept P
  usable : c.store.Usable

theorem Sweepable.exists_entry (h : c.Sweepable P) (id : String) :
    ∃ row?, c.entry id = .ok row? := by
  obtain ⟨rows, hrows⟩ := h.usable.rows
  exact ⟨Table.find? id rows, by simp only [entry, Store.get?, hrows]; rfl⟩

theorem close_succeeds (id : String) : Action.Succeeds (Sweepable P) (close id) := by
  intro c h
  obtain ⟨rows, hrows⟩ := h.usable.rows
  obtain ⟨written, s, hwrite⟩ := h.usable.withRows
  obtain ⟨s', hs'⟩ := Store.exists_withRows hwrite (Table.erase id rows)
  have htrims := close_trimming (P := P) id c h.kept
  simp only [Cache.close, Action.modify_apply, Action.stepWith_apply, removeRow, Store.remove,
    hrows, bind, Except.bind] at htrims ⊢
  cases hhas : Table.has id rows with
  | false =>
    rw [hhas, if_neg (by decide)] at htrims
    exact ⟨false, _, rfl, htrims.kept, h.usable⟩
  | true =>
    rw [hhas, if_pos rfl, hs'] at htrims
    rw [if_pos rfl, hs']
    exact ⟨true, _, rfl, htrims.kept, h.kept.store.usable ((h.kept.store.holds rows hrows).erase id)
      hs'⟩

theorem sweepSession_succeeds (cutoff : Instant) (id : String) :
    Action.Succeeds (Sweepable P) (Cache.sweepSession cutoff id) := by
  refine .bind (.look fun c h => h.exists_entry id) fun row? => ?_
  cases row? with
  | none => exact .pure _
  | some row =>
    dsimp only
    split
    · exact close_succeeds id
    · exact .pure _

theorem sweepSessions_succeeds (cutoff : Instant) (sessions : List String) :
    Action.Succeeds (Sweepable P) (Cache.sweepSessions cutoff sessions) := by
  induction sessions with
  | nil => exact .pure _
  | cons id rest ih =>
    exact .bind (sweepSession_succeeds cutoff id) fun _ => .bind ih fun _ => .pure _

/-- **The sweep succeeds** where the store can be read and written. -/
theorem clearAll_succeeds (cutoff? : Option Instant) :
    Action.Succeeds (Sweepable P) (Cache.clearAll cutoff?) := by
  refine .bind .get fun _ => .bind (.look fun c h => ?_) fun _ => sweepSessions_succeeds _ _
  obtain ⟨rows, hrows⟩ := h.usable.rows
  exact ⟨_, by simp only [Store.expired, Store.list, hrows]; rfl⟩

end FederatedSearch.Cache
