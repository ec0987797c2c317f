import FederatedSearch.Proofs.Action
import FederatedSearch.Proofs.Session.Slot

/-!
# Sweeping and opening sessions

Whatever is done to a cache but for executing a query leaves each session as it was or without
results. This is what it means that a cache settles; it holds of closing and sweeping sessions, and
of opening one.

* `FederatedSearch.Cache.Settles`: every slot is as before or blank.
* `FederatedSearch.Cache.Orderly.close`, `FederatedSearch.Cache.Orderly.open`: closing and opening a
  session each write one slot.
* `FederatedSearch.Cache.clearAll_settling`: the sweep.
-/

namespace FederatedSearch.Cache

open Calendar

/-! ### Settling -/

/-- **A cache settles**: what answers depend on stays, and each session is as before or without
results. -/
structure Settles (c c' : Cache) : Prop where
  orderly : c'.Orderly
  setting : c'.setting = c.setting
  slots : ∀ id, c'.slot id = c.slot id ∨ (c'.slot id).Blank

theorem Settles.refl {c : Cache} (hc : c.Orderly) : c.Settles c := ⟨hc, rfl, fun _ => .inl rfl⟩

theorem Settles.trans {a b c : Cache} (h : a.Settles b) (h' : b.Settles c) : a.Settles c := by
  refine ⟨h'.orderly, h'.setting.trans h.setting, fun id => ?_⟩
  rcases h'.slots id with hbc | hblank
  · rw [hbc]
    exact h.slots id
  · exact .inr hblank

/-- Writing a blank slot settles. -/
theorem Writes.settles {c c' : Cache} {id : String} {s : Slot} (h : c.Writes c' id s)
    (horderly : c'.Orderly) (hblank : s.Blank) : c.Settles c' := by
  refine ⟨horderly, h.setting, fun k => ?_⟩
  by_cases hk : k = id
  · subst hk
    rw [h.slot_same]
    exact .inr hblank
  · exact .inl (h.slot_other hk)

/-- The cache after an action on an orderly one. -/
abbrev Settled (c c' : Cache) : Prop := c.Orderly → c.Settles c'

theorem settled_refl (c : Cache) : c.Settled c := Settles.refl

theorem settled_trans (a b c : Cache) (h : a.Settled b) (h' : b.Settled c) : a.Settled c :=
  fun ha => (h ha).trans (h' (h ha).orderly)

/-! ### Closing sessions -/

variable {c : Cache}

/-- **Closing a session** leaves nothing of it. -/
theorem Orderly.close (hc : c.Orderly) (id : String) :
    ∃ b c', close id c = (.ok b, c') ∧ c.Writes c' id .vacant := by
  have hclosed :
      c.Writes { c with server := c.server.closeSession id } id ⟨(c.slot id).row, none⟩ := by
    have hcursor := c.server.cursor?_closeSession id
    exact ⟨rfl, hc.inMemory, Function.eq_update_iff.2
      ⟨Slot.ext rfl ((hcursor id).trans (if_pos rfl)),
        fun k hk => Slot.ext rfl ((hcursor k).trans (if_neg (Ne.symm hk)))⟩, Nat.le_refl _⟩
  obtain ⟨b, c', hremove, hremoved⟩ := hclosed.inMemory.removeRow id
  rw [hclosed.slot_same] at hremoved
  refine ⟨b, c', ?_, hclosed.trans hremoved⟩
  simp only [Cache.close, Action.bind_apply, Action.modify_apply, Action.stepWith_apply, hremove]

theorem close_settling (id : String) : Action.Along Settled (close id) := by
  intro c hc
  obtain ⟨b, c', hclose, hwrites⟩ := hc.close id
  rw [hclose]
  exact hwrites.settles (hwrites.orderly hc (Slot.vacant_sound id) (nomatch ·)) .vacant

theorem sweepSession_settling (cutoff : Instant) (id : String) :
    Action.Along Settled (sweepSession cutoff id) := by
  refine .bind settled_trans (.look settled_refl _) fun row? => ?_
  cases row? with
  | none => exact .pure settled_refl _
  | some row =>
    dsimp only
    split
    · exact close_settling id
    · exact .pure settled_refl _

theorem sweepSessions_settling (cutoff : Instant) (ids : List String) :
    Action.Along Settled (sweepSessions cutoff ids) := by
  induction ids with
  | nil => exact .pure settled_refl _
  | cons id rest ih =>
    exact .bind settled_trans (sweepSession_settling cutoff id) fun _ =>
      .bind settled_trans ih fun _ => .pure settled_refl _

/-- **The sweep settles a cache.** -/
theorem clearAll_settling (cutoff? : Option Instant) :
    Action.Along Settled (clearAll cutoff?) :=
  .bind settled_trans (.get settled_refl) fun _ =>
    .bind settled_trans (.look settled_refl _) fun _ => sweepSessions_settling _ _

/-! ### Opening sessions -/

/-- There is a row already for a session that is open. -/
theorem Orderly.register_of_open (hc : c.Orderly) {id : String}
    (hopen : (c.slot id).cursor.isSome) : c.register id = .ok c := by
  obtain ⟨cursor, hcursor⟩ := Option.isSome_iff_exists.1 hopen
  obtain ⟨row, hrow⟩ := (hc.sound id).exists_row hcursor
  simp only [register, hc.inMemory.entry_eq, hrow]
  rfl

/-- **A session that was not there is registered** with a row for no query. -/
theorem InMemory.register_of_none (h : c.InMemory) {id : String} (hnone : (c.slot id).row = none) :
    ∃ c', c.register id = .ok c' ∧
      c.Writes c' id ⟨some (.created id c.now), (c.slot id).cursor⟩ := by
  obtain ⟨c', hput, hwrites⟩ := h.putRow (.created id c.now)
  refine ⟨c', ?_, hwrites⟩
  rw [← hput]
  simp only [register, h.entry_eq, hnone]
  rfl

/-- Creating a session on the server gives a cursor to the next id. -/
theorem InMemory.createSession (h : c.InMemory) {user : Nat} {id : String} {server : Server}
    (hcreate : c.server.createSession user = .ok (id, server)) :
    id = Server.sessionId c.server.nextSession ∧ server.nextSession = c.server.nextSession + 1 ∧
      c.Writes { c with server } id ⟨(c.slot id).row, some (.empty user)⟩ := by
  obtain ⟨hid, hnext, hcondition, -, hcursor⟩ := Server.createSession_ok hcreate
  refine ⟨hid, hnext, ?_, h, Function.eq_update_iff.2 ⟨?_, fun k hk => ?_⟩, ?_⟩
  · simp only [setting, hcondition]
  · exact Slot.ext rfl ((hcursor id).trans (if_pos rfl))
  · exact Slot.ext rfl ((hcursor k).trans (if_neg (Ne.symm hk)))
  · exact hnext ▸ Nat.le_succ _

/-- **Opening a session** writes the slot of the next id. -/
theorem Orderly.open (hc : c.Orderly) {user : Nat} {id : String} {server : Server}
    (hcreate : c.server.createSession user = .ok (id, server)) :
    ∃ c', ({ c with server } : Cache).register id = .ok c' ∧
      c.Writes c' id (.opened id user c.now) ∧ c'.Orderly := by
  obtain ⟨hid, hnext, hcreated⟩ := hc.inMemory.createSession hcreate
  have hrow : (({ c with server } : Cache).slot id).row = none := by
    rw [hcreated.slot_same, hid, hc.slot_next]
    rfl
  obtain ⟨c', hregister, hregistered⟩ := hcreated.inMemory.register_of_none hrow
  rw [hcreated.slot_same] at hregistered
  have hwrites : c.Writes c' id (.opened id user c.now) := hcreated.trans hregistered
  refine ⟨c', hregister, hwrites, hwrites.orderly hc (Slot.opened_sound id user c.now) fun _ => ?_⟩
  exact ⟨c.server.nextSession, Nat.lt_of_lt_of_le (hnext ▸ Nat.lt_succ_self _)
    hregistered.nextSession, hid⟩

end FederatedSearch.Cache
