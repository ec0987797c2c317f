import FederatedSearch.Proofs.Session.Identifier
import FederatedSearch.Session.Cache
import Mathlib.Logic.Function.Basic

/-!
# Sessions as slots

What is kept for a session lies in two places: its row in the store of the cache, and its cursor on
the server. Here the two are looked at together, as the slot of the session, and every change of a
cache whose rows are in memory is one of a single slot.

* `FederatedSearch.Cache.slot`: the row and the cursor of a session.
* `FederatedSearch.Cache.Orderly`: each session has both or neither, under its own id, and the ids
  that are to come are free.
* `FederatedSearch.Cache.Writes`: a change of one slot, which keeps a cache orderly
  (`FederatedSearch.Cache.Writes.orderly`).
-/

namespace FederatedSearch

open Calendar

/-! ### Slots -/

/-- **What is kept for a session**: its row and its cursor. -/
@[ext] structure Slot where
  row : Option Row
  cursor : Option Cursor

namespace Slot

/-- The slot of a session that is not open. -/
def vacant : Slot := ⟨none, none⟩

/-- The slot of a session that a user opened just now. -/
def opened (id : String) (user : Nat) (now : Instant) : Slot :=
  ⟨some (.created id now), some (.empty user)⟩

/-- **The slot of a session without results**: it is not open, or its row stands for no query. -/
inductive Blank : Slot → Prop
  | vacant : Blank vacant
  | unqueried {row : Row} {cursor : Cursor} (query : row.query = "") (total : row.total = 0)
      (hits : cursor.hits = []) : Blank ⟨some row, some cursor⟩

theorem opened_blank (id : String) (user : Nat) (now : Instant) : (opened id user now).Blank :=
  .unqueried rfl rfl rfl

/-- **A sound slot**: a row and a cursor or neither, and the row is of this session. -/
structure Sound (s : Slot) (id : String) : Prop where
  keyed : ∀ row, s.row = some row → row.session = id
  paired : s.row.isSome = s.cursor.isSome

theorem vacant_sound (id : String) : vacant.Sound id :=
  ⟨fun _ h => (nomatch h), rfl⟩

theorem opened_sound (id : String) (user : Nat) (now : Instant) : (opened id user now).Sound id :=
  ⟨fun _ h => by cases h; rfl, rfl⟩

/-- A sound slot with a cursor has a row. -/
theorem Sound.exists_row {s : Slot} {id : String} (h : s.Sound id) {cursor : Cursor}
    (hc : s.cursor = some cursor) : ∃ row, s.row = some row := by
  rw [← Option.isSome_iff_exists, h.paired, hc]
  rfl

end Slot

/-! ### What answers depend on -/

/-- **What the answers of a server depend on** besides its sessions. -/
structure Condition where
  indexes : List BackendIndex
  down : List Nat
  reachable : Bool
  silent : List Nat

/-- The condition that a server is in. -/
def Server.condition (s : Server) : Condition := ⟨s.indexes, s.down, s.reachable, s.silent⟩

namespace Server

/-- A session that is opened has the next id and an empty cursor. -/
theorem createSession_ok {s s' : Server} {user : Nat} {id : String}
    (h : s.createSession user = .ok (id, s')) :
    id = sessionId s.nextSession ∧ s'.nextSession = s.nextSession + 1 ∧
      s'.condition = s.condition ∧ s'.executions = s.executions ∧
        ∀ k, s'.cursor? k = if id = k then some (.empty user) else s.cursor? k := by
  unfold createSession at h
  split at h
  · obtain ⟨rfl, rfl⟩ := Prod.mk.inj (Except.ok.inj h)
    exact ⟨rfl, rfl, rfl, rfl,
      fun k => Table.find?_insert (fun _ _ => Text.cmpText_eq_iff) k _ _ s.sessions⟩
  · cases h

/-- A session that is closed has no cursor any more. -/
theorem cursor?_closeSession (s : Server) (id k : String) :
    (s.closeSession id).cursor? k = if id = k then none else s.cursor? k :=
  Table.find?_erase k id s.sessions

end Server

/-- **What a search does not change** about a cache. -/
structure Setting where
  condition : Condition
  now : Instant
  staleAfter : Span

namespace Cache

/-- The setting of a cache. -/
def setting (c : Cache) : Setting := ⟨c.server.condition, c.now, c.staleAfter⟩

theorem condition_eq {c c' : Cache} (h : c'.setting = c.setting) :
    c'.server.condition = c.server.condition := congrArg Setting.condition h

theorem now_eq {c c' : Cache} (h : c'.setting = c.setting) : c'.now = c.now :=
  congrArg Setting.now h

/-! ### Rows in memory -/

/-- The rows of the cache are in memory. -/
def InMemory (c : Cache) : Prop := ∃ rows, c.store = .memory rows

/-- The row of a session in memory. -/
def row? (c : Cache) (id : String) : Option Row :=
  match c.store with
  | .memory rows => Table.find? id rows
  | .file _ => none

/-- **The slot of a session.** -/
def slot (c : Cache) (id : String) : Slot := ⟨c.row? id, c.server.cursor? id⟩

/-- Rows in memory can always be read. -/
theorem InMemory.entry_eq {c : Cache} (h : c.InMemory) (id : String) :
    c.entry id = .ok (c.slot id).row := by
  obtain ⟨rows, hrows⟩ := h
  simp only [entry, slot, row?, Store.get?, hrows, Store.rows]
  rfl

/-! ### Changing one slot -/

/-- **A change of one slot.** Everything else that answers depend on stays as it is. -/
structure Writes (c c' : Cache) (id : String) (slot : Slot) : Prop where
  setting : c'.setting = c.setting
  inMemory : c'.InMemory
  slots : c'.slot = Function.update c.slot id slot
  nextSession : c.server.nextSession ≤ c'.server.nextSession

namespace Writes

variable {c c' c'' : Cache} {id : String} {s s' : Slot}

/-- Nothing changes when a slot is written as it is. -/
theorem refl (h : c.InMemory) (id : String) : c.Writes c id (c.slot id) :=
  ⟨rfl, h, (Function.update_eq_self id c.slot).symm, Nat.le_refl _⟩

/-- Of two changes of one slot the second counts. -/
theorem trans (h : c.Writes c' id s) (h' : c'.Writes c'' id s') : c.Writes c'' id s' := by
  refine ⟨h'.setting.trans h.setting, h'.inMemory, ?_,
    Nat.le_trans h.nextSession h'.nextSession⟩
  rw [h'.slots, h.slots, Function.update_idem]

theorem slot_same (h : c.Writes c' id s) : c'.slot id = s := by
  rw [h.slots, Function.update_self]

theorem slot_other (h : c.Writes c' id s) {k : String} (hk : k ≠ id) : c'.slot k = c.slot k := by
  rw [h.slots, Function.update_of_ne hk]

end Writes

section Memory

variable {c : Cache}

/-- **Putting a row** changes the slot of its session. -/
theorem InMemory.putRow (h : c.InMemory) (row : Row) :
    ∃ c', c.putRow row = .ok c' ∧
      c.Writes c' row.session ⟨some row, (c.slot row.session).cursor⟩ := by
  obtain ⟨rows, hrows⟩ := h
  refine ⟨{ c with store := .memory (Table.insert Text.cmpText row.session row rows) }, ?_,
    rfl, ⟨_, rfl⟩, Function.eq_update_iff.2 ⟨?_, fun k hk => ?_⟩, Nat.le_refl _⟩
  · simp only [Cache.putRow, Store.upsert, hrows, Store.rows]
    rfl
  · simp [slot, row?, Table.find?_insert fun a b => Text.cmpText_eq_iff]
  · simp [slot, row?, hrows, Table.find?_insert fun a b => Text.cmpText_eq_iff, Ne.symm hk]

/-- **Removing the row** of a session changes the slot of the session. -/
theorem InMemory.removeRow (h : c.InMemory) (id : String) :
    ∃ b c', c.removeRow id = .ok (b, c') ∧ c.Writes c' id ⟨none, (c.slot id).cursor⟩ := by
  have hmem := h
  obtain ⟨rows, hrows⟩ := h
  cases hhas : Table.has id rows with
  | true =>
    refine ⟨true, { c with store := .memory (Table.erase id rows) }, ?_, rfl, ⟨_, rfl⟩,
      Function.eq_update_iff.2 ⟨?_, fun k hk => ?_⟩, Nat.le_refl _⟩
    · simp only [Cache.removeRow, Store.remove, hrows, Store.rows, bind, Except.bind, hhas]
      rfl
    · simp [slot, row?, Table.find?_erase]
    · simp [slot, row?, hrows, Table.find?_erase, Ne.symm hk]
  | false =>
    refine ⟨false, c, ?_, ?_⟩
    · simp only [Cache.removeRow, Store.remove, hrows, Store.rows, bind, Except.bind, hhas]
      simp [← hrows, pure, Except.pure]
    · -- there is no row to remove, so the slot is as it is to be already
      have hslot : c.slot id = ⟨none, (c.slot id).cursor⟩ := by
        have hnone : Table.find? id rows = none := by simpa [Table.has] using hhas
        simp [slot, row?, hrows, hnone]
      rw [← hslot]
      exact Writes.refl hmem id

end Memory

/-! ### Orderly caches -/

/-- **An orderly cache**: rows in memory, sound slots, and free ids for the sessions to come. -/
structure Orderly (c : Cache) : Prop where
  inMemory : c.InMemory
  sound : ∀ id, (c.slot id).Sound id
  issued : ∀ id, (c.slot id).cursor.isSome → ∃ n < c.server.nextSession, id = Server.sessionId n

section Orderly

variable {c c' : Cache} {id : String} {s : Slot}

/-- **A cache stays orderly** when a sound slot is written for a session whose id is given away. -/
theorem Writes.orderly (h : c.Writes c' id s) (hc : c.Orderly) (hs : s.Sound id)
    (hid : s.cursor.isSome → ∃ n < c'.server.nextSession, id = Server.sessionId n) :
    c'.Orderly := by
  refine ⟨h.inMemory, fun k => ?_, fun k hk => ?_⟩
  · by_cases hkid : k = id
    · subst hkid
      rw [h.slot_same]
      exact hs
    · rw [h.slot_other hkid]
      exact hc.sound k
  · by_cases hkid : k = id
    · subst hkid
      rw [h.slot_same] at hk
      exact hid hk
    · rw [h.slot_other hkid] at hk
      obtain ⟨n, hn, heq⟩ := hc.issued k hk
      exact ⟨n, Nat.lt_of_lt_of_le hn h.nextSession, heq⟩

/-- A slot of an open session can be written anew. -/
theorem Writes.orderly_of_open (h : c.Writes c' id s) (hc : c.Orderly) (hs : s.Sound id)
    (hopen : (c.slot id).cursor.isSome) : c'.Orderly :=
  h.orderly hc hs fun _ =>
    let ⟨n, hn, heq⟩ := hc.issued id hopen
    ⟨n, Nat.lt_of_lt_of_le hn h.nextSession, heq⟩

/-- **The id of the next session is free.** -/
theorem Orderly.slot_next (hc : c.Orderly) :
    c.slot (Server.sessionId c.server.nextSession) = .vacant := by
  have hcursor : (c.slot (Server.sessionId c.server.nextSession)).cursor = none := by
    cases h : (c.slot (Server.sessionId c.server.nextSession)).cursor with
    | none => rfl
    | some cursor =>
      -- an open session has an id that was given away before
      obtain ⟨n, hn, heq⟩ := hc.issued _ (by rw [h]; rfl)
      exact absurd (Server.sessionId_injective heq) (Nat.ne_of_gt hn)
  have hrow := (hc.sound (Server.sessionId c.server.nextSession)).paired
  rw [hcursor, Option.isSome_none, Option.isSome_eq_false_iff, Option.isNone_iff_eq_none] at hrow
  exact Slot.ext hrow hcursor

end Orderly

end Cache

end FederatedSearch
