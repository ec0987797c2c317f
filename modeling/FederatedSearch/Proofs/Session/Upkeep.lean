import FederatedSearch.Proofs.Action
import FederatedSearch.Proofs.Session.Slot
import FederatedSearch.Proofs.Session.Storing

/-!
# The upkeep of a cache

What is known of a cache whatever store its rows are in, and whatever rows were there when it was
started: as long as the store reads back what it is given, closing and sweeping sessions removes
rows and cursors and does nothing else, and opening a session adds one row at most, which is of no
query.

* `FederatedSearch.Cache.Kept`: the store is faithful, and the ids of sessions to come are free.
* `FederatedSearch.Cache.Trims`: rows and cursors are as before or gone, and nothing is executed.
* `FederatedSearch.Cache.Rests`: rows are as before, or of no query, or gone.
* `FederatedSearch.Cache.clearAll_trimming`: the sweep.
* `FederatedSearch.Cache.Kept.register`, `FederatedSearch.Cache.register_resting`: the row of a
  session that is registered.
-/

namespace FederatedSearch

open Calendar

/-- **The rows of no query that are written at a time** are of the kind. -/
structure Row.Admits (P : Row → Prop) (now : Instant) : Prop where
  created : ∀ id, P (.created id now)
  emptied : ∀ row, P row → P (row.emptied now)

/-! ### Stores that can be read and written -/

namespace Store

variable {s s' : Store} {rows : Table String Row}

/-- A store that can be read and written. -/
structure Usable (s : Store) : Prop where
  rows : ∃ rows, s.rows = .ok rows
  withRows : ∃ rows s', s.withRows rows = .ok s'

/-- Whether a table can be written does not depend on the table. -/
theorem exists_withRows (h : s.withRows rows = .ok s') (rows' : Table String Row) :
    ∃ t, s.withRows rows' = .ok t := by
  cases s with
  | memory old => exact ⟨_, rfl⟩
  | file f =>
    cases f with
    | missing | text contents => exact ⟨_, rfl⟩
    | unmakeable | notAFile => cases h

/-- A store that was written to is in memory, or a text in a file. -/
theorem exists_withRows_written (h : s.withRows rows = .ok s') (rows' : Table String Row) :
    ∃ t, s'.withRows rows' = .ok t := by
  cases s with
  | memory old =>
    obtain rfl := Except.ok.inj h
    exact ⟨_, rfl⟩
  | file f =>
    cases f with
    | missing | text contents =>
      obtain rfl := Except.ok.inj h
      exact ⟨_, rfl⟩
    | unmakeable | notAFile => cases h

/-- **A table that is written to a faithful store** leaves one that can be read and written. -/
theorem Faithful.usable {P : Row → Prop} (h : s.Faithful P) (hrows : Row.TableOf P rows)
    (hwrite : s.withRows rows = .ok s') : s'.Usable :=
  ⟨⟨rows, (h.withRows hrows hwrite).2⟩, ⟨rows, exists_withRows_written hwrite rows⟩⟩

/-- **A store with a row** can be read and written: a file that cannot be made has no rows. -/
theorem usable_of_get? {id : String} {row : Row} (h : s.get? id = .ok (some row)) : s.Usable := by
  cases s with
  | memory old => exact ⟨⟨old, rfl⟩, ⟨old, _, rfl⟩⟩
  | file f =>
    cases f with
    | missing | unmakeable | notAFile => cases h
    | text contents =>
      refine ⟨?_, ⟨[], _, rfl⟩⟩
      cases hrows : (file (.text contents)).rows with
      | ok rows => exact ⟨rows, rfl⟩
      | error e =>
        rw [get?, hrows] at h
        cases h

end Store

namespace Cache

variable {P : Row → Prop} {c c' : Cache} {session : String}

/-- **A cache that is kept up**: its store is faithful, and the ids to come are free. -/
structure Kept (P : Row → Prop) (c : Cache) : Prop where
  store : c.store.Faithful P
  issued : ∀ id, (c.server.cursor? id).isSome →
    ∃ n < c.server.nextSession, id = Server.sessionId n

/-- An id that is to come is not one of an open session. -/
theorem Kept.ne_of_isSome (hc : c.Kept P) (hopen : (c.server.cursor? session).isSome) {n : Nat}
    (hn : c.server.nextSession ≤ n) : Server.sessionId n ≠ session := by
  obtain ⟨n', hn', rfl⟩ := hc.issued session hopen
  exact fun heq => Nat.ne_of_gt (Nat.lt_of_lt_of_le hn' hn) (Server.sessionId_injective heq)

/-- The ids to come are free. -/
theorem Kept.cursor?_eq_none (hc : c.Kept P) {n : Nat} (hn : c.server.nextSession ≤ n) :
    c.server.cursor? (Server.sessionId n) = none := by
  cases hcursor : c.server.cursor? (Server.sessionId n) with
  | none => rfl
  | some cursor => exact absurd rfl (hc.ne_of_isSome (by rw [hcursor]; rfl) hn)

/-- The id of the next session is free. -/
theorem Kept.cursor?_next (hc : c.Kept P) :
    c.server.cursor? (Server.sessionId c.server.nextSession) = none :=
  hc.cursor?_eq_none (Nat.le_refl _)

/-! ### Writing rows -/

/-- Putting a row changes the store and nothing else. -/
theorem putRow_ok {row : Row} (h : c.putRow row = .ok c') :
    ∃ store, c.store.upsert row = .ok store ∧ c' = { c with store } := by
  unfold putRow at h
  cases hput : c.store.upsert row with
  | error e =>
    rw [hput] at h
    cases h
  | ok store =>
    rw [hput] at h
    exact ⟨store, rfl, (Except.ok.inj h).symm⟩

/-- **Putting a row** into a cache that is kept up. -/
theorem Kept.putRow (hc : c.Kept P) {row : Row} (hrow : P row) (h : c.putRow row = .ok c') :
    c'.Kept P ∧ ∀ id, c'.entry id = if row.session = id then .ok (some row) else c.entry id := by
  obtain ⟨store, hput, rfl⟩ := putRow_ok h
  obtain ⟨hstore, hentries⟩ := hc.store.upsert hrow hput
  exact ⟨⟨hstore, hc.issued⟩, hentries⟩

theorem usable_of_putRow {row : Row} (h : c.putRow row = .ok c') : c.store.Usable := by
  obtain ⟨store, hput, -⟩ := putRow_ok h
  unfold Store.upsert at hput
  cases hrows : c.store.rows with
  | error e =>
    rw [hrows] at hput
    cases hput
  | ok rows =>
    rw [hrows] at hput
    exact ⟨⟨rows, hrows⟩, ⟨_, store, hput⟩⟩

theorem exists_putRow (h : c.store.Usable) (row : Row) : ∃ c', c.putRow row = .ok c' := by
  obtain ⟨rows, hrows⟩ := h.rows
  obtain ⟨written, s, hwrite⟩ := h.withRows
  obtain ⟨s', hs'⟩ := Store.exists_withRows hwrite (Table.insert Text.cmpText row.session row rows)
  refine ⟨{ c with store := s' }, ?_⟩
  simp only [putRow, Store.upsert, hrows, bind, Except.bind, hs']
  rfl

theorem exists_entryOrCreated (h : c.store.Usable) (session : String) :
    ∃ row, c.entryOrCreated session = .ok row := by
  obtain ⟨rows, hrows⟩ := h.rows
  exact ⟨_, by simp only [entryOrCreated, entry, Store.get?, hrows, bind, Except.bind]; rfl⟩

/-- The row of a session is one of its id. -/
theorem Kept.entryOrCreated (hc : c.Kept P) (hadmits : Row.Admits P c.now) {row : Row}
    (h : c.entryOrCreated session = .ok row) : row.session = session ∧ P row := by
  unfold Cache.entryOrCreated at h
  cases hentry : c.entry session with
  | error e =>
    rw [hentry] at h
    cases h
  | ok row? =>
    rw [hentry] at h
    obtain rfl := Except.ok.inj h
    cases row? with
    | none => exact ⟨rfl, hadmits.created session⟩
    | some row => exact hc.store.get? hentry

theorem record_ok {query : String} {duration : Number.Binary64} {total : Nat} {row : Row}
    (h : c.record session query duration total = .ok (row, c')) :
    ∃ old, c.entryOrCreated session = .ok old ∧ row = old.executed query c.now duration total ∧
      c.putRow row = .ok c' := by
  unfold record at h
  cases hrow : c.entryOrCreated session with
  | error e =>
    rw [hrow] at h
    cases h
  | ok old =>
    rw [hrow] at h
    dsimp only [bind, Except.bind] at h
    cases hput : c.putRow (old.executed query c.now duration total) with
    | error e =>
      rw [hput] at h
      cases h
    | ok d =>
      rw [hput] at h
      obtain ⟨rfl, rfl⟩ := Prod.mk.inj (Except.ok.inj h)
      exact ⟨old, rfl, rfl, hput⟩

theorem invalidate_ok (h : c.invalidate session = .ok c') :
    ∃ old, c.entryOrCreated session = .ok old ∧ c.putRow (old.emptied c.now) = .ok c' := by
  unfold invalidate at h
  cases hrow : c.entryOrCreated session with
  | error e =>
    rw [hrow] at h
    cases h
  | ok old =>
    rw [hrow] at h
    exact ⟨old, rfl, h⟩

/-- **Writing the outcome of an execution** into the row of its session. -/
theorem Kept.record (hc : c.Kept P) (hadmits : Row.Admits P c.now) {query : String}
    {duration : Number.Binary64} {total : Nat} {row : Row}
    (hrow : P ⟨session, query, c.now, duration, total, c.now⟩)
    (h : c.record session query duration total = .ok (row, c')) :
    row = ⟨session, query, c.now, duration, total, c.now⟩ ∧ c'.Kept P ∧ c'.server = c.server ∧
      ∀ id, c'.entry id = if session = id then .ok (some row) else c.entry id := by
  obtain ⟨old, hold, hwrite, hput⟩ := record_ok h
  obtain ⟨rfl, -⟩ := hc.entryOrCreated hadmits hold
  subst hwrite
  obtain ⟨hkept, hentries⟩ := hc.putRow hrow hput
  obtain ⟨store, -, rfl⟩ := putRow_ok hput
  exact ⟨rfl, hkept, rfl, hentries⟩

/-- **Emptying the row** of a session. -/
theorem Kept.invalidate (hc : c.Kept P) (hadmits : Row.Admits P c.now)
    (h : c.invalidate session = .ok c') :
    c'.Kept P ∧ c'.server = c.server ∧ ∃ row, row.query = "" ∧ row.total = 0 ∧
      ∀ id, c'.entry id = if session = id then .ok (some row) else c.entry id := by
  obtain ⟨old, hold, hput⟩ := invalidate_ok h
  obtain ⟨rfl, hP⟩ := hc.entryOrCreated hadmits hold
  obtain ⟨hkept, hentries⟩ := hc.putRow (hadmits.emptied old hP) hput
  obtain ⟨store, -, rfl⟩ := putRow_ok hput
  exact ⟨hkept, rfl, old.emptied c.now, rfl, rfl, hentries⟩

/-- A session is registered when it has a row, or by a row of no query. -/
theorem register_ok (h : c.register session = .ok c') :
    (∃ row, c.entry session = .ok (some row) ∧ c' = c) ∨
      c.putRow (.created session c.now) = .ok c' := by
  unfold register at h
  cases hrow : c.entry session with
  | error e =>
    rw [hrow] at h
    cases h
  | ok row? =>
    rw [hrow] at h
    cases row? with
    | none => exact .inr h
    | some row => exact .inl ⟨row, rfl, (Except.ok.inj h).symm⟩

/-- **A session that was registered has a row**: the one that it had, or the one of no query. -/
theorem Kept.register (hc : c.Kept P) (hadmits : Row.Admits P c.now)
    (h : c.register session = .ok c') :
    c'.server = c.server ∧ (∃ row, c'.entry session = .ok (some row)) ∧
      ((∀ id, c'.entry id = c.entry id) ∨
        c'.entry session = .ok (some (.created session c.now))) := by
  rcases register_ok h with ⟨row, hrow, rfl⟩ | hput
  · exact ⟨rfl, ⟨row, hrow⟩, .inl fun _ => rfl⟩
  · obtain ⟨-, hentries⟩ := hc.putRow (hadmits.created session) hput
    obtain ⟨store, -, rfl⟩ := putRow_ok hput
    have hrow := (hentries session).trans (if_pos rfl)
    exact ⟨rfl, ⟨_, hrow⟩, .inr hrow⟩

/-! ### Trimming -/

/-- **A cache is trimmed**: rows and cursors are as before or gone, nothing is executed, and nothing
else changes that answers depend on. -/
structure Trims (P : Row → Prop) (c c' : Cache) : Prop where
  kept : c'.Kept P
  setting : c'.setting = c.setting
  executions : c'.server.executions = c.server.executions
  nextSession : c'.server.nextSession = c.server.nextSession
  rows : ∀ id, c'.entry id = c.entry id ∨ c'.entry id = .ok none
  cursors : ∀ id, c'.server.cursor? id = c.server.cursor? id ∨ c'.server.cursor? id = none

theorem Trims.refl (hc : c.Kept P) : c.Trims P c :=
  ⟨hc, rfl, rfl, rfl, fun _ => .inl rfl, fun _ => .inl rfl⟩

theorem Trims.trans {a b c : Cache} (h : a.Trims P b) (h' : b.Trims P c) : a.Trims P c := by
  refine ⟨h'.kept, h'.setting.trans h.setting, h'.executions.trans h.executions,
    h'.nextSession.trans h.nextSession, fun id => ?_, fun id => ?_⟩
  · rcases h'.rows id with hsame | hgone
    · rw [hsame]
      exact h.rows id
    · exact .inr hgone
  · rcases h'.cursors id with hsame | hgone
    · rw [hsame]
      exact h.cursors id
    · exact .inr hgone

/-- The cache after an action that trims one that is kept up. -/
abbrev Trimmed (P : Row → Prop) (c c' : Cache) : Prop := c.Kept P → c.Trims P c'

theorem trimmed_refl (c : Cache) : Trimmed P c c := Trims.refl

theorem trimmed_trans (a b c : Cache) (h : Trimmed P a b) (h' : Trimmed P b c) : Trimmed P a c :=
  fun ha => (h ha).trans (h' (h ha).kept)

/-- **Closing a session** trims the cache, also when the row cannot be removed. -/
theorem close_trimming (id : String) : Action.Along (Trimmed P) (close id) := by
  refine .bind trimmed_trans (.modify fun c hc => ?_) fun _ =>
    .stepWith trimmed_refl fun c b c' h hc => ?_
  · have hcursor := c.server.cursor?_closeSession id
    refine ⟨⟨hc.store, fun k hk => hc.issued k ?_⟩, rfl, rfl, rfl, fun _ => .inl rfl, fun k => ?_⟩
    · rw [hcursor] at hk
      split at hk
      · cases hk
      · exact hk
    · dsimp only
      rw [hcursor]
      split
      · exact .inr rfl
      · exact .inl rfl
  · unfold removeRow at h
    cases hremove : c.store.remove id with
    | error e =>
      rw [hremove] at h
      cases h
    | ok r =>
      rw [hremove] at h
      obtain ⟨-, rfl⟩ := Prod.mk.inj (Except.ok.inj h)
      obtain ⟨hstore, hentries⟩ := hc.store.remove hremove
      refine ⟨⟨hstore, hc.issued⟩, rfl, rfl, rfl, fun k => ?_, fun _ => .inl rfl⟩
      by_cases hk : id = k
      · exact .inr ((hentries k).trans (if_pos hk))
      · exact .inl ((hentries k).trans (if_neg hk))

theorem sweepSession_trimming (cutoff : Instant) (id : String) :
    Action.Along (Trimmed P) (sweepSession cutoff id) := by
  refine .bind trimmed_trans (.look trimmed_refl _) fun row? => ?_
  cases row? with
  | none => exact .pure trimmed_refl _
  | some row =>
    dsimp only
    split
    · exact close_trimming id
    · exact .pure trimmed_refl _

theorem sweepSessions_trimming (cutoff : Instant) (ids : List String) :
    Action.Along (Trimmed P) (sweepSessions cutoff ids) := by
  induction ids with
  | nil => exact .pure trimmed_refl _
  | cons id rest ih =>
    exact .bind trimmed_trans (sweepSession_trimming cutoff id) fun _ =>
      .bind trimmed_trans ih fun _ => .pure trimmed_refl _

/-- **The sweep trims the cache.** -/
theorem clearAll_trimming (cutoff? : Option Instant) :
    Action.Along (Trimmed P) (clearAll cutoff?) :=
  .bind trimmed_trans (.get trimmed_refl) fun _ =>
    .bind trimmed_trans (.look trimmed_refl _) fun _ => sweepSessions_trimming _ _

/-! ### Resting -/

/-- **A cache rests**: no row is of a query that it was not of before, and no cursor is filled. -/
structure Rests (P : Row → Prop) (c c' : Cache) : Prop where
  kept : c'.Kept P
  setting : c'.setting = c.setting
  rows : ∀ id row, c'.entry id = .ok (some row) →
    c.entry id = .ok (some row) ∨ row.query = ""
  cursors : ∀ id k, c'.server.cursor? id = some k →
    c.server.cursor? id = some k ∨ ∃ n, c.server.nextSession ≤ n ∧ id = Server.sessionId n
  nextSession : c.server.nextSession ≤ c'.server.nextSession

theorem Rests.refl (hc : c.Kept P) : c.Rests P c :=
  ⟨hc, rfl, fun _ _ => .inl, fun _ _ => .inl, Nat.le_refl _⟩

theorem Trims.rests (h : c.Trims P c') : c.Rests P c' := by
  refine ⟨h.kept, h.setting, fun id row hrow => .inl ?_, fun id k hk => .inl ?_,
    Nat.le_of_eq h.nextSession.symm⟩
  · rcases h.rows id with hsame | hgone
    · exact hsame.symm.trans hrow
    · rw [hgone] at hrow
      cases hrow
  · rcases h.cursors id with hsame | hgone
    · exact hsame.symm.trans hk
    · rw [hgone] at hk
      cases hk

/-- The cache after an action on one that is kept up, at a time when rows can be written. -/
abbrev Rested (P : Row → Prop) (c c' : Cache) : Prop :=
  c.Kept P → Row.Admits P c.now → c.Rests P c'

theorem rested_refl (c : Cache) : Rested P c c := fun hc _ => .refl hc

theorem rested_trans (a b c : Cache) (h : Rested P a b) (h' : Rested P b c) : Rested P a c := by
  intro ha hadmits
  have hb := h ha hadmits
  have hc := h' hb.kept (now_eq hb.setting ▸ hadmits)
  refine ⟨hc.kept, hc.setting.trans hb.setting, fun id row hrow => ?_, fun id k hk => ?_,
    Nat.le_trans hb.nextSession hc.nextSession⟩
  · rcases hc.rows id row hrow with hbefore | hempty
    · exact hb.rows id row hbefore
    · exact .inr hempty
  · rcases hc.cursors id k hk with hbefore | ⟨n, hn, hid⟩
    · exact hb.cursors id k hbefore
    · exact .inr ⟨n, Nat.le_trans hb.nextSession hn, hid⟩

theorem resting_of_trimming {α : Type} {x : Action Cache α} (hx : Action.Along (Trimmed P) x) :
    Action.Along (Rested P) x :=
  hx.mono fun _ _ h hc _ => (h hc).rests

/-- **Registering a session** adds at most a row of no query. -/
theorem register_resting (session : String) :
    Action.Along (Rested P) (Action.step (·.register session)) := by
  refine .step rested_refl fun c c' h hc hadmits => ?_
  rcases register_ok h with ⟨row, -, rfl⟩ | hput
  · exact .refl hc
  · obtain ⟨hkept, hentries⟩ := hc.putRow (hadmits.created session) hput
    obtain ⟨store, -, rfl⟩ := putRow_ok hput
    refine ⟨hkept, rfl, fun id row hrow => ?_, fun _ _ => .inl, Nat.le_refl _⟩
    rw [hentries] at hrow
    split at hrow
    · cases hrow
      exact .inr rfl
    · exact .inl hrow

end Cache

end FederatedSearch
