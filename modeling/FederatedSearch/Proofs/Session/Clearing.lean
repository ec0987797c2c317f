import FederatedSearch.Proofs.Session.Sweeping

/-!
# What a sweep leaves

A sweep first asks the store which rows were not written after a time, and then looks at each of
them again before it closes the session and removes the row. Since the keys of a table differ, the
rows that it removes are those that it was told of. A store that reads back what it is given holds
the other rows afterwards, each as it was, and a second sweep finds nothing.

* `FederatedSearch.Cache.sweepSessions_eq`: sweeping sessions whose rows are idle.
* `FederatedSearch.Cache.clearAll_exact`: the sweep, and the sweep after it.
* `FederatedSearch.Cache.not_forall_clearAll_exact`: a file that does not give back what is written.
-/

namespace FederatedSearch

open Calendar

/-! ### Ascending tables -/

namespace Table

variable {κ α : Type} {cmp : κ → κ → Ordering} {t : Table κ α} {k : κ} {v : α}

/-- The keys of an ascending table differ. -/
theorem Ascending.nodup_keys [Std.ReflCmp cmp] (h : t.Ascending cmp) : (t.map (·.1)).Nodup := by
  refine List.pairwise_map.2 (h.imp fun {p q} hlt heq => ?_)
  rw [heq] at hlt
  cases hlt.symm.trans (Std.ReflCmp.compare_self : cmp q.1 q.1 = .eq)

/-- What is in an ascending table is found under its key. -/
theorem Ascending.find?_of_mem [DecidableEq κ] [Std.ReflCmp cmp] (h : t.Ascending cmp)
    (hmem : (k, v) ∈ t) : find? k t = some v := by
  induction t with
  | nil => cases hmem
  | cons p rest ih =>
    obtain ⟨l, u⟩ := p
    obtain ⟨hfirst, hrest⟩ := List.pairwise_cons.1 h
    rw [find?_cons]
    rcases List.mem_cons.1 hmem with heq | hmem
    · obtain ⟨rfl, rfl⟩ := Prod.mk.inj heq
      exact if_pos rfl
    · rw [if_neg]
      · exact ih hrest hmem
      · rintro rfl
        cases (hfirst _ hmem).symm.trans (Std.ReflCmp.compare_self : cmp l l = .eq)

/-- **An ascending table is known by what is found in it.** -/
theorem Ascending.ext [DecidableEq κ] [Std.TransCmp cmp] {u : Table κ α} (ht : t.Ascending cmp)
    (hu : u.Ascending cmp) (h : ∀ k, find? k t = find? k u) : t = u := by
  have hnodup : ∀ {t : Table κ α}, t.Ascending cmp → t.Nodup := fun ht =>
    List.Pairwise.of_map Prod.fst (fun _ _ hne heq => hne (congrArg Prod.fst heq)) ht.nodup_keys
  have hmem : ∀ p, p ∈ t ↔ p ∈ u := by
    rintro ⟨k, v⟩
    constructor
    · exact fun hp => mem_of_find? ((h k).symm.trans (ht.find?_of_mem hp))
    · exact fun hp => mem_of_find? ((h k).trans (hu.find?_of_mem hp))
  have hperm : t.Perm u := (List.perm_ext_iff_of_nodup (hnodup ht) (hnodup hu)).2 hmem
  refine hperm.eq_of_pairwise (fun p q _ _ hlt hgt => ?_) ht hu
  cases (Std.OrientedCmp.gt_iff_lt.2 hlt).symm.trans hgt

end Table

/-! ### Closing several sessions -/

/-- The server after some of its sessions were closed. -/
def Server.closeAll (s : Server) (ids : List String) : Server :=
  { s with sessions := s.sessions.filter (·.1 ∉ ids) }

theorem Server.cursor?_closeAll (s : Server) (ids : List String) (id : String) :
    (s.closeAll ids).cursor? id = if id ∈ ids then none else s.cursor? id := by
  unfold cursor? closeAll
  induction s.sessions with
  | nil => simp
  | cons p rest ih =>
    obtain ⟨k, cursor⟩ := p
    by_cases hk : k ∈ ids
    · rw [List.filter_cons_of_neg (by simpa using hk), ih, Table.find?_cons]
      split
      · rfl
      · rename_i hid
        rw [if_neg fun (heq : k = id) => hid (heq ▸ hk)]
    · rw [List.filter_cons_of_pos (by simpa using hk), Table.find?_cons, Table.find?_cons, ih]
      split
      · rename_i heq
        rw [if_neg (heq ▸ hk)]
      · rfl

theorem Server.closeAll_nil (s : Server) : s.closeAll [] = s := by
  have hall : s.sessions.filter (·.1 ∉ ([] : List String)) = s.sessions :=
    List.filter_eq_self.2 fun _ _ => decide_eq_true List.not_mem_nil
  rw [closeAll, hall]

theorem Server.closeAll_closeSession (s : Server) (id : String) (ids : List String) :
    (s.closeSession id).closeAll ids = s.closeAll (id :: ids) := by
  simp only [closeAll, closeSession, Table.erase, List.filter_filter, List.mem_cons, not_or,
    Bool.decide_and, Bool.and_comm, ne_eq]

namespace Cache

variable {P : Row → Prop} {c : Cache} {cutoff : Instant} {rows : Table String Row} {id : String}
  {row : Row}

/-- **Closing a session that has a row** removes this row and nothing else. -/
theorem close_eq (hstore : c.store.Faithful P) (hrows : c.store.rows = .ok rows)
    (hrow : Table.find? id rows = some row) :
    ∃ s, close id c = (.ok true, { c with server := c.server.closeSession id, store := s }) ∧
      s.Faithful P ∧ s.rows = .ok (Table.erase id rows) := by
  have hentry : c.store.get? id = .ok (some row) := by
    rw [Store.get?, hrows]
    exact congrArg Except.ok hrow
  obtain ⟨written, s', hwrite'⟩ := (Store.usable_of_get? hentry).withRows
  obtain ⟨s, hwrite⟩ := Store.exists_withRows hwrite' (Table.erase id rows)
  have hhas : Table.has id rows = true := by rw [Table.has, hrow]; rfl
  refine ⟨s, ?_, hstore.withRows ((hstore.holds rows hrows).erase id) hwrite⟩
  simp only [close, Action.modify_apply, Action.stepWith_apply, removeRow,
    Store.remove, hrows, bind, Except.bind, hhas, if_true, hwrite]
  rfl

/-- **Sweeping sessions whose rows are idle** closes them all, and removes their rows. -/
theorem sweepSessions_eq {ids : List String} (hnodup : ids.Nodup) (hstore : c.store.Faithful P)
    (hrows : c.store.rows = .ok rows)
    (hidle : ∀ id ∈ ids, ∃ row, (id, row) ∈ rows ∧ row.idleSince cutoff = true) :
    ∃ s, sweepSessions cutoff ids c =
        (.ok ids.length, { c with server := c.server.closeAll ids, store := s }) ∧
      s.Faithful P ∧ s.rows = .ok (rows.filter (·.1 ∉ ids)) := by
  induction ids generalizing c rows with
  | nil =>
    refine ⟨c.store, by rw [Server.closeAll_nil]; rfl, hstore, hrows.trans (congrArg _ ?_)⟩
    exact (List.filter_eq_self.2 fun _ _ => decide_eq_true List.not_mem_nil).symm
  | cons id rest ih =>
    obtain ⟨hid, hrest⟩ := List.nodup_cons.1 hnodup
    obtain ⟨row, hmem, hrow⟩ := hidle id List.mem_cons_self
    have hfind := (hstore.holds rows hrows).ascending.find?_of_mem hmem
    obtain ⟨s, hclose, hs, herase⟩ := close_eq hstore hrows hfind
    obtain ⟨s', hsweep, hs', hleft⟩ := ih
      (c := { c with server := c.server.closeSession id, store := s }) hrest hs herase
      fun k hk => by
        obtain ⟨r, hr, hold⟩ := hidle k (List.mem_cons_of_mem _ hk)
        have hne : k ≠ id := fun heq => hid (heq ▸ hk)
        exact ⟨r, List.mem_filter.2 ⟨hr, by simpa using hne⟩, hold⟩
    have hentry : c.entry id = .ok (some row) := by
      rw [entry, Store.get?, hrows]
      exact congrArg Except.ok hfind
    refine ⟨s', ?_, hs', ?_⟩
    · have hfirst : sweepSession cutoff id c = close id c := by
        simp only [sweepSession, Action.bind_apply, Action.look_apply, hentry, hrow, if_true]
      simp only [sweepSessions, Action.bind_apply, hfirst, hclose, hsweep,
        Server.closeAll_closeSession]
      rfl
    · rw [hleft, Table.erase, List.filter_filter]
      simp only [List.mem_cons, not_or, Bool.decide_and, Bool.and_comm, ne_eq]

/-! ### The sweep -/

/-- The keys of the rows that were not written after a time. -/
def idleKeys (cutoff : Instant) (rows : Table String Row) : List String :=
  (rows.filter (·.2.idleSince cutoff)).map (·.1)

/-- The keys of the idle rows are the sessions that the store reports. -/
theorem expired_eq (hrows : c.store.rows = .ok rows) (htable : Row.TableOf P rows)
    (cutoff : Instant) : c.store.expired cutoff = .ok (idleKeys cutoff rows) := by
  have hkeys : ((rows.map (·.2)).filter (·.idleSince cutoff)).map (·.session) =
      idleKeys cutoff rows := by
    rw [List.filter_map, List.map_map]
    refine List.map_congr_left fun p hp => ?_
    exact htable.keyed p.1 p.2 (List.mem_filter.1 hp).1
  rw [Store.expired, Store.list, hrows]
  exact congrArg Except.ok hkeys

/-- A row of the table is found by its session. -/
theorem isIdle_of_mem (hrows : c.store.rows = .ok rows) (htable : Row.TableOf P rows)
    (hmem : (id, row) ∈ rows) : c.isIdle cutoff id = row.idleSince cutoff := by
  have hentry : c.entry id = .ok (some row) := by
    rw [entry, Store.get?, hrows]
    exact congrArg Except.ok (htable.ascending.find?_of_mem hmem)
  exact isIdle_of_entry hentry cutoff

/-- **The keys of the idle rows are the idle sessions**: no other row has one of them. -/
theorem mem_idleKeys_iff (hrows : c.store.rows = .ok rows) (htable : Row.TableOf P rows) :
    id ∈ idleKeys cutoff rows ↔ c.isIdle cutoff id = true := by
  constructor
  · intro hid
    obtain ⟨⟨_, row⟩, hmem, rfl⟩ := List.mem_map.1 hid
    obtain ⟨hmem, hidle⟩ := List.mem_filter.1 hmem
    exact (isIdle_of_mem hrows htable hmem).trans hidle
  · intro hidle
    have hentry : c.entry id = .ok (Table.find? id rows) := by
      rw [entry, Store.get?, hrows]
      rfl
    rw [isIdle_of_entry hentry, Option.any_eq_true] at hidle
    obtain ⟨row, hfind, hrow⟩ := hidle
    exact List.mem_map.2 ⟨_, List.mem_filter.2 ⟨Table.mem_of_find? hfind, hrow⟩, rfl⟩

/-- Where no row is idle the sweep does nothing. -/
theorem clearAll_of_not_idle {cutoff? : Option Instant} (hrows : c.store.rows = .ok rows)
    (hnone : ∀ p ∈ rows, p.2.idleSince (cutoff?.getD c.now) = false) :
    clearAll cutoff? c = (.ok 0, c) := by
  have hexpired : c.store.expired (cutoff?.getD c.now) = .ok [] := by
    rw [Store.expired, Store.list, hrows]
    refine congrArg Except.ok ?_
    rw [List.map_eq_nil_iff, List.filter_eq_nil_iff]
    intro row hrow
    obtain ⟨p, hp, rfl⟩ := List.mem_map.1 hrow
    exact Bool.eq_false_iff.1 (hnone p hp)
  simp only [clearAll, Action.bind_apply, Action.get_apply, Action.look_apply, hexpired]
  rfl

/-- **The sweep is exact.** It succeeds where the rows can be read. It removes the rows that were
not written after the time that is given, which is now by default, and counts them; the other rows
are as they were. It closes the sessions of the rows that it removes; the other sessions and their
cursors are as they were, and so is everything else. Another sweep up to this time does nothing. -/
theorem clearAll_exact (hstore : c.store.Faithful P) (hrows : c.store.rows = .ok rows)
    (cutoff? : Option Instant) :
    ∃ c', clearAll cutoff? c = (.ok (rows.countP (·.2.idleSince (cutoff?.getD c.now))), c') ∧
      c'.store.rows = .ok (rows.filter fun p => !p.2.idleSince (cutoff?.getD c.now)) ∧
      (∀ id, c'.server.cursor? id =
        if c.isIdle (cutoff?.getD c.now) id then none else c.server.cursor? id) ∧
      c' = { c with
        server := { c.server with sessions := c'.server.sessions }
        store := c'.store } ∧
      ∀ again? : Option Instant, again?.getD c'.now = cutoff?.getD c.now →
        clearAll again? c' = (.ok 0, c') := by
  generalize hcutoff : cutoff?.getD c.now = cutoff
  have htable := hstore.holds rows hrows
  have hnodup : (idleKeys cutoff rows).Nodup :=
    htable.ascending.nodup_keys.sublist (List.filter_sublist.map _)
  obtain ⟨s, hsweep, -, hleft⟩ := sweepSessions_eq hnodup hstore hrows fun id hid => by
    obtain ⟨p, hp, rfl⟩ := List.mem_map.1 hid
    exact ⟨p.2, List.mem_filter.1 hp⟩
  have hkept : rows.filter (·.1 ∉ idleKeys cutoff rows) =
      rows.filter fun p => !p.2.idleSince cutoff := by
    refine List.filter_congr fun p hp => ?_
    have hiff : p.1 ∈ idleKeys cutoff rows ↔ p.2.idleSince cutoff = true := by
      rw [mem_idleKeys_iff hrows htable, isIdle_of_mem hrows htable hp]
    simp only [hiff, decide_not, Bool.decide_eq_true]
  rw [hkept] at hleft
  refine ⟨{ c with server := c.server.closeAll (idleKeys cutoff rows), store := s }, ?_, hleft,
    fun id => ?_, rfl, fun again? hagain => ?_⟩
  · have hcount : rows.countP (·.2.idleSince cutoff) = (idleKeys cutoff rows).length := by
      rw [idleKeys, List.length_map, List.countP_eq_length_filter]
    simp only [clearAll, Action.bind_apply, Action.get_apply, Action.look_apply, hcutoff,
      expired_eq hrows htable, hsweep, hcount]
  · exact (c.server.cursor?_closeAll _ id).trans
      (if_congr (mem_idleKeys_iff hrows htable) rfl rfl)
  · refine clearAll_of_not_idle hleft fun p hp => ?_
    rw [hagain]
    simpa using (List.mem_filter.1 hp).2

/-- Two rows, of which the first was written an hour before the second. -/
def twoRows : Table String Row :=
  [("mem-00000001", .created "mem-00000001" ⟨0, 0⟩),
    ("mem-00000002", .created "mem-00000002" ⟨3600, 0⟩)]

/-- A cache over a server without indexes. -/
def overEmpty (store : Store) : Cache := ⟨.ofDataset ⟨[]⟩, store, ⟨7200, 0⟩, ⟨600 * nanosPerSecond⟩⟩

/-- Of two rows a sweep up to a time between them removes the first. -/
theorem clearAll_exact_of_two_rows :
    ∃ c', clearAll (some ⟨1800, 0⟩) (overEmpty (.memory twoRows)) = (.ok 1, c') ∧
      c'.store.rows = .ok [("mem-00000002", .created "mem-00000002" ⟨3600, 0⟩)] ∧
      clearAll (some ⟨1800, 0⟩) c' = (.ok 0, c') := by
  have htable : Row.TableOf (fun _ => True) twoRows :=
    @Row.TableOf.insert _ _
      (@Row.TableOf.insert _ _ (.nil _) (.created "mem-00000001" ⟨0, 0⟩) trivial)
      (.created "mem-00000002" ⟨3600, 0⟩) trivial
  obtain ⟨c', hclear, hrows, -, -, hagain⟩ := clearAll_exact
    (c := overEmpty (.memory twoRows)) (Store.memory_faithful htable) rfl (some ⟨1800, 0⟩)
  exact ⟨c', hclear, hrows, hagain _ rfl⟩

/-- The text of a file with two rows. What is read as the duration of the second is written with
other digits, and these are read as another number. -/
def looseText : String :=
  "\x7b\"a\":\x7b\"session_id\":\"a\",\"query\":\"\",\"query_time\":\"1970-01-01T00:00:00Z\"," ++
  "\"duration\":0,\"total\":0,\"last_access\":\"1970-01-01T00:00:00Z\"\x7d," ++
  "\"b\":\x7b\"session_id\":\"b\",\"query\":\"\",\"query_time\":\"1970-01-01T01:00:00Z\"," ++
  "\"duration\":10000000000.010018,\"total\":0,\"last_access\":\"1970-01-01T01:00:00Z\"\x7d\x7d"

/-- The second row, with the duration in units of `2 ^ -19` seconds. -/
def looseRow (units : Nat) : Row := ⟨"b", "", ⟨3600, 0⟩, .finite false units (-19), 0, ⟨3600, 0⟩⟩

theorem tableOfText?_looseText :
    Row.tableOfText? looseText =
      some [("a", .created "a" ⟨0, 0⟩), ("b", looseRow 5242880000005252)] := by
  decide +kernel

theorem tableOfText?_tableText_looseRow :
    Row.tableOfText? (Row.tableText [("b", looseRow 5242880000005252)]) =
      some [("b", looseRow 5242880000005251)] := by
  decide +kernel

/-- Sweeping the first of the two rows of a file writes the second. -/
theorem clearAll_of_text {contents : String} {row : Row} (cutoff : Instant)
    (htext : Row.tableOfText? contents = some [("a", .created "a" ⟨0, 0⟩), ("b", row)])
    (hfirst : (Row.created "a" ⟨0, 0⟩).idleSince cutoff = true)
    (hsecond : row.idleSince cutoff = false) :
    clearAll (some cutoff) (overEmpty (.file (.text contents))) =
      (.ok 1, overEmpty (.file (.text (Row.tableText [("b", row)])))) := by
  have hrows : Store.rows (.file (.text contents)) =
      .ok [("a", .created "a" ⟨0, 0⟩), ("b", row)] := by
    simp only [Store.rows, FileState.rows, htext]
  have hexpired : Store.expired (.file (.text contents)) cutoff = .ok ["a"] := by
    rw [Store.expired, Store.list, hrows]
    simp only [bind, Except.bind, pure, Except.pure, List.map_cons, List.map_nil,
      List.filter_cons, hfirst, hsecond]
    rfl
  have hentry : Store.get? (.file (.text contents)) "a" = .ok (some (.created "a" ⟨0, 0⟩)) := by
    rw [Store.get?, hrows]
    rfl
  have hremove : Store.remove (.file (.text contents)) "a" =
      .ok (true, .file (.text (Row.tableText [("b", row)]))) := by
    rw [Store.remove, hrows]
    rfl
  simp only [clearAll, Action.bind_apply, Action.get_apply, Action.look_apply, overEmpty,
    Option.getD_some, hexpired, sweepSessions, sweepSession, entry, hentry, hfirst, if_true, close,
    Action.modify_apply, Action.stepWith_apply, removeRow, hremove]
  rfl

/-- **A file need not give back what is written to it**: the row that a sweep leaves is another
row when it is read again. -/
theorem not_forall_clearAll_exact :
    ¬∀ (c c' : Cache) (rows : Table String Row) (cutoff? : Option Instant) (n : Nat),
      c.store.rows = .ok rows → (∀ p ∈ rows, p.2.session = p.1) →
        clearAll cutoff? c = (.ok n, c') →
          c'.store.rows = .ok (rows.filter fun p => !p.2.idleSince (cutoff?.getD c.now)) := by
  intro hexact
  obtain ⟨contents, htext⟩ : ∃ contents, Row.tableOfText? contents = _ :=
    ⟨_, tableOfText?_looseText⟩
  have hrows : (overEmpty (.file (.text contents))).store.rows =
      .ok [("a", .created "a" ⟨0, 0⟩), ("b", looseRow 5242880000005252)] := by
    simp only [overEmpty, Store.rows, FileState.rows, htext]
  have hsweep := clearAll_of_text ⟨1800, 0⟩ htext (by decide) (by decide)
  have hkept := hexact _ _ _ _ _ hrows (by decide) hsweep
  simp only [overEmpty, Store.rows, FileState.rows, tableOfText?_tableText_looseRow,
    Except.ok.injEq] at hkept
  exact absurd hkept (by decide)

end Cache

end FederatedSearch
