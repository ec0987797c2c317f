import FederatedSearch.Index.Demo
import FederatedSearch.Proofs.Engine.Attaching
import FederatedSearch.Proofs.Engine.Answer

/-!
# Rows that are left behind

A server counts its sessions from one, while the rows of a store can be older than the server. When
a session is opened whose id has a row in the store already, the row is kept as it is, and it may
answer a query of the new session although nothing was executed in it. This happens exactly when
the row that is left has a query and is not too old.

* `FederatedSearch.Store.Keeps`: a store in which a row is found that was put there.
* `FederatedSearch.Visit.checkSession_of_left`: a session that is opened over a row keeps it.
* `FederatedSearch.Visit.checkSession_recomputes_iff`: when a new session starts without results.
-/

namespace FederatedSearch

open Calendar

/-! ### Putting a row into a store -/

/-- **A row that is put into the store is found there.** -/
def Store.Keeps (s : Store) (row : Row) : Prop :=
  ∀ s', s.upsert row = .ok s' → s'.get? row.session = .ok (some row)

/-- A store in memory keeps every row. -/
theorem Store.memory_keeps (rows : Table String Row) (row : Row) : (memory rows).Keeps row := by
  intro s' h
  obtain rfl := Except.ok.inj h
  have hfind := Table.find?_insert (fun _ _ => Text.cmpText_eq_iff) row.session row.session row rows
  rw [if_pos rfl] at hfind
  exact congrArg Except.ok hfind

/-- The row of a session is looked up in the rows that the text of the file holds. -/
theorem Store.get?_of_text {contents : String} {rows : Table String Row}
    (h : Row.tableOfText? contents = some rows) (session : String) :
    (file (.text contents)).get? session = .ok (Table.find? session rows) := by
  simp only [get?, Store.rows, FileState.rows, h]
  rfl

namespace Cache

variable {c c' : Cache} {session : String}

/-- Registering a session leaves a row alone that is there. -/
theorem register_of_some {row : Row} (hrow : c.entry session = .ok (some row)) :
    c.register session = .ok c := by
  simp only [register, hrow]
  rfl

/-- **Registering a session without a row** gives it the row of no query. -/
theorem entry_of_register (hnone : c.entry session = .ok none)
    (hkeeps : c.store.Keeps (.created session c.now)) (h : c.register session = .ok c') :
    c'.entry session = .ok (some (.created session c.now)) := by
  simp only [register, hnone, bind, Except.bind, putRow, pure, Except.pure] at h
  cases hput : c.store.upsert (.created session c.now) with
  | error e =>
    rw [hput] at h
    cases h
  | ok store =>
    rw [hput] at h
    cases h
    exact hkeeps store hput

/-- **A row answers none of the queries that have a text** exactly when it is of no query or too
old. -/
theorem recomputes_iff_of_entry {row : Row} (hrow : c.entry session = .ok (some row)) :
    (∀ query ≠ "", c.decide session query false = .ok .recompute) ↔
      row.query = "" ∨ (c.now.since row.queryTime).longerThan c.staleAfter = true := by
  constructor
  · intro h
    by_cases hquery : row.query = ""
    · exact .inl hquery
    · have hstale := h row.query hquery
      rw [decide_of_entry hrow, Bool.false_or] at hstale
      split at hstale
      · rename_i hold
        exact .inr (by simpa [Row.isStale] using hold)
      · cases hstale
  · rintro (hempty | hold) query hquery
    · rw [decide_of_entry hrow, Bool.false_or, if_pos]
      simp [Row.isStale, hempty, hquery.symm]
    · rw [decide_of_entry hrow, Bool.false_or, if_pos]
      simp [Row.isStale, hold]

end Cache

/-! ### Opening a session -/

namespace Visit

variable {v v' : Visit} {id : String} {user : Nat}

/-- **A session that is opened over a row that was left** keeps this row. -/
theorem checkSession_of_left {server : Server} {row : Row} (huser : v.caller.user = some user)
    (hnew : v.ownSession? user = none)
    (hcreate : v.engine.cache.server.createSession user = .ok (id, server))
    (hleft : v.engine.cache.entry id = .ok (some row)) :
    ∃ v', checkSession v = (.ok id, v') ∧ ∀ query, v'.engine.cache.decide id query false =
      .ok (if row.isStale query v.engine.cache.now v.engine.cache.staleAfter then .recompute
        else .reuse row) := by
  have hrow : ({ v.engine.cache with server } : Cache).entry id = .ok (some row) := hleft
  have hregister := Cache.register_of_some hrow
  refine ⟨⟨{ v.engine with cache := { v.engine.cache with server } },
    { v.caller with session := some id }⟩, ?_, fun query => Cache.decide_of_entry hrow query false⟩
  simp [checkSession, huser, hnew, attachNew, onCache, onEngine, Engine.onCache, openSession,
    hcreate, hregister, modifyCaller]

/-- **A new session starts without results exactly when no usable row was left under its id.**
Otherwise the row that was left answers the query it is of, although the session executed
nothing. -/
theorem checkSession_recomputes_iff (huser : v.caller.user = some user)
    (hnew : v.ownSession? user = none) (hok : checkSession v = (.ok id, v'))
    (hkeeps : v.engine.cache.store.Keeps (.created id v.engine.cache.now)) :
    (∀ text ≠ "", v'.engine.cache.decide id text false = .ok .recompute) ↔
      ∀ row, v.engine.cache.entry id = .ok (some row) → row.query = "" ∨
        (v.engine.cache.now.since row.queryTime).longerThan v.engine.cache.staleAfter = true := by
  have hattach : attachNew user v = (.ok id, v') := by
    simpa [checkSession, huser, hnew] using hok
  obtain ⟨server, c', -, hregister, rfl⟩ := attachNew_ok hattach
  cases hentry : v.engine.cache.entry id with
  | error e =>
    have hfail : ({ v.engine.cache with server } : Cache).entry id = .error e := hentry
    simp only [Cache.register, hfail] at hregister
    cases hregister
  | ok row? =>
    cases row? with
    | none =>
      -- nothing was left, so the session has the row of no query
      have hcreated := Cache.entry_of_register (c := { v.engine.cache with server }) hentry hkeeps
        hregister
      have hrecomputes := (Cache.recomputes_iff_of_entry hcreated).2 (.inl rfl)
      refine ⟨fun _ => ?_, fun _ => hrecomputes⟩
      rintro row ⟨⟩
    | some row =>
      -- the row that was left is the row of the new session
      rw [Cache.register_of_some (c := { v.engine.cache with server }) hentry] at hregister
      cases hregister
      have hiff := Cache.recomputes_iff_of_entry (c := { v.engine.cache with server }) hentry
      rw [hiff]
      simp only [Except.ok.injEq, Option.some.injEq, forall_eq']

end Visit

/-! ### A row of an earlier process -/

/-- The row of the first session of an earlier process, which searched for the sea. -/
def leftRow : Row := ⟨Server.sessionId 1, "sea", ⟨0, 0⟩, .zero false, 4, ⟨0, 0⟩⟩

/-- The table with this row. -/
def leftRows : Table String Row := [(leftRow.session, leftRow)]

/-- A user, a minute later, at a new engine over a store with rows of an earlier process. -/
def leftVisit (store : Store) (staleAfter : Span) : Visit where
  engine :=
    { cache :=
        { server := { Server.ofDataset Demo.dataset with connected := true }
          store
          now := ⟨60, 0⟩
          staleAfter }
      config := {}
      sweepAfter := ⟨3600 * nanosPerSecond⟩ }
  caller := { user := some 1 }

/-- A row that is too old answers nothing. -/
theorem checkSession_recomputes_of_old_row :
    ∃ v', Visit.checkSession (leftVisit (.memory leftRows) ⟨0⟩) = (.ok leftRow.session, v') ∧
      ∀ text ≠ "", v'.engine.cache.decide leftRow.session text false = .ok .recompute := by
  have hleft : (leftVisit (.memory leftRows) ⟨0⟩).engine.cache.entry leftRow.session =
      .ok (some leftRow) := congrArg Except.ok (if_pos rfl)
  obtain ⟨v', hcheck, -⟩ := Visit.checkSession_of_left rfl rfl rfl hleft
  refine ⟨v', hcheck, (Visit.checkSession_recomputes_iff rfl rfl hcheck
    (Store.memory_keeps _ _)).2 fun row hrow => .inr ?_⟩
  obtain rfl : leftRow = row := Option.some.inj (Except.ok.inj (hleft.symm.trans hrow))
  decide

theorem tableOfText?_leftRows : Row.tableOfText? (Row.tableText leftRows) = some leftRows := by
  decide +kernel

/-- **Not every new session starts without results**: within ten minutes a row that was left in a
file answers its query. -/
theorem not_checkSession_recomputes :
    ¬ ∀ (v v' : Visit) (user : Nat) (id : String), v.caller.user = some user →
      v.ownSession? user = none → Visit.checkSession v = (.ok id, v') →
        ∀ text ≠ "", v'.engine.cache.decide id text false = .ok .recompute := by
  intro h
  have hleft := Store.get?_of_text tableOfText?_leftRows leftRow.session
  rw [leftRows, Table.find?_cons, if_pos rfl] at hleft
  obtain ⟨v', hcheck, hdecide⟩ := Visit.checkSession_of_left
    (v := leftVisit (.file (.text (Row.tableText leftRows))) ⟨600 * nanosPerSecond⟩)
    rfl rfl rfl hleft
  have hrecompute := h _ v' 1 _ rfl rfl hcheck "sea" (by decide)
  have hfresh : ¬ leftRow.isStale "sea" ⟨60, 0⟩ ⟨600 * nanosPerSecond⟩ = true := by decide
  rw [hdecide "sea"] at hrecompute
  cases (congrArg Except.ok (if_neg hfresh)).symm.trans hrecompute

end FederatedSearch
