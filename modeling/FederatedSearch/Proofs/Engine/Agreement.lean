import FederatedSearch.Proofs.Engine.Explained

/-!
# Rows agree with cursors

A row of the cache and the cursor on the server are changed by different operations, and some fail
half way. Still, in every engine that is reached from a fresh one, a session has a row exactly when
it is open, and what the row says of its hits is what the cursor holds: the hits of the one
execution that wrote the row.

* `FederatedSearch.Engine.Reached.rows_agree`: rows agree with cursors in all that is reached.
-/

namespace FederatedSearch

namespace Slot

/-- **The row says what the cursor holds**: as many hits as its total, none if it is of no query,
and otherwise those of the last execution in the session. -/
def Agrees (s : Slot) (last : Option Attempt) : Prop :=
  ∀ row, s.row = some row → ∃ cursor, s.cursor = some cursor ∧
    cursor.hits.length = row.total ∧ (row.query = "" → row.total = 0 ∧ cursor.hits = []) ∧
    (row.query ≠ "" → ∃ a, last = some a ∧ a.row? = some row ∧ cursor.hits = a.hits)

theorem Blank.agrees {s : Slot} (h : s.Blank) (last : Option Attempt) : s.Agrees last := by
  intro row hrow
  cases h with
  | vacant => cases hrow
  | @unqueried row cursor hquery htotal hhits =>
    cases hrow
    exact ⟨cursor, rfl, by rw [hhits, htotal]; rfl, fun _ => ⟨htotal, hhits⟩,
      fun hne => absurd hquery hne⟩

end Slot

/-- What an execution wrote agrees with it. -/
theorem Attempt.Wrote.agrees {a : Attempt} {s : Slot} (h : a.Wrote s)
    (hopen : (a.engine.cache.slot a.session).cursor.isSome) : s.Agrees (some a) := by
  intro row hrow
  obtain ⟨row', hrow', ha⟩ := h.row
  obtain ⟨cursor, hcursor, hhits⟩ := h.cursor
  obtain rfl : row' = row := Option.some.inj (hrow'.symm.trans hrow)
  have hquery : row'.query ≠ "" := Attempt.query_eq ha ▸ a.text_ne_empty
  exact ⟨cursor, hcursor, by rw [Attempt.total_eq ha hopen, hhits],
    fun hempty => absurd hempty hquery, fun _ => ⟨a, rfl, ha, hhits⟩⟩

namespace Engine

variable {start e : Engine} {h : History}

theorem Explained.agrees (hh : Explained h e) (id : String) :
    (e.cache.slot id).Agrees (h.lastAttempt? id) := by
  rcases hh.slots id with hblank | ⟨a, ha, hwrote⟩
  · exact hblank.agrees _
  · rw [ha]
    exact hwrote.agrees (hh.isOpen id a ha).2

/-- **Rows agree with cursors** in every engine that is reached from a fresh one. A session has a
row exactly when it is open; its cursor holds as many hits as the row says; a row of no query has
none; and the hits of any other row are those that the backends gave, one after the other, to the
last execution in the session, which wrote this row. -/
theorem Reached.rows_agree (hstart : start.Fresh) (hreached : Reached start h e) :
    (∀ id, (∃ row, e.cache.entry id = .ok (some row)) ↔ e.server.hasSession id = true) ∧
    ∀ id row, e.cache.entry id = .ok (some row) →
      ∃ cursor, e.server.cursor? id = some cursor ∧ cursor.hits.length = row.total ∧
        (row.query = "" → row.total = 0 ∧ cursor.hits = []) ∧
        (row.query ≠ "" → ∃ a, h.lastAttempt? id = some a ∧ a.row? = some row ∧
          cursor.hits = a.request.plans.flatMap fun p =>
            a.engine.server.hitsOf (p.execution a.engine.catalog a.effective a.session)) := by
  have hh := hreached.explained hstart
  refine ⟨fun id => ?_, fun id row hrow => ?_⟩
  · -- a sound slot has a row exactly when it has a cursor
    have hpaired := (hh.orderly.sound id).paired
    simp only [hh.orderly.inMemory.entry_eq, Except.ok.injEq]
    rw [← Option.isSome_iff_exists, hpaired]
    rfl
  · rw [hh.orderly.inMemory.entry_eq, Except.ok.injEq] at hrow
    exact hh.agrees id row hrow

/-- The first search for the sea leaves a row for the sea, and a cursor that agrees with it. -/
theorem rows_agree_of_first_search :
    let s := Step.search ⟨some 1, none, false⟩ "sea" 0 10 .standard
    ∃ row cursor a, (s.run demo).cache.entry "mem-00000001" = .ok (some row) ∧ row.query = "sea" ∧
      (s.run demo).server.cursor? "mem-00000001" = some cursor ∧ cursor.hits.length = row.total ∧
      History.lastAttempt? "mem-00000001" [⟨s, demo⟩] = some a ∧ cursor.hits = a.hits := by
  intro s
  have hquery : (((s.run demo).cache.entry "mem-00000001").toOption.bind id).map Row.query =
      some "sea" := by decide +kernel
  have hagree := Reached.rows_agree demo_fresh (.step s .start)
  obtain ⟨row, hrow⟩ := (hagree.1 "mem-00000001").2 (by decide +kernel)
  obtain ⟨cursor, hcursor, htotal, -, hlast⟩ := hagree.2 "mem-00000001" row hrow
  rw [hrow] at hquery
  have hsea : row.query = "sea" := Option.some.inj hquery
  obtain ⟨a, ha, -, hhits⟩ := hlast (by rw [hsea]; decide)
  exact ⟨row, cursor, a, hrow, hsea, hcursor, htotal, ha, hhits⟩

end Engine

end FederatedSearch
