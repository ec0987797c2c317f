import FederatedSearch.Engine.Search
import FederatedSearch.Proofs.Engine.Hits

/-!
# Executing a search in a session

Executing a search empties the cursor of its session, collects the hits of all plans in it, and
writes the row of the session. What row and which hits that gives is said here without the steps in
between: both follow from what is asked for and from the engine at that time.

* `FederatedSearch.Attempt`: an execution, with its row and its hits.
* `FederatedSearch.Attempt.execute_eq`: what an execution leaves in the slot of its session.
-/

namespace FederatedSearch

open Query

/-- **An execution of a search in a session**: what is asked for, and the engine at that time. -/
structure Attempt where
  session : String
  text : String
  options : SearchOptions
  engine : Engine

namespace Attempt

/-- The options with everything filled in. -/
def effective (a : Attempt) : SearchOptions := a.engine.effectiveOptions a.options

/-- The plan of the search. -/
def request (a : Attempt) : Request := a.engine.request a.text a.effective

/-- What comes of the search, backend by backend. -/
def summary (a : Attempt) : Summary :=
  (a.engine.cache.executed a.session a.effective a.request).1

/-- **The hits that the backends give**, one backend after the other. -/
def hits (a : Attempt) : List Hit :=
  a.engine.server.planHits a.effective a.session a.request.plans

/-- **The row of the search**; there is none when everything failed. -/
def row? (a : Attempt) : Option Row :=
  if a.summary.allFailed then none
  else some ⟨a.session, a.request.text, a.engine.cache.now, a.summary.duration, a.summary.total,
    a.engine.cache.now⟩

/-- **The slot holds the row and the hits of the search.** -/
structure Wrote (a : Attempt) (s : Slot) : Prop where
  row : ∃ row, s.row = some row ∧ a.row? = some row
  cursor : ∃ cursor, s.cursor = some cursor ∧ cursor.hits = a.hits

end Attempt

/-! ### Emptying and filling the cursor -/

namespace Cache

variable {c : Cache} {session : String}

/-- **The plans of a search** fill the cursor of the session with their hits, and nothing else. -/
theorem Orderly.executed_writes (hc : c.Orderly) (hopen : (c.slot session).cursor.isSome)
    (o : SearchOptions) (r : Request) :
    ∃ row cursor, row.session = session ∧
      cursor.hits = c.server.planHits o session r.plans ∧
      c.Writes (c.executed session o r).2 session ⟨some row, some cursor⟩ := by
  obtain ⟨old, hold⟩ := Option.isSome_iff_exists.1 hopen
  obtain ⟨row, hrow⟩ := (hc.sound session).exists_row hold
  have hclear := Server.clearResults_eq hold
  have hempty := c.server.cursor?_putCursor session (.empty old.user)
  have hfill := executePlans_extends (s := c.server.putCursor session (.empty old.user)) o r.plans
    (by rw [hempty, if_pos rfl]; rfl)
  obtain ⟨cursor, hcursor, hhits⟩ := hfill.cursor _ ((hempty session).trans (if_pos rfl))
  refine ⟨row, cursor, (hc.sound session).keyed row hrow, hhits, ?_, hc.inMemory,
    Function.eq_update_iff.2 ⟨?_, fun k hk => ?_⟩, ?_⟩
  · have hcondition := hfill.condition
    simp only [setting, executed, hclear, hcondition]
    rfl
  · simp only [executed, hclear]
    exact Slot.ext hrow hcursor
  · simp only [executed, hclear]
    exact Slot.ext rfl ((hfill.others k hk).trans ((hempty k).trans (if_neg (Ne.symm hk))))
  · have hnext := hfill.nextSession
    simp only [executed, hclear, hnext]
    exact Nat.le_refl _

/-- The total that is counted is the number of hits. -/
theorem total_executed (hopen : (c.slot session).cursor.isSome) (o : SearchOptions)
    (r : Request) :
    (c.executed session o r).1.total = (c.server.planHits o session r.plans).length := by
  obtain ⟨old, hold⟩ := Option.isSome_iff_exists.1 hopen
  have hempty := c.server.cursor?_putCursor session (.empty old.user) session
  simp only [executed, Server.clearResults_eq hold]
  exact Summary.total_executePlans o _ r.plans (by rw [hempty, if_pos rfl]; rfl)

/-- Everything failed when something was asked for and no backend answered. -/
theorem allFailed_executed (hopen : (c.slot session).cursor.isSome) (o : SearchOptions)
    (r : Request) :
    (c.executed session o r).1.allFailed =
      ((r.plans.all fun p => (c.server.answering? p.backend).isNone) &&
        !(r.plans.isEmpty && (r.failures.map (·.1)).isEmpty)) := by
  obtain ⟨old, hold⟩ := Option.isSome_iff_exists.1 hopen
  have hempty := c.server.cursor?_putCursor session (.empty old.user) session
  simp only [executed, Server.clearResults_eq hold]
  exact Summary.allFailed_executePlans o _ r.plans (by rw [hempty, if_pos rfl]; rfl)

/-! ### Writing the row -/

theorem InMemory.entryOrCreated_eq (h : c.InMemory) {row : Row}
    (hrow : (c.slot session).row = some row) : c.entryOrCreated session = .ok row := by
  simp only [entryOrCreated, h.entry_eq, hrow]
  rfl

/-- **Writing the outcome of an execution** replaces the row of the session. -/
theorem InMemory.record_eq (h : c.InMemory) {row : Row} (hrow : (c.slot session).row = some row)
    (hkey : row.session = session) (query : String) (duration : Number.Binary64) (total : Nat) :
    ∃ c', c.record session query duration total =
        .ok (⟨session, query, c.now, duration, total, c.now⟩, c') ∧
      c.Writes c' session
        ⟨some ⟨session, query, c.now, duration, total, c.now⟩, (c.slot session).cursor⟩ := by
  obtain ⟨c', hput, hwrites⟩ := h.putRow ⟨session, query, c.now, duration, total, c.now⟩
  refine ⟨c', ?_, hwrites⟩
  have hexecuted : row.executed query c.now duration total =
      ⟨session, query, c.now, duration, total, c.now⟩ := by rw [← hkey]; rfl
  simp only [record, h.entryOrCreated_eq hrow, bind, Except.bind, hexecuted, hput]
  rfl

/-- **Emptying the row** of the session. -/
theorem InMemory.invalidate_eq (h : c.InMemory) {row : Row}
    (hrow : (c.slot session).row = some row) (hkey : row.session = session) :
    ∃ c', c.invalidate session = .ok c' ∧
      c.Writes c' session ⟨some (row.emptied c.now), (c.slot session).cursor⟩ := by
  obtain ⟨c', hput, hwrites⟩ := h.putRow (row.emptied c.now)
  rw [show (row.emptied c.now).session = session from hkey] at hwrites
  refine ⟨c', ?_, hwrites⟩
  simp only [invalidate, h.entryOrCreated_eq hrow, bind, Except.bind, hput]

/-- An execution that failed on all backends ends with an empty row. -/
theorem execute_of_allFailed {c' : Cache} {o : SearchOptions} {r : Request}
    (h : (c.executed session o r).1.allFailed = true)
    (hinvalidate : (c.executed session o r).2.invalidate session = .ok c') :
    execute session o r c = (.ok none, c') := by
  simp only [execute, Action.bind_apply, Action.get_apply, Action.set_apply, h, if_true,
    Action.step_apply, hinvalidate]
  rfl

/-- Any other execution ends with its row. -/
theorem execute_of_not_allFailed {c' : Cache} {o : SearchOptions} {r : Request} {row : Row}
    (h : (c.executed session o r).1.allFailed = false)
    (hrecord : (c.executed session o r).2.record session r.text
      (c.executed session o r).1.duration (c.executed session o r).1.total = .ok (row, c')) :
    execute session o r c = (.ok (some row), c') := by
  simp only [execute, Action.bind_apply, Action.get_apply, Action.set_apply, h,
    Action.stepWith_apply, hrecord, Bool.false_eq_true, if_false]
  rfl

end Cache

/-! ### Executing -/

namespace Attempt

variable {a : Attempt}

/-- The text that is searched for is never empty. -/
theorem text_ne_empty (a : Attempt) : a.request.text ≠ "" := queryText_ne_empty a.text a.effective

theorem row?_eq_none (h : a.summary.allFailed = true) : a.row? = none := by
  simp only [row?, h, if_true]

theorem row?_eq_some (h : a.summary.allFailed = false) :
    a.row? = some ⟨a.session, a.request.text, a.engine.cache.now, a.summary.duration,
      a.summary.total, a.engine.cache.now⟩ := by
  simp only [row?, h, Bool.false_eq_true, if_false]

/-- The total of the row is the number of hits. -/
theorem total_eq {row : Row} (h : a.row? = some row)
    (hopen : (a.engine.cache.slot a.session).cursor.isSome) : row.total = a.hits.length := by
  unfold row? at h
  split at h
  · cases h
  · cases h
    exact Cache.total_executed hopen a.effective a.request

/-- **Where everything failed** no backend answered, and there are no hits. -/
theorem hits_eq_nil (h : a.summary.allFailed = true)
    (hopen : (a.engine.cache.slot a.session).cursor.isSome) : a.hits = [] := by
  rw [summary, Cache.allFailed_executed hopen, Bool.and_eq_true] at h
  exact Server.planHits_eq_nil h.1 _ _

/-- The row is of the text that was searched for. -/
theorem query_eq {row : Row} (h : a.row? = some row) : row.query = a.request.text := by
  unfold row? at h
  split at h
  · cases h
  · cases h
    rfl

/-- **An execution in an open session** leaves the row and the hits of the search in its slot, or a
blank slot when everything failed. -/
theorem execute_eq (hc : a.engine.cache.Orderly)
    (hopen : (a.engine.cache.slot a.session).cursor.isSome) :
    ∃ c' s, Cache.execute a.session a.effective a.request a.engine.cache = (.ok a.row?, c') ∧
      a.engine.cache.Writes c' a.session s ∧ c'.Orderly ∧
        (a.row? = none ∧ s.Blank ∨ a.Wrote s) := by
  obtain ⟨old, cursor, hkey, hhits, hfilled⟩ := hc.executed_writes hopen a.effective a.request
  have hold := congrArg Slot.row hfilled.slot_same
  have hcursor := congrArg Slot.cursor hfilled.slot_same
  cases hfailed : a.summary.allFailed with
  | true =>
    obtain ⟨c', hinvalidate, hwrites⟩ := hfilled.inMemory.invalidate_eq hold hkey
    rw [hcursor] at hwrites
    have hnone := row?_eq_none hfailed
    have hempty : cursor.hits = [] := hhits.trans (hits_eq_nil hfailed hopen)
    refine ⟨c', _, ?_, hfilled.trans hwrites, ?_, .inl ⟨hnone, .unqueried rfl rfl hempty⟩⟩
    · rw [hnone]
      exact Cache.execute_of_allFailed hfailed hinvalidate
    · exact (hfilled.trans hwrites).orderly_of_open hc
        ⟨fun row hrow => by cases hrow; exact hkey, rfl⟩ hopen
  | false =>
    obtain ⟨c', hrecord, hwrites⟩ := hfilled.inMemory.record_eq hold hkey a.request.text
      a.summary.duration a.summary.total
    rw [hcursor, Cache.now_eq hfilled.setting] at hwrites
    rw [Cache.now_eq hfilled.setting] at hrecord
    have hsome := row?_eq_some hfailed
    refine ⟨c', _, ?_, hfilled.trans hwrites, ?_, .inr ⟨⟨_, rfl, hsome⟩, cursor, rfl, hhits⟩⟩
    · rw [hsome]
      exact Cache.execute_of_not_allFailed hfailed hrecord
    · exact (hfilled.trans hwrites).orderly_of_open hc
        ⟨fun row hrow => by cases hrow; rfl, rfl⟩ hopen

end Attempt

end FederatedSearch
