import FederatedSearch.Proofs.Engine.Overflow
import FederatedSearch.Proofs.Session.Operating

/-!
# Files that hold no rows

A file that is not blank and holds no table of rows is corrupt. Every operation on a store reads its
rows first, so on a corrupt file each fails in the same way and nothing is written. A search looks at
the rows for the first time when it sweeps, before it looks at its caller. So it fails then, and all
that it has done is to connect.

* `FederatedSearch.FileState.IsCorrupt`: files that are not blank and hold no rows.
* `FederatedSearch.Store.Operation.perform_of_unreadable`: an operation on a store that cannot be
  read.
* `FederatedSearch.Engine.tend_of_unreadable`: an engine over such a store.
* `FederatedSearch.Engine.corrupt_blocks`: **a corrupt file blocks all operations and searches**, and
  stays as it is.
-/

namespace FederatedSearch

open FederatedSearch.Action Calendar

/-! ### Corrupt files -/

/-- **A corrupt file**: its text is not blank, and it is not a table of rows. -/
inductive FileState.IsCorrupt : FileState → Prop
  | text {contents : String} (hblank : Text.isBlankText contents = false)
      (hdecode : (Json.ofText? contents).bind Row.tableOfJson? = none) : IsCorrupt (.text contents)

/-- The rows of a corrupt file cannot be read. -/
theorem FileState.IsCorrupt.rows_eq {f : FileState} (h : f.IsCorrupt) :
    f.rows = .error (.storage .corruptCache) := by
  cases h with
  | text hblank hdecode =>
    simp only [rows, Row.tableOfText?, hblank, Bool.false_eq_true, if_false, hdecode]

/-! ### Stores that cannot be read -/

namespace Store

variable {s : Store} {failure : Failure}

/-- **An operation on a store that cannot be read** fails, and changes nothing. -/
theorem Operation.perform_of_unreadable (h : s.rows = .error failure) (op : Operation) :
    op.perform s = (.error failure, s) := by
  cases op with
  | get session | list | upsert row | remove session =>
    simp only [perform, map_apply, look_apply, step_apply, stepWith_apply, Store.get?, Store.list,
      Store.upsert, Store.remove, h]
    rfl
  | expired cutoff =>
    simp only [perform, map_apply, look_apply, Store.expired, Store.list, h]
    rfl

end Store

namespace Engine

variable {e e' : Engine} {failure : Failure}

/-- **An engine over a store that cannot be read** is connected, and is not swept: there is no time
to sweep from, or the rows cannot be read. -/
theorem tend_of_unreadable (hrows : e.cache.store.rows = .error failure)
    (hconnect : e.connect = .ok e') :
    e.sweepCutoff = .error .timeOverflow ∧ e.tend = (.error .timeOverflow, e') ∨
      (∃ cutoff, e.sweepCutoff = .ok cutoff) ∧ e.tend = (.error failure, e') := by
  obtain ⟨wired, rfl⟩ := connect_ok hconnect
  have hcutoff : (e.withLink wired true).sweepCutoff = e.sweepCutoff := rfl
  have hstore : (e.withLink wired true).cache.store = e.cache.store := rfl
  rcases e.sweepCutoff_cases with hnone | ⟨cutoff, hsome⟩
  · refine .inl ⟨hnone, ?_⟩
    simp only [tend, bind_apply, step_apply, hconnect, sweep_apply, hcutoff, hnone]
  · refine .inr ⟨⟨cutoff, hsome⟩, ?_⟩
    simp only [tend, bind_apply, step_apply, hconnect, sweep_apply, hcutoff, hsome, onCache,
      onPart_apply, Cache.clearAll, get_apply, look_apply, hstore, Store.expired, Store.list, hrows]
    rfl

/-! ### Corrupt files under an engine -/

/-- **A corrupt file blocks, and stays as it is.** Each operation on it fails for that reason. So
does each search of an engine over it whose text is not too long and which connects, if the time to
sweep from is in the calendar. Whether it is or not, the caller is as before, and so are all sessions
with their cursors and the number of executions; the engine is the one that has connected. -/
theorem corrupt_blocks {f : FileState} (hf : f.IsCorrupt) :
    (∀ op : Store.Operation,
      op.perform (.file f) = (.error (.storage .corruptCache), .file f)) ∧
    ∀ (e e' : Engine) (k : Caller) (text : String) (offset asked : Nat) (options : SearchOptions),
      e.cache.store = .file f → e.checkLength text = .ok () → e.connect = .ok e' →
        ∃ failure, Visit.search text offset asked options ⟨e, k⟩ = (.error failure, ⟨e', k⟩) ∧
          (failure = .storage .corruptCache ↔ ∃ cutoff, e.sweepCutoff = .ok cutoff) ∧
          e'.cache.store = .file f ∧ e'.server.sessions = e.server.sessions ∧
          e'.server.nextSession = e.server.nextSession ∧
          e'.server.executions = e.server.executions := by
  have hrows : (Store.file f).rows = .error (.storage .corruptCache) := hf.rows_eq
  refine ⟨Store.Operation.perform_of_unreadable hrows,
    fun e e' k text offset asked options hstore hlength hconnect => ?_⟩
  have hkept : e'.cache.store = .file f ∧ e'.server.sessions = e.server.sessions ∧
      e'.server.nextSession = e.server.nextSession ∧
      e'.server.executions = e.server.executions := by
    obtain ⟨wired, rfl⟩ := connect_ok hconnect
    exact ⟨hstore, rfl, rfl, rfl⟩
  rcases tend_of_unreadable (hstore ▸ hrows) hconnect with ⟨hnone, htend⟩ | ⟨hsome, htend⟩
  · refine ⟨_, search_of_tend_error hlength htend, ?_, hkept⟩
    simp [hnone]
  · exact ⟨_, search_of_tend_error hlength htend, iff_of_true rfl hsome, hkept⟩

theorem isCorrupt_notJson : (FileState.text "\x7bnot json").IsCorrupt :=
  .text (by decide) (by decide +kernel)

/-- The built-in dataset is searched for the sea over a file that is not JSON. -/
theorem corrupt_blocks_sea :
    ∃ e e' : Engine, e.cache.store = .file (.text "\x7bnot json") ∧
      e.checkLength "sea" = .ok () ∧ e.connect = .ok e' ∧
        Visit.search "sea" 0 10 {} ⟨e, { user := some 1 }⟩ =
          (.error (.storage .corruptCache), ⟨e', { user := some 1 }⟩) := by
  obtain ⟨e, he⟩ : ∃ e : Engine, e = { demo with
    cache := { demo.cache with store := .file (.text "\x7bnot json") } } := ⟨_, rfl⟩
  have hstore : e.cache.store = .file (.text "\x7bnot json") := by rw [he]
  have hlength : e.checkLength "sea" = .ok () := by
    rw [he]
    rfl
  have hconnect : e.connect = .ok (e.withLink true true) := by
    rw [he]
    rfl
  have hcutoff : e.sweepCutoff = .ok ⟨0, 0⟩ := by
    rw [he]
    rfl
  obtain ⟨failure, hsearch, hiff, -⟩ := (corrupt_blocks isCorrupt_notJson).2 e _
    { user := some 1 } "sea" 0 10 {} hstore hlength hconnect
  rw [hiff.2 ⟨_, hcutoff⟩] at hsearch
  exact ⟨e, _, hstore, hlength, hconnect, hsearch⟩

/-- **A search over a corrupt file need not fail for that reason**: an engine whose window leads out
of the calendar fails before it looks at the file. -/
theorem not_forall_search_of_corrupt :
    ¬∀ (f : FileState) (c : Config) (d : Dataset) (now : Instant) (start e' : Engine) (k : Caller)
      (text : String), f.IsCorrupt → c.validate = .ok () → now.InEra →
      ofConfig (.ofDataset d) (.file f) now c = .ok start → start.checkLength text = .ok () →
        start.connect = .ok e' →
          (Visit.search text 0 10 {} ⟨start, k⟩).1 = .error (.storage .corruptCache) := by
  intro hall
  have hera : (⟨1717232400, 0⟩ : Instant).InEra := ⟨by decide, by decide, by decide⟩
  obtain ⟨start, hstart⟩ : ∃ start, ofConfig (.ofDataset Demo.dataset)
      (.file (.text "\x7bnot json")) ⟨1717232400, 0⟩ sweepingLate = .ok start := ⟨_, rfl⟩
  have hcutoff := sweepCutoff_of_sweepingLate hstart hera rfl
  obtain ⟨staleAfter, sweepAfter, -, -, heq⟩ := eq_of_ofConfig hstart
  have hlength : start.checkLength "sea" = .ok () := by
    rw [heq]
    rfl
  have hconnect : start.connect = .ok (start.withLink true true) := by
    rw [heq]
    rfl
  have hsearch := hall _ sweepingLate Demo.dataset _ start _ {} "sea" isCorrupt_notJson
    validate_sweepingLate hera hstart hlength hconnect
  rw [search_of_timeOverflow hlength hconnect hcutoff] at hsearch
  cases hsearch

end Engine

end FederatedSearch
