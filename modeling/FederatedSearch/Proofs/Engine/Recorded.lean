import FederatedSearch.Proofs.Engine.Deciding
import FederatedSearch.Proofs.Query.Targets

/-!
# What the row of a session records

A row of a query was written by an execution of that query. The execution came to something on some
backend if it asked for any: then the text can be read, and some backend gave a report. An execution
that asks for no backend writes its row as well, whatever its text, since a summary without outcomes
does not count as a failure.

* `FederatedSearch.Attempt.HasTarget`: the execution asks for some backend.
* `FederatedSearch.Engine.Reached.row_recorded`: what a row says of the execution that wrote it.
* `FederatedSearch.Engine.not_forall_row_readable`: a row whose text was never executed, as it
  cannot be read.
-/

namespace FederatedSearch

open Query

/-! ### Executions that write a row -/

namespace Attempt

variable {a : Attempt} {row : Row}

/-- **The execution asks for some backend**: the caller may see one of its collections. -/
def HasTarget (a : Attempt) : Prop :=
  ∃ id ∈ a.effective.backends, a.engine.catalog.authorized id a.effective.collections ≠ []

theorem hasTarget_iff : a.HasTarget ↔ a.request.plans ≠ [] ∨ a.request.failures ≠ [] :=
  plans_or_failures_iff.symm

/-- Reports are given on plans. -/
theorem plans_ne_nil (h : a.summary.results ≠ []) : a.request.plans ≠ [] := by
  intro hplans
  refine h ?_
  simp only [summary, Cache.executed, hplans, executePlans, Summary.ofOutcomes,
    List.filterMap_nil]

/-- **A row is written by an execution that came to something**, if it asked for some backend. -/
theorem answered_iff_hasTarget (h : a.row? = some row) :
    (a.summary.results ≠ [] ∧ ∃ x, parse row.query = .ok x) ↔ a.HasTarget := by
  rw [hasTarget_iff]
  constructor
  · rintro ⟨hresults, -⟩
    exact .inl (plans_ne_nil hresults)
  · intro htarget
    have hresults : a.summary.results ≠ [] := fun hnone => by
      rw [row?_eq_none_iff.2 ⟨htarget, hnone⟩] at h
      cases h
    rw [query_eq h]
    exact ⟨hresults, (readable_of_plan (plans_ne_nil hresults)).text⟩

end Attempt

/-! ### The rows of an engine -/

/-- A row of a text that is looked at by evaluation. -/
theorem Cache.exists_row {c : Cache} {session query : String}
    (h : (c.entry session).toOption.any (·.any (·.query == query)) = true) :
    ∃ row, c.entry session = .ok (some row) ∧ row.query = query := by
  cases hentry : c.entry session with
  | error failure =>
    rw [hentry] at h
    cases h
  | ok row? =>
    rw [hentry] at h
    obtain _ | row := row?
    · cases h
    · exact ⟨row, rfl, beq_iff_eq.1 h⟩

namespace Engine

variable {P : Row → Prop} {start e : Engine} {h : History}

/-- **What the row of a session records.** Let an engine be started over a store without rows that
reads back rows of some kind, and let the rows that are written be of this kind. Then every row of a
query was written by an execution of that query in its session. Some backend gave a report on the
execution, and the text of the row can be read, if the execution asked for some backend, and not
otherwise. -/
theorem Reached.row_recorded (hstart : start.Started P) (hempty : start.cache.store.rows = .ok [])
    (hreached : Reached start h e) (hadmitted : ∀ m ∈ h, m.Admitted P) {id : String} {row : Row}
    (hrow : e.cache.entry id = .ok (some row)) (hquery : row.query ≠ "") :
    ∃ m ∈ h, ∃ a, m.attemptIn? id = some a ∧ a.row? = some row ∧ row.query = a.request.text ∧
      ((a.summary.results ≠ [] ∧ ∃ x, parse row.query = .ok x) ↔ a.HasTarget) := by
  obtain ⟨-, hrows⟩ := hreached.rows hstart.kept hadmitted
  rcases hrows id row hrow with hbefore | hnone | ⟨m, hm, a, ha, hwritten⟩
  · simp only [Cache.entry, Store.get?, hempty, bind, Except.bind] at hbefore
    cases hbefore
  · exact absurd hnone hquery
  · exact ⟨m, hm, a, ha, hwritten, Attempt.query_eq hwritten,
      Attempt.answered_iff_hasTarget hwritten⟩

/-- The row of a search was written by its execution. -/
theorem row_recorded_of_search :
    let s : Step := .search ⟨some 1, none, false⟩ "sea" 0 10 .standard
    ∃ row a, (s.run demo).cache.entry "mem-00000001" = .ok (some row) ∧
      (Moment.mk s demo).attemptIn? "mem-00000001" = some a ∧ row.query = a.request.text ∧
        ((a.summary.results ≠ [] ∧ ∃ x, parse row.query = .ok x) ↔ a.HasTarget) := by
  intro s
  have hwritten : ((s.run demo).cache.entry "mem-00000001").toOption.any
      (·.any (·.query == "sea")) = true := by decide +kernel
  obtain ⟨row, hentry, hquery⟩ := Cache.exists_row hwritten
  have hstart : demo.Started fun _ => True := ⟨Store.memory_faithful (.nil _), rfl⟩
  have hreached : Reached demo [⟨s, demo⟩] (s.run demo) := .step s .start
  obtain ⟨m, hm, a, ha, -, htext, hiff⟩ := Reached.row_recorded hstart rfl hreached
    (fun _ _ => ⟨⟨fun _ => trivial, fun _ _ => trivial⟩, fun _ _ _ _ => trivial⟩) hentry
    (by rw [hquery]; decide)
  obtain rfl := List.mem_singleton.1 hm
  exact ⟨row, a, hentry, ha, htext, hiff⟩

/-- A search for a text that cannot be read, in a collection that no backend has, leaves the text in
the row of its session. -/
theorem not_forall_row_readable :
    ¬∀ (start : Engine) (h : History) (e : Engine), start.Fresh → Reached start h e →
      ∀ (id : String) (row : Row), e.cache.entry id = .ok (some row) → row.query ≠ "" →
        ∃ x, parse row.query = .ok x := by
  intro hreadable
  let s : Step := .search ⟨some 1, none, false⟩ "sea AND" 0 10
    { SearchOptions.standard with collections := [999] }
  have hwritten : ((s.run demo).cache.entry "mem-00000001").toOption.any
      (·.any (·.query == "sea AND")) = true := by decide +kernel
  have hrefused : (parse "sea AND").toOption.isNone = true := by decide +kernel
  obtain ⟨row, hentry, hquery⟩ := Cache.exists_row hwritten
  obtain ⟨x, hx⟩ := hreadable demo _ _ demo_fresh (.step s .start) _ row hentry
    (by rw [hquery]; decide)
  rw [hquery] at hx
  rw [hx] at hrefused
  cases hrefused

end Engine

end FederatedSearch
