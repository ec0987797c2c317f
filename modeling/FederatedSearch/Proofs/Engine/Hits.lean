import FederatedSearch.Engine.Execution
import FederatedSearch.Proofs.Session.Slot

/-!
# The hits of executions

Which hits the plans of a search bring together follows from the condition that the server is in:
each backend that answers gives the hits of its own index, in the order of the plans, and the others
give nothing.

* `FederatedSearch.Server.planHits`: the hits of some plans.
* `FederatedSearch.executePlans_extends`: executing plans appends exactly these to the cursor of the
  session, and changes no other one.
* `FederatedSearch.Summary.total_executePlans`, `FederatedSearch.Summary.allFailed_executePlans`:
  what the summary says of them.
-/

namespace FederatedSearch

open Query

namespace Server

variable {s t : Server}

/-! ### Backends that answer -/

/-- **The index that answers the queries of a backend**, if the backend is up and known and does not
keep silent. -/
def answering? (s : Server) (backend : Nat) : Option BackendIndex :=
  (s.index? backend).filter fun _ => !s.silent.contains backend && s.available backend

/-- The descriptions of the backends are those of their indexes. -/
theorem backend?_catalog (s : Server) (backend : Nat) :
    s.catalog.backend? backend = (s.index? backend).map (·.backend) := by
  simp only [Catalog.backend?, catalog, index?, List.find?_map]
  rfl

/-- The hits that a query finds on its backend. -/
def hitsOf (s : Server) (x : Execution) : List Hit :=
  ((s.answering? x.backend).map x.hits).getD []

/-- The report on a query that its backend answers. -/
def reportOf? (s : Server) (x : Execution) : Option Report :=
  (s.answering? x.backend).map fun i => ⟨s.elapsedOn x.backend, (x.hits i).length⟩

/-- **The hits of some plans**, one after the other. -/
def planHits (s : Server) (o : SearchOptions) (session : String) (plans : List Plan) : List Hit :=
  plans.flatMap fun p => s.hitsOf (p.execution s.catalog o session)

/-- The reports on some plans. -/
def planReports (s : Server) (o : SearchOptions) (session : String) (plans : List Plan) :
    List (Nat × Report) :=
  plans.filterMap fun p =>
    (s.reportOf? (p.execution s.catalog o session)).map fun r => (p.backend, r)

/-! ### Servers in one condition -/

theorem catalog_congr (h : s.condition = t.condition) : s.catalog = t.catalog := by
  have hindexes : s.indexes = t.indexes := congrArg Condition.indexes h
  rw [catalog, catalog, hindexes]

theorem answering?_congr (h : s.condition = t.condition) (backend : Nat) :
    s.answering? backend = t.answering? backend := by
  have hindexes : s.indexes = t.indexes := congrArg Condition.indexes h
  have hdown : s.down = t.down := congrArg Condition.down h
  have hreachable : s.reachable = t.reachable := congrArg Condition.reachable h
  have hsilent : s.silent = t.silent := congrArg Condition.silent h
  simp only [answering?, available, index?, hindexes, hdown, hreachable, hsilent]

theorem planHits_congr (h : s.condition = t.condition) (o : SearchOptions) (session : String)
    (plans : List Plan) : s.planHits o session plans = t.planHits o session plans := by
  simp only [planHits, hitsOf, answering?_congr h, catalog_congr h]

/-- Where no backend answers there are no hits. -/
theorem planHits_eq_nil {plans : List Plan}
    (h : (plans.all fun p => (s.answering? p.backend).isNone) = true) (o : SearchOptions)
    (session : String) : s.planHits o session plans = [] := by
  rw [planHits, List.flatMap_eq_nil_iff]
  intro p hp
  have hnone : s.answering? p.backend = none :=
    Option.isNone_iff_eq_none.1 (List.all_eq_true.1 h p hp)
  simp only [hitsOf, show (p.execution s.catalog o session).backend = p.backend from rfl, hnone]
  rfl

theorem planReports_congr (h : s.condition = t.condition) (htiming : s.timing = t.timing)
    (o : SearchOptions) (session : String) (plans : List Plan) :
    s.planReports o session plans = t.planReports o session plans := by
  simp only [planReports, reportOf?, elapsedOn, htiming, answering?_congr h, catalog_congr h]

/-! ### One execution -/

/-- **A server that took up hits in a session.** Nothing else changes that answers depend on. -/
structure Extends (s t : Server) (session : String) (hits : List Hit) : Prop where
  condition : t.condition = s.condition
  timing : t.timing = s.timing
  nextSession : t.nextSession = s.nextSession
  others : ∀ id ≠ session, t.cursor? id = s.cursor? id
  cursor : ∀ c, s.cursor? session = some c →
    ∃ c', t.cursor? session = some c' ∧ c'.hits = c.hits ++ hits

theorem Extends.refl (s : Server) (session : String) : s.Extends s session [] :=
  ⟨rfl, rfl, rfl, fun _ _ => rfl, fun c hc => ⟨c, hc, (List.append_nil _).symm⟩⟩

theorem Extends.trans {u : Server} {session : String} {hits hits' : List Hit}
    (h : s.Extends t session hits) (h' : t.Extends u session hits') :
    s.Extends u session (hits ++ hits') := by
  refine ⟨h'.condition.trans h.condition, h'.timing.trans h.timing,
    h'.nextSession.trans h.nextSession, fun id hid => (h'.others id hid).trans (h.others id hid),
    fun c hc => ?_⟩
  obtain ⟨c₁, hc₁, hhits₁⟩ := h.cursor c hc
  obtain ⟨c₂, hc₂, hhits₂⟩ := h'.cursor c₁ hc₁
  exact ⟨c₂, hc₂, by rw [hhits₂, hhits₁, List.append_assoc]⟩

theorem Extends.isSome {session : String} {hits : List Hit} (h : s.Extends t session hits)
    (hopen : (s.cursor? session).isSome) : (t.cursor? session).isSome := by
  obtain ⟨c, hc⟩ := Option.isSome_iff_exists.1 hopen
  obtain ⟨c', hc', -⟩ := h.cursor c hc
  rw [hc']
  rfl

/-- Emptying the cursor of an open session. -/
theorem clearResults_eq {session : String} {c : Cursor} (hc : s.cursor? session = some c) :
    s.clearResults session = s.putCursor session (.empty c.user) := by
  simp only [clearResults, hc]

theorem cursor?_putCursor (s : Server) (session : String) (c : Cursor) (id : String) :
    (s.putCursor session c).cursor? id = if session = id then some c else s.cursor? id :=
  Table.find?_insert (fun _ _ => Text.cmpText_eq_iff) id session c s.sessions

theorem afterExecution_extends {x : Execution} {i : BackendIndex} {c : Cursor}
    (hc : s.cursor? x.session = some c) :
    s.Extends (s.afterExecution x i c) x.session (x.hits i) := by
  have hput := s.cursor?_putCursor x.session (c.append (x.hits i) x.query.positiveTerms x.stemming)
  refine ⟨rfl, rfl, rfl, fun id hid => ?_, fun d hd => ?_⟩
  · exact (hput id).trans (if_neg (Ne.symm hid))
  · obtain rfl : c = d := Option.some.inj (hc.symm.trans hd)
    exact ⟨_, (hput x.session).trans (if_pos rfl), rfl⟩

/-- **An execution changes cursors and a count** and nothing else, whatever comes of it. -/
theorem execute_eq (s : Server) (x : Execution) :
    ∃ sessions executions, (s.execute x).2 = { s with sessions, executions } := by
  unfold execute
  split
  · exact ⟨_, _, rfl⟩
  · split
    · exact ⟨_, _, rfl⟩
    · cases s.index? x.backend with
      | none => exact ⟨_, _, rfl⟩
      | some i => cases s.cursor? x.session <;> exact ⟨_, _, rfl⟩

theorem condition_execute (s : Server) (x : Execution) :
    (s.execute x).2.condition = s.condition := by
  obtain ⟨sessions, executions, h⟩ := s.execute_eq x
  rw [h]
  rfl

/-- **An execution in an open session** appends the hits of the query, and gives a report exactly
when the backend answers. -/
theorem execute_extends {x : Execution} (hopen : (s.cursor? x.session).isSome) :
    s.Extends (s.execute x).2 x.session (s.hitsOf x) ∧
      Outcome.report? ⟨x.backend, (s.execute x).1⟩ =
        (s.reportOf? x).map fun r => (x.backend, r) := by
  obtain ⟨c, hc⟩ := Option.isSome_iff_exists.1 hopen
  simp only [execute, hitsOf, reportOf?, answering?]
  cases s.silent.contains x.backend with
  | true => cases s.index? x.backend <;> exact ⟨.refl s _, rfl⟩
  | false =>
    cases s.available x.backend with
    | false => cases s.index? x.backend <;> exact ⟨.refl s _, rfl⟩
    | true =>
      cases s.index? x.backend with
      | none => exact ⟨.refl s _, rfl⟩
      | some i =>
        -- the backend answers
        simp only [hc]
        exact ⟨afterExecution_extends hc, rfl⟩

end Server

/-! ### Executing plans -/

section Plans

variable {s : Server} {session : String}

/-- **Executing plans changes cursors and a count** and nothing else. -/
theorem executePlans_eq (o : SearchOptions) (session : String) (plans : List Plan) (s : Server) :
    ∃ sessions executions,
      (executePlans o session plans s).2 = { s with sessions, executions } := by
  induction plans generalizing s with
  | nil => exact ⟨_, _, rfl⟩
  | cons p rest ih =>
    obtain ⟨sessions, executions, hfirst⟩ := s.execute_eq (p.execution s.catalog o session)
    obtain ⟨sessions', executions', hrest⟩ := ih (s.execute (p.execution s.catalog o session)).2
    exact ⟨sessions', executions', hrest.trans (by rw [hfirst])⟩

theorem condition_executePlans (o : SearchOptions) (session : String) (plans : List Plan)
    (s : Server) : (executePlans o session plans s).2.condition = s.condition := by
  obtain ⟨sessions, executions, h⟩ := executePlans_eq o session plans s
  rw [h]
  rfl

/-- **Executing plans in an open session** appends the hits of all of them. -/
theorem executePlans_extends (o : SearchOptions) (plans : List Plan)
    (hopen : (s.cursor? session).isSome) :
    s.Extends (executePlans o session plans s).2 session (s.planHits o session plans) := by
  induction plans generalizing s with
  | nil => exact .refl s session
  | cons p rest ih =>
    have hfirst := (Server.execute_extends (x := p.execution s.catalog o session) hopen).1
    -- the rest is executed on another server, but one in the same condition
    have hrest := ih (hfirst.isSome hopen)
    rw [Server.planHits_congr hfirst.condition] at hrest
    exact hfirst.trans hrest

/-- The reports are those of the backends that answer. -/
theorem executePlans_reports (o : SearchOptions) (plans : List Plan)
    (hopen : (s.cursor? session).isSome) :
    (executePlans o session plans s).1.filterMap Outcome.report? =
      s.planReports o session plans := by
  induction plans generalizing s with
  | nil => rfl
  | cons p rest ih =>
    obtain ⟨hfirst, hreport⟩ :=
      Server.execute_extends (x := p.execution s.catalog o session) hopen
    have hrest := ih (hfirst.isSome hopen)
    rw [Server.planReports_congr hfirst.condition hfirst.timing] at hrest
    simp only [executePlans, Server.planReports, List.filterMap_cons] at hrest ⊢
    rw [show (p.execution s.catalog o session).backend = p.backend from rfl] at hreport
    rw [hreport, hrest]

/-- Every plan has an outcome. -/
theorem length_executePlans (o : SearchOptions) (plans : List Plan) (s : Server) :
    (executePlans o session plans s).1.length = plans.length := by
  induction plans generalizing s with
  | nil => rfl
  | cons p rest ih => simp [executePlans, ih]

theorem isEmpty_executePlans (o : SearchOptions) (plans : List Plan) (s : Server) :
    (executePlans o session plans s).1.isEmpty = plans.isEmpty := by
  rw [Bool.eq_iff_iff, List.isEmpty_iff, List.isEmpty_iff, ← List.length_eq_zero_iff,
    length_executePlans, List.length_eq_zero_iff]

end Plans

namespace Summary

/-- An outcome is a report, or silence, or a failure. -/
theorem isEmpty_outcomes (unparsed : List Nat) (outcomes : List Outcome) :
    outcomes.isEmpty = ((ofOutcomes unparsed outcomes).results.isEmpty &&
      ((ofOutcomes unparsed outcomes).failures.isEmpty &&
        (ofOutcomes unparsed outcomes).empty.isEmpty)) := by
  cases outcomes with
  | nil => rfl
  | cons x rest =>
    obtain ⟨backend, result⟩ := x
    rcases result with e | _ | r <;>
      simp [ofOutcomes, Outcome.report?, Outcome.silent?, Outcome.failed?]

variable {s : Server} {session : String}

/-- **The total is the number of hits.** -/
theorem total_executePlans (o : SearchOptions) (unparsed : List Nat) (plans : List Plan)
    (hopen : (s.cursor? session).isSome) :
    (ofOutcomes unparsed (executePlans o session plans s).1).total =
      (s.planHits o session plans).length := by
  simp only [total, ofOutcomes]
  rw [executePlans_reports o plans hopen]
  induction plans with
  | nil => rfl
  | cons p rest ih =>
    simp only [Server.planReports, Server.planHits, List.filterMap_cons, List.flatMap_cons,
      List.length_append, Server.reportOf?, Server.hitsOf] at ih ⊢
    cases s.answering? (p.execution s.catalog o session).backend with
    | none => simpa using ih
    | some i => simpa using ih

/-- There is no report when no backend answers. -/
theorem isEmpty_planReports (o : SearchOptions) (plans : List Plan) :
    (s.planReports o session plans).isEmpty =
      plans.all fun p => (s.answering? p.backend).isNone := by
  induction plans with
  | nil => rfl
  | cons p rest ih =>
    simp only [Server.planReports, List.filterMap_cons, Server.reportOf?, List.all_cons] at ih ⊢
    rw [← ih, show (p.execution s.catalog o session).backend = p.backend from rfl]
    cases s.answering? p.backend <;> rfl

/-- **Everything failed** when something was asked for and no backend answered. -/
theorem allFailed_executePlans (o : SearchOptions) (unparsed : List Nat) (plans : List Plan)
    (hopen : (s.cursor? session).isSome) :
    (ofOutcomes unparsed (executePlans o session plans s).1).allFailed =
      ((plans.all fun p => (s.answering? p.backend).isNone) &&
        !(plans.isEmpty && unparsed.isEmpty)) := by
  have hall := isEmpty_outcomes unparsed (executePlans o session plans s).1
  have hresults : (ofOutcomes unparsed (executePlans o session plans s).1).results.isEmpty =
      plans.all fun p => (s.answering? p.backend).isNone := by
    rw [← isEmpty_planReports o plans, ← executePlans_reports o plans hopen]
    rfl
  rw [isEmpty_executePlans, hresults] at hall
  rw [allFailed, hresults]
  -- Without reports, there is a failure or a silent backend for each plan.
  generalize (plans.all fun p => (s.answering? p.backend).isNone) = failed at hall ⊢
  cases failed with
  | false => rfl
  | true =>
    rw [Bool.true_and] at hall
    rw [hall]
    rfl

end Summary

end FederatedSearch
