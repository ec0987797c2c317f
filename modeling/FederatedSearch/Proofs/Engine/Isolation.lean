import FederatedSearch.Index.Demo
import FederatedSearch.Proofs.Engine.Parallel

/-!
# Isolation of collections

Callers that are authorized for some collections cannot learn anything of the records of others. Two
engines are started over datasets that differ in such records only, and then the same callers make
the same searches and ask for the same excerpts at the same times. They get the same answers: the
same records with the same ranks and titles, the same totals, suggestions, proposals and failures,
and the same highlighted values. Only how long executions take may tell the two apart, so that is
left open in both.

* `FederatedSearch.Engine.Call`, `FederatedSearch.Engine.answers`: what is asked of an engine, and
  what it answers.
* `FederatedSearch.Engine.answers_eq_of_restrict_eq`: the answers of both engines are the same.
-/

namespace FederatedSearch.Engine

open FederatedSearch.Action Calendar

/-! ### Calls and answers -/

/-- **What a caller asks for.** -/
inductive Demand where
  /-- A page of a search. -/
  | search (text : String) (offset asked : Nat) (options : SearchOptions)
  /-- The excerpt of a result of the last search. -/
  | excerpt (rank : Nat) (names : List String)

/-- **A call**: when it is made, by whom, and for what. -/
structure Call where
  now : Instant
  caller : Caller
  demand : Demand

/-- The call is for some of the collections that its caller is authorized for, and names them. -/
def Call.Within (allowed : List Nat) (c : Call) : Prop :=
  match c.demand with
  | .search _ _ _ options => options.collections ≠ [] ∧ options.collections ⊆ allowed
  | .excerpt _ _ => True

/-- **An answer.** -/
inductive Answer where
  /-- The outcome of a search, and what became of the caller. -/
  | page (outcome : Except Failure Page) (caller : Caller)
  /-- An excerpt. -/
  | excerpt (values : Excerpt)

/-- **The answer without the time that executions took.** -/
def Answer.untimed : Answer → Answer
  | .page outcome caller => .page (outcome.map Page.untimed) caller
  | .excerpt values => .excerpt values

/-- The seconds that executions take on each backend. -/
abbrev Timing := List (Nat × Number.Binary64)

/-- The engine at a time, when executions take some times. -/
def atTime (e : Engine) (now : Instant) (timing : Timing) : Engine :=
  { e with cache := { e.cache with now, server := { e.server with timing } } }

/-- **Answer a demand of a caller.** -/
def serve (e : Engine) (caller : Caller) : Demand → Answer × Engine
  | .search text offset asked options =>
    let (outcome, v) := Visit.search text offset asked options ⟨e, caller⟩
    (.page outcome v.caller, v.engine)
  | .excerpt rank names => (.excerpt (Visit.excerpt ⟨e, caller⟩ rank names), e)

/-- **The answers to some calls**, one after the other, each with the times that executions take. -/
def answers : List (Timing × Call) → Engine → List Answer
  | [], _ => []
  | (timing, c) :: rest, e =>
    let (answer, e) := (e.atTime c.now timing).serve c.caller c.demand
    answer :: answers rest e

/-! ### Two engines -/

variable {allowed : List Nat} {b : Catalog} {e f : Engine}

theorem SameFor.atTime (h : SameFor allowed b e f) (now : Instant) (timing timing' : Timing) :
    SameFor allowed b (e.atTime now timing) (f.atTime now timing') := by
  refine h.withCache ⟨?_, h.cache.store, rfl, h.cache.staleAfter⟩
  have hserver := h.cache.server
  exact ⟨hserver.catalog, hserver.restrict, hserver.left.of_sessions rfl rfl,
    hserver.right.of_sessions rfl rfl⟩

/-- **One call** has the same answer, and leaves the two the same. -/
theorem SameFor.serve (h : SameFor allowed b e f) {c : Call} (hc : c.Within allowed) :
    (e.serve c.caller c.demand).1.untimed = (f.serve c.caller c.demand).1.untimed ∧
      SameFor allowed b (e.serve c.caller c.demand).2 (f.serve c.caller c.demand).2 := by
  obtain ⟨now, caller, demand⟩ := c
  have hvisit : Visit.SameFor allowed b ⟨e, caller⟩ ⟨f, caller⟩ := ⟨h, rfl⟩
  cases demand with
  | excerpt rank names => exact ⟨congrArg Answer.excerpt (hvisit.excerpt_eq rank names), h⟩
  | search text offset asked options =>
    obtain ⟨hagree, hafter⟩ :=
      Visit.search_parallel text offset asked hc.1 hc.2 _ _ hvisit
    refine ⟨?_, hafter.engine⟩
    have houtcome := hagree.map_eq fun _ _ hpage => hpage
    simp only [Engine.serve, Answer.untimed, houtcome, hafter.caller]

/-- **Some calls**, one after the other. -/
theorem SameFor.answers_eq {calls calls' : List (Timing × Call)}
    (hcalls : calls.map (·.2) = calls'.map (·.2)) (hwithin : ∀ c ∈ calls, c.2.Within allowed)
    (h : SameFor allowed b e f) :
    (answers calls e).map Answer.untimed = (answers calls' f).map Answer.untimed := by
  induction calls generalizing calls' e f with
  | nil =>
    obtain rfl : calls' = [] := List.map_eq_nil_iff.1 hcalls.symm
    rfl
  | cons call rest ih =>
    obtain ⟨timing, c⟩ := call
    obtain ⟨⟨timing', c'⟩, rest', rfl, rfl, hrest⟩ := List.map_eq_cons_iff.1 hcalls.symm
    obtain ⟨hc, hwithin⟩ := List.forall_mem_cons.1 hwithin
    -- the first call finds the two the same, at its time, and leaves them so
    obtain ⟨hanswer, hafter⟩ := (h.atTime c'.now timing timing').serve hc
    simp only [answers, List.map_cons]
    rw [hanswer, ih hrest.symm hwithin hafter]

/-- Two engines that are started over datasets which differ in hidden records only. -/
theorem sameFor_of_ofConfig {d d' : Dataset} (hsame : d.restrict allowed = d'.restrict allowed)
    (hkeys : ∀ i ∈ d.indexes, i.HasKeys) (hkeys' : ∀ i ∈ d'.indexes, i.HasKeys) {now : Instant}
    {config : Config} (he : ofConfig (.ofDataset d) .empty now config = .ok e)
    (hf : ofConfig (.ofDataset d') .empty now config = .ok f) :
    SameFor allowed e.catalog e f := by
  have hserver : Server.SameFor allowed (Server.ofDataset d).catalog (.ofDataset d)
      (.ofDataset d') := by
    have hindexes : d.indexes.map (·.restrict allowed) = d'.indexes.map (·.restrict allowed) :=
      congrArg Dataset.indexes hsame
    refine ⟨rfl, ?_, ⟨hkeys, fun _ _ hc => nomatch hc⟩, ⟨hkeys', fun _ _ hc => nomatch hc⟩⟩
    simp only [Server.restrict, Server.ofDataset, hindexes]
  unfold ofConfig at he hf
  split at he
  · rename_i hstale hsweep
    rw [hstale, hsweep] at hf
    obtain rfl := Except.ok.inj he
    obtain rfl := Except.ok.inj hf
    exact ⟨⟨hserver, ⟨_, _, rfl, rfl, rfl⟩, rfl, rfl⟩, rfl, rfl, rfl⟩
  · cases he

/-- **Hidden records stay hidden**: two engines that are started over datasets which differ in
records of other collections only give the same answers to callers that are authorized for some
collections, whatever they ask for and however long executions take. -/
theorem answers_eq_of_restrict_eq {d d' : Dataset}
    (hsame : d.restrict allowed = d'.restrict allowed)
    (hkeys : ∀ i ∈ d.indexes, i.HasKeys) (hkeys' : ∀ i ∈ d'.indexes, i.HasKeys) {now : Instant}
    {config : Config} (he : ofConfig (.ofDataset d) .empty now config = .ok e)
    (hf : ofConfig (.ofDataset d') .empty now config = .ok f) {calls calls' : List (Timing × Call)}
    (hcalls : calls.map (·.2) = calls'.map (·.2)) (hwithin : ∀ c ∈ calls, c.2.Within allowed) :
    (answers calls e).map Answer.untimed = (answers calls' f).map Answer.untimed :=
  (sameFor_of_ofConfig hsame hkeys hkeys' he hf).answers_eq hcalls hwithin

/-- A search of the press photos for a beach, and the title of the first result. -/
def beachCalls : List Call :=
  [⟨⟨0, 0⟩, { user := some 1 }, .search "beach" 0 10 { collections := [10] }⟩,
    ⟨⟨1, 0⟩, { user := some 1, session := some "mem-00000001" }, .excerpt 0 ["Title"]⟩]

/-- Callers that are authorized for the press photos do not learn whether there are archives. -/
theorem beachCalls_answers : ∃ e f,
    ofConfig (.ofDataset Demo.dataset) .empty ⟨0, 0⟩ {} = .ok e ∧
      ofConfig (.ofDataset (Demo.dataset.restrict [10])) .empty ⟨0, 0⟩ {} = .ok f ∧
        ∀ timing timing' : Timing,
          (answers (beachCalls.map (timing, ·)) e).map Answer.untimed =
            (answers (beachCalls.map (timing', ·)) f).map Answer.untimed := by
  have hsame : Demo.dataset.restrict [10] = (Demo.dataset.restrict [10]).restrict [10] := by
    decide +kernel
  have hwithin : ∀ c ∈ beachCalls, c.Within [10] := by simp [beachCalls, Call.Within]
  obtain ⟨e, he⟩ : ∃ e, ofConfig (.ofDataset Demo.dataset) .empty ⟨0, 0⟩ {} = .ok e := ⟨_, rfl⟩
  obtain ⟨f, hf⟩ : ∃ f,
      ofConfig (.ofDataset (Demo.dataset.restrict [10])) .empty ⟨0, 0⟩ {} = .ok f := ⟨_, rfl⟩
  refine ⟨e, f, he, hf, fun timing timing' => ?_⟩
  refine answers_eq_of_restrict_eq hsame (by decide) (by decide) he hf (by simp) fun p hp => ?_
  obtain ⟨c, hc, rfl⟩ := List.mem_map.1 hp
  exact hwithin c hc

end FederatedSearch.Engine
