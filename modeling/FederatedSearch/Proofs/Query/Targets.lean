import FederatedSearch.Proofs.Query.Composing
import FederatedSearch.Query.Plan

/-!
# What becomes of the backends of a search

A backend that a search asks for is skipped when the caller may see none of its collections. The
query of any other backend is executed or refused, and it is refused for one backend only if it is
refused for all, since the clauses of the options are written in the same way for all.

* `FederatedSearch.Query.Readable`: the queries of the backends can be read.
* `FederatedSearch.Query.target_cases`: **what becomes of one backend**.
* `FederatedSearch.Query.planned_iff`: which backends get a plan.
* `FederatedSearch.Query.plans_or_failures_iff`: a search asks for some backend.
-/

namespace FederatedSearch.Query

variable {c : Catalog} {thesaurus? : Nat → Option Thesaurus} {o : SearchOptions}
  {raw text : String} {id : Nat}

/-- **The queries that are made of a text can be read**: the text can, and the clauses can. -/
structure Readable (text : String) (o : SearchOptions) : Prop where
  text : ∃ e, parse text = .ok e
  clauses : Writable o

/-- A text is compiled when it is read, and its tree is the normal form of what is read. -/
theorem compile_eq_ok_iff {source : String} {q : CompiledQuery} :
    compile source = .ok q ↔
      ∃ e, parse source = .ok e ∧ ⟨source, e.normalize, e.normalize.usesVocabulary⟩ = q := by
  rw [compile, bind_eq_ok_iff]
  constructor
  · rintro ⟨e, he, hq⟩
    exact ⟨e, he, Except.ok.inj hq⟩
  · rintro ⟨e, he, rfl⟩
    exact ⟨e, he, rfl⟩

/-- The query of a backend is compiled when it can be read. -/
theorem exists_compile_iff :
    (∃ q, compile (backendQueryText text o id) = .ok q) ↔ Readable text o := by
  constructor
  · rintro ⟨q, hq⟩
    obtain ⟨e, he, -⟩ := compile_eq_ok_iff.1 hq
    obtain ⟨hclauses, b, hb, -⟩ := parse_backendQueryText_eq_ok_iff.1 he
    exact ⟨⟨b, hb⟩, hclauses⟩
  · rintro ⟨⟨b, hb⟩, hclauses⟩
    exact ⟨_, compile_eq_ok_iff.2
      ⟨_, parse_backendQueryText_eq_ok_iff.2 ⟨hclauses, b, hb, rfl⟩, rfl⟩⟩

/-- **What becomes of one backend**: it is skipped when none of its collections may be seen, and
otherwise its query is refused or executed. -/
theorem target_cases (c : Catalog) (thesaurus? : Nat → Option Thesaurus) (o : SearchOptions)
    (text : String) (id : Nat) :
    c.authorized id o.collections = [] ∧ target c thesaurus? o text id = .skipped ∨
      c.authorized id o.collections ≠ [] ∧
        ((¬Readable text o ∧ ∃ e, compile (backendQueryText text o id) = .error e ∧
            target c thesaurus? o text id = .failed id e) ∨
          Readable text o ∧ ∃ b q, c.backend? id = some b ∧
            compile (backendQueryText text o id) = .ok q ∧ target c thesaurus? o text id =
              targetOf b thesaurus? id (c.authorized id o.collections) q) := by
  unfold target
  cases hb : c.backend? id with
  | none => exact .inl ⟨by simp [Catalog.authorized, hb], rfl⟩
  | some b =>
    dsimp only
    by_cases hempty : c.authorized id o.collections = []
    · exact .inl ⟨hempty, if_pos (List.isEmpty_iff.2 hempty)⟩
    · rw [if_neg (by rwa [List.isEmpty_iff])]
      refine .inr ⟨hempty, ?_⟩
      cases hq : compile (backendQueryText text o id) with
      | error e =>
        refine .inl ⟨fun hread => ?_, e, rfl, rfl⟩
        obtain ⟨q, hq'⟩ := exists_compile_iff.2 hread
        rw [hq] at hq'
        cases hq'
      | ok q => exact .inr ⟨exists_compile_iff.1 ⟨q, hq⟩, b, q, rfl, rfl, rfl⟩

/-- A query that can be read is executed, with or without a thesaurus. -/
theorem targetOf_planned (b : Backend) (thesaurus? : Nat → Option Thesaurus) (id : Nat)
    (collections : List Nat) (q : CompiledQuery) :
    ∃ p, (targetOf b thesaurus? id collections q).plan? = some p ∧ p.backend = id ∧
      p.collections = collections ∧ (targetOf b thesaurus? id collections q).failure? = none := by
  unfold targetOf
  split
  · exact ⟨_, rfl, rfl, rfl, rfl⟩
  · exact ⟨_, rfl, rfl, rfl, rfl⟩

/-- **A backend is planned or not whatever the thesauri are.** -/
theorem planned_iff : (∃ p, (target c thesaurus? o text id).plan? = some p) ↔
    c.authorized id o.collections ≠ [] ∧ Readable text o := by
  rcases target_cases c thesaurus? o text id with
    ⟨hempty, htarget⟩ | ⟨hsome, ⟨hunread, e, -, htarget⟩ | ⟨hread, b, q, -, -, htarget⟩⟩
  · simp [htarget, hempty, Target.plan?]
  · simp [htarget, hunread, Target.plan?]
  · obtain ⟨p, hp, -⟩ := targetOf_planned b thesaurus? id (c.authorized id o.collections) q
    simp [htarget, hp, hsome, hread]

/-- Where there is a plan, it is that of a compiled query. -/
theorem targetOf_of_plan? {p : Plan} (h : (target c thesaurus? o text id).plan? = some p) :
    ∃ b q, compile (backendQueryText text o id) = .ok q ∧ target c thesaurus? o text id =
      targetOf b thesaurus? id (c.authorized id o.collections) q := by
  rcases target_cases c thesaurus? o text id with
    ⟨-, htarget⟩ | ⟨-, ⟨-, e, -, htarget⟩ | ⟨-, b, q, -, hq, htarget⟩⟩
  · rw [htarget] at h
    cases h
  · rw [htarget] at h
    cases h
  · exact ⟨b, q, hq, htarget⟩

/-- **The plan of a backend** is for this backend, and searches the collections that may be seen. -/
theorem of_plan? {p : Plan} (h : (target c thesaurus? o text id).plan? = some p) :
    p.backend = id ∧ p.collections = c.authorized id o.collections := by
  obtain ⟨b, q, -, htarget⟩ := targetOf_of_plan? h
  obtain ⟨p', hp', hbackend, hcollections, -⟩ :=
    targetOf_planned b thesaurus? id (c.authorized id o.collections) q
  rw [htarget, hp'] at h
  exact Option.some.inj h ▸ ⟨hbackend, hcollections⟩

/-! ### Searches -/

theorem mem_plans {p : Plan} : p ∈ (plan c thesaurus? raw o).plans ↔
    p.backend ∈ o.backends ∧
      (target c thesaurus? o (queryText raw o) p.backend).plan? = some p := by
  simp only [plan, List.filterMap_map, List.mem_filterMap, Function.comp_apply]
  constructor
  · rintro ⟨id, hid, hp⟩
    obtain rfl := (of_plan? hp).1
    exact ⟨hid, hp⟩
  · rintro ⟨hid, hp⟩
    exact ⟨_, hid, hp⟩

theorem collections_of_mem_plans {p : Plan} (hp : p ∈ (plan c thesaurus? raw o).plans) :
    p.collections = c.authorized p.backend o.collections :=
  (of_plan? (mem_plans.1 hp).2).2

/-- **A search asks for some backend**: it has a plan or a refused query exactly when one of its
backends has a collection that may be seen. -/
theorem plans_or_failures_iff :
    (plan c thesaurus? raw o).plans ≠ [] ∨ (plan c thesaurus? raw o).failures ≠ [] ↔
      ∃ id ∈ o.backends, c.authorized id o.collections ≠ [] := by
  have hasked : ∀ id, (target c thesaurus? o (queryText raw o) id).plan?.isSome ∨
      (target c thesaurus? o (queryText raw o) id).failure?.isSome ↔
        c.authorized id o.collections ≠ [] := fun id => by
    rcases target_cases c thesaurus? o (queryText raw o) id with
      ⟨hempty, htarget⟩ | ⟨hsome, ⟨-, e, -, htarget⟩ | ⟨-, b, q, -, -, htarget⟩⟩
    · simp [htarget, hempty, Target.plan?, Target.failure?]
    · simp [htarget, hsome, Target.failure?]
    · obtain ⟨p, hp, -⟩ := targetOf_planned b thesaurus? id (c.authorized id o.collections) q
      simp [htarget, hp, hsome]
  simp only [← hasked, plan, ne_eq, List.filterMap_eq_nil_iff, List.mem_map,
    forall_exists_index, and_imp, forall_apply_eq_imp_iff₂, not_forall, ← Option.isSome_iff_ne_none,
    exists_prop, ← exists_or, ← and_or_left]

/-- **Where something is executed, the text can be read**, and so can the clauses. -/
theorem readable_of_plan (h : (plan c thesaurus? raw o).plans ≠ []) :
    Readable (queryText raw o) o := by
  obtain ⟨p, hp⟩ := List.exists_mem_of_ne_nil _ h
  obtain ⟨-, hplan⟩ := mem_plans.1 hp
  exact (planned_iff.1 ⟨p, hplan⟩).2

/-- **Nothing is refused** when the text and the clauses can be read. -/
theorem failures_eq_nil (h : Readable (queryText raw o) o) :
    (plan c thesaurus? raw o).failures = [] := by
  refine List.filterMap_eq_nil_iff.2 fun t ht => ?_
  obtain ⟨id, -, rfl⟩ := List.mem_map.1 ht
  rcases target_cases c thesaurus? o (queryText raw o) id with
    ⟨-, htarget⟩ | ⟨-, ⟨hunread, -⟩ | ⟨-, b, q, -, -, htarget⟩⟩
  · rw [htarget]
    rfl
  · exact absurd h hunread
  · obtain ⟨p, -, -, -, hfailure⟩ :=
      targetOf_planned b thesaurus? id (c.authorized id o.collections) q
    rw [htarget, hfailure]

end FederatedSearch.Query
