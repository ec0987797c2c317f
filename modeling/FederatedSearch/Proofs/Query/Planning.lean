import FederatedSearch.Proofs.Query.Targets
import FederatedSearch.Query.Suggestion
import Mathlib.Data.List.Basic

/-!
# All or nothing

A search is asked of the backends that own a collection the caller may see. Each of them has a query
of its own, made of one text by the clauses of the options. When no name of a field is a keyword,
the clauses can be read with any text that can be read and repair no other, so the queries of all
backends are read or all are refused, together with the text itself. No backend is lost: every one
of them has a plan, or every one is refused, in the order and as often as the search names them.

* `FederatedSearch.Query.targeted`: the backends that are asked.
* `FederatedSearch.Query.plan_all_or_nothing`: **all of them are planned, or all are refused**.
-/

namespace FederatedSearch.Query

variable {c : Catalog} {thesaurus? : Nat → Option Thesaurus} {o : SearchOptions}
  {raw text : String} {id : Nat}

/-- A backend is described, and owns a collection that the caller may see. -/
def isTargeted (c : Catalog) (o : SearchOptions) (id : Nat) : Bool :=
  (c.backend? id).any fun b => o.collections.any b.owns

/-- **The backends that are asked**, in the order and as often as the search names them. -/
def targeted (c : Catalog) (o : SearchOptions) : List Nat := o.backends.filter (isTargeted c o)

/-- A backend is asked when the caller may see one of its collections. -/
theorem isTargeted_iff : isTargeted c o id = true ↔ c.authorized id o.collections ≠ [] := by
  unfold isTargeted Catalog.authorized
  cases c.backend? id with
  | none => simp
  | some b =>
    simp only [Option.any_some, List.any_eq_true, Option.map_some, Option.getD_some]
    constructor
    · rintro ⟨n, hn, howns⟩
      obtain ⟨d, hd, heq⟩ := List.any_eq_true.1 howns
      exact List.ne_nil_of_mem (Backend.mem_authorized.2 ⟨⟨d, hd, beq_iff_eq.1 heq⟩, hn⟩)
    · intro hne
      obtain ⟨n, hn⟩ := List.exists_mem_of_ne_nil _ hne
      obtain ⟨⟨d, hd, heq⟩, hallowed⟩ := Backend.mem_authorized.1 hn
      exact ⟨n, hallowed, List.any_eq_true.2 ⟨d, hd, beq_iff_eq.2 heq⟩⟩

/-- A text is refused in the same way by compiling and by reading. -/
theorem compile_eq_error_iff {source : String} {e : SyntaxError} :
    compile source = .error e ↔ parse source = .error e := by
  rw [compile]
  cases parse source <;> simp [bind, Except.bind, pure, Except.pure]

/-! ### One backend -/

/-- **A backend that is asked is planned** when the queries can be read, and no other is. -/
theorem target_of_readable (c : Catalog) (thesaurus? : Nat → Option Thesaurus)
    (h : Readable text o) (id : Nat) :
    (target c thesaurus? o text id).failure? = none ∧
      (target c thesaurus? o text id).plan?.map (fun p => (p.backend, p.collections)) =
        if isTargeted c o id then some (id, c.authorized id o.collections) else none := by
  rcases target_cases c thesaurus? o text id with
    ⟨hempty, htarget⟩ | ⟨hsome, ⟨hunread, -⟩ | ⟨-, b, q, -, -, htarget⟩⟩
  · have hnot : isTargeted c o id = false := by simp [← Bool.not_eq_true, isTargeted_iff, hempty]
    simp [htarget, hnot, Target.failure?, Target.plan?]
  · exact absurd h hunread
  · obtain ⟨p, hp, hbackend, hcollections, hfailure⟩ :=
      targetOf_planned b thesaurus? id (c.authorized id o.collections) q
    simp [htarget, hp, hbackend, hcollections, hfailure, isTargeted_iff.2 hsome]

/-- **A backend that is asked is refused** when the queries cannot be read, and no other is. -/
theorem target_of_not_readable (c : Catalog) (thesaurus? : Nat → Option Thesaurus)
    (h : ¬ Readable text o) (id : Nat) :
    (target c thesaurus? o text id).plan? = none ∧
      (target c thesaurus? o text id).failure?.map (·.1) =
        (if isTargeted c o id then some id else none) ∧
      ∀ f ∈ (target c thesaurus? o text id).failure?,
        parse (backendQueryText text o f.1) = .error f.2 := by
  rcases target_cases c thesaurus? o text id with
    ⟨hempty, htarget⟩ | ⟨hsome, ⟨-, e, he, htarget⟩ | ⟨hread, -⟩⟩
  · have hnot : isTargeted c o id = false := by simp [← Bool.not_eq_true, isTargeted_iff, hempty]
    simp [htarget, hnot, Target.failure?, Target.plan?]
  · simp [htarget, Target.failure?, Target.plan?, isTargeted_iff.2 hsome,
      compile_eq_error_iff.1 he]
  · exact absurd hread h

/-! ### All backends -/

/-- What is kept of a list, changed, is what a filter keeps of it, changed. -/
theorem map_filterMap_eq {α β γ : Type} {f : α → Option β} {g : β → γ} {p : α → Bool} {k : α → γ}
    (as : List α) (h : ∀ a, (f a).map g = if p a then some (k a) else none) :
    (as.filterMap f).map g = (as.filter p).map k := by
  rw [List.map_filterMap, ← List.filterMap_eq_map, List.filterMap_filter]
  exact List.filterMap_congr fun a _ => h a

/-- The text is compiled for the suggestions exactly when it is read. -/
theorem isSome_main : (plan c thesaurus? raw o).main.isSome = true ↔
    ∃ e, parse (queryText raw o) = .ok e := by
  have hmain : (plan c thesaurus? raw o).main.isSome =
      (compile (queryText raw o)).toOption.isSome := by
    simp only [plan]
    split
    · rfl
    · rw [Option.isSome_map]
  rw [hmain]
  cases hparse : parse (queryText raw o) with
  | error e => simp [compile_eq_error_iff.2 hparse, Except.toOption]
  | ok e => simp [compile_eq_ok_iff.2 ⟨e, hparse, rfl⟩, Except.toOption]

/-- **A search that is read** has a plan for every backend that is asked, with the collections that
the caller may see. -/
theorem plan_of_readable (h : Readable (queryText raw o) o) :
    (plan c thesaurus? raw o).main.isSome = true ∧ (plan c thesaurus? raw o).failures = [] ∧
      (plan c thesaurus? raw o).plans.map (fun p => (p.backend, p.collections)) =
        (targeted c o).map fun id => (id, c.authorized id o.collections) := by
  refine ⟨isSome_main.2 h.text, failures_eq_nil h, ?_⟩
  simp only [plan, List.filterMap_map]
  exact map_filterMap_eq _ fun id => (target_of_readable c thesaurus? h id).2

/-- **A search whose text is refused** is refused for every backend that is asked, with the error of
the query of that backend, and proposes nothing. -/
theorem plan_of_not_readable (h : ¬ ∃ e, parse (queryText raw o) = .ok e) :
    (plan c thesaurus? raw o).main = none ∧ (plan c thesaurus? raw o).plans = [] ∧
      (plan c thesaurus? raw o).failures.map (·.1) = targeted c o ∧
      (∀ f ∈ (plan c thesaurus? raw o).failures,
        parse (backendQueryText (queryText raw o) o f.1) = .error f.2) ∧
      suggestions (plan c thesaurus? raw o) = [] ∧
      ∀ language, panel? language (plan c thesaurus? raw o) = none := by
  have hunread : ¬ Readable (queryText raw o) o := fun hread => h hread.text
  have hmain : (plan c thesaurus? raw o).main = none := by
    rw [← Option.not_isSome_iff_eq_none, isSome_main]
    exact h
  have htarget := fun id => target_of_not_readable c thesaurus? hunread id
  refine ⟨hmain, ?_, ?_, ?_, ?_, ?_⟩
  · simp only [plan, List.filterMap_map, List.filterMap_eq_nil_iff]
    exact fun id _ => (htarget id).1
  · have hfailures := map_filterMap_eq (k := fun n => n) o.backends fun id => (htarget id).2.1
    simp only [plan, List.filterMap_map, targeted]
    exact hfailures.trans (List.map_id' _)
  · intro f hf
    simp only [plan, List.filterMap_map, List.mem_filterMap] at hf
    obtain ⟨id, -, hid⟩ := hf
    exact (htarget id).2.2 f hid
  · simp [suggestions, hmain]
  · intro language
    simp [panel?, hmain]

/-- **All or nothing.** When no name of a field is a keyword, a search whose text is read is planned
for exactly the backends that are asked, in order, and nothing is refused; a search whose text is
refused is refused for exactly these backends, with the error of the query of each, and nothing is
executed or proposed. -/
theorem plan_all_or_nothing (hnames : NoKeywords o) (c : Catalog)
    (thesaurus? : Nat → Option Thesaurus) (raw : String) :
    ((∃ e, parse (queryText raw o) = .ok e) →
      (plan c thesaurus? raw o).main.isSome = true ∧ (plan c thesaurus? raw o).failures = [] ∧
        (plan c thesaurus? raw o).plans.map (fun p => (p.backend, p.collections)) =
          (targeted c o).map fun id => (id, c.authorized id o.collections)) ∧
      ((¬ ∃ e, parse (queryText raw o) = .ok e) →
        (plan c thesaurus? raw o).main = none ∧ (plan c thesaurus? raw o).plans = [] ∧
          (plan c thesaurus? raw o).failures.map (·.1) = targeted c o ∧
          (∀ f ∈ (plan c thesaurus? raw o).failures,
            parse (backendQueryText (queryText raw o) o f.1) = .error f.2) ∧
          suggestions (plan c thesaurus? raw o) = [] ∧
          ∀ language, panel? language (plan c thesaurus? raw o) = none) :=
  ⟨fun hread => plan_of_readable ⟨hread, hnames.writable⟩, plan_of_not_readable⟩

/-- A search of two backends, one of them named twice and one that is not described, with a
restriction to a field: one text is planned for both, and another, with a parenthesis that is left
open, is refused for both. -/
theorem plan_all_or_nothing_of_two_backends :
    ∃ (c : Catalog) (o : SearchOptions), NoKeywords o ∧
      (plan c (fun _ => none) "sea" o).plans.map (fun p => (p.backend, p.collections)) =
        [(2, [20]), (1, [10, 11]), (2, [20])] ∧
      (plan c (fun _ => none) "(sea" o).plans = [] ∧
      (plan c (fun _ => none) "(sea" o).failures.map (·.1) = [2, 1, 2] := by
  obtain ⟨c, hc⟩ : ∃ c : Catalog, c = ⟨[⟨1, "one", [⟨10, "a"⟩, ⟨11, "b"⟩, ⟨12, "c"⟩], []⟩,
    ⟨2, "two", [⟨20, "d"⟩], []⟩]⟩ := ⟨_, rfl⟩
  obtain ⟨o, ho⟩ : ∃ o : SearchOptions, o = {
      backends := [2, 9, 1, 2]
      collections := [20, 11, 10]
      fields := ["Title"] } := ⟨_, rfl⟩
  have hnames : NoKeywords o := by
    rw [ho]
    decide
  have htargeted : (targeted c o).map (fun id => (id, c.authorized id o.collections)) =
      [(2, [20]), (1, [10, 11]), (2, [20])] := by
    rw [hc, ho]
    decide
  have hsea : (parse (queryText "sea" o)).toOption.isSome = true := by
    rw [ho]
    decide +kernel
  have hopen : (parse (queryText "(sea" o)).toOption.isSome = false := by
    rw [ho]
    decide +kernel
  obtain ⟨hread, -⟩ := plan_all_or_nothing hnames c (fun _ => none) "sea"
  obtain ⟨-, hrefused⟩ := plan_all_or_nothing hnames c (fun _ => none) "(sea"
  obtain ⟨e, he⟩ := Option.isSome_iff_exists.1 hsea
  obtain ⟨-, -, hplans⟩ := hread ⟨e, toOption_eq_some_iff.1 he⟩
  have hunread : ¬ ∃ e, parse (queryText "(sea" o) = .ok e := by
    rintro ⟨e, he⟩
    rw [toOption_eq_some_iff.2 he] at hopen
    cases hopen
  obtain ⟨-, hnone, hfailures, -⟩ := hrefused hunread
  refine ⟨c, o, hnames, hplans.trans htargeted, hnone, ?_⟩
  rw [hfailures, hc, ho]
  decide

end FederatedSearch.Query
