import FederatedSearch.Proofs.Engine.Executing
import FederatedSearch.Proofs.Engine.Explained
import FederatedSearch.Proofs.Engine.Restriction
import FederatedSearch.Proofs.Engine.Window
import FederatedSearch.Proofs.Query.Targets

/-!
# Indexes lose records and nothing else

Of all steps of an engine, two change an index: one flags a record, and one removes records. Neither
adds a record or moves one to another collection. So a record that is still there can still be
resolved, and the hits of an execution can be resolved until records are removed.

* `FederatedSearch.Server.Narrows`: the indexes of a server have lost records at most.
* `FederatedSearch.Engine.Step.narrows_run`: no step does anything else to them.
* `FederatedSearch.Attempt.resolves_of_mem_hits`: hits can be resolved when they are found.
* `FederatedSearch.Engine.Reached.resolves_of_mem_hits`: and as long as no record is removed.
-/

namespace FederatedSearch

open Query

/-! ### Indexes -/

namespace BackendIndex

/-- The ids of the records with their collections. -/
def places (i : BackendIndex) : List (Nat × Nat) := i.records.map fun r => (r.id, r.collection)

/-- **An index that lost records of another** at most. -/
structure Narrows (i j : BackendIndex) : Prop where
  backend : j.backend = i.backend
  places : j.places.Sublist i.places

variable {i j k : BackendIndex}

theorem Narrows.refl (i : BackendIndex) : i.Narrows i := ⟨rfl, .refl _⟩

theorem Narrows.trans (h : i.Narrows j) (h' : j.Narrows k) : i.Narrows k :=
  ⟨h'.backend.trans h.backend, h'.places.trans h.places⟩

theorem ids_eq (i : BackendIndex) : i.records.map (·.id) = i.places.map (·.1) := by
  simp only [places, List.map_map]
  rfl

/-- The ids of the records stay different. -/
theorem Narrows.hasKeys (h : i.Narrows j) (hi : i.HasKeys) : j.HasKeys := by
  unfold HasKeys at *
  rw [ids_eq] at *
  exact (h.places.map _).nodup hi

/-- **A record that is still there** is in the collection that it was in. -/
theorem Narrows.exists_record? (h : i.Narrows j) (hi : i.HasKeys) {id : Nat} {r : Record}
    (hr : j.record? id = some r) :
    ∃ r', i.record? id = some r' ∧ r'.collection = r.collection := by
  have hmem : (r.id, r.collection) ∈ i.places :=
    h.places.subset (List.mem_map_of_mem (List.mem_of_find?_eq_some hr))
  have hid : r.id = id := by simpa using List.find?_some hr
  obtain ⟨r', hr', heq⟩ := List.mem_map.1 hmem
  obtain ⟨hid', hcollection⟩ := Prod.mk.inj heq
  exact ⟨r', hi.record?_eq_some hr' (hid'.trans hid), hcollection⟩

/-- Flagging a record keeps its place. -/
theorem narrows_flagRecord (record : Nat) (i : BackendIndex) :
    i.Narrows (Server.flagRecord record i) := by
  refine ⟨rfl, ?_⟩
  simp only [places, Server.flagRecord]
  induction i.records with
  | nil => exact .slnil
  | cons r rest ih =>
    rw [Server.updateFirst]
    split
    · exact .refl _
    · exact ih.cons_cons _

/-- Removing records takes their places away. -/
theorem narrows_dropRecord (record : Nat) (i : BackendIndex) :
    i.Narrows (Server.dropRecord record i) :=
  ⟨rfl, List.filter_sublist.map _⟩

end BackendIndex

/-! ### Servers -/

namespace Server

/-- **A server whose indexes lost records** at most. -/
def Narrows (s t : Server) : Prop := List.Forall₂ BackendIndex.Narrows s.indexes t.indexes

variable {s t u : Server}

theorem narrows_of_indexes (h : t.indexes = s.indexes) : s.Narrows t := by
  rw [Narrows, h]
  exact List.forall₂_same.2 fun i _ => .refl i

theorem Narrows.trans (h : s.Narrows t) (h' : t.Narrows u) : s.Narrows u := by
  unfold Narrows at *
  generalize s.indexes = is, t.indexes = js, u.indexes = ks at h h' ⊢
  induction h generalizing ks with
  | nil => exact h'
  | cons hi _ ih =>
    cases h' with
    | cons hj hrest => exact .cons (hi.trans hj) (ih _ hrest)

/-- The index of one backend is changed. -/
theorem narrows_updateIndex (s : Server) (backend : Nat) {f : BackendIndex → BackendIndex}
    (hf : ∀ i : BackendIndex, i.Narrows (f i)) : s.Narrows (s.updateIndex backend f) := by
  unfold Narrows updateIndex
  dsimp only
  induction s.indexes with
  | nil => exact .nil
  | cons i rest ih =>
    rw [updateFirst]
    split
    · exact .cons (hf i) (List.forall₂_same.2 fun j _ => .refl j)
    · exact .cons (.refl i) ih

theorem Narrows.catalog_eq (h : s.Narrows t) : t.catalog = s.catalog := by
  have hbackends : t.indexes.map (·.backend) = s.indexes.map (·.backend) := by
    unfold Narrows at h
    generalize s.indexes = is, t.indexes = js at h ⊢
    induction h with
    | nil => rfl
    | cons hi _ ih => rw [List.map_cons, List.map_cons, hi.backend, ih]
  rw [catalog, catalog, hbackends]

theorem Narrows.hasKeys (h : s.Narrows t) (hs : ∀ i ∈ s.indexes, i.HasKeys) :
    ∀ i ∈ t.indexes, i.HasKeys := by
  unfold Narrows at h
  generalize s.indexes = is, t.indexes = js at h hs ⊢
  induction h with
  | nil => exact hs
  | cons hi _ ih =>
    obtain ⟨hfirst, hrest⟩ := List.forall_mem_cons.1 hs
    exact List.forall_mem_cons.2 ⟨hi.hasKeys hfirst, ih hrest⟩

/-- The index of a backend is one that lost records at most. -/
theorem Narrows.exists_index? (h : s.Narrows t) {backend : Nat} {j : BackendIndex}
    (hj : t.index? backend = some j) : ∃ i, s.index? backend = some i ∧ i.Narrows j := by
  unfold index? at *
  unfold Narrows at h
  generalize s.indexes = is, t.indexes = js at h hj ⊢
  induction h with
  | nil => cases hj
  | cons hi _ ih =>
    rw [List.find?_cons] at hj ⊢
    rw [hi.backend] at hj
    split at hj
    · obtain rfl := Option.some.inj hj
      exact ⟨_, rfl, hi⟩
    · exact ih hj

/-- **A hit whose record is still there** can still be resolved. -/
theorem Narrows.resolves (h : s.Narrows t) (hs : ∀ i ∈ s.indexes, i.HasKeys) {hit : Hit}
    (hresolves : s.Resolves hit) (hthere : (t.record? hit.backend hit.record).isSome) :
    t.Resolves hit := by
  obtain ⟨r, hr, howned⟩ := hresolves
  obtain ⟨r', hr'⟩ := Option.isSome_iff_exists.1 hthere
  refine ⟨r', hr', ?_⟩
  obtain ⟨j, hj, hrecord⟩ := Option.bind_eq_some_iff.1 hr'
  obtain ⟨i, hi, hnarrows⟩ := h.exists_index? hj
  obtain ⟨old, hold, hcollection⟩ :=
    hnarrows.exists_record? (hs i (List.mem_of_find?_eq_some hi)) hrecord
  -- the record that is looked up now is the one that was there before
  have hsame : s.record? hit.backend hit.record = some old := by rw [record?, hi]; exact hold
  obtain rfl := Option.some.inj (hr.symm.trans hsame)
  rw [h.catalog_eq, ← hcollection]
  exact howned

end Server

/-! ### Steps -/

namespace Engine

/-- **No step adds a record** or moves one. -/
theorem Step.narrows_run (e : Engine) (s : Step) : e.server.Narrows (s.run e).server := by
  cases s with
  | search caller text offset asked options =>
    exact Server.narrows_of_indexes (congrArg Condition.indexes
      (condition_search ⟨e, caller⟩ text offset asked options))
  | checkSession caller =>
    exact Server.narrows_of_indexes (congrArg (·.condition.indexes)
      (stands_attachesAlong.checkSession ⟨e, caller⟩).setting)
  | clearCache caller =>
    exact Server.narrows_of_indexes (congrArg (·.condition.indexes)
      (stands_attachesAlong.clearCache ⟨e, caller⟩).setting)
  | clearAll cutoff? =>
    exact Server.narrows_of_indexes (congrArg (·.condition.indexes)
      (stands_attachesAlong.clearAll cutoff? e).setting)
  | connect =>
    exact Server.narrows_of_indexes (congrArg (·.condition.indexes)
      (stands_attachesAlong.connect e).setting)
  | update item =>
    simp only [Step.run, Action.step_apply]
    cases item with
    | feedEntry id => exact Server.narrows_of_indexes rfl
    | record backend record | story backend record =>
      simp only [Engine.update, Server.markForReindex]
      cases e.server.record? backend record with
      | none => exact Server.narrows_of_indexes rfl
      | some r =>
        exact e.server.narrows_updateIndex backend (BackendIndex.narrows_flagRecord record)
  | remove item =>
    simp only [Step.run, Action.step_apply]
    cases item with
    | feedEntry id => exact Server.narrows_of_indexes rfl
    | record backend record | story backend record =>
      simp only [Engine.remove, Server.removeRecord]
      cases e.server.index? backend with
      | none => exact Server.narrows_of_indexes rfl
      | some i =>
        dsimp only
        by_cases hany : (i.records.any (·.id == record)) = true
        · rw [if_pos hany]
          exact e.server.narrows_updateIndex backend (BackendIndex.narrows_dropRecord record)
        · rw [if_neg hany]
          exact Server.narrows_of_indexes rfl
  | advance d =>
    simp only [Step.run, onCache, Action.onPart_apply, Action.step_apply, Cache.advance]
    cases e.cache.now.shift? d <;> exact Server.narrows_of_indexes rfl
  | resetCache | setAvailable | setReachable | setClock | setTiming =>
    exact Server.narrows_of_indexes rfl

theorem Reached.narrows {start e : Engine} {h : History} (hreached : Reached start h e) :
    start.server.Narrows e.server := by
  induction hreached with
  | start => exact Server.narrows_of_indexes rfl
  | step s _ ih => exact ih.trans (s.narrows_run _)

end Engine

/-! ### Hits -/

/-- **The hits of a plan can be resolved** where the plan is for collections that may be seen. -/
theorem Server.resolves_of_mem_hitsOf {s : Server} (hs : ∀ i ∈ s.indexes, i.HasKeys)
    {x : Execution} {allowed : List Nat}
    (hcollections : x.collections = s.catalog.authorized x.backend allowed) {h : Hit}
    (hh : h ∈ s.hitsOf x) : s.Resolves h := by
  unfold hitsOf at hh
  cases hanswer : s.answering? x.backend with
  | none =>
    rw [hanswer] at hh
    cases hh
  | some i =>
    rw [hanswer] at hh
    obtain ⟨r, hr, rfl⟩ := List.mem_map.1 hh
    obtain ⟨hindex, -⟩ := Option.filter_eq_some_iff.1 hanswer
    obtain ⟨hmem, hfinds⟩ := List.mem_filter.1 ((Index.sortRecords_perm _ _ _).mem_iff.1 hr)
    refine ⟨r, ?_, ?_⟩
    · rw [record?, hindex]
      exact (hs i (List.mem_of_find?_eq_some hindex)).record?_eq_some hmem rfl
    · simp only [Execution.finds, Bool.and_eq_true, List.contains_iff_mem] at hfinds
      rw [hcollections, authorized_of_index? hindex, Backend.mem_authorized] at hfinds
      obtain ⟨⟨⟨⟨d, hd, hid⟩, -⟩, -⟩, -⟩ := hfinds
      rw [Catalog.resolves, s.backend?_catalog, hindex, Option.map_some, Option.any_some,
        Backend.owns, List.any_eq_true]
      exact ⟨d, hd, beq_iff_eq.2 hid⟩

/-- **The hits of an execution can be resolved** when they are found. -/
theorem Attempt.resolves_of_mem_hits {a : Attempt}
    (hkeys : ∀ i ∈ a.engine.server.indexes, i.HasKeys) {h : Hit} (hh : h ∈ a.hits) :
    a.engine.server.Resolves h := by
  obtain ⟨p, hp, hhp⟩ := List.mem_flatMap.1 hh
  exact Server.resolves_of_mem_hitsOf hkeys (collections_of_mem_plans hp) hhp

/-! ### Runs -/

namespace Engine

/-- **No record is removed** by the step. -/
def Moment.Retains (m : Moment) : Prop :=
  ∀ backend record, (m.before.server.record? backend record).isSome →
    (m.after.server.record? backend record).isSome

variable {start e : Engine} {h : History} {id : String} {a : Attempt}

/-- A search removes no record. -/
theorem Moment.retains_of_search (e : Engine) (k : Caller) (text : String) (offset asked : Nat)
    (options : SearchOptions) : (Moment.mk (.search k text offset asked options) e).Retains := by
  intro backend record hthere
  rw [Server.record?_congr (condition_search ⟨e, k⟩ text offset asked options).symm] at hthere
  exact hthere

/-- A step that comes to an execution leaves the condition of the server as it is. -/
theorem Step.condition_of_attempt? {s : Step} (ha : s.attempt? e = some a) :
    a.engine.server.condition = (s.run e).server.condition := by
  cases s with
  | search caller text offset asked options =>
    obtain ⟨session, v, hattach, rfl, -⟩ := exists_attach_of_attempt? ha
    exact (Cache.condition_eq (Visit.attach_stands hattach).setting).trans
      (condition_search ⟨e, caller⟩ text offset asked options).symm
  | _ => cases ha

/-- **The hits of the last execution in a session can still be resolved** when no record was removed
since then. -/
theorem Reached.resolves_of_mem_hits (hreached : Reached start h e)
    (hkeys : ∀ i ∈ start.server.indexes, i.HasKeys) (ha : h.lastAttempt? id = some a)
    (hsince : ∀ m ∈ h.sinceAttempt id, m.Retains) {hit : Hit} (hhit : hit ∈ a.hits) :
    e.server.Resolves hit := by
  induction hreached with
  | start => cases ha
  | @step h e s hbefore ih =>
    have hkeys' := hbefore.narrows.hasKeys hkeys
    cases hattempt : (Moment.mk s e).attemptIn? id with
    | none =>
      rw [lastAttempt?_cons_of_none hattempt] at ha
      rw [sinceAttempt_cons_of_none hattempt, List.forall_mem_cons] at hsince
      obtain ⟨r, hr, -⟩ := ih ha hsince.2
      exact (s.narrows_run e).resolves hkeys' (ih ha hsince.2)
        (hsince.1 _ _ (Option.isSome_iff_exists.2 ⟨r, hr⟩))
    | some b =>
      rw [lastAttempt?_cons_of_some hattempt] at ha
      obtain rfl := Option.some.inj ha
      -- the execution is that of the step, which changes no index
      have hcondition := Step.condition_of_attempt? (Option.filter_eq_some_iff.1 hattempt).1
      have hindexes : b.engine.server.indexes = (s.run e).server.indexes :=
        congrArg Condition.indexes hcondition
      refine Server.Resolves.congr hcondition (Attempt.resolves_of_mem_hits ?_ hhit)
      rw [hindexes]
      exact (s.narrows_run e).hasKeys hkeys'

end Engine

end FederatedSearch
