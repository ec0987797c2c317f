import FederatedSearch.Proofs.Engine.Answer

/-!
# Windows of hits

A page shows a window of the hits in a cursor. A hit that cannot be resolved is left out, but it
keeps its place: it is counted when windows are cut, and the results behind it have the places that
they would have with it. So windows that lie side by side join to one window, and the results of a
window are all of its hits when each hit can be resolved.

* `FederatedSearch.Server.window`: the results in a window of hits.
* `FederatedSearch.Server.window_append`, `FederatedSearch.Server.flatMap_window`: windows side by
  side.
* `FederatedSearch.Server.window_eq_filter`: a window from the first place on, among all results.
* `FederatedSearch.Server.ranks_window`: the places of the results in a window.
* `FederatedSearch.Server.length_window`: the number of the results when no hit is left out.
-/

namespace FederatedSearch

open Query

/-! ### Results among hits -/

section Results

variable (c : Catalog) (offset : Nat)

theorem resultsFrom_append (n : Nat) (hits hits' : List FetchedHit) :
    resultsFrom c offset n (hits ++ hits') =
      resultsFrom c offset n hits ++ resultsFrom c offset (n + hits.length) hits' := by
  induction hits generalizing n with
  | nil => rfl
  | cons h rest ih =>
    rw [List.cons_append, resultsFrom, ih, resultsFrom, List.cons_append, List.length_cons,
      Nat.add_assoc, Nat.add_comm 1]

/-- Places are counted from the start of the window or from further on. -/
theorem resultsFrom_add (m n : Nat) (hits : List FetchedHit) :
    resultsFrom c (offset + m) n hits = resultsFrom c offset (m + n) hits := by
  induction hits generalizing n with
  | nil => rfl
  | cons h rest ih =>
    have hrank : rankAfter (offset + m) n = rankAfter offset (m + n) := by
      simp only [rankAfter, Nat.add_assoc]
    rw [resultsFrom, resultsFrom, ih, hrank, Nat.add_assoc]

/-- **Results behind others** have the places behind theirs. -/
theorem resultsOf_append (hits hits' : List FetchedHit) :
    resultsOf c offset (hits ++ hits') =
      resultsOf c offset hits ++ resultsOf c (offset + hits.length) hits' := by
  simp only [resultsOf, resultsFrom_append, resultsFrom_add, List.filterMap_append, Nat.zero_add,
    Nat.add_zero]

/-- A result has the place that it is given. -/
theorem rank_of_toResult? {h : FetchedHit} {rank : Nat} {r : Result}
    (hr : h.toResult? c rank = some r) : r.rank = rank := by
  unfold FetchedHit.toResult? at hr
  split at hr
  · cases hr
  · split at hr
    · cases hr
      rfl
    · cases hr

/-- **The places of results** are among those that are counted, in order. -/
theorem ranks_resultsFrom {n : Nat} {hits : List FetchedHit}
    (hmax : offset + n + hits.length ≤ maxRank) :
    (((resultsFrom c offset n hits).filterMap id).map (·.rank)).Sublist
      (List.range' (offset + n) hits.length) := by
  induction hits generalizing n with
  | nil => exact .slnil
  | cons h rest ih =>
    rw [List.length_cons] at hmax
    have hrest := ih (n := n + 1) (by omega)
    rw [resultsFrom, List.length_cons, List.range'_succ, Nat.add_assoc offset n 1]
    cases hresult : h.toResult? c (rankAfter offset n) with
    | none => exact hrest.cons _
    | some r =>
      have hrank : r.rank = offset + n := by
        rw [rank_of_toResult? c hresult, rankAfter, Nat.min_eq_left (by omega)]
      simp only [List.filterMap_cons, id_eq, List.map_cons, hrank]
      exact hrest.cons_cons _

/-- When each hit is a result, there are as many results as hits. -/
theorem length_resultsFrom {n : Nat} {hits : List FetchedHit}
    (h : ∀ x ∈ hits, ∀ rank, (x.toResult? c rank).isSome) :
    ((resultsFrom c offset n hits).filterMap id).length = hits.length := by
  induction hits generalizing n with
  | nil => rfl
  | cons x rest ih =>
    obtain ⟨hx, hrest⟩ := List.forall_mem_cons.1 h
    obtain ⟨r, hr⟩ := Option.isSome_iff_exists.1 (hx (rankAfter offset n))
    have htail := ih (n := n + 1) hrest
    rw [resultsFrom, hr, List.length_cons]
    exact congrArg (· + 1) htail

end Results

/-! ### Windows -/

namespace Server

/-- **The results in a window of hits**: of `count` hits from the place `offset` on. -/
def window (s : Server) (hits : List Hit) (offset count : Nat) : List Result :=
  if s.reachable then
    resultsOf s.catalog offset (((hits.drop offset).take count).map (s.fetchHit id))
  else []

/-- **A hit can be resolved**: its record is there, and the backend owns the collection. -/
def Resolves (s : Server) (h : Hit) : Prop :=
  ∃ r, s.record? h.backend h.record = some r ∧ s.catalog.resolves h.backend r.collection = true

variable {s t : Server}

/-- A window depends on the condition of the server. -/
theorem window_congr (h : s.condition = t.condition) (hits : List Hit) (offset count : Nat) :
    s.window hits offset count = t.window hits offset count := by
  have hreachable : s.reachable = t.reachable := congrArg Condition.reachable h
  have hfetch : s.fetchHit id = t.fetchHit id := by
    funext hit
    simp only [fetchHit, record?_congr h]
  simp only [window, hreachable, catalog_congr h, hfetch]

theorem Resolves.congr (h : s.condition = t.condition) {hit : Hit} (hs : s.Resolves hit) :
    t.Resolves hit := by
  obtain ⟨r, hr, howned⟩ := hs
  exact ⟨r, record?_congr h _ _ ▸ hr, catalog_congr h ▸ howned⟩

/-- A result of a hit is of its record. -/
theorem record?_of_toResult? {hit : Hit} {rank : Nat} {result : Result} {show' : String → String}
    (h : (s.fetchHit show' hit).toResult? s.catalog rank = some result) :
    result.rank = rank ∧ hit = ⟨result.backend, result.record⟩ ∧
      ∃ r, s.record? result.backend result.record = some r ∧ r.collection = result.collection := by
  refine ⟨rank_of_toResult? _ h, ?_⟩
  unfold fetchHit at h
  cases hr : s.record? hit.backend hit.record with
  | none =>
    rw [hr] at h
    cases h
  | some r =>
    simp only [hr, FetchedHit.toResult?] at h
    split at h
    · obtain rfl := Option.some.inj h
      exact ⟨rfl, r, hr, rfl⟩
    · cases h

variable (s) (hits : List Hit) (offset : Nat)

@[simp] theorem window_nil (count : Nat) : s.window [] offset count = [] := by
  simp [window, resultsOf, resultsFrom]

/-- **Windows side by side** join to one window. -/
theorem window_append (m n : Nat) :
    s.window hits offset m ++ s.window hits (offset + m) n = s.window hits offset (m + n) := by
  unfold window
  split
  · rw [List.take_add, List.map_append, resultsOf_append, List.drop_drop, List.length_map,
      List.length_take, List.length_drop]
    by_cases hlen : offset + m ≤ hits.length
    · rw [Nat.min_eq_left (by omega)]
    · -- the first window reaches beyond the last hit, and there is nothing in the second one
      have hnil : hits.drop (offset + m) = [] := List.drop_eq_nil_of_le (by omega)
      rw [hnil]
      simp [resultsOf, resultsFrom]
  · rfl

/-- There is nothing in a window behind the last hit. -/
theorem window_of_length_le {offset : Nat} (h : hits.length ≤ offset) (count : Nat) :
    s.window hits offset count = [] := by
  simp [window, List.drop_eq_nil_of_le h, resultsOf, resultsFrom]

/-- **Windows of one size from the first place on** join to one window. -/
theorem flatMap_window (size n : Nat) :
    (List.range n).flatMap (fun i => s.window hits (i * size) size) =
      s.window hits 0 (n * size) := by
  induction n with
  | zero => simp [window, resultsOf, resultsFrom]
  | succ n ih =>
    have hlast := s.window_append hits 0 (n * size) size
    rw [Nat.zero_add] at hlast
    rw [List.range_succ, List.flatMap_append, ih, List.flatMap_singleton, hlast, Nat.succ_mul]

/-- **The places of the results in a window** ascend, and lie in the window. -/
theorem ranks_window {count : Nat} (hmax : offset + count ≤ maxRank) :
    ((s.window hits offset count).map (·.rank)).Pairwise (· < ·) ∧
      ∀ r ∈ s.window hits offset count, offset ≤ r.rank ∧ r.rank < offset + count := by
  unfold window
  split
  · have hsub : ((resultsOf s.catalog offset
        (((hits.drop offset).take count).map (s.fetchHit id))).map (·.rank)).Sublist
          (List.range' offset (((hits.drop offset).take count).map (s.fetchHit id)).length) := by
      refine ranks_resultsFrom s.catalog offset (n := 0) ?_
      rw [List.length_map, List.length_take]
      omega
    refine ⟨List.Pairwise.sublist hsub List.pairwise_lt_range', fun r hr => ?_⟩
    have hmem := List.mem_range'_1.1 (hsub.subset (List.mem_map_of_mem hr))
    rw [List.length_map, List.length_take] at hmem
    omega
  · simp

/-- **A window from the first place on** has the results whose places are in it. -/
theorem window_eq_filter (hmax : hits.length ≤ maxRank) (count : Nat) :
    s.window hits 0 count = (s.window hits 0 hits.length).filter (·.rank < count) := by
  by_cases hcount : count ≤ hits.length
  · obtain ⟨rest, hrest⟩ := Nat.exists_eq_add_of_le hcount
    have hfirst := (s.ranks_window hits 0 (show 0 + count ≤ maxRank by omega)).2
    have hlast := (s.ranks_window hits count (show count + rest ≤ maxRank by omega)).2
    have hall := s.window_append hits 0 count rest
    rw [Nat.zero_add] at hall
    rw [hrest, ← hall, List.filter_append, List.filter_eq_self.2, List.filter_eq_nil_iff.2,
      List.append_nil]
    · intro r hr
      have hr' := hlast r hr
      simp only [decide_eq_true_eq]
      omega
    · intro r hr
      have hr' := hfirst r hr
      simp only [decide_eq_true_eq]
      omega
  · obtain ⟨rest, hrest⟩ := Nat.exists_eq_add_of_le (Nat.le_of_not_le hcount)
    have hall := s.window_append hits 0 hits.length rest
    rw [Nat.zero_add, s.window_of_length_le hits (Nat.le_refl _), List.append_nil] at hall
    rw [hrest, ← hall, List.filter_eq_self.2]
    intro r hr
    have hr' := (s.ranks_window hits 0 (show 0 + hits.length ≤ maxRank by omega)).2 r hr
    simp only [decide_eq_true_eq]
    omega

variable {hits}

/-- A hit that can be resolved is a result at every place. -/
theorem Resolves.isSome_toResult? {h : Hit} (hh : s.Resolves h) (rank : Nat) :
    ((s.fetchHit id h).toResult? s.catalog rank).isSome := by
  obtain ⟨r, hr, howned⟩ := hh
  simp [fetchHit, FetchedHit.toResult?, hr, howned]

/-- **No hit is left out of a window** when each can be resolved. -/
theorem length_window (hreachable : s.reachable = true) (hresolves : ∀ h ∈ hits, s.Resolves h)
    (count : Nat) :
    (s.window hits offset count).length = min count (hits.length - offset) := by
  rw [window, if_pos hreachable, resultsOf, length_resultsFrom, List.length_map, List.length_take,
    List.length_drop]
  intro x hx
  obtain ⟨h, hmem, rfl⟩ := List.mem_map.1 hx
  exact (hresolves h (List.mem_of_mem_drop (List.mem_of_mem_take hmem))).isSome_toResult? s

end Server

/-! ### Pages -/

/-- **The page of a row** shows a window of the hits in the cursor of its session. -/
theorem Visit.pageOf_window {v : Visit} {session : String} {cursor : Cursor}
    (hcursor : v.engine.server.cursor? session = some cursor) {offset : Nat}
    (hoffset : offset < maxRank) (o : SearchOptions) (r : Request) (count : Nat) (row : Row) :
    (v.pageOf session o r offset count (some row)).records =
        v.engine.server.window cursor.hits offset count ∧
      (v.pageOf session o r offset count (some row)).total = row.total := by
  have hstart : rankAfter offset 1 = offset + 1 := Nat.min_eq_left hoffset
  simp only [pageOf, Server.page, Server.fetch?, hcursor, hstart, Server.window,
    Nat.add_sub_cancel, Option.map_some]
  cases v.engine.server.reachable <;> exact ⟨rfl, rfl⟩

/-- The page of a row at the greatest place shows nothing, as there are not so many hits. -/
theorem Visit.records_pageOf {v : Visit} {session : String} {cursor : Cursor}
    (hcursor : v.engine.server.cursor? session = some cursor) {offset : Nat}
    (hoffset : offset ≤ maxRank) (hfew : cursor.hits.length < maxRank) (o : SearchOptions)
    (r : Request) (count : Nat) (row : Row) :
    (v.pageOf session o r offset count (some row)).records =
      v.engine.server.window cursor.hits offset count := by
  rcases Nat.lt_or_eq_of_le hoffset with hlt | rfl
  · exact (pageOf_window hcursor hlt o r count row).1
  · have hstart : rankAfter maxRank 1 = maxRank := Nat.min_eq_right (Nat.le_succ _)
    have hnil : cursor.hits.drop (maxRank - 1) = [] := List.drop_eq_nil_of_le (by omega)
    rw [Server.window_of_length_le _ _ (Nat.le_of_lt hfew)]
    simp only [pageOf, Server.page, Server.fetch?, hcursor, hstart, hnil, List.take_nil,
      List.map_nil, Option.map_some]
    cases v.engine.server.reachable <;> rfl

end FederatedSearch
