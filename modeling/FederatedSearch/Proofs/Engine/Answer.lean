import FederatedSearch.Proofs.Engine.Attaching
import FederatedSearch.Proofs.Engine.Attempt

/-!
# Answering a search

A search in a session is answered by the row of the session when that is of the same text and not
too old, and executed otherwise. What is shown of the answer depends on little: the hits in the
cursor, the text and the total of the row, and the condition of the server.

* `FederatedSearch.Cache.InMemory.decide_eq_reuse_iff`: when the row answers.
* `FederatedSearch.Attempt.searchIn_of_reuse`, `FederatedSearch.Attempt.searchIn_of_recompute`:
  the two ways of a search in its session.
* `FederatedSearch.Visit.pageOf_congr`: what a page depends on.
-/

namespace FederatedSearch

open Query

/-! ### Decisions -/

namespace Cache

variable {c : Cache} {session query : String} {force : Bool}

/-- **The row of a session answers** a query that is not forced, unless it is stale. -/
theorem decide_of_entry {row : Row} (hrow : c.entry session = .ok (some row)) (query : String)
    (force : Bool) :
    c.decide session query force =
      .ok (if force || row.isStale query c.now c.staleAfter then .recompute else .reuse row) := by
  simp only [Cache.decide, hrow]
  rfl

theorem InMemory.decide_eq (h : c.InMemory) (session query : String) (force : Bool) :
    c.decide session query force = .ok (match (c.slot session).row with
      | none => .recompute
      | some row =>
        if force || row.isStale query c.now c.staleAfter then .recompute else .reuse row) := by
  simp only [Cache.decide, h.entry_eq]
  cases (c.slot session).row <;> rfl

/-- **The row answers** when the query is not forced and the row is not stale. -/
theorem InMemory.decide_eq_reuse_iff (h : c.InMemory) {row : Row} :
    c.decide session query force = .ok (.reuse row) ↔
      force = false ∧ (c.slot session).row = some row ∧
        row.isStale query c.now c.staleAfter = false := by
  rw [h.decide_eq]
  cases (c.slot session).row with
  | none => simp
  | some old =>
    simp only [Except.ok.injEq, Option.some.injEq]
    split
    · rename_i hstale
      constructor
      · intro hrow
        cases hrow
      · rintro ⟨rfl, rfl, hfresh⟩
        simp [hfresh] at hstale
    · rename_i hfresh
      simp only [Bool.or_eq_true, not_or, Bool.not_eq_true] at hfresh
      constructor
      · intro hrow
        cases hrow
        exact ⟨hfresh.1, rfl, hfresh.2⟩
      · rintro ⟨-, rfl, -⟩
        rfl

/-- With rows in memory nothing keeps a decision from being made. -/
theorem InMemory.exists_decide (h : c.InMemory) (session query : String) (force : Bool) :
    c.decide session query force = .ok .recompute ∨
      ∃ row, c.decide session query force = .ok (.reuse row) := by
  rw [h.decide_eq]
  cases (c.slot session).row with
  | none => exact .inl rfl
  | some row =>
    dsimp only
    split
    · exact .inl rfl
    · exact .inr ⟨row, rfl⟩

/-- A blank slot answers no query that has a text. -/
theorem InMemory.decide_of_blank (h : c.InMemory) (hblank : (c.slot session).Blank)
    (hquery : query ≠ "") : c.decide session query force = .ok .recompute := by
  rw [h.decide_eq]
  generalize c.slot session = s at hblank
  cases hblank with
  | vacant => rfl
  | unqueried hempty _ _ => simp [Row.isStale, hempty, hquery.symm]

end Cache

/-! ### Searching in a session -/

namespace Attempt

variable {a : Attempt} {k : Caller} {offset asked : Nat}

/-- The visit after a search, with the cache that it left. The caller has no mark any more. -/
def answered (a : Attempt) (k : Caller) (c : Cache) : Visit :=
  ⟨{ a.engine with cache := c }, { k with force := false }⟩

/-- **A search in a session** is an answer of the cache and the page that is made of it. -/
theorem searchIn_apply (a : Attempt) (k : Caller) (offset asked : Nat) :
    Visit.searchIn a.session a.text offset asked a.options ⟨a.engine, k⟩ =
      match Cache.answer a.session a.effective a.request k.force a.engine.cache with
      | (.ok row?, c) => (.ok ((a.answered k c).pageOf a.session a.effective a.request offset
          (a.engine.pageSize asked) row?), a.answered k c)
      | (.error e, c) => (.error e, a.answered k c) := by
  have htake : Visit.takeForce ⟨a.engine, k⟩ =
      (.ok k.force, ⟨a.engine, { k with force := false }⟩) := rfl
  have honCache : ∀ x : Action Cache (Option Row),
      Visit.onCache x ⟨a.engine, { k with force := false }⟩ =
        ((x a.engine.cache).1, a.answered k (x a.engine.cache).2) := fun _ => rfl
  have heffective : a.engine.effectiveOptions a.options = a.effective := rfl
  have hrequest : a.engine.request a.text a.effective = a.request := rfl
  simp only [Visit.searchIn, Action.bind_apply, Action.get_apply, Action.pure_apply, htake,
    honCache, heffective, hrequest]
  rcases Cache.answer a.session a.effective a.request k.force a.engine.cache with ⟨_ | _, _⟩
  · rfl
  · rfl

/-- **A search that succeeds** gives the page of the row that its cache answers. -/
theorem ok_of_searchIn {page : Page} {v' : Visit}
    (h : Visit.searchIn a.session a.text offset asked a.options ⟨a.engine, k⟩ = (.ok page, v')) :
    ∃ row? c, Cache.answer a.session a.effective a.request k.force a.engine.cache = (.ok row?, c) ∧
      v' = a.answered k c ∧ page = v'.pageOf a.session a.effective a.request offset
        (a.engine.pageSize asked) row? := by
  rw [searchIn_apply] at h
  generalize Cache.answer a.session a.effective a.request k.force a.engine.cache = answer at h
  obtain ⟨failure | row?, c⟩ := answer
  · cases (Prod.mk.inj h).1
  · obtain ⟨hpage, rfl⟩ := Prod.mk.inj h
    exact ⟨row?, c, rfl, rfl, (Except.ok.inj hpage).symm⟩

/-- The engine after a search in a session is that after the answer of its cache. -/
theorem engine_searchIn (a : Attempt) (k : Caller) (offset asked : Nat) :
    (Visit.searchIn a.session a.text offset asked a.options ⟨a.engine, k⟩).2.engine =
      (Engine.onCache (Cache.answer a.session a.effective a.request k.force) a.engine).2 := by
  rw [searchIn_apply, Engine.onCache, Action.onPart_apply]
  rcases Cache.answer a.session a.effective a.request k.force a.engine.cache with ⟨_ | _, _⟩ <;> rfl

/-- **A search that the row answers** changes nothing. -/
theorem searchIn_of_reuse {row : Row}
    (h : a.engine.cache.decide a.session a.request.text k.force = .ok (.reuse row)) :
    Visit.searchIn a.session a.text offset asked a.options ⟨a.engine, k⟩ =
      (.ok ((a.answered k a.engine.cache).pageOf a.session a.effective a.request offset
        (a.engine.pageSize asked) (some row)), a.answered k a.engine.cache) := by
  rw [searchIn_apply]
  simp only [Cache.answer, Action.bind_apply, Action.look_apply, h]
  rfl

/-- **A search that is executed.** -/
theorem searchIn_of_recompute
    (h : a.engine.cache.decide a.session a.request.text k.force = .ok .recompute) {c : Cache}
    (hexecute : Cache.execute a.session a.effective a.request a.engine.cache = (.ok a.row?, c)) :
    Visit.searchIn a.session a.text offset asked a.options ⟨a.engine, k⟩ =
      (.ok ((a.answered k c).pageOf a.session a.effective a.request offset
        (a.engine.pageSize asked) a.row?), a.answered k c) := by
  rw [searchIn_apply]
  simp only [Cache.answer, Action.bind_apply, Action.look_apply, h, hexecute]

/-- **What a search in an open session does to the engine**: nothing when the row answers, and
otherwise it writes the slot of the session. -/
theorem searchIn_cases (hc : a.engine.cache.Orderly)
    (hopen : (a.engine.cache.slot a.session).cursor.isSome) (k : Caller) (offset asked : Nat) :
    let after := (Visit.searchIn a.session a.text offset asked a.options ⟨a.engine, k⟩).2.engine
    let decision := a.engine.cache.decide a.session a.request.text k.force
    (∃ row, decision = .ok (.reuse row) ∧ after = a.engine) ∨
      decision = .ok .recompute ∧ ∃ c s, a.engine.cache.Writes c a.session s ∧ c.Orderly ∧
        (a.row? = none ∧ s.Blank ∨ a.Wrote s) ∧ after = { a.engine with cache := c } := by
  obtain ⟨c, s, hexecute, hwrites, horderly, hslot⟩ := execute_eq hc hopen
  dsimp only
  -- what is executed is known whether or not the row answers, so only the decision is split
  rcases hc.inMemory.exists_decide a.session a.request.text k.force with hdecide | ⟨row, hdecide⟩
  · rw [searchIn_of_recompute hdecide hexecute]
    exact .inr ⟨hdecide, c, s, hwrites, horderly, hslot, rfl⟩
  · rw [searchIn_of_reuse hdecide]
    exact .inl ⟨row, hdecide, rfl⟩

end Attempt

/-! ### What a page depends on -/

namespace Server

variable {s t : Server} {session : String}

theorem record?_congr (h : s.condition = t.condition) (backend record : Nat) :
    s.record? backend record = t.record? backend record := by
  have hindexes : s.indexes = t.indexes := congrArg Condition.indexes h
  simp only [record?, index?, hindexes]

/-- **A window of hits** depends on the condition of the server and on the hits. -/
theorem fetch?_congr (h : s.condition = t.condition)
    (hhits : (s.cursor? session).map (·.hits) = (t.cursor? session).map (·.hits))
    (start count : Nat) :
    s.fetch? session start count none = t.fetch? session start count none := by
  have hreachable : s.reachable = t.reachable := congrArg Condition.reachable h
  have hfetch : ∀ c c' : Cursor, s.fetchHit (shown c none) = t.fetchHit (shown c' none) := by
    intro c c'
    funext hit
    simp only [fetchHit, record?_congr h]
    rfl
  simp only [fetch?, hreachable]
  split
  · rfl
  · cases hs : s.cursor? session with
    | none =>
      rw [hs, Option.map_none] at hhits
      rw [Option.map_eq_none_iff.1 hhits.symm]
      rfl
    | some c =>
      rw [hs, Option.map_some] at hhits
      obtain ⟨c', ht, heq⟩ := Option.map_eq_some_iff.1 hhits.symm
      rw [ht, Option.map_some, Option.map_some, heq, hfetch c c']

end Server

/-- **A page up to the time that its search took.** -/
def Page.untimed (p : Page) : Page := { p with duration := .zero false }

/-- A page depends on the condition of the server and on the cursor of its session. -/
theorem Visit.pageOf_eq {v w : Visit} {session : String}
    (hcondition : w.engine.server.condition = v.engine.server.condition)
    (hcursor : w.engine.server.cursor? session = v.engine.server.cursor? session)
    (o : SearchOptions) (r : Request) (offset count : Nat) (row? : Option Row) :
    w.pageOf session o r offset count row? = v.pageOf session o r offset count row? := by
  cases row? with
  | none => rfl
  | some row =>
    simp only [pageOf, Server.page, Server.catalog_congr hcondition,
      Server.fetch?_congr hcondition (congrArg (Option.map (·.hits)) hcursor)]

/-- **What is shown of a row** depends on its text and its total besides what the server answers. -/
theorem Visit.pageOf_congr {v w : Visit} {session : String}
    (h : v.engine.server.condition = w.engine.server.condition)
    (hhits : (v.engine.server.cursor? session).map (·.hits) =
      (w.engine.server.cursor? session).map (·.hits))
    {row row' : Row} (hquery : row.query = row'.query) (htotal : row.total = row'.total)
    (o : SearchOptions) (r : Request) (offset count : Nat) :
    (v.pageOf session o r offset count (some row)).untimed =
      (w.pageOf session o r offset count (some row')).untimed := by
  simp only [pageOf, Server.page, Server.fetch?_congr h hhits, Server.catalog_congr h, Page.ofRow,
    Page.untimed, hquery, htotal]
  cases w.engine.server.fetch? session (rankAfter offset 1) count none with
  | none => rfl
  | some hits => rfl

end FederatedSearch
