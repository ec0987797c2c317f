import FederatedSearch.Proofs.Engine.Explained

/-!
# The cache is transparent

A search that is answered by the row of its session gives the same page as one that is executed, but
for the time that it took. It is enough that the last execution in the session had the same options
and that no record and nothing that can be reached was disturbed since then: the row was written by
that execution, its text fixes the plan, and the same plan finds the same hits.

* `FederatedSearch.Attempt.Alike.same_answer`: executions of one text and with the same options, on
  servers in the same condition, have the same hits, and the same text and total in their rows.
* `FederatedSearch.Engine.Reached.search_transparent`: searching with and without the cache.
-/

namespace FederatedSearch

open Query

/-! ### What an execution depends on -/

/-- **The plan of a search** depends on its text with the record type. -/
theorem Query.plan_congr {raw raw' : String} {o : SearchOptions}
    (h : queryText raw o = queryText raw' o) (c : Catalog)
    (thesaurus? : Nat → Option Thesaurus) : plan c thesaurus? raw o = plan c thesaurus? raw' o := by
  simp only [plan, h]

theorem Server.thesaurus?_congr {s t : Server} (h : s.condition = t.condition) :
    s.thesaurus? = t.thesaurus? := by
  have hindexes : s.indexes = t.indexes := congrArg Condition.indexes h
  have hdown : s.down = t.down := congrArg Condition.down h
  have hreachable : s.reachable = t.reachable := congrArg Condition.reachable h
  funext backend
  have havailable : s.available backend = t.available backend := by
    simp only [available, hdown, hreachable]
  have hindex : s.index? backend = t.index? backend := by simp only [index?, hindexes]
  rw [thesaurus?, thesaurus?, havailable, hindex]

namespace Attempt

variable {a b : Attempt}

/-- **Two executions that ask for the same**: one text, the same options, one session, on servers in
the same condition. -/
structure Alike (a b : Attempt) : Prop where
  session : a.session = b.session
  text : a.request.text = b.request.text
  options : a.options = b.options
  config : a.engine.config = b.engine.config
  condition : a.engine.server.condition = b.engine.server.condition

theorem Alike.effective_eq (h : a.Alike b) : a.effective = b.effective := by
  have hcatalog : a.engine.catalog = b.engine.catalog := Server.catalog_congr h.condition
  simp only [effective, Engine.effectiveOptions, h.options, hcatalog, h.config]

theorem Alike.request_eq (h : a.Alike b) : a.request = b.request := by
  have hcatalog : a.engine.catalog = b.engine.catalog := Server.catalog_congr h.condition
  have htext := h.text
  simp only [request, Engine.request] at htext ⊢
  rw [h.effective_eq, hcatalog, Server.thesaurus?_congr h.condition] at htext ⊢
  exact plan_congr htext _ _

theorem Alike.hits_eq (h : a.Alike b) : a.hits = b.hits := by
  simp only [hits, h.effective_eq, h.session, h.request_eq]
  exact Server.planHits_congr h.condition _ _ _

/-- **Alike executions come to the same**: when one gives a row, the other gives one of the same
text and total. -/
theorem Alike.same_answer (h : a.Alike b)
    (ha : (a.engine.cache.slot a.session).cursor.isSome)
    (hb : (b.engine.cache.slot b.session).cursor.isSome) {row : Row} (hrow : a.row? = some row) :
    ∃ row', b.row? = some row' ∧ row.query = row'.query ∧ row.total = row'.total := by
  have hanswered : a.summary.allFailed = false := by
    cases hfailed : a.summary.allFailed with
    | false => rfl
    | true =>
      rw [row?_eq_none hfailed] at hrow
      cases hrow
  have hfailed : b.summary.allFailed = a.summary.allFailed := by
    rw [summary, summary, Cache.allFailed_executed hb, Cache.allFailed_executed ha, h.request_eq]
    congr 2
    funext p
    exact congrArg Option.isNone (Server.answering?_congr h.condition.symm p.backend)
  have hrow' := row?_eq_some (hfailed.trans hanswered)
  refine ⟨_, hrow', ?_, ?_⟩
  · rw [query_eq hrow, query_eq hrow', h.request_eq]
  · rw [total_eq hrow ha, total_eq hrow' hb, h.hits_eq]

end Attempt

/-! ### Searching with and without the cache -/

namespace Cache

variable {c : Cache} {session query : String}

/-- **A forced query is executed**, whatever the cache holds. -/
theorem InMemory.decide_force (h : c.InMemory) (session query : String) :
    c.decide session query true = .ok .recompute := by
  rw [h.decide_eq]
  cases (c.slot session).row <;> rfl

/-- A row that answers is of the text of the query. -/
theorem query_eq_of_not_stale {row : Row}
    (h : row.isStale query c.now c.staleAfter = false) : row.query = query := by
  simp only [Row.isStale, Bool.or_eq_false_iff, bne_eq_false_iff_eq] at h
  exact h.1

end Cache

namespace Attempt

variable {a : Attempt} {k : Caller} {offset asked : Nat}

/-- **The page of an old row is that of a new execution**, when the old row and the old hits are
those of a like execution. -/
theorem Alike.page_eq {b : Attempt} (h : b.Alike a)
    (hbopen : (b.engine.cache.slot b.session).cursor.isSome)
    (hopen : (a.engine.cache.slot a.session).cursor.isSome)
    (hwrote : b.Wrote (a.engine.cache.slot a.session)) {row : Row}
    (hrow : (a.engine.cache.slot a.session).row = some row) {c : Cache} {s : Slot}
    (hwrites : a.engine.cache.Writes c a.session s) (hleft : a.row? = none ∧ s.Blank ∨ a.Wrote s)
    (k k' : Caller) (offset count : Nat) :
    ((a.answered k a.engine.cache).pageOf a.session a.effective a.request offset count
        (some row)).untimed =
      ((a.answered k' c).pageOf a.session a.effective a.request offset count a.row?).untimed := by
  obtain ⟨row', hrow', hb⟩ := hwrote.row
  obtain rfl : row' = row := Option.some.inj (hrow'.symm.trans hrow)
  obtain ⟨new, hnew, hquery, htotal⟩ := h.same_answer hbopen hopen hb
  -- a like execution gave a row, so this one does not come to nothing
  have hwrote' : a.Wrote s := hleft.resolve_left fun hnone => by
    rw [hnone.1] at hnew
    cases hnew
  obtain ⟨cursor, hcursor, hhits⟩ := hwrote.cursor
  obtain ⟨cursor', hcursor', hhits'⟩ := hwrote'.cursor
  have hold : a.engine.cache.server.cursor? a.session = some cursor := hcursor
  have hfilled : c.server.cursor? a.session = some cursor' :=
    (congrArg Slot.cursor hwrites.slot_same).trans hcursor'
  rw [hnew]
  refine Visit.pageOf_congr (v := a.answered k a.engine.cache) (w := a.answered k' c)
    (Cache.condition_eq hwrites.setting).symm ?_ hquery htotal a.effective a.request offset count
  change (a.engine.cache.server.cursor? a.session).map _ = (c.server.cursor? a.session).map _
  rw [hold, hfilled, Option.map_some, Option.map_some, hhits, hhits', h.hits_eq]

/-- **In its session a search gives the same page with and without the mark of its caller**, when
the slot of the session holds the outcome of a like execution or nothing. -/
theorem searchIn_transparent (hc : a.engine.cache.Orderly)
    (hopen : (a.engine.cache.slot a.session).cursor.isSome)
    (hslot : (a.engine.cache.slot a.session).Blank ∨
      ∃ b : Attempt, b.Wrote (a.engine.cache.slot a.session) ∧
        (b.engine.cache.slot b.session).cursor.isSome ∧
          (b.request.text = a.request.text → b.Alike a)) :
    (Visit.searchIn a.session a.text offset asked a.options
        ⟨a.engine, { k with force := false }⟩).1.map Page.untimed =
      (Visit.searchIn a.session a.text offset asked a.options
        ⟨a.engine, { k with force := true }⟩).1.map Page.untimed := by
  obtain ⟨c, s, hexecute, hwrites, -, hleft⟩ := execute_eq hc hopen
  have hforced := hc.inMemory.decide_force a.session a.request.text
  rw [searchIn_of_recompute (k := { k with force := true }) hforced hexecute]
  rcases hc.inMemory.exists_decide a.session a.request.text false with hdecide | ⟨row, hdecide⟩
  · rw [searchIn_of_recompute (k := { k with force := false }) hdecide hexecute]
    rfl
  · rw [searchIn_of_reuse (k := { k with force := false }) hdecide]
    obtain ⟨-, hrow, hfresh⟩ := hc.inMemory.decide_eq_reuse_iff.1 hdecide
    rcases hslot with hblank | ⟨b, hwrote, hbopen, halike⟩
    · -- A blank slot would not have answered.
      rw [hc.inMemory.decide_of_blank hblank a.text_ne_empty] at hdecide
      cases hdecide
    · obtain ⟨row', hrow', hb⟩ := hwrote.row
      obtain rfl : row' = row := Option.some.inj (hrow'.symm.trans hrow)
      have hlike := halike ((query_eq hb).symm.trans (Cache.query_eq_of_not_stale hfresh))
      exact congrArg Except.ok (hlike.page_eq hbopen hopen hwrote hrow hwrites hleft _ _ _ _)

end Attempt

namespace Engine

variable {start e : Engine} {h : History}

/-- **The cache is transparent.** In every engine that is reached from a fresh one, a search that
may be answered by a row gives the same page as one that is executed, or the same failure, up to
the time that it took. The last execution in the session of the caller has to have had the same
options, and nothing may have been disturbed since then. -/
theorem Reached.search_transparent (hstart : start.Fresh) (hreached : Reached start h e)
    (k : Caller) (text : String) (offset asked : Nat) (options : SearchOptions)
    (hsame : ∀ id a, k.session = some id → h.lastAttempt? id = some a →
      a.options = options ∧ ∀ m ∈ h.sinceAttempt id, m.Undisturbed) :
    (Visit.search text offset asked options ⟨e, { k with force := false }⟩).1.map Page.untimed =
      (Visit.search text offset asked options ⟨e, { k with force := true }⟩).1.map
        Page.untimed := by
  have hh := hreached.explained hstart
  have hforce := Visit.attach_forceFree text ⟨e, { k with force := false }⟩ true
  have hunmarked := (Visit.attach_forceFree text).force_eq ⟨e, { k with force := false }⟩
  simp only [Visit.search_eq, Action.bind_apply]
  rw [show (⟨e, { k with force := true }⟩ : Visit) =
    Visit.withForce ⟨e, { k with force := false }⟩ true from rfl, hforce]
  rcases Visit.attach_session text (v := ⟨e, { k with force := false }⟩) hh.orderly with
    ⟨failure, v, hattach, -⟩ | ⟨session, v, hattach, hattached⟩
  · rw [hattach]
  · rw [hattach] at hunmarked ⊢
    obtain ⟨e', user, claimed, force⟩ := v
    obtain rfl : force = false := hunmarked
    refine Attempt.searchIn_transparent (a := ⟨session, text, options, e'⟩)
      (k := ⟨user, claimed, false⟩) hattached.engine.cache.orderly hattached.isOpen ?_
    rcases hattached.origin with hclaimed | hblank
    · rcases hattached.engine.cache.slots session with hslot | hblank
      · -- the session that was claimed, as the last execution in it left it
        dsimp only at hslot ⊢
        rw [hslot]
        refine (hh.slots session).imp_right ?_
        rintro ⟨b, hb, hwrote⟩
        obtain ⟨hoptions, hundisturbed⟩ := hsame session b hclaimed hb
        obtain ⟨hsession, hbopen⟩ := hh.isOpen session b hb
        have hconfig : b.engine.config = e'.config :=
          (hattached.engine.config.trans (hh.config session b hb)).symm
        have hcondition : b.engine.server.condition = e'.server.condition :=
          ((Cache.condition_eq hattached.engine.cache.setting).trans
            (hh.condition session b hb hundisturbed)).symm
        exact ⟨b, hwrote, hbopen, fun htext => ⟨hsession, htext, hoptions, hconfig, hcondition⟩⟩
      · exact .inl hblank
    · exact .inl hblank

/-- After a search, the same search of the same user gives its page again. -/
theorem search_transparent_after_search :
    let e := Step.run demo (.search ⟨some 1, none, false⟩ "sea" 0 10 .standard)
    (Visit.search "sea" 0 10 .standard ⟨e, ⟨some 1, some "mem-00000001", false⟩⟩).1.map
        Page.untimed =
      (Visit.search "sea" 0 10 .standard ⟨e, ⟨some 1, some "mem-00000001", true⟩⟩).1.map
        Page.untimed := by
  refine Reached.search_transparent demo_fresh (.step _ .start)
    ⟨some 1, some "mem-00000001", false⟩ "sea" 0 10 .standard fun id a _ ha => ?_
  cases hattempt : (Moment.mk (.search ⟨some 1, none, false⟩ "sea" 0 10 .standard)
    demo).attemptIn? id with
  | none =>
    rw [lastAttempt?_cons_of_none hattempt] at ha
    cases ha
  | some b =>
    rw [lastAttempt?_cons_of_some hattempt] at ha
    cases ha
    rw [sinceAttempt_cons_of_some hattempt]
    exact ⟨Step.attempt?_options (Option.filter_eq_some_iff.1 hattempt).1, fun m hm => nomatch hm⟩

end Engine

end FederatedSearch
