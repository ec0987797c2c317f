import FederatedSearch.Proofs.Engine.Repeating

/-!
# Searches of new callers

A caller that comes without a session gets a new one, and its search is executed there, unless a row
of an earlier process was left under the id of the session and answers it. The page is then a window
of the hits that the search finds, whichever engine it is made at, as long as the configuration and
the condition of the server are the same. Which page it is makes no difference to anything else: the
search fails for all places and sizes alike, and leaves the same caller and the same engine.

* `FederatedSearch.Visit.search_uniform`: what the place and the size of a page make a difference to.
* `FederatedSearch.Engine.found`: the hits that a search finds.
* `FederatedSearch.Engine.AnswersAfresh`: engines where the search of a new caller is executed.
* `FederatedSearch.Engine.AnswersAfresh.records_of_search`: **the page of a new caller** is a window
  of the hits that are found.
-/

namespace FederatedSearch

open FederatedSearch.Action

variable {P : Row → Prop}

/-! ### Places and sizes -/

/-- **Only the page depends on its place and size**: a search fails for all of them alike, and leaves
the same caller and the same engine. -/
theorem Visit.search_uniform (text : String) (options : SearchOptions) (v : Visit) :
    ∃ (r : Except Failure (Nat → Nat → Page)) (w : Visit), ∀ offset asked,
      search text offset asked options v = (r.map fun page => page offset asked, w) := by
  simp only [search_eq, bind_apply]
  cases attach text v with
  | mk r w =>
    cases r with
    | error failure => exact ⟨.error failure, w, fun _ _ => rfl⟩
    | ok session =>
      let a : Attempt := ⟨session, text, options, w.engine⟩
      have hsearch := a.searchIn_apply w.caller
      cases hanswer : Cache.answer a.session a.effective a.request w.caller.force
          a.engine.cache with
      | mk answer c =>
        simp only [hanswer] at hsearch
        cases answer with
        | error failure => exact ⟨.error failure, _, hsearch⟩
        | ok row? => exact ⟨.ok fun offset asked => _, _, hsearch⟩

/-! ### Hits that are found -/

/-- A row of no query answers no text. -/
theorem Row.isStale_of_unqueried {row : Row} (hrow : row.query = "") {text : String}
    (htext : text ≠ "") (now : Calendar.Instant) (maxAge : Calendar.Span) :
    row.isStale text now maxAge = true := by
  simp [isStale, hrow, htext.symm]

namespace Engine

variable {e e' : Engine} {text : String} {options : SearchOptions}

/-- **The hits that a search finds**, in whichever session it is executed. -/
def found (e : Engine) (text : String) (options : SearchOptions) : List Hit :=
  (Attempt.mk (Server.sessionId e.server.nextSession) text options e).hits

/-- The same hits are found at every engine of one configuration and condition. -/
theorem found_congr (hconfig : e'.config = e.config)
    (hcondition : e'.server.condition = e.server.condition) :
    e'.found text options = e.found text options :=
  (Attempt.again_eq (a := ⟨Server.sessionId e.server.nextSession, text, options, e⟩) hconfig
    hcondition (Server.sessionId e'.server.nextSession)).2.2

/-! ### New callers -/

/-- **An engine where the search of a new caller is executed**: its cache is kept up, the rows that
the search writes are of the kind, and a row that is left under the id of the next session does not
answer. -/
structure AnswersAfresh (P : Row → Prop) (text : String) (options : SearchOptions) (e : Engine) :
    Prop where
  kept : e.cache.Kept P
  admits : e.AdmitsSearches P text options
  left : ∀ row, e.cache.entry (Server.sessionId e.server.nextSession) = .ok (some row) →
    row.isStale (e.request text (e.effectiveOptions options)).text e.cache.now
      e.cache.staleAfter = true

/-- **In every engine that was reached over a store without rows** nothing is left. -/
theorem Traced.answersAfresh {h : History} (hh : Traced P h e)
    (hadmits : e.AdmitsSearches P text options) : e.AnswersAfresh P text options where
  kept := hh.kept
  admits := hadmits
  left := by
    intro row hrow
    have htext := (Attempt.mk (Server.sessionId e.server.nextSession) text options e).text_ne_empty
    exact Row.isStale_of_unqueried (hh.free _ (Nat.le_refl _) row hrow) htext _ _

variable {k : Caller} {session : String} {v : Visit}

/-- **The search of a new caller is executed.** -/
theorem AnswersAfresh.decide_eq (h : e.AnswersAfresh P text options) (hk : k.session = none)
    (hattach : Visit.attach text ⟨e, k⟩ = (.ok session, v)) :
    v.engine.cache.decide session
      (Attempt.mk session text options v.engine).request.text v.caller.force = .ok .recompute := by
  let a : Attempt := ⟨Server.sessionId e.server.nextSession, text, options, e⟩
  have hgains := Visit.attach_gains h.kept (h.admits.now k 0 0).rows hattach
  have hstands := Visit.attach_stands hattach
  have hnow : v.engine.cache.now = e.cache.now := Cache.now_eq hstands.setting
  have hage : v.engine.cache.staleAfter = e.cache.staleAfter :=
    congrArg Setting.staleAfter hstands.setting
  obtain ⟨-, hrequest, -⟩ := Attempt.again_eq (a := a) hstands.config
    (Cache.condition_eq hstands.setting) session
  obtain rfl : session = Server.sessionId e.server.nextSession := by
    refine hgains.origin.resolve_left fun hclaims => ?_
    rw [show k.session = some session from hclaims] at hk
    cases hk
  obtain ⟨row, hrow⟩ := hgains.row
  have hstale : row.isStale a.request.text e.cache.now e.cache.staleAfter = true := by
    rcases hgains.rows with hrows | hcreated
    · rcases hrows (Server.sessionId e.server.nextSession) with hsame | hgone
      · exact h.left row (hsame.symm.trans hrow)
      · cases hgone.symm.trans hrow
    · obtain rfl := Option.some.inj (Except.ok.inj (hcreated.symm.trans hrow))
      exact Row.isStale_of_unqueried rfl a.text_ne_empty _ _
  rw [Cache.decide_of_entry hrow, hnow, hage]
  rw [show (Attempt.mk _ text options v.engine).request = a.request from hrequest, hstale,
    Bool.or_true, if_pos rfl]

/-- **The page of a new caller** is a window of the hits that are found. -/
theorem AnswersAfresh.records_of_search (h : e.AnswersAfresh P text options)
    (hk : k.session = none) (hfew : (e.found text options).length < maxRank) {offset asked : Nat}
    (hoffset : offset ≤ maxRank) {page : Page}
    (hsearch : Visit.search text offset asked options ⟨e, k⟩ = (.ok page, v)) :
    page.records = e.server.window (e.found text options) offset (e.pageSize asked) := by
  have hm := h.admits.now k offset asked
  rw [Visit.search_eq] at hsearch
  obtain ⟨session, w, hattach, hin⟩ := Action.ok_of_bind hsearch
  let a : Attempt := ⟨session, text, options, w.engine⟩
  have hdecide := h.decide_eq hk hattach
  have hgains := Visit.attach_gains h.kept hm.rows hattach
  have hrests := Visit.attach_resting (P := P) text ⟨e, k⟩ h.kept hm.rows
  have hstands := Visit.attach_stands hattach
  have hforce : w.caller.force = k.force := (Visit.attach_forceFree text).force_of_eq hattach
  rw [hattach] at hrests
  have hcondition : w.engine.server.condition = e.server.condition :=
    Cache.condition_eq hstands.setting
  have hhits : a.hits = e.found text options := (Attempt.again_eq
    (a := ⟨Server.sessionId e.server.nextSession, text, options, e⟩) hstands.config hcondition
    session).2.2
  have hattempt := (Step.attempt?_eq_some_iff hattach offset asked options).2 (hforce ▸ hdecide)
  obtain ⟨c, hexecute, -, hfills, -⟩ := Attempt.execute_fills (a := a) hrests.kept
    (Cache.now_eq hstands.setting ▸ hm.rows) (hm.executed _ hattempt) hgains.isOpen hgains.row
  obtain ⟨cursor, hcursor, hfilled⟩ := hfills.cursor
  obtain ⟨hpage, -⟩ := Prod.mk.inj
    (hin.symm.trans (Attempt.searchIn_of_recompute (a := a) (k := w.caller) hdecide hexecute))
  obtain rfl := Except.ok.inj hpage
  cases hsome : a.row? with
  | none =>
    have hfailed := Attempt.allFailed_iff.2 (Attempt.row?_eq_none_iff.1 hsome)
    rw [← hhits, Attempt.hits_eq_nil hfailed hfills.isOpen, Server.window_nil]
    rfl
  | some row =>
    have hlength : cursor.hits.length < maxRank := by rwa [hfilled, hhits]
    rw [Visit.records_pageOf (v := a.answered w.caller c) hcursor hoffset hlength, hfilled, hhits,
      pageSize_congr hstands.config]
    have hafter : c.server.condition = e.server.condition :=
      (Cache.condition_eq (Attempt.stands_of_execute hexecute).1.setting).trans hcondition
    exact Server.window_congr hafter _ _ _

end Engine

end FederatedSearch
