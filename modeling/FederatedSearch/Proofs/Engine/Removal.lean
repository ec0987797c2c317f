import FederatedSearch.Proofs.Engine.Aside
import FederatedSearch.Proofs.Engine.Recalling
import FederatedSearch.Proofs.Index.Removal

/-!
# Removing records between pages

A cursor keeps the hits of its session when records are removed, and a hit whose record is gone is
left out of a page without giving up its place. So when a search is made again while its row lasts,
it shows what it would have shown before the removals, but for the removed records: every result
that is left has the place that it had, and the total is the same.

* `FederatedSearch.Engine.without`: the engine after removals.
* `FederatedSearch.Engine.Reached.eq_without`: what removals and the passing of time come to.
* `FederatedSearch.Visit.pageOf_without`: a page after removals.
* `FederatedSearch.Engine.Reached.search_leaves_holes`: a search before and after removals.
-/

namespace FederatedSearch

open FederatedSearch.Action Calendar Query

variable {P : Row → Prop}

/-! ### Engines after removals -/

/-- The server after removals. -/
def Server.without (removed : List Hit) (s : Server) : Server := s.alter (dropHits removed) id

/-- **The engine after removals.** -/
def Engine.without (removed : List Hit) (e : Engine) : Engine := e.alter (dropHits removed) id

/-- The visit after removals. -/
def Visit.without (removed : List Hit) (v : Visit) : Visit := v.alter (dropHits removed) id

namespace Server

variable (removed : List Hit) {s : Server}

theorem index?_without (backend : Nat) :
    (s.without removed).index? backend = (s.index? backend).map (BackendIndex.without removed) :=
  find?_dropHits removed s.indexes backend

/-- **A record after removals**: the removed ones are gone, and the others are as they were. -/
theorem record?_without (backend record : Nat) : (s.without removed).record? backend record =
    if ⟨backend, record⟩ ∈ removed then none else s.record? backend record := by
  simp only [record?, index?_without]
  cases hi : s.index? backend with
  | none => simp
  | some i =>
    have hbackend : i.backend.id = backend := by simpa using List.find?_some hi
    simp only [Option.map_some, Option.bind_some, BackendIndex.record?_without, hbackend]

theorem catalog_without : (s.without removed).catalog = s.catalog :=
  catalog_alter id (backends_dropHits removed) s

theorem thesaurus?_without : (s.without removed).thesaurus? = s.thesaurus? := by
  funext backend
  simp only [thesaurus?, index?_without]
  change (if s.available backend = true then _ else _) = _
  cases s.index? backend <;> rfl

/-- The same backends answer. -/
theorem isNone_answering?_without (backend : Nat) :
    ((s.without removed).answering? backend).isNone = (s.answering? backend).isNone := by
  simp only [answering?, index?_without]
  change (Option.filter (fun _ => !s.silent.contains backend && s.available backend) _).isNone = _
  cases s.index? backend with
  | none => rfl
  | some i =>
    rw [Option.map_some, Option.filter_some, Option.filter_some]
    split <;> rfl

end Server

/-- **Removals change no plan**, and the same backends answer. -/
theorem Engine.plansAlike_without (removed : List Hit) (e : Engine) :
    e.PlansAlike (e.without removed) :=
  ⟨rfl, Server.catalog_without removed, Server.thesaurus?_without removed,
    Server.isNone_answering?_without removed⟩

/-- Attaching a caller goes the same way after removals. -/
theorem Visit.attach_without (removed : List Hit) (text : String) :
    Commutes (without removed) (attach text) :=
  attach_alter id (backends_dropHits removed) text

/-! ### Removing -/

/-- **Removing a record** takes it away, if it is there; otherwise nothing happens. -/
theorem Server.removeRecord_eq (s : Server) (backend record : Nat) :
    s.removeRecord backend record = .ok (s.without [⟨backend, record⟩]) ∨
      (∃ failure, s.removeRecord backend record = .error failure) ∧
        s.without [⟨backend, record⟩] = s := by
  unfold removeRecord
  cases hi : s.index? backend with
  | none =>
    refine .inr ⟨⟨_, rfl⟩, congrArg (fun indexes => { s with indexes }) ?_⟩
    exact updateFirst_eq_self fun i hfound => nomatch hi.symm.trans hfound
  | some i =>
    dsimp only
    split
    · exact .inl rfl
    · rename_i habsent
      refine .inr ⟨⟨_, rfl⟩, congrArg (fun indexes => { s with indexes }) ?_⟩
      refine updateFirst_eq_self fun j hfound => ?_
      obtain rfl := Option.some.inj (hfound.symm.trans hi)
      refine congrArg (BackendIndex.mk _ _) (List.filter_eq_self.2 fun r hr => ?_)
      simp only [List.any_eq_true, not_exists, not_and] at habsent
      simpa using habsent r hr

namespace Engine

/-- The record that a step removes. -/
def Step.removed? : Step → Option Hit
  | remove (.record backend record) | remove (.story backend record) => some ⟨backend, record⟩
  | _ => none

/-- **The step removes something**, or time passes by it. -/
def Step.OnlyRemoves : Step → Prop
  | remove _ | setClock _ | advance _ => True
  | _ => False

/-- The records that were removed. -/
def History.removed (h : History) : List Hit := h.filterMap (·.step.removed?)

/-- **What a removal comes to**, whether or not it succeeds. -/
theorem Step.run_remove (item : Indexable) (e : Engine) :
    (remove item).run e = e.without (remove item).removed?.toList := by
  cases item with
  | feedEntry id => rfl
  | record backend record | story backend record =>
    simp only [run, step_apply, Engine.remove]
    rcases e.server.removeRecord_eq backend record with hremoved | ⟨⟨failure, hfailed⟩, hsame⟩
    · rw [hremoved]
      rfl
    · rw [hfailed]
      exact congrArg e.withServer hsame.symm

/-- **What a removal or the passing of time comes to.** -/
theorem Step.run_eq_without {s : Step} (hs : s.OnlyRemoves) (e : Engine) :
    s.run e = (e.without s.removed?.toList).setClock (s.run e).cache.now := by
  cases s with
  | remove item =>
    rw [run_remove]
    rfl
  | setClock now => rfl
  | advance d =>
    simp only [run, onCache, onPart_apply, step_apply, Cache.advance]
    cases e.cache.now.shift? d <;> rfl
  | _ => exact hs.elim

/-- Removals one after the other. -/
theorem without_append (removed removed' : List Hit) (e : Engine) :
    e.without (removed ++ removed') = (e.without removed').without removed := by
  have happend : dropHits (removed ++ removed') = dropHits removed ∘ dropHits removed' :=
    funext fun _ => List.foldr_append
  rw [without, happend]
  rfl

/-- **What removals and the passing of time come to.** -/
theorem Reached.eq_without {e e' : Engine} {h : History} (hreached : Reached e h e')
    (hremoves : ∀ m ∈ h, m.step.OnlyRemoves) :
    e' = (e.without h.removed).setClock e'.cache.now := by
  induction hreached with
  | start => rfl
  | @step h e' s _ ih =>
    obtain ⟨hs, hrest⟩ := List.forall_mem_cons.1 hremoves
    have happend : History.removed (⟨s, e'⟩ :: h) = s.removed?.toList ++ h.removed := by
      simp only [History.removed, List.filterMap_cons]
      cases s.removed? <;> rfl
    rw [happend, without_append]
    exact (Step.run_eq_without hs e').trans
      (congrArg (fun x => (x.without s.removed?.toList).setClock (s.run e').cache.now) (ih hrest))

end Engine

/-! ### Pages after removals -/

/-- **The result is of none of the records.** -/
def Result.spared (removed : List Hit) (r : Result) : Bool := ⟨r.backend, r.record⟩ ∉ removed

/-- **The page without the results of some records.** All else is as it was. -/
def Page.without (removed : List Hit) (p : Page) : Page :=
  { p with records := p.records.filter (Result.spared removed) }

@[simp] theorem Page.without_nil (p : Page) : p.without [] = p := by
  have hall : p.records.filter (Result.spared []) = p.records :=
    List.filter_eq_self.2 fun _ _ => by simp [Result.spared]
  rw [without, hall]

/-- The page of a search that gave nothing has no results to lose. -/
@[simp] theorem Page.without_failed (removed : List Hit) (query : String) (offset : Nat)
    (error : String) : (failed query offset error).without removed = .failed query offset error :=
  rfl

namespace Server

variable (removed : List Hit) (s : Server)

/-- **A hit after removals** is the result that it was, unless its record was removed. -/
theorem toResult?_without (hit : Hit) (rank : Nat) :
    ((s.without removed).fetchHit id hit).toResult? s.catalog rank =
      ((s.fetchHit id hit).toResult? s.catalog rank).filter (Result.spared removed) := by
  by_cases hmem : hit ∈ removed
  · have hgone : (s.without removed).record? hit.backend hit.record = none :=
      (s.record?_without removed _ _).trans (if_pos hmem)
    rw [fetchHit, hgone]
    refine (Option.filter_eq_none_iff.2 fun r hr => ?_).symm
    obtain ⟨-, rfl, -⟩ := record?_of_toResult? hr
    simpa [Result.spared] using hmem
  · have hsame : (s.without removed).fetchHit id hit = s.fetchHit id hit := by
      rw [fetchHit, s.record?_without removed, if_neg hmem, fetchHit]
    rw [hsame]
    cases hresult : (s.fetchHit id hit).toResult? s.catalog rank with
    | none => rfl
    | some r =>
      obtain ⟨-, rfl, -⟩ := record?_of_toResult? hresult
      exact (if_pos (by simpa [Result.spared] using hmem)).symm

/-- **The results among some hits after removals**: those that are left have the places that they
had. -/
theorem resultsFrom_without (offset n : Nat) (hits : List Hit) :
    (resultsFrom s.catalog offset n (hits.map ((s.without removed).fetchHit id))).filterMap id =
      ((resultsFrom s.catalog offset n (hits.map (s.fetchHit id))).filterMap id).filter
        (Result.spared removed) := by
  induction hits generalizing n with
  | nil => rfl
  | cons hit rest ih =>
    rw [List.map_cons, List.map_cons, resultsFrom, resultsFrom, toResult?_without]
    cases (s.fetchHit id hit).toResult? s.catalog (rankAfter offset n) with
    | none => exact ih (n + 1)
    | some r =>
      simp only [List.filterMap_cons, id_eq, Option.filter_some, List.filter_cons]
      cases r.spared removed
      · exact ih (n + 1)
      · exact congrArg (r :: ·) (ih (n + 1))

/-- The page of a session after removals. -/
theorem page_without (session : String) (row : Row) (offset count : Nat) (language : Language) :
    (s.without removed).page session row offset count language =
      (s.page session row offset count language).without removed := by
  have hcursor : (s.without removed).cursor? session = s.cursor? session := rfl
  have hreachable : (s.without removed).reachable = s.reachable := rfl
  simp only [page, fetch?, hcursor, hreachable, catalog_without]
  cases rankAfter offset 1 == 0 || !s.reachable with
  | true => rfl
  | false =>
    cases s.cursor? session with
    | none => rfl
    | some cursor =>
      exact congrArg (fun records => { Page.ofRow row offset with records })
        (s.resultsFrom_without removed offset 0 _)

end Server

/-- **A page after removals** lacks the results that were removed, and is as before otherwise. -/
theorem Visit.pageOf_without (removed : List Hit) (v : Visit) (session : String)
    (o : SearchOptions) (r : Request) (offset count : Nat) (row? : Option Row) :
    (v.without removed).pageOf session o r offset count row? =
      (v.pageOf session o r offset count row?).without removed := by
  cases row? with
  | none => exact (Page.without_failed removed _ _ _).symm
  | some row =>
    simp only [pageOf, show (v.without removed).engine.server = v.engine.server.without removed
      from rfl, Server.page_without]
    rfl

/-! ### Searches before and after removals -/

/-- **What is shown again after removals**: while neither window has passed, the search that was
answered shows the page of the row that the session recalls, without the results of the records that
were removed. -/
theorem Visit.Answered.search_without {a : Attempt} {row? : Option Row} {v : Visit}
    (h : v.Answered P a row?) {t : Instant} (hintime : (v.setClock t).InTime) (removed : List Hit)
    (offset asked : Nat) :
    ∃ w, search a.text offset asked a.options ((v.setClock t).without removed) =
      (.ok ((v.pageOf a.session a.effective a.request offset (a.engine.pageSize asked) row?).without
        removed), w) := by
  obtain ⟨w, hattach, hreturned⟩ := h.attach_at hintime
  have hattach' := attach_without removed a.text (v.setClock t)
  rw [hattach] at hattach'
  let b : Attempt := a.again a.session w.engine
  have halike := Engine.plansAlike_without removed w.engine
  obtain ⟨heffective, hrequest⟩ := Attempt.plan_of_plansAlike
    (Engine.plansAlike_of_condition hreturned.config hreturned.condition) a.session
  obtain ⟨heffective', hrequest'⟩ := Attempt.plan_of_plansAlike (a := b) halike a.session
  have hrecalls := hreturned.recalls.of_plansAlike halike hreturned.isOpen hreturned.isOpen rfl
  obtain ⟨w', hsearch⟩ := hrecalls.searchIn hreturned.fresh hreturned.unmarked offset asked
  have hsize : (w.engine.without removed).pageSize asked = a.engine.pageSize asked :=
    Engine.pageSize_congr hreturned.config asked
  have hpage : (w.without removed).pageOf a.session a.effective a.request offset
      (a.engine.pageSize asked) row? = _ :=
    (w.pageOf_without removed _ _ _ _ _ row?).trans (congrArg (Page.without removed)
      (pageOf_eq (v := v) (h.engine ▸ hreturned.condition) (h.engine ▸ hreturned.cursor) _ _ _ _ _))
  rw [← hpage, ← heffective'.trans heffective, ← hrequest'.trans hrequest, ← hsize]
  exact ⟨w', by rw [search_eq, bind_apply, hattach']; exact hsearch⟩

namespace Engine

variable {start e : Engine} {h : History}

/-- **Removing records only leaves holes.** Let an engine be started over a store that reads back
rows of some kind, and let the rows that are written be of this kind. Let a search give a page, and
let nothing happen afterwards but removals and the passing of time. Then whatever page of the same
search is asked for while neither window has passed, it is the one that is shown before the
removals, without the results whose records were removed: the others have the places that they had,
and the total is the same. The page before the removals is the one that the first search gave, when
the same one is asked for.

The store may be in memory (`FederatedSearch.Store.memory_faithful`) or in a file that was new
(`FederatedSearch.Store.newFile_faithful`). -/
theorem Reached.search_leaves_holes {d : Dataset} {store : Store} {now : Instant} {config : Config}
    (hstore : store.Faithful P) (hstart : ofConfig (.ofDataset d) store now config = .ok start)
    (hreached : Reached start h e) {k : Caller} {text : String} {options : SearchOptions}
    {o m : Nat} {page : Page} {v : Visit}
    (hadmitted : ∀ x ∈ ⟨.search k text o m options, e⟩ :: h, x.Admitted P)
    (hsearch : Visit.search text o m options ⟨e, k⟩ = (.ok page, v)) {t : Instant}
    (hbefore : (v.setClock t).InTime) {h' : History} {e' : Engine} (hafter : Reached v.engine h' e')
    (hremoves : ∀ x ∈ h', x.step.OnlyRemoves)
    (hintime : (⟨e', v.caller⟩ : Visit).InTime) (offset asked : Nat) :
    ∃ p w w', Visit.search text offset asked options (v.setClock t) = (.ok p, w) ∧
      Visit.search text offset asked options ⟨e', v.caller⟩ = (.ok (p.without h'.removed), w') ∧
      (offset = o → asked = m → p = page) := by
  obtain ⟨session, row?, hanswered, hpage⟩ :=
    hreached.answered (ofConfig_started hstore hstart) (ofConfig_linked hstart) hadmitted hsearch
  have hlast : (⟨e', v.caller⟩ : Visit) = (v.setClock e'.cache.now).without h'.removed :=
    congrArg (Visit.mk · v.caller) (hafter.eq_without hremoves)
  rw [hlast] at hintime ⊢
  obtain ⟨w, hfirst⟩ := hanswered.search_without hbefore [] offset asked
  obtain ⟨w', hsecond⟩ := hanswered.search_without (t := e'.cache.now) hintime h'.removed offset
    asked
  rw [Page.without_nil] at hfirst
  refine ⟨_, w, w', hfirst, hsecond, ?_⟩
  rintro rfl rfl
  exact hpage.symm

/-- When the second of three photos is removed, the first and the third one keep their places. -/
theorem search_leaves_holes_of_photo :
    ∃ start page v page' v', ofConfig (.ofDataset Demo.dataset) .empty ⟨0, 0⟩ {} = .ok start ∧
      Visit.search "sea" 0 10 .standard ⟨start, { user := some 1 }⟩ = (.ok page, v) ∧
      Visit.search "sea" 0 10 .standard
        ⟨Step.run v.engine (.remove (.record 1 105)), v.caller⟩ = (.ok page', v') ∧
      page.records.map (·.rank) = [0, 1, 2] ∧ page'.records.map (·.rank) = [0, 2] ∧
      page'.total = page.total := by
  let removal : Step := .remove (.record 1 105)
  let row : Row := ⟨"mem-00000001", "sea", ⟨0, 0⟩, .zero false, 3, ⟨0, 0⟩⟩
  let answer : Engine → Except Failure Page × Visit := fun e =>
    Visit.search "sea" 0 10 .standard ⟨e, { user := some 1 }⟩
  obtain ⟨start, hstart⟩ :
      ∃ e, ofConfig (.ofDataset Demo.dataset) .empty ⟨0, 0⟩ {} = .ok e := ⟨_, rfl⟩
  have hranks : (ofConfig (.ofDataset Demo.dataset) .empty ⟨0, 0⟩ {}).toOption.bind (fun e =>
      (answer e).1.toOption.map fun page => (page.records.map (·.rank),
        (page.without [⟨1, 105⟩]).records.map (·.rank))) = some ([0, 1, 2], [0, 2]) := by
    decide +kernel
  have hwindows : (ofConfig (.ofDataset Demo.dataset) .empty ⟨0, 0⟩ {}).toOption.map (fun e =>
      let v := (answer e).2
      (v.sessionEntry.toOption, v.engine.sweepCutoff.toOption, v.engine.cache.now,
        v.engine.cache.staleAfter)) =
          some (some (some row), some ⟨-3600, 0⟩, ⟨0, 0⟩, ⟨600 * nanosPerSecond⟩) := by
    decide +kernel
  rw [hstart] at hranks hwindows
  obtain ⟨page, hpage, hthree⟩ := Option.map_eq_some_iff.1 hranks
  obtain ⟨hranks, hleft⟩ := Prod.mk.inj hthree
  cases hsearch : answer start with
  | mk r v =>
    simp only [Except.toOption, Option.map_some, hsearch, Option.some.injEq, Prod.mk.injEq]
      at hpage hwindows
    obtain ⟨hentry, hcutoff, hnow, hstale⟩ := hwindows
    cases r with
    | error failure => cases hpage
    | ok p =>
      obtain rfl := Option.some.inj hpage
      have hintime : v.InTime := by
        refine ⟨row, ⟨-3600, 0⟩, toOption_eq_some_iff.1 hentry, toOption_eq_some_iff.1 hcutoff,
          fun _ => ?_, by decide⟩
        rw [hnow, hstale]
        decide
      have hafter : (⟨removal.run v.engine, v.caller⟩ : Visit) = v.without [⟨1, 105⟩] :=
        congrArg (Visit.mk · v.caller) (Step.run_remove _ _)
      obtain ⟨p', w, v', -, hagain, hsame⟩ :=
        Reached.search_leaves_holes (P := fun _ => True) (t := v.engine.cache.now)
          (Store.memory_faithful (.nil _)) hstart .start
          (fun _ _ => ⟨⟨fun _ => trivial, fun _ _ => trivial⟩, fun _ _ _ _ => trivial⟩) hsearch
          hintime (.step removal .start) (List.forall_mem_singleton.2 trivial) (hafter ▸ hintime)
          0 10
      obtain rfl := hsame rfl rfl
      exact ⟨start, p', v, _, v', hstart, hsearch, hagain, hranks, hleft, rfl⟩

end Engine

end FederatedSearch
