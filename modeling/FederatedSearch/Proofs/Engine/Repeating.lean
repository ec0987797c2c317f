import FederatedSearch.Proofs.Engine.Returning
import FederatedSearch.Proofs.Engine.Tracing
import FederatedSearch.Proofs.Engine.Transparency
import FederatedSearch.Proofs.Engine.Window

/-!
# Searching again

A caller that makes one search again and again at one time gets windows of the same hits, with the
same total. When a row answered the first time, it is not swept and goes on answering. When the
search was executed, its row answers, or its session is swept and the search is executed anew in
another one, or everything fails once more; an execution on a server in the same condition finds the
same hits. What is between two of the searches is that the caller holds the hits.

* `FederatedSearch.Engine.PlansAlike`: engines that plan searches alike.
* `FederatedSearch.Attempt.again_eq`: what comes of an execution that is made again.
* `FederatedSearch.Visit.Holds`: a caller that holds hits.
* `FederatedSearch.Visit.Serves`: all pages of a search are windows of some hits, and leave a caller
  that holds them.
* `FederatedSearch.Visit.Holds.serves`, `FederatedSearch.Engine.Traced.serves`: the pages of a
  caller that holds hits, and of one that comes first.
-/

namespace FederatedSearch

open FederatedSearch.Action

variable {P : Row → Prop}

/-! ### Executions that are made again -/

namespace Engine

/-- **Engines that plan searches alike**, with the same backends that answer. The records of the
backends play no part in this. -/
structure PlansAlike (e e' : Engine) : Prop where
  config : e'.config = e.config
  catalog : e'.catalog = e.catalog
  thesauri : e'.server.thesaurus? = e.server.thesaurus?
  answering : ∀ backend,
    (e'.server.answering? backend).isNone = (e.server.answering? backend).isNone

theorem plansAlike_of_condition {e e' : Engine} (hconfig : e'.config = e.config)
    (hcondition : e'.server.condition = e.server.condition) : e.PlansAlike e' :=
  ⟨hconfig, Server.catalog_congr hcondition, Server.thesaurus?_congr hcondition,
    fun backend => congrArg Option.isNone (Server.answering?_congr hcondition backend)⟩

/-- The sizes of pages depend on the configuration. -/
theorem pageSize_congr {e e' : Engine} (h : e'.config = e.config) (asked : Nat) :
    e'.pageSize asked = e.pageSize asked := by
  rw [pageSize, pageSize, h]

end Engine

namespace Attempt

/-- **The same search executed again**, in some session of some engine. -/
def again (a : Attempt) (session : String) (e : Engine) : Attempt := ⟨session, a.text, a.options, e⟩

/-- A search has the same plan on engines that plan alike. -/
theorem plan_of_plansAlike {a : Attempt} {e : Engine} (h : a.engine.PlansAlike e)
    (session : String) :
    (a.again session e).effective = a.effective ∧ (a.again session e).request = a.request := by
  have heffective : (a.again session e).effective = a.effective := by
    simp only [effective, again, Engine.effectiveOptions, h.catalog, h.config]
  refine ⟨heffective, ?_⟩
  rw [request, heffective, request, Engine.request, Engine.request, again, h.catalog, h.thesauri]

/-- **An execution that is made again** on a server in the same condition has the same plan and the
same hits. -/
theorem again_eq {a : Attempt} {e : Engine} (hconfig : e.config = a.engine.config)
    (hcondition : e.server.condition = a.engine.server.condition) (session : String) :
    (a.again session e).effective = a.effective ∧ (a.again session e).request = a.request ∧
      (a.again session e).hits = a.hits := by
  obtain ⟨heffective, hrequest⟩ :=
    plan_of_plansAlike (Engine.plansAlike_of_condition hconfig hcondition) session
  refine ⟨heffective, hrequest, ?_⟩
  rw [hits, heffective, hrequest, hits]
  exact Server.planHits_congr hcondition _ _ _

/-- **Nothing comes of a search** on all engines that plan alike, or on none. -/
theorem FailsEverywhere.of_plansAlike {a : Attempt} {e : Engine} (ha : a.FailsEverywhere)
    (h : a.engine.PlansAlike e) (hopen : (a.engine.server.cursor? a.session).isSome)
    {session : String} (hopen' : (e.server.cursor? session).isSome) :
    (a.again session e).FailsEverywhere := by
  have hfailed := allFailed_iff.2 ha
  rw [summary, Cache.allFailed_executed hopen] at hfailed
  refine allFailed_iff.1 ((Cache.allFailed_executed hopen' _ _).trans ?_)
  obtain ⟨-, hrequest⟩ := plan_of_plansAlike h session
  rw [hrequest, ← hfailed]
  exact congrArg (fun answers : Nat → Bool => (a.request.plans.all fun p => answers p.backend) && _)
    (funext h.answering)

end Attempt

/-! ### Searches whose rows are admitted -/

namespace Engine

variable {start e e' : Engine} {h h' : History} {text : String} {options : SearchOptions}

/-- Steps that go on from an engine that was reached. -/
theorem Reached.append (hreached : Reached start h e) (hfurther : Reached e h' e') :
    Reached start (h' ++ h) e' := by
  induction hfurther with
  | start => exact hreached
  | step s _ ih => exact .step s ih

/-- **However often a search is made from here on**, the rows that are written are of the kind. -/
def AdmitsSearches (P : Row → Prop) (text : String) (options : SearchOptions) (e : Engine) : Prop :=
  ∀ h e', Reached e h e' →
    (∀ m ∈ h, ∃ k offset asked, m.step = .search k text offset asked options) →
      ∀ m ∈ h, m.Admitted P

theorem AdmitsSearches.now (h : e.AdmitsSearches P text options) (k : Caller)
    (offset asked : Nat) : (Moment.mk (.search k text offset asked options) e).Admitted P := by
  refine h _ _ (.step _ .start) (fun m hm => ?_) _ List.mem_cons_self
  obtain rfl := List.mem_singleton.1 hm
  exact ⟨k, offset, asked, rfl⟩

theorem AdmitsSearches.next (h : e.AdmitsSearches P text options) (k : Caller)
    (offset asked : Nat) :
    ((Step.search k text offset asked options).run e).AdmitsSearches P text options := by
  intro h' e' hreached hsearches m hm
  refine h _ _ (Reached.append (.step _ .start) hreached) (fun m' hm' => ?_) m
    (List.mem_append_left _ hm)
  rcases List.mem_append.1 hm' with hlater | hfirst
  · exact hsearches m' hlater
  · obtain rfl := List.mem_singleton.1 hfirst
    exact ⟨k, offset, asked, rfl⟩

/-- Rows in memory are of no kind in particular. -/
theorem admitsSearches_true (e : Engine) (text : String) (options : SearchOptions) :
    e.AdmitsSearches (fun _ => True) text options :=
  fun _ _ _ _ _ _ => ⟨⟨fun _ => trivial, fun _ _ => trivial⟩, fun _ _ _ _ => trivial⟩

end Engine

/-! ### Callers in a session -/

/-- A row that is reused is there, and it is not stale. -/
theorem Cache.entry_of_reuse {c : Cache} {session query : String} {force : Bool} {row : Row}
    (h : c.decide session query force = .ok (.reuse row)) :
    c.entry session = .ok (some row) ∧ row.isStale query c.now c.staleAfter = false := by
  cases hentry : c.entry session with
  | error failure =>
    rw [decide, hentry] at h
    cases h
  | ok row? =>
    cases row? with
    | none =>
      rw [decide, hentry] at h
      cases h
    | some old =>
      rw [decide_of_entry hentry] at h
      split at h
      · cases h
      · rename_i hfresh
        obtain rfl := Decision.reuse.inj (Except.ok.inj h)
        simp only [Bool.or_eq_true, not_or, Bool.not_eq_true] at hfresh
        exact ⟨rfl, hfresh.2⟩

/-- **The page shows a window of hits**, and their total. -/
structure Page.Windows (p : Page) (s : Server) (hits : List Hit) (total offset count : Nat) :
    Prop where
  records : p.records = s.window hits offset count
  total : p.total = total

namespace Visit

variable {a : Attempt} {user : Nat} {session : String} {hits : List Hit} {total : Nat}
  {v v₀ : Visit}

/-- **A caller that sits in a session** of an engine where a search would be executed as before. -/
structure Seated (P : Row → Prop) (a : Attempt) (user : Nat) (session : String) (v : Visit) :
    Prop where
  kept : v.engine.cache.Kept P
  free : ∀ n, v.engine.server.nextSession ≤ n → v.engine.cache.Quiet (Server.sessionId n)
  ready : v.Ready a.text user
  config : v.engine.config = a.engine.config
  condition : v.engine.server.condition = a.engine.server.condition
  claims : v.caller.session = some session
  row : ∃ row, v.engine.cache.entry session = .ok (some row)
  isOpen : (v.engine.server.cursor? session).isSome

/-- **The row of the session goes on answering**: it is not stale, and it is not swept. -/
structure Lasts (v : Visit) (a : Attempt) (user : Nat) (session : String) (row : Row) : Prop where
  fresh : row.isStale a.request.text v.engine.cache.now v.engine.cache.staleAfter = false
  active : ∀ cutoff, v.engine.sweepCutoff = .ok cutoff → row.idleSince cutoff = false
  owned : v.engine.server.opens session user = true

/-- **The slot of the session stands for hits**: its row is for them or for no query, and it goes on
answering, or the hits are those of an execution. -/
def Keeps (v : Visit) (a : Attempt) (user : Nat) (session : String) (hits : List Hit)
    (total : Nat) : Prop :=
  ∃ row cursor, v.engine.cache.entry session = .ok (some row) ∧
    v.engine.server.cursor? session = some cursor ∧
    (row.query = "" ∨ row.query = a.request.text ∧ row.total = total ∧ cursor.hits = hits) ∧
      (v.Lasts a user session row ∨ hits = a.hits ∧ total = a.hits.length)

/-- **A caller that holds hits**, and may search for them as often as it wants. -/
structure Holds (P : Row → Prop) (a : Attempt) (user : Nat) (session : String) (hits : List Hit)
    (total : Nat) (v : Visit) : Prop extends Seated P a user session v where
  admits : v.engine.AdmitsSearches P a.text a.options
  unmarked : v.caller.force = false
  keeps : v.Keeps a user session hits total

/-- **A search in a session shows a window of hits**, and its session keeps them. -/
def ServesIn (P : Row → Prop) (a : Attempt) (user : Nat) (session : String) (hits : List Hit)
    (total offset asked : Nat) (v : Visit) : Prop :=
  ∃ page w, searchIn session a.text offset asked a.options v = (.ok page, w) ∧
    page.Windows a.engine.server hits total offset (a.engine.pageSize asked) ∧
      w.Seated P a user session ∧ w.caller.force = false ∧ w.Keeps a user session hits total

/-- **All pages of a search are windows of some hits**, and leave a caller that holds them. -/
def Serves (P : Row → Prop) (a : Attempt) (user : Nat) (hits : List Hit) (total : Nat)
    (v : Visit) : Prop :=
  ∀ offset < maxRank, ∀ asked, ∃ page w session,
    search a.text offset asked a.options v = (.ok page, w) ∧
      page.Windows a.engine.server hits total offset (a.engine.pageSize asked) ∧
        w.Holds P a user session hits total

/-- A caller that was attached sits in its session. -/
theorem seated_of_attach (hkept : v₀.engine.cache.Kept P)
    (hadmits : Row.Admits P v₀.engine.cache.now)
    (hfree : ∀ n, v₀.engine.server.nextSession ≤ n →
      v₀.engine.cache.Quiet (Server.sessionId n))
    (hconfig : v₀.engine.config = a.engine.config)
    (hcondition : v₀.engine.server.condition = a.engine.server.condition)
    (hattach : attach a.text v₀ = (.ok session, v)) (hready : v.Ready a.text user) :
    v.Seated P a user session := by
  have hrests := attach_resting (P := P) a.text v₀ hkept hadmits
  rw [hattach] at hrests
  have hgains := attach_gains hkept hadmits hattach
  have hstands := attach_stands hattach
  obtain ⟨-, -, -, hcaller⟩ := attach_ok hattach
  refine ⟨hrests.kept, fun n hn row hrow => ?_, hready, hstands.config.trans hconfig,
    (Cache.condition_eq hstands.setting).trans hcondition, by rw [hcaller], hgains.row,
    hgains.isOpen⟩
  exact (hrests.rows _ row hrow).elim (hfree n (Nat.le_trans hrests.nextSession hn) row) id

/-! ### One search -/

section Search

variable {offset : Nat} (hoffset : offset < maxRank) (asked : Nat)

include hoffset

/-- **A search that is executed** shows a window of its hits, and its session keeps them. -/
theorem Seated.searchIn_of_recompute (hv : v.Seated P a user session)
    (hadmits : Row.Admits P v.engine.cache.now)
    (hwritten : ∀ row, (a.again session v.engine).row? = some row → P row)
    (hdecide : v.engine.cache.decide session a.request.text v.caller.force = .ok .recompute) :
    v.ServesIn P a user session a.hits a.hits.length offset asked := by
  let b := a.again session v.engine
  obtain ⟨-, hrequest, hhits⟩ := Attempt.again_eq hv.config hv.condition session
  have hsize : v.engine.pageSize asked = a.engine.pageSize asked :=
    Engine.pageSize_congr hv.config asked
  obtain ⟨c, hexecute, hkept, hfills, hothers⟩ := Attempt.execute_fills (a := b) hv.kept hadmits
    hwritten hv.isOpen hv.row
  obtain ⟨hstands, hadvances⟩ := Attempt.stands_of_execute hexecute
  obtain ⟨row, hrow, hquery⟩ := hfills.row
  obtain ⟨cursor, hcursor, hfilled⟩ := hfills.cursor
  have hcondition : c.server.condition = a.engine.server.condition :=
    (Cache.condition_eq hstands.setting).trans hv.condition
  have hdecide' : b.engine.cache.decide b.session b.request.text v.caller.force =
      .ok .recompute := hrequest ▸ hdecide
  refine ⟨_, _, Attempt.searchIn_of_recompute (a := b) (k := v.caller) hdecide' hexecute, ?_,
    ⟨hkept, fun n hn => ?_, hv.ready.of_stands hstands hadvances rfl, hv.config, hcondition,
      hv.claims, ⟨row, hrow⟩, Option.isSome_iff_exists.2 ⟨cursor, hcursor⟩⟩, rfl, row, cursor, hrow,
    hcursor, ?_, .inr ⟨rfl, rfl⟩⟩
  · cases hsome : b.row? with
    | none =>
      have hfailed := Attempt.allFailed_iff.2 (Attempt.row?_eq_none_iff.1 hsome)
      rw [hhits.symm.trans (Attempt.hits_eq_nil hfailed hfills.isOpen)]
      exact ⟨(Server.window_nil _ _ _).symm, rfl⟩
    | some written =>
      obtain ⟨hrecords, htotal⟩ := pageOf_window (v := b.answered v.caller c) hcursor hoffset
        b.effective b.request (v.engine.pageSize asked) written
      refine ⟨hrecords.trans ?_, htotal.trans ?_⟩
      · rw [hsize, hfilled, hhits]
        exact Server.window_congr hcondition _ _ _
      · rw [← hhits]
        exact Attempt.total_eq hsome hfills.isOpen
  · -- the session is open, so its id is not one to come
    have hnext : v.engine.server.nextSession ≤ n := Nat.le_trans hadvances.nextSession hn
    intro row' hrow'
    exact hv.free n hnext row'
      ((hothers _ (hv.kept.ne_of_isSome hv.isOpen hnext)).1.symm.trans hrow')
  · refine hquery.imp_right fun hsome => ⟨?_, ?_, hfilled.trans hhits⟩
    · rw [Attempt.query_eq hsome, hrequest]
    · rw [Attempt.total_eq hsome hfills.isOpen, hhits]

/-- **A search that is answered by a row** shows a window of the hits in the cursor. -/
theorem Seated.searchIn_of_reuse (hv : v.Seated P a user session) {row : Row} {cursor : Cursor}
    (hdecide : v.engine.cache.decide session a.request.text v.caller.force = .ok (.reuse row))
    (hcursor : v.engine.server.cursor? session = some cursor)
    (hlasts : v.Lasts a user session row ∨ cursor.hits = a.hits ∧ row.total = a.hits.length) :
    v.ServesIn P a user session cursor.hits row.total offset asked := by
  let b := a.again session v.engine
  obtain ⟨-, hrequest, -⟩ := Attempt.again_eq hv.config hv.condition session
  have hsize : v.engine.pageSize asked = a.engine.pageSize asked :=
    Engine.pageSize_congr hv.config asked
  obtain ⟨hrow, hfresh⟩ := Cache.entry_of_reuse hdecide
  have hdecide' : b.engine.cache.decide b.session b.request.text v.caller.force =
      .ok (.reuse row) := hrequest ▸ hdecide
  obtain ⟨hrecords, htotal⟩ := pageOf_window (v := b.answered v.caller v.engine.cache) hcursor
    hoffset b.effective b.request (v.engine.pageSize asked) row
  refine ⟨_, _, Attempt.searchIn_of_reuse (a := b) (k := v.caller) hdecide',
    ⟨hrecords.trans ?_, htotal⟩,
    ⟨hv.kept, hv.free, hv.ready.of_stands ⟨rfl, rfl, rfl⟩ (.refl _) rfl, hv.config, hv.condition,
      hv.claims, hv.row, hv.isOpen⟩, rfl, row, cursor, hrow, hcursor,
    .inr ⟨Cache.query_eq_of_not_stale hfresh, rfl, rfl⟩,
    hlasts.imp_left fun h => ⟨h.fresh, h.active, h.owned⟩⟩
  rw [hsize]
  exact Server.window_congr hv.condition _ _ _

end Search

/-- **A caller that was attached is served**: the row of its session answers for hits that it keeps,
or the search is executed. -/
theorem Seated.serves (hattach : attach a.text v₀ = (.ok session, v))
    (hv : v.Seated P a user session) (hadmits : v₀.engine.AdmitsSearches P a.text a.options)
    (hreuse : ∀ row, v.engine.cache.decide session a.request.text v.caller.force =
        .ok (.reuse row) → row.total = total ∧
      (∃ cursor, v.engine.server.cursor? session = some cursor ∧ cursor.hits = hits) ∧
        (v.Lasts a user session row ∨ hits = a.hits ∧ total = a.hits.length))
    (hagain : v.engine.cache.decide session a.request.text v.caller.force = .ok .recompute →
      hits = a.hits ∧ total = a.hits.length) : v₀.Serves P a user hits total := by
  intro offset hoffset asked
  obtain ⟨-, hrequest, -⟩ := Attempt.again_eq hv.config hv.condition session
  have hm := hadmits.now v₀.caller offset asked
  have hnow : v.engine.cache.now = v₀.engine.cache.now :=
    Cache.now_eq (attach_stands hattach).setting
  have hforce : v.caller.force = v₀.caller.force := (attach_forceFree a.text).force_of_eq hattach
  have hserves : v.ServesIn P a user session hits total offset asked := by
    obtain ⟨old, hold⟩ := hv.row
    rcases (Cache.decide_of_row hold a.request.text v.caller.force).2 with hdecide | hdecide
    · obtain ⟨rfl, rfl⟩ := hagain hdecide
      have hattempt := (Engine.Step.attempt?_eq_some_iff hattach offset asked a.options).2
        (hforce ▸ hrequest ▸ hdecide)
      exact hv.searchIn_of_recompute hoffset asked (hnow ▸ hm.rows) (hm.executed _ hattempt)
        hdecide
    · obtain ⟨rfl, ⟨cursor, hcursor, rfl⟩, hlasts⟩ := hreuse old hdecide
      exact hv.searchIn_of_reuse hoffset asked hdecide hcursor hlasts
  obtain ⟨page, w, hpage, hwindows, hw, hunmarked, hkeeps⟩ := hserves
  have hsearch : search a.text offset asked a.options v₀ = (.ok page, w) := by
    rw [search_eq, bind_apply, hattach]
    exact hpage
  have hrun : (Engine.Step.search v₀.caller a.text offset asked a.options).run v₀.engine =
      w.engine := congrArg (·.2.engine) hsearch
  exact ⟨page, w, session, hsearch, hwindows, hw, hrun ▸ hadmits.next v₀.caller offset asked,
    hunmarked, hkeeps⟩

/-! ### One search after the other -/

section Again

variable {session' : String} {w : Visit} {row : Row}

/-- A row that goes on answering answers after the next attaching. -/
theorem Holds.decide_of_lasts (h : v.Holds P a user session hits total)
    (hattach : attach a.text v = (.ok session', w))
    (hrow : v.engine.cache.entry session = .ok (some row)) (hlasts : v.Lasts a user session row) :
    w.engine.cache.decide session' a.request.text w.caller.force = .ok (.reuse row) := by
  obtain ⟨w', hattach', hrow', -⟩ := h.ready.attach_of_active ⟨h.kept, Store.usable_of_get? hrow⟩
    h.claims hlasts.owned hrow hlasts.active
  obtain ⟨hsession, rfl⟩ := Prod.mk.inj (hattach.symm.trans hattach')
  obtain rfl := Except.ok.inj hsession
  have hforce : w.caller.force = false :=
    ((attach_forceFree a.text).force_of_eq hattach).trans h.unmarked
  have hsetting : w.engine.cache.setting = v.engine.cache.setting := (attach_stands hattach).setting
  have hstaleAfter : w.engine.cache.staleAfter = v.engine.cache.staleAfter :=
    congrArg Setting.staleAfter hsetting
  have hfresh := hlasts.fresh
  rw [← Cache.now_eq hsetting, ← hstaleAfter] at hfresh
  rw [Cache.decide_of_entry hrow', hforce, Bool.false_or, hfresh]
  rfl

/-- **A row that answers was there before**, so the session is the one that the caller came with,
and its cursor is the one that it left. -/
theorem Holds.before_of_reuse (h : v.Holds P a user session hits total)
    (hattach : attach a.text v = (.ok session', w))
    (hreuse : w.engine.cache.decide session' a.request.text w.caller.force = .ok (.reuse row)) :
    session' = session ∧ v.engine.cache.entry session = .ok (some row) ∧
      w.engine.server.cursor? session = v.engine.server.cursor? session := by
  have hadmits := (h.admits.now v.caller 0 0).rows
  have hgains := attach_gains h.kept hadmits hattach
  have hrests := attach_resting (P := P) a.text v h.kept hadmits
  rw [hattach] at hrests
  obtain ⟨hrow, hfresh⟩ := Cache.entry_of_reuse hreuse
  have hquery : row.query ≠ "" := Cache.query_eq_of_not_stale hfresh ▸ a.text_ne_empty
  have hbefore := (hrests.rows session' row hrow).resolve_right hquery
  obtain rfl : session' = session := by
    rcases hgains.origin with hclaims | hnext
    · exact Option.some.inj (hclaims.symm.trans h.claims)
    · exact absurd (h.free _ (Nat.le_refl _) row (hnext ▸ hbefore)) hquery
  refine ⟨rfl, hbefore, ?_⟩
  obtain ⟨cursor, hcursor⟩ := Option.isSome_iff_exists.1 hgains.isOpen
  rcases hgains.cursors session' cursor hcursor with hsame | ⟨-, hnext, -⟩
  · exact hcursor.trans hsame.symm
  · exact absurd hnext.symm (h.kept.ne_of_isSome h.isOpen (Nat.le_refl _))

end Again

/-- **A caller that holds hits is served**, and holds them afterwards. -/
theorem Holds.serves (h : v.Holds P a user session hits total) : v.Serves P a user hits total := by
  obtain ⟨row, cursor, hrow, hcursor, hmatch, hlasting⟩ := h.keeps
  obtain ⟨session', w, hattach⟩ := h.ready.exists_attach ⟨h.kept, Store.usable_of_get? hrow⟩
  have hstands := attach_stands hattach
  have hcaller : w.caller.user = v.caller.user := by
    obtain ⟨-, -, -, hcaller⟩ := attach_ok hattach
    rw [hcaller]
  have hseated := seated_of_attach h.kept (h.admits.now v.caller 0 0).rows h.free h.config
    h.condition hattach (h.ready.of_stands hstands (attach_advances hattach) hcaller)
  refine hseated.serves hattach h.admits (fun row' hreuse => ?_) fun hrecompute => ?_
  · obtain ⟨rfl, hrow', hsame⟩ := h.before_of_reuse hattach hreuse
    obtain rfl := Option.some.inj (Except.ok.inj (hrow.symm.trans hrow'))
    obtain ⟨-, hfresh⟩ := Cache.entry_of_reuse hreuse
    have hquery : row.query ≠ "" := Cache.query_eq_of_not_stale hfresh ▸ a.text_ne_empty
    obtain ⟨-, htotal, hhits⟩ := hmatch.resolve_left hquery
    refine ⟨htotal, ⟨cursor, hsame.trans hcursor, hhits⟩,
      hlasting.imp_left fun hlasts => ⟨hfresh, fun cutoff hcutoff => ?_, ?_⟩⟩
    · refine hlasts.active cutoff ?_
      rw [← hcutoff, Engine.sweepCutoff, Engine.sweepCutoff, hstands.sweepAfter,
        show w.engine.cache.now = v.engine.cache.now from Cache.now_eq hstands.setting]
    · rw [Server.opens, hsame]
      exact hlasts.owned
  · refine hlasting.resolve_left fun hlasts => ?_
    rw [h.decide_of_lasts hattach hrow hlasts] at hrecompute
    cases hrecompute

end Visit

/-- **A caller that gets a session is served** by an engine that is traced. -/
theorem Engine.Traced.serves {h : History} {e : Engine} (hh : Traced P h e) (hlinked : e.Linked)
    {k : Caller} {text session : String} {options : SearchOptions} {v : Visit}
    (hadmits : e.AdmitsSearches P text options)
    (hattach : Visit.attach text ⟨e, k⟩ = (.ok session, v)) :
    ∃ user hits total,
      (⟨e, k⟩ : Visit).Serves P ⟨session, text, options, v.engine⟩ user hits total := by
  let a : Attempt := ⟨session, text, options, v.engine⟩
  have hrows : Row.Admits P e.cache.now := (hadmits.now k 0 0).rows
  obtain ⟨⟨user, hready, howned⟩, hactive⟩ :=
    Visit.ready_of_attach (v := ⟨e, k⟩) hh.kept hrows hlinked hattach
  have hstands := Visit.attach_stands hattach
  have hseated := Visit.seated_of_attach (a := a) hh.kept hrows hh.free hstands.config.symm
    (Cache.condition_eq hstands.setting).symm hattach hready
  obtain ⟨old, hold⟩ := hseated.row
  rcases (Cache.decide_of_row hold a.request.text v.caller.force).2 with hdecide | hdecide
  · refine ⟨user, a.hits, a.hits.length, hseated.serves hattach hadmits (fun row hreuse => ?_)
      fun _ => ⟨rfl, rfl⟩⟩
    rw [hdecide] at hreuse
    cases hreuse
  · obtain ⟨cursor, hcursor⟩ := Option.isSome_iff_exists.1 hseated.isOpen
    refine ⟨user, cursor.hits, old.total, hseated.serves hattach hadmits (fun row hreuse => ?_)
      fun hrecompute => ?_⟩
    · obtain ⟨hrow, hfresh⟩ := Cache.entry_of_reuse hreuse
      obtain rfl := Decision.reuse.inj (Except.ok.inj (hdecide.symm.trans hreuse))
      have hquery : old.query ≠ "" := Cache.query_eq_of_not_stale hfresh ▸ a.text_ne_empty
      exact ⟨rfl, ⟨cursor, hcursor, rfl⟩,
        .inl ⟨hfresh, fun cutoff hcutoff => hactive cutoff old hcutoff hrow hquery, howned⟩⟩
    · rw [hdecide] at hrecompute
      cases hrecompute

end FederatedSearch
