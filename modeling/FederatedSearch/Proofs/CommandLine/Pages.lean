import FederatedSearch.CommandLine.Run
import FederatedSearch.Proofs.Engine.Afresh
import FederatedSearch.Proofs.Engine.Paging

/-!
# Pages of a command

The command that searches shows one page, whose place follows from its number and its size. The size
is settled twice, by the command for the place and by the engine for the page. When the
configuration can be used, both come to the same, and so the pages of a search, each shown by a
command of its own, join to the results from the first place on: none is shown twice, and none is
left out. A page that begins behind the greatest place is refused, and nothing is done for it.

* `FederatedSearch.CommandLine.QueryArguments.report`: the report that a command writes.
* `FederatedSearch.CommandLine.runQuery_eq`: this is what the command does.
* `FederatedSearch.Engine.pageSize_mem`: the size of a page of a configuration that can be used.
* `FederatedSearch.CommandLine.QueryArguments.results_of_report`: one page.
* `FederatedSearch.CommandLine.QueryArguments.pages_partition`: **all pages**.
* `FederatedSearch.CommandLine.QueryArguments.not_forall_shown_eq`: a row of an earlier process.
-/

namespace FederatedSearch

variable {P : Row → Prop}

/-! ### Sizes of pages -/

/-- **A page has at least one result**, and no more than the most, when the configuration can be
used. -/
theorem Engine.pageSize_mem {e : Engine} (hvalid : e.config.validate = .ok ()) (asked : Nat) :
    1 ≤ e.pageSize asked ∧ e.pageSize asked ≤ e.config.search.maxPageSize := by
  have hdemands := Config.validate_eq_ok_iff.1 hvalid
  simp only [Config.demands, List.forall_mem_cons, bne_iff_ne, decide_eq_true_eq] at hdemands
  obtain ⟨-, -, -, -, -, hpos, hle, -⟩ := hdemands
  unfold pageSize
  split
  · omega
  · rename_i hasked
    have hne : asked ≠ 0 := by simpa using hasked
    omega

/-- **The size that was settled is not changed when it is settled again.** -/
theorem Engine.pageSize_pageSize {e : Engine} (hvalid : e.config.validate = .ok ()) (asked : Nat) :
    e.pageSize (e.pageSize asked) = e.pageSize asked :=
  pageSize_eq (pageSize_mem hvalid asked).1 (pageSize_mem hvalid asked).2

namespace CommandLine

variable {q : QueryArguments} {e e' : Engine}

/-! ### Reports -/

namespace QueryArguments

/-- The search for another page. -/
def onPage (q : QueryArguments) (page : Nat) : QueryArguments := { q with page }

/-- The caller of a command: a user without a session. -/
def caller (q : QueryArguments) : Caller := { user := some q.user }

/-- The options of the search at an engine. -/
def optionsAt (q : QueryArguments) (e : Engine) : SearchOptions := q.options e.config e.catalog

/-- **The report of a command that searches**, with the engine after it. -/
def report (q : QueryArguments) (e : Engine) : Except Fault SearchReport × Engine :=
  match q.offset? (e.pageSize q.pageSize) with
  | none => (.error (.pageOutOfRange q.page), e)
  | some offset =>
    let (r, e) := asCaller q.user (q.reportFrom (e.pageSize q.pageSize) offset) e
    (r.mapError .failed, e)

/-- The hits that the search finds at an engine. -/
def hits (q : QueryArguments) (e : Engine) : List Hit := e.found q.text (q.optionsAt e)

/-- **All results of the search**, with their places. -/
def fullResult (q : QueryArguments) (e : Engine) : List Result :=
  e.server.window (q.hits e) 0 (q.hits e).length

end QueryArguments

/-- **The command writes its report**, and does nothing else. -/
theorem runQuery_eq (format : Format) (q : QueryArguments) (e : Engine) :
    runQuery format q e =
      ((q.report e).1.map fun r => written format r.toJson r.output, (q.report e).2) := by
  simp only [runQuery, QueryArguments.report]
  cases q.offset? (e.pageSize q.pageSize) <;> rfl

namespace QueryArguments

/-- The report that is made of a page. -/
def reportOf (q : QueryArguments) (pageSize : Nat) (v : Visit) (page : Page) : SearchReport where
  page
  number := max q.page 1
  pageSize
  session := v.caller.session
  results := page.records.map fun r => ⟨r, v.excerpt r.rank q.excerpt⟩

/-- **A report is made of the page of a search** by a new caller. -/
theorem report_apply {offset : Nat} (hoffset : q.offset? (e.pageSize q.pageSize) = some offset) :
    q.report e = match Visit.search q.text offset (e.pageSize q.pageSize) (q.optionsAt e)
        ⟨e, q.caller⟩ with
      | (.ok page, v) => (.ok (q.reportOf (e.pageSize q.pageSize) v page), v.engine)
      | (.error failure, v) => (.error (.failed failure), v.engine) := by
  simp only [report, hoffset, asCaller, reportFrom, Action.bind_apply, Action.get_apply]
  rw [show (⟨e, { user := some q.user }⟩ : Visit) = ⟨e, q.caller⟩ from rfl,
    show q.options e.config e.catalog = q.optionsAt e from rfl]
  rcases Visit.search q.text offset (e.pageSize q.pageSize) (q.optionsAt e) ⟨e, q.caller⟩ with
    ⟨_ | _, _⟩ <;> rfl

/-- **The page of the number zero** is the first one. -/
theorem report_zero (q : QueryArguments) (e : Engine) :
    (q.onPage 0).report e = (q.onPage 1).report e := by
  have hzero : (q.onPage 0).offset? (e.pageSize q.pageSize) = some 0 := by simp [offset?, onPage]
  have hone : (q.onPage 1).offset? (e.pageSize q.pageSize) = some 0 := by simp [offset?, onPage]
  exact (report_apply hzero).trans (report_apply hone).symm

/-- A page that begins behind the greatest place is refused. -/
theorem report_of_offset?_eq_none (h : q.offset? (e.pageSize q.pageSize) = none) :
    q.report e = (.error (.pageOutOfRange q.page), e) := by
  simp only [report, h]

/-- **Reports on pages of one search fail alike**, and leave the same engine. -/
theorem report_uniform (q : QueryArguments) (e : Engine) :
    ∃ (r : Except Fault Unit) (e' : Engine), ∀ p offset,
      (q.onPage p).offset? (e.pageSize q.pageSize) = some offset →
        ((q.onPage p).report e).1.map (fun _ => ()) = r ∧ ((q.onPage p).report e).2 = e' := by
  obtain ⟨r, w, hsearch⟩ := Visit.search_uniform q.text (q.optionsAt e) ⟨e, q.caller⟩
  refine ⟨(r.map fun _ => ()).mapError .failed, w.engine, fun p offset hoffset => ?_⟩
  have hreport := report_apply (q := q.onPage p) hoffset
  rw [show Visit.search (q.onPage p).text offset (e.pageSize (q.onPage p).pageSize)
      ((q.onPage p).optionsAt e) ⟨e, (q.onPage p).caller⟩ = _ from hsearch _ _] at hreport
  cases r with
  | error failure => exact ⟨congrArg (·.1.map fun _ => ()) hreport, congrArg (·.2) hreport⟩
  | ok page => exact ⟨congrArg (·.1.map fun _ => ()) hreport, congrArg (·.2) hreport⟩

/-- The place of a page follows from its number and the size. -/
theorem offset?_eq_some_iff {pageSize offset : Nat} :
    q.offset? pageSize = some offset ↔
      (q.page - 1) * pageSize = offset ∧ (q.page - 1) * pageSize ≤ maxRank := by
  unfold offset?
  dsimp only
  split
  · rename_i hle
    simp [hle]
  · rename_i hgt
    simp [hgt]

/-- **One page** shows a window of the hits that are found. -/
theorem results_of_report (hvalid : e.config.validate = .ok ())
    (he : e.AnswersAfresh P q.text (q.optionsAt e))
    (hfew : (q.hits e).length < maxRank) {r : SearchReport} (h : q.report e = (.ok r, e')) :
    r.pageSize = e.pageSize q.pageSize ∧ r.number = max q.page 1 ∧
      r.results.map (·.result) = e.server.window (q.hits e)
        ((q.page - 1) * e.pageSize q.pageSize) (e.pageSize q.pageSize) := by
  cases hoffset : q.offset? (e.pageSize q.pageSize) with
  | none =>
    rw [report_of_offset?_eq_none hoffset] at h
    cases (Prod.mk.inj h).1
  | some offset =>
    obtain ⟨hplace, hle⟩ := offset?_eq_some_iff.1 hoffset
    rw [report_apply hoffset] at h
    cases hsearch : Visit.search q.text offset (e.pageSize q.pageSize) (q.optionsAt e)
        ⟨e, q.caller⟩ with
    | mk result v =>
      rw [hsearch] at h
      cases result with
      | error failure => cases (Prod.mk.inj h).1
      | ok page =>
        obtain rfl := Except.ok.inj (Prod.mk.inj h).1
        have hrecords := he.records_of_search rfl hfew (hplace ▸ hle) hsearch
        rw [Engine.pageSize_pageSize hvalid] at hrecords
        refine ⟨rfl, rfl, ?_⟩
        rw [hplace, hits, ← hrecords]
        simp [reportOf, Function.comp_def]

/-! ### All pages -/

/-- **A report on a page of a search**, made at an engine that has the configuration of another one,
is in the same condition, and executes the search. -/
def Reports (P : Row → Prop) (q : QueryArguments) (e : Engine) (page : Nat) (r : SearchReport) :
    Prop :=
  ∃ e₁ e₂ : Engine, e₁.config = e.config ∧ e₁.server.condition = e.server.condition ∧
    e₁.AnswersAfresh P q.text (q.optionsAt e₁) ∧ (q.onPage page).report e₁ = (.ok r, e₂)

/-- The results on the first pages, one page after the other. -/
def shown (r : Nat → SearchReport) (pages : Nat) : List Result :=
  (List.range pages).flatMap fun i => (r (i + 1)).results.map (·.result)

/-- **A report shows the window of its page**, whichever engine it is made at. -/
theorem Reports.results_eq {page : Nat} {r : SearchReport} (h : q.Reports P e page r)
    (hvalid : e.config.validate = .ok ()) (hfew : (q.hits e).length < maxRank) :
    r.pageSize = e.pageSize q.pageSize ∧ r.number = max page 1 ∧
      r.results.map (·.result) = e.server.window (q.hits e)
        ((page - 1) * e.pageSize q.pageSize) (e.pageSize q.pageSize) := by
  obtain ⟨e₁, e₂, hconfig, hcondition, hafresh, hreport⟩ := h
  have hoptions : q.optionsAt e₁ = q.optionsAt e := by
    rw [optionsAt, optionsAt, hconfig, show e₁.catalog = e.catalog from
      Server.catalog_congr hcondition]
  have hhits : q.hits e₁ = q.hits e := by
    rw [hits, hits, hoptions]
    exact Engine.found_congr hconfig hcondition
  have hsize : e₁.pageSize q.pageSize = e.pageSize q.pageSize := Engine.pageSize_congr hconfig _
  obtain ⟨hpageSize, hnumber, hresults⟩ := results_of_report (q := q.onPage page)
    (hconfig ▸ hvalid) hafresh (hhits ▸ hfew) hreport
  refine ⟨hpageSize.trans hsize, hnumber, hresults.trans ?_⟩
  rw [show (q.onPage page).pageSize = q.pageSize from rfl, hsize,
    show (q.onPage page).hits e₁ = q.hits e from hhits]
  exact Server.window_congr hcondition _ _ _

/-- **The pages of a search are a partition of its results.** The size that the command settles is
one that the engine does not change. A page that begins behind the greatest place is refused, and
nothing is done for it. The numbers zero and one are of the same page. All other pages fail alike,
and leave the same engine. And the reports on the first pages, each made at an engine of its own
where no row that was left answers, show together the results whose places are on these pages, each
once and in the order of the places. There are fewer hits than places in any memory. -/
theorem pages_partition (q : QueryArguments) (e : Engine) (hvalid : e.config.validate = .ok ()) :
    (1 ≤ e.pageSize q.pageSize ∧ e.pageSize (e.pageSize q.pageSize) = e.pageSize q.pageSize) ∧
    (∀ p, maxRank < (p - 1) * e.pageSize q.pageSize → ∀ format,
      runQuery format (q.onPage p) e = (.error (.pageOutOfRange p), e)) ∧
    (∀ format, runQuery format (q.onPage 0) e = runQuery format (q.onPage 1) e) ∧
    (∃ (result : Except Fault Unit) (e' : Engine), ∀ p,
      (p - 1) * e.pageSize q.pageSize ≤ maxRank →
        ((q.onPage p).report e).1.map (fun _ => ()) = result ∧ ((q.onPage p).report e).2 = e') ∧
    ∀ (pages : Nat) (r : Nat → SearchReport), (q.hits e).length < maxRank →
      (∀ p, 1 ≤ p → p ≤ pages → q.Reports P e p (r p)) →
        (∀ p, 1 ≤ p → p ≤ pages → (r p).pageSize = e.pageSize q.pageSize ∧ (r p).number = p) ∧
        shown r pages = (q.fullResult e).filter (·.rank < pages * e.pageSize q.pageSize) ∧
        ((shown r pages).map (·.rank)).Pairwise (· < ·) := by
  refine ⟨⟨(Engine.pageSize_mem hvalid _).1, Engine.pageSize_pageSize hvalid _⟩,
    fun p hp format => ?_, fun format => ?_, ?_, fun pages r hfew hreports => ?_⟩
  · have hnone : (q.onPage p).offset? (e.pageSize q.pageSize) = none := by
      rw [Option.eq_none_iff_forall_ne_some]
      intro offset hoffset
      exact absurd (offset?_eq_some_iff.1 hoffset).2 (Nat.not_le.2 hp)
    rw [runQuery_eq, report_of_offset?_eq_none (q := q.onPage p) hnone]
    rfl
  · rw [runQuery_eq, runQuery_eq, report_zero]
  · obtain ⟨result, e', huniform⟩ := report_uniform q e
    exact ⟨result, e', fun p hp => huniform p _ (offset?_eq_some_iff.2 ⟨rfl, hp⟩)⟩
  · have hpages : ∀ p, 1 ≤ p → p ≤ pages → _ := fun p hpos hle =>
      (hreports p hpos hle).results_eq hvalid hfew
    have hshown : shown r pages = e.server.window (q.hits e) 0 (pages * e.pageSize q.pageSize) := by
      rw [← Server.flatMap_window]
      refine List.flatMap_congr fun i hi => ?_
      have hlt := List.mem_range.1 hi
      exact (hpages (i + 1) (by omega) (by omega)).2.2
    have hfilter := e.server.window_eq_filter (q.hits e) (Nat.le_of_lt hfew)
      (pages * e.pageSize q.pageSize)
    refine ⟨fun p hpos hle => ⟨(hpages p hpos hle).1, ?_⟩, hshown.trans hfilter, ?_⟩
    · rw [(hpages p hpos hle).2.1, Nat.max_eq_left hpos]
    · rw [hshown, hfilter]
      have hranks := (e.server.ranks_window (q.hits e) 0
        (show 0 + (q.hits e).length ≤ maxRank by omega)).1
      exact hranks.sublist (List.filter_sublist.map _)

/-- The search for the sea with two results on each page. -/
def seaByTwos : QueryArguments := { text := "sea", pageSize := 2 }

/-- The two pages of a search of the built-in dataset, each shown by a program of its own. -/
theorem pages_partition_of_sea :
    ∃ (start : Engine) (r : Nat → SearchReport),
      Engine.ofConfig (.ofDataset Demo.dataset) .empty ⟨0, 0⟩ {} = .ok start ∧
        start.config.validate = .ok () ∧ (seaByTwos.hits start).length < maxRank ∧
          (∀ p, 1 ≤ p → p ≤ 2 → seaByTwos.Reports (fun _ => True) start p (r p)) ∧
            shown r 2 = (seaByTwos.fullResult start).filter (·.rank < 2 * 2) ∧
              (shown r 2).map (·.record) = [101, 105, 201] := by
  have hpages : ((Engine.ofConfig (.ofDataset Demo.dataset) .empty ⟨0, 0⟩ {}).toOption.map
      fun e => ([1, 2].map fun p => ((seaByTwos.onPage p).report e).1.toOption.map fun r =>
        r.results.map (·.result.record), (seaByTwos.hits e).length)) =
      some ([some [101, 105], some [201]], 3) := by decide +kernel
  obtain ⟨start, hstart⟩ :
      ∃ e, Engine.ofConfig (.ofDataset Demo.dataset) .empty ⟨0, 0⟩ {} = .ok e := ⟨_, rfl⟩
  have hvalid : start.config.validate = .ok () ∧ start.pageSize seaByTwos.pageSize = 2 := by
    obtain rfl := Except.ok.inj hstart
    exact ⟨Config.validate_eq_ok_iff.2 (by decide), rfl⟩
  rw [hstart] at hpages
  obtain ⟨hpages, hlength⟩ := Prod.mk.inj (Option.some.inj hpages)
  obtain ⟨hfirst, hpages⟩ := List.cons.inj hpages
  obtain ⟨hsecond, -⟩ := List.cons.inj hpages
  obtain ⟨r₁, hr₁, hrecords₁⟩ := Option.map_eq_some_iff.1 hfirst
  obtain ⟨r₂, hr₂, hrecords₂⟩ := Option.map_eq_some_iff.1 hsecond
  have hfew : (seaByTwos.hits start).length < maxRank := by
    rw [hlength]
    decide
  have hafresh : start.AnswersAfresh (fun _ => True) "sea" (seaByTwos.optionsAt start) := by
    have hstarted := Engine.ofConfig_started (P := fun _ => True)
      (Store.memory_faithful (.nil _)) hstart
    refine (hstarted.traced ?_).answersAfresh (Engine.admitsSearches_true _ _ _)
    rw [(Engine.ofConfig_ok hstart).2.1]
    rfl
  let r : Nat → SearchReport := fun p => if p = 1 then r₁ else r₂
  have hreports : ∀ p, 1 ≤ p → p ≤ 2 → seaByTwos.Reports (fun _ => True) start p (r p) := by
    intro p hpos hle
    obtain rfl | rfl : p = 1 ∨ p = 2 := by omega
    · exact ⟨start, _, rfl, rfl, hafresh, Prod.ext (Query.toOption_eq_some_iff.1 hr₁) rfl⟩
    · exact ⟨start, _, rfl, rfl, hafresh, Prod.ext (Query.toOption_eq_some_iff.1 hr₂) rfl⟩
  obtain ⟨-, -, -, -, hall⟩ := pages_partition (P := fun _ => True) seaByTwos start hvalid.1
  obtain ⟨-, hshown, -⟩ := hall 2 r hfew hreports
  rw [hvalid.2] at hshown
  refine ⟨start, r, hstart, hvalid.1, hfew, hreports, hshown, ?_⟩
  calc (shown r 2).map (·.record)
      = r₁.results.map (·.result.record) ++ r₂.results.map (·.result.record) := by
        simp [shown, r, List.range_succ, Function.comp_def]
    _ = [101, 105, 201] := by rw [hrecords₁, hrecords₂]; rfl

/-- **A row of an earlier process breaks the pages of a search**: its session has the id of the next
one, where there are no hits, and it answers the text. -/
theorem not_forall_shown_eq :
    ¬∀ (c : Config) (disk : Disk) (now : Calendar.Instant) (q : QueryArguments) (start : Engine)
        (pages : Nat) (r : Nat → SearchReport),
      c.validate = .ok () → Engine.start c disk now = .ok start →
        (∀ p, 1 ≤ p → p ≤ pages → ((q.onPage p).report start).1 = .ok (r p)) →
          shown r pages =
            (q.fullResult start).filter (·.rank < pages * start.pageSize q.pageSize) := by
  intro hpartition
  let c : Config := { cache := { store := .file, path := some "rows.json" } }
  let disk : Disk := fun _ => .text (Row.tableText leftRows)
  obtain ⟨start, hstart⟩ : ∃ e, Engine.start c disk ⟨60, 0⟩ = .ok e := ⟨_, rfl⟩
  have hfigures : (Engine.start c disk ⟨60, 0⟩).toOption.map (fun e =>
      (((seaByTwos.onPage 1).report e).1.toOption.map (·.results.length),
        (seaByTwos.fullResult e).countP (·.rank < 1 * e.pageSize seaByTwos.pageSize))) =
      some (some 0, 2) := by decide +kernel
  rw [hstart] at hfigures
  obtain ⟨hpage, hcount⟩ := Prod.mk.inj (Option.some.inj hfigures)
  obtain ⟨r, hr, hlength⟩ := Option.map_eq_some_iff.1 hpage
  have hreports : ∀ p, 1 ≤ p → p ≤ 1 → ((seaByTwos.onPage p).report start).1 = .ok r := by
    intro p hpos hle
    obtain rfl : p = 1 := by omega
    exact Query.toOption_eq_some_iff.1 hr
  have hshown := hpartition c disk ⟨60, 0⟩ seaByTwos start 1 (fun _ => r)
    (Config.validate_eq_ok_iff.2 (by decide)) hstart hreports
  have hlengths := congrArg List.length hshown
  rw [← List.countP_eq_length_filter, hcount] at hlengths
  simp [shown, List.range_succ, hlength] at hlengths

end QueryArguments

end CommandLine

end FederatedSearch
