import FederatedSearch.Proofs.Engine.Narrowing
import FederatedSearch.Proofs.Engine.Repeating
import FederatedSearch.Proofs.Engine.Reuse

/-!
# Pages side by side

Pages of one search that lie side by side join to one page, as long as nothing happens between them:
no result is lost or shown twice at the border, and all pages say the same total. As many results
are shown on all pages together as the total says, when the server is within reach and no record was
removed since the hits were found. Rows of an earlier process do not keep to this: they count hits
that the engine never found.

* `FederatedSearch.Visit.browse`: one page after the other.
* `FederatedSearch.Visit.Serves.browse`: the results on some pages are one window of hits.
* `FederatedSearch.Engine.Reached.search_pages`: pages side by side, and all pages together.
* `FederatedSearch.Engine.not_forall_browse_complete`: a row of an earlier process.
-/

namespace FederatedSearch

variable {P : Row → Prop}

/-! ### Pages -/

/-- **The places of the results ascend**, and lie on the page. -/
def Page.RanksWithin (p : Page) (offset count : Nat) : Prop :=
  (p.records.map (·.rank)).Pairwise (· < ·) ∧
    ∀ r ∈ p.records, offset ≤ r.rank ∧ r.rank < offset + count

theorem Page.Windows.ranksWithin {p : Page} {s : Server} {hits : List Hit}
    {total offset count : Nat} (h : p.Windows s hits total offset count)
    (hmax : offset + count ≤ maxRank) : p.RanksWithin offset count := by
  rw [RanksWithin, h.records]
  exact s.ranks_window hits offset hmax

/-- A size that is asked for is that of the page, when it is not too much. -/
theorem Engine.pageSize_eq {e : Engine} {asked : Nat} (hpos : 1 ≤ asked)
    (hmax : asked ≤ e.config.search.maxPageSize) : e.pageSize asked = asked := by
  have hzero : (asked == 0) = false := by simpa using Nat.ne_of_gt hpos
  rw [pageSize, hzero, if_neg (by decide), Nat.min_eq_left hmax]

namespace Visit

/-- **One page after the other**, of some sizes, from a place on. -/
def browse (text : String) (options : SearchOptions) : Nat → List Nat → Action Visit (List Page)
  | _, [] => return []
  | offset, size :: rest => do
    let page ← search text offset size options
    let pages ← browse text options (offset + size) rest
    return page :: pages

variable {a : Attempt} {user : Nat} {hits : List Hit} {total : Nat} {v : Visit}

/-- **The results on pages side by side** are those in one window of hits. -/
theorem Serves.browse (h : v.Serves P a user hits total) {sizes : List Nat} {offset : Nat}
    (hsizes : ∀ size ∈ sizes, 1 ≤ size ∧ size ≤ a.engine.config.search.maxPageSize)
    (hmax : offset + sizes.sum ≤ maxRank) :
    ∃ pages w, Visit.browse a.text a.options offset sizes v = (.ok pages, w) ∧
      pages.flatMap (·.records) = a.engine.server.window hits offset sizes.sum ∧
        ∀ p ∈ pages, p.total = total := by
  induction sizes generalizing offset v with
  | nil =>
    refine ⟨[], v, rfl, ?_, List.forall_mem_nil _⟩
    simp [Server.window, resultsOf, resultsFrom]
  | cons size rest ih =>
    obtain ⟨⟨hpos, hle⟩, hrest⟩ := List.forall_mem_cons.1 hsizes
    rw [List.sum_cons, ← Nat.add_assoc] at hmax
    obtain ⟨page, v', session, hsearch, hpage, hholds⟩ := h offset (by omega) size
    rw [Engine.pageSize_eq hpos hle] at hpage
    obtain ⟨pages, w, hbrowse, hrecords, htotals⟩ := ih hholds.serves hrest hmax
    refine ⟨page :: pages, w, ?_, ?_, List.forall_mem_cons.2 ⟨hpage.total, htotals⟩⟩
    · simp only [Visit.browse, Action.bind_apply, hsearch, hbrowse, Action.pure_apply]
    · rw [List.flatMap_cons, hpage.records, hrecords, List.sum_cons, Server.window_append]

end Visit

/-! ### Hits that can all be resolved -/

namespace Engine

variable {start e : Engine} {h : History}

/-- **The hits that a caller holds** are as many as it is told, and all of them can be resolved,
when no record was removed since they were found. -/
theorem Reached.resolves_of_holds (hreached : Reached start h e)
    (hkeys : ∀ i ∈ start.server.indexes, i.HasKeys) (htraced : Traced P h e) {a : Attempt}
    {user : Nat} {session : String} {hits : List Hit} {total : Nat} {v : Visit} (hv : v.engine = e)
    (hholds : v.Holds P a user session hits total)
    (hsince : ∀ m ∈ h.sinceAttempt session, m.Retains) :
    total = hits.length ∧ ∀ hit ∈ hits, a.engine.server.Resolves hit := by
  subst hv
  have hindexes : a.engine.server.indexes = v.engine.server.indexes :=
    (congrArg Condition.indexes hholds.condition).symm
  obtain ⟨row, cursor, hrow, hcursor, hmatch, hlasts | ⟨rfl, rfl⟩⟩ := hholds.keeps
  · -- the row answers, so the last execution in the session wrote it
    have hquery : row.query ≠ "" :=
      Cache.query_eq_of_not_stale hlasts.fresh ▸ a.text_ne_empty
    obtain ⟨-, rfl, rfl⟩ := hmatch.resolve_left hquery
    obtain ⟨b, hb, htotal, hhits⟩ := htraced.rows session row cursor hrow hquery hcursor
    rw [hhits]
    exact ⟨htotal, fun hit hhit =>
      (hreached.resolves_of_mem_hits hkeys hb hsince hhit).congr hholds.condition⟩
  · refine ⟨rfl, fun hit hhit => a.resolves_of_mem_hits ?_ hhit⟩
    rw [hindexes]
    exact hreached.narrows.hasKeys hkeys

/-! ### All pages -/

/-- What is known of an engine that was started just now. -/
theorem ofConfig_ok {server : Server} {store : Store} {now : Calendar.Instant} {config : Config}
    (h : ofConfig server store now config = .ok e) :
    e.server = server ∧ e.cache.store = store ∧ e.connected = false := by
  unfold ofConfig at h
  split at h
  · cases h
    exact ⟨rfl, rfl, rfl⟩
  · cases h

/-- **Paging is contiguous and complete.** Let an engine be started over a store without rows that
reads back rows of some kind, and let the rows that are written be of this kind. When a search gives
a page in some engine that is reached, the page after it and the page in the place of both can be
had, and the two pages side by side have the results of the one, with the same places and the same
total. If the server is within reach, the records of a backend have different ids, and none was
removed since the execution that the page is of, then the pages from the first place on show as many
results as the total says.

Rows in memory are of no kind in particular (`FederatedSearch.Engine.admitsSearches_true`). -/
theorem Reached.search_pages {d : Dataset} {store : Store} {now : Calendar.Instant}
    {config : Config}
    (hstore : store.Faithful P) (hempty : store.rows = .ok [])
    (hstart : ofConfig (.ofDataset d) store now config = .ok start) (hreached : Reached start h e)
    {k : Caller} {text : String} {options : SearchOptions} {o m n : Nat} {p₁ : Page} {v₁ : Visit}
    (hadmitted : ∀ x ∈ h, x.Admitted P) (hadmits : e.AdmitsSearches P text options)
    (hm : 1 ≤ m) (hn : 1 ≤ n) (hsize : m + n ≤ e.config.search.maxPageSize)
    (hmax : o + m + n ≤ maxRank)
    (hsearch : Visit.search text o m options ⟨e, k⟩ = (.ok p₁, v₁)) :
    ∃ p₂ v₂ p₃ v₃, Visit.search text (o + m) n options v₁ = (.ok p₂, v₂) ∧
      Visit.search text o (m + n) options v₂ = (.ok p₃, v₃) ∧
      p₁.records ++ p₂.records = p₃.records ∧ p₁.total = p₂.total ∧ p₂.total = p₃.total ∧
      p₁.RanksWithin o m ∧ p₂.RanksWithin (o + m) n ∧ p₃.RanksWithin o (m + n) ∧
      (e.server.reachable = true → (∀ i ∈ d.indexes, i.HasKeys) →
        (∀ id, v₁.caller.session = some id →
          ∀ x ∈ History.sinceAttempt id (⟨.search k text o m options, e⟩ :: h), x.Retains) →
        ∀ sizes : List Nat, (∀ s ∈ sizes, 1 ≤ s ∧ s ≤ e.config.search.maxPageSize) →
          p₁.total ≤ sizes.sum → sizes.sum ≤ maxRank →
          ∃ pages w, Visit.browse text options 0 sizes ⟨e, k⟩ = (.ok pages, w) ∧
            (pages.flatMap (·.records)).length = p₁.total ∧ ∀ p ∈ pages, p.total = p₁.total) := by
  obtain ⟨hserver, hrows, hconnected⟩ := ofConfig_ok hstart
  have hstarted := ofConfig_started hstore hstart
  have htraced := hreached.traced hstarted (hrows ▸ hempty) hadmitted
  have hlinked : e.Linked := (advances_runsAlong.reached hreached).linked_of fun hc => by
    rw [hconnected] at hc
    cases hc
  have hfirst := hsearch
  rw [Visit.search_eq] at hfirst
  obtain ⟨session, v, hattach, -⟩ := Action.ok_of_bind hfirst
  obtain ⟨user, hits, total, hserves⟩ := htraced.serves hlinked hadmits hattach
  have hstands := Visit.attach_stands hattach
  have hconfig : v.engine.config = e.config := hstands.config
  rw [← hconfig] at hsize ⊢
  -- the three pages are windows of the same hits
  obtain ⟨page, w, session₁, hpage, hwindow₁, hholds₁⟩ := hserves o (by omega) m
  obtain ⟨hp, rfl⟩ := Prod.mk.inj (hsearch.symm.trans hpage)
  obtain rfl := Except.ok.inj hp
  obtain ⟨p₂, v₂, session₂, hsearch₂, hwindow₂, hholds₂⟩ := hholds₁.serves (o + m) (by omega) n
  obtain ⟨p₃, v₃, session₃, hsearch₃, hwindow₃, -⟩ := hholds₂.serves o (by omega) (m + n)
  rw [pageSize_eq (e := v.engine) (by omega) (by omega)] at hwindow₁ hwindow₂ hwindow₃
  refine ⟨p₂, v₂, p₃, v₃, hsearch₂, hsearch₃, ?_, hwindow₁.total.trans hwindow₂.total.symm,
    hwindow₂.total.trans hwindow₃.total.symm, hwindow₁.ranksWithin (by omega),
    hwindow₂.ranksWithin hmax, hwindow₃.ranksWithin (by omega), ?_⟩
  · rw [hwindow₁.records, hwindow₂.records, hwindow₃.records, Server.window_append]
  · intro hreachable hkeys hsince sizes hsizes htotal hsum
    let s : Step := .search k text o m options
    have hrun : v₁.engine = s.run e := (congrArg (·.2.engine) hsearch).symm
    obtain ⟨hlength, hresolves⟩ := Reached.resolves_of_holds (hreached.step s) (hserver ▸ hkeys)
      (htraced.step s (hadmits.now k o m)) hrun hholds₁ (hsince session₁ hholds₁.claims)
    obtain ⟨pages, w, hbrowse, hrecords, htotals⟩ := hserves.browse hsizes
      (show 0 + sizes.sum ≤ maxRank by omega)
    have hreachable' : v.engine.server.reachable = true :=
      (congrArg Condition.reachable (Cache.condition_eq hstands.setting)).trans hreachable
    rw [hwindow₁.total] at htotal ⊢
    refine ⟨pages, w, hbrowse, ?_, htotals⟩
    rw [hrecords, Server.length_window _ _ hreachable' hresolves, ← hlength]
    omega

/-- The pages of a search of the built-in dataset: one of one result and one of two, one of three,
and all results in pages of two and one. -/
theorem search_pages_of_sea :
    ∃ start p₁ v₁ p₂ v₂ p₃ v₃, ofConfig (.ofDataset Demo.dataset) .empty ⟨0, 0⟩ {} = .ok start ∧
      Visit.search "sea" 0 1 .standard ⟨start, { user := some 1 }⟩ = (.ok p₁, v₁) ∧
      Visit.search "sea" 1 2 .standard v₁ = (.ok p₂, v₂) ∧
      Visit.search "sea" 0 3 .standard v₂ = (.ok p₃, v₃) ∧
      p₁.records ++ p₂.records = p₃.records ∧ p₃.total = 3 ∧ p₃.RanksWithin 0 3 ∧
      ∃ pages w, Visit.browse "sea" .standard 0 [2, 1] ⟨start, { user := some 1 }⟩ =
        (.ok pages, w) ∧ (pages.flatMap (·.records)).length = 3 := by
  obtain ⟨start, hstart⟩ :
      ∃ e, ofConfig (.ofDataset Demo.dataset) .empty ⟨0, 0⟩ {} = .ok e := ⟨_, rfl⟩
  have htotal : (ofConfig (.ofDataset Demo.dataset) .empty ⟨0, 0⟩ {}).toOption.bind (fun e =>
      (Visit.search "sea" 0 1 .standard ⟨e, { user := some 1 }⟩).1.toOption.map Page.total) =
        some 3 := by decide +kernel
  have hsize : (3 : Nat) ≤ start.config.search.maxPageSize ∧ start.server.reachable = true := by
    obtain rfl := Except.ok.inj hstart
    decide
  rw [hstart] at htotal
  obtain ⟨p₁, hpage, hthree⟩ := Option.map_eq_some_iff.1 htotal
  cases hsearch : Visit.search "sea" 0 1 .standard ⟨start, { user := some 1 }⟩ with
  | mk r v₁ =>
    rw [hsearch] at hpage
    cases r with
    | error failure => cases hpage
    | ok p =>
      obtain rfl := Option.some.inj hpage
      obtain ⟨p₂, v₂, p₃, v₃, h₂, h₃, hjoin, h₁₂, h₂₃, -, -, hranks, hcomplete⟩ :=
        Reached.search_pages (P := fun _ => True) (n := 2) (Store.memory_faithful (.nil _)) rfl
          hstart .start (List.forall_mem_nil _) (admitsSearches_true _ _ _) (Nat.le_refl 1)
          (by decide) hsize.1 (by decide) hsearch
      have hretains : ∀ id, v₁.caller.session = some id → ∀ x ∈ History.sinceAttempt id
          [⟨.search { user := some 1 } "sea" 0 1 .standard, start⟩], x.Retains := by
        intro id _ x hx
        obtain rfl := List.mem_singleton.1 (List.takeWhile_subset _ hx)
        exact Moment.retains_of_search _ _ _ _ _ _
      have hsizes : ∀ size ∈ [2, 1], 1 ≤ size ∧ size ≤ start.config.search.maxPageSize := by
        have hmax := hsize.1
        exact List.forall_mem_cons.2 ⟨by omega, List.forall_mem_cons.2 ⟨by omega,
          List.forall_mem_nil _⟩⟩
      obtain ⟨pages, w, hbrowse, hlength, -⟩ := hcomplete hsize.2 (by decide) hretains [2, 1] hsizes
        (Nat.le_of_eq hthree) (by decide)
      exact ⟨start, p, v₁, p₂, v₂, p₃, v₃, hstart, hsearch, h₂, h₃, hjoin,
        (h₁₂.trans h₂₃).symm.trans hthree, hranks, pages, w, hbrowse, hlength.trans hthree⟩

/-- **A row of an earlier process breaks the pages of a search**: it tells of hits that the engine
never found. -/
theorem not_forall_browse_complete :
    ¬∀ (d : Dataset) (store : Store) (now : Calendar.Instant) (config : Config) (start : Engine)
        (k : Caller) (text : String) (sizes : List Nat) (pages : List Page) (v : Visit),
      ofConfig (.ofDataset d) store now config = .ok start → start.server.reachable = true →
        (∀ i ∈ d.indexes, i.HasKeys) →
          (∀ size ∈ sizes, 1 ≤ size ∧ size ≤ start.config.search.maxPageSize) →
            Visit.browse text .standard 0 sizes ⟨start, k⟩ = (.ok pages, v) →
              ∀ p ∈ pages, p.total ≤ sizes.sum → (pages.flatMap (·.records)).length = p.total := by
  intro hcomplete
  let store : Store := .file (.text (Row.tableText leftRows))
  let k : Caller := { user := some 1 }
  obtain ⟨start, hstart⟩ :
      ∃ e, ofConfig (.ofDataset Demo.dataset) store ⟨60, 0⟩ {} = .ok e := ⟨_, rfl⟩
  have hfigures : (ofConfig (.ofDataset Demo.dataset) store ⟨60, 0⟩ {}).toOption.bind (fun e =>
      (Visit.browse "sea" .standard 0 [4] ⟨e, k⟩).1.toOption.map fun pages =>
        ((pages.flatMap (·.records)).length, pages.map (·.total))) = some (0, [4]) := by
    decide +kernel
  have hmax : (4 : Nat) ≤ start.config.search.maxPageSize ∧ start.server.reachable = true := by
    obtain rfl := Except.ok.inj hstart
    decide
  rw [hstart] at hfigures
  obtain ⟨pages, hpages, hnumbers⟩ := Option.map_eq_some_iff.1 hfigures
  obtain ⟨hlength, htotals⟩ := Prod.mk.inj hnumbers
  cases hbrowse : Visit.browse "sea" .standard 0 [4] ⟨start, k⟩ with
  | mk r v =>
    rw [hbrowse] at hpages
    cases r with
    | error failure => cases hpages
    | ok ps =>
      obtain rfl := Option.some.inj hpages
      have hsizes : ∀ size ∈ [4], 1 ≤ size ∧ size ≤ start.config.search.maxPageSize :=
        List.forall_mem_cons.2 ⟨⟨by decide, hmax.1⟩, List.forall_mem_nil _⟩
      obtain ⟨p, hp, htotal⟩ : ∃ p ∈ ps, p.total = 4 := by
        rw [← List.mem_map, htotals]
        exact List.mem_cons_self
      have heq := hcomplete _ _ _ _ start k "sea" [4] ps v hstart hmax.2 (by decide) hsizes
        hbrowse p hp (Nat.le_of_eq htotal)
      omega

end Engine

end FederatedSearch
