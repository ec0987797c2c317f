import FederatedSearch.Engine.Search
import FederatedSearch.Proofs.Action
import FederatedSearch.Proofs.Engine.Answer
import FederatedSearch.Proofs.Engine.Restriction
import FederatedSearch.Proofs.Query.Targets

/-!
# Engines that differ in hidden records

Two engines may hold different records of collections that a caller is not authorized for, and
differ in nothing else but the times that executions take. Every action of a search keeps them so,
and has the same outcome on both, up to times: the two keep to each other, action by action, from
the store of rows up to the whole of a search.

* `FederatedSearch.Server.SameFor`, `FederatedSearch.Cache.SameFor`,
  `FederatedSearch.Engine.SameFor`, `FederatedSearch.Visit.SameFor`: the two are the same for
  callers that are authorized for some collections.
* `FederatedSearch.Cache.execute_parallel`: executing a search.
* `FederatedSearch.Visit.search_parallel`, `FederatedSearch.Visit.SameFor.excerpt_eq`: searches
  and excerpts.
-/

namespace FederatedSearch

open FederatedSearch.Action Calendar Query

/-! ### Rows without times -/

namespace Table

variable {κ α β : Type}

/-- The table with each value changed. -/
def mapValues (f : α → β) (t : Table κ α) : Table κ β := t.map fun p => (p.1, f p.2)

theorem insert_mapValues (f : α → β) (cmp : κ → κ → Ordering) (key : κ) (a : α) (t : Table κ α) :
    insert cmp key (f a) (mapValues f t) = mapValues f (insert cmp key a t) := by
  induction t with
  | nil => rfl
  | cons p rest ih =>
    simp only [mapValues, List.map_cons, insert] at ih ⊢
    cases cmp key p.1 with
    | lt => rfl
    | eq => rfl
    | gt => exact congrArg (_ :: ·) ih

variable [DecidableEq κ]

theorem find?_mapValues (f : α → β) (key : κ) (t : Table κ α) :
    find? key (mapValues f t) = (find? key t).map f := by
  induction t with
  | nil => rfl
  | cons p rest ih =>
    obtain ⟨k, a⟩ := p
    simp only [mapValues, List.map_cons, find?_cons] at ih ⊢
    split
    · rfl
    · exact ih

theorem erase_mapValues (f : α → β) (key : κ) (t : Table κ α) :
    erase key (mapValues f t) = mapValues f (erase key t) := by
  simp only [erase, mapValues, List.filter_map]
  rfl

end Table

/-- **The row without the time that its executions took.** -/
def Row.untimed (r : Row) : Row := { r with duration := .zero false }

/-- The decision without the time of the row. -/
def Decision.untimed : Decision → Decision
  | .reuse row => .reuse row.untimed
  | .recompute => .recompute

/-- What has no part in times is the same for rows that differ in them only. -/
theorem Row.eq_of_untimed {α : Type} {r r' : Row} (h : r.untimed = r'.untimed) {f : Row → α}
    (hf : ∀ r : Row, f r.untimed = f r) : f r = f r' := by
  rw [← hf r, h, hf r']

/-! ### Servers that show the same -/

/-- **Two servers are the same for callers that are authorized for some collections**: they differ
in records of other collections and in times only, and no hit is of such a record. -/
structure Server.SameFor (allowed : List Nat) (b : Catalog) (s t : Server) : Prop where
  catalog : s.catalog = b
  restrict : s.restrict allowed = t.restrict allowed
  left : s.Confined allowed
  right : t.Confined allowed

namespace Server.SameFor

variable {allowed : List Nat} {b : Catalog} {s t : Server}

/-- What the restricted servers have in common the servers have in common. -/
theorem eq_of_restrict {α : Type} (h : SameFor allowed b s t) {f : Server → α}
    (hf : ∀ u : Server, f (u.restrict allowed) = f u) : f s = f t := by
  rw [← hf s, h.restrict, hf t]

theorem catalog_right (h : SameFor allowed b s t) : t.catalog = b := by
  rw [← h.eq_of_restrict (Server.catalog_restrict allowed), h.catalog]

theorem cursor?_eq (h : SameFor allowed b s t) (id : String) : s.cursor? id = t.cursor? id :=
  h.eq_of_restrict (f := (·.cursor? id)) fun _ => rfl

/-- A change that has nothing to do with records. -/
theorem map (h : SameFor allowed b s t) {f : Server → Server}
    (hrestrict : ∀ u : Server, (f u).restrict allowed = f (u.restrict allowed))
    (hcatalog : ∀ u : Server, (f u).catalog = u.catalog)
    (hconfined : ∀ u : Server, u.Confined allowed → (f u).Confined allowed) :
    SameFor allowed b (f s) (f t) where
  catalog := (hcatalog s).trans h.catalog
  restrict := by rw [hrestrict, hrestrict, h.restrict]
  left := hconfined s h.left
  right := hconfined t h.right

theorem closeSession (h : SameFor allowed b s t) (id : String) :
    SameFor allowed b (s.closeSession id) (t.closeSession id) :=
  h.map (f := (·.closeSession id)) (fun _ => rfl) (fun _ => rfl) fun _ hu => hu.closeSession id

theorem clearResults (h : SameFor allowed b s t) (id : String) :
    SameFor allowed b (s.clearResults id) (t.clearResults id) := by
  refine h.map (f := (·.clearResults id)) (fun u => ?_) (fun u => ?_) fun _ hu => hu.clearResults id
  · simp only [Server.clearResults, cursor?_restrict]
    cases u.cursor? id <;> rfl
  · simp only [Server.clearResults]
    cases u.cursor? id <;> rfl

/-- The server after a session was opened. -/
theorem createSession (h : SameFor allowed b s t) (user : Nat) :
    (∃ fault, s.createSession user = .error fault ∧ t.createSession user = .error fault) ∨
      ∃ id s' t', s.createSession user = .ok (id, s') ∧ t.createSession user = .ok (id, t') ∧
        SameFor allowed b s' t' := by
  have hconnected : s.connected = t.connected := h.eq_of_restrict fun _ => rfl
  have hnext : s.nextSession = t.nextSession := h.eq_of_restrict fun _ => rfl
  unfold Server.createSession
  rw [← hconnected, ← hnext]
  cases s.connected with
  | false => exact .inl ⟨_, rfl, rfl⟩
  | true =>
    have hput := h.map (f := fun u => { u with
        connected := true
        nextSession := s.nextSession + 1
        sessions := Table.insert Text.cmpText (sessionId s.nextSession) (.empty user) u.sessions })
      (fun _ => rfl) (fun _ => rfl) fun u hu =>
        (hu.putCursor (sessionId s.nextSession) (c := .empty user)
          (by simp [Cursor.empty])).of_sessions rfl rfl
    exact .inr ⟨_, _, _, rfl, rfl, hput⟩

theorem connect (h : SameFor allowed b s t) (host : String) (port : Nat) :
    Action.Agree (SameFor allowed b) (s.connect host port) (t.connect host port) := by
  have hreachable : s.reachable = t.reachable := h.eq_of_restrict fun _ => rfl
  unfold Server.connect
  by_cases hs : s.reachable = true
  · rw [if_pos hs, if_pos (hreachable ▸ hs)]
    exact h.map (f := fun u => { u with connected := true }) (fun _ => rfl) (fun _ => rfl)
      fun u hu => hu.of_sessions rfl rfl
  · rw [if_neg hs, if_neg (hreachable ▸ hs)]
    rfl

/-- **Executing plans within the collections** has the same outcomes, up to times. -/
theorem executePlans (h : SameFor allowed b s t) (o : SearchOptions) (session : String)
    {plans : List Plan} (hplans : ∀ p ∈ plans, p.collections ⊆ b.authorized p.backend allowed) :
    (FederatedSearch.executePlans o session plans s).1.map Outcome.untimed =
        (FederatedSearch.executePlans o session plans t).1.map Outcome.untimed ∧
      SameFor allowed b (FederatedSearch.executePlans o session plans s).2
        (FederatedSearch.executePlans o session plans t).2 := by
  have hs : ∀ p ∈ plans, p.collections ⊆ s.catalog.authorized p.backend allowed := by
    rwa [h.catalog]
  have ht : ∀ p ∈ plans, p.collections ⊆ t.catalog.authorized p.backend allowed := by
    rwa [h.catalog_right]
  have hrun := (executePlans_restrict o session hs).symm.trans
    ((congrArg (FederatedSearch.executePlans o session plans) h.restrict).trans
      (executePlans_restrict o session ht))
  obtain ⟨houtcomes, hservers⟩ := Prod.mk.inj hrun
  exact ⟨houtcomes, (catalog_executePlans o session plans s).trans h.catalog, hservers,
    executePlans_confined h.left o session hs, executePlans_confined h.right o session ht⟩

/-- **A window of hits is the same.** -/
theorem fetch?_eq (h : SameFor allowed b s t) (session : String) (start count : Nat)
    (markers : Option Index.Markers) :
    s.fetch? session start count markers = t.fetch? session start count markers := by
  rw [← fetch?_restrict h.left, h.restrict, fetch?_restrict h.right]

/-- **A page is the same**, up to times. -/
theorem page_eq (h : SameFor allowed b s t) (session : String) {row row' : Row}
    (hrow : row.untimed = row'.untimed) (offset count : Nat) (language : Language) :
    (s.page session row offset count language).untimed =
      (t.page session row' offset count language).untimed := by
  have hfetch := fetch?_eq h session (rankAfter offset 1) count none
  have hquery : row.query = row'.query := Row.eq_of_untimed hrow fun _ => rfl
  have htotal : row.total = row'.total := Row.eq_of_untimed hrow fun _ => rfl
  simp only [Server.page, hfetch, h.catalog, h.catalog_right, Page.ofRow, hquery, htotal]
  cases t.fetch? session (rankAfter offset 1) count none <;> rfl

end Server.SameFor

/-! ### Caches that show the same -/

/-- **Two stores have the same rows in memory**, up to times. -/
def Store.SameRows (s t : Store) : Prop :=
  ∃ rows rows', s = .memory rows ∧ t = .memory rows' ∧
    Table.mapValues Row.untimed rows = Table.mapValues Row.untimed rows'

/-- **Two caches are the same for callers that are authorized for some collections.** -/
structure Cache.SameFor (allowed : List Nat) (b : Catalog) (c d : Cache) : Prop where
  server : c.server.SameFor allowed b d.server
  store : c.store.SameRows d.store
  now : c.now = d.now
  staleAfter : c.staleAfter = d.staleAfter

namespace Cache.SameFor

variable {allowed : List Nat} {b : Catalog} {c d : Cache}

/-- The rows of a session are the same. -/
theorem entry (h : SameFor allowed b c d) (session : String) :
    Agree (fun r r' => r.map Row.untimed = r'.map Row.untimed) (c.entry session)
      (d.entry session) := by
  obtain ⟨rows, rows', hc, hd, hrows⟩ := h.store
  simp only [Cache.entry, Store.get?, hc, hd, Store.rows]
  change (Table.find? session rows).map _ = (Table.find? session rows').map _
  rw [← Table.find?_mapValues, hrows, Table.find?_mapValues]

/-- A row is put in place. -/
theorem putRow (h : SameFor allowed b c d) {row row' : Row} (hrow : row.untimed = row'.untimed) :
    Agree (SameFor allowed b) (c.putRow row) (d.putRow row') := by
  obtain ⟨rows, rows', hc, hd, hrows⟩ := h.store
  simp only [Cache.putRow, Store.upsert, hc, hd, Store.rows]
  refine ⟨h.server, ⟨_, _, rfl, rfl, ?_⟩, h.now, h.staleAfter⟩
  have hkey : row.session = row'.session := Row.eq_of_untimed hrow fun _ => rfl
  rw [← Table.insert_mapValues, ← Table.insert_mapValues, hrows, hrow, hkey]

theorem entryOrCreated (h : SameFor allowed b c d) (session : String) :
    Agree (fun r r' : Row => r.untimed = r'.untimed) (c.entryOrCreated session)
      (d.entryOrCreated session) := by
  refine (h.entry session).bind fun r r' hr => ?_
  rw [h.now]
  cases r <;> cases r'
  · rfl
  · cases hr
  · cases hr
  · exact Option.some.inj hr

theorem register (h : SameFor allowed b c d) (session : String) :
    Agree (SameFor allowed b) (c.register session) (d.register session) := by
  refine (h.entry session).bind fun r r' hr => ?_
  cases r <;> cases r'
  · rw [h.now]
    exact h.putRow rfl
  · cases hr
  · cases hr
  · exact h

/-- **The same is decided.** -/
theorem decide (h : SameFor allowed b c d) (session query : String) (force : Bool) :
    Agree (fun x y : Decision => x.untimed = y.untimed) (c.decide session query force)
      (d.decide session query force) := by
  refine (h.entry session).bind fun r r' hr => ?_
  cases r with
  | none => cases r' with
    | none => rfl
    | some row' => cases hr
  | some row => cases r' with
    | none => cases hr
    | some row' =>
      have hrow : row.untimed = row'.untimed := Option.some.inj hr
      have hstale :
          row.isStale query c.now c.staleAfter = row'.isStale query d.now d.staleAfter := by
        rw [h.now, h.staleAfter]
        exact Row.eq_of_untimed (f := fun r => r.isStale query d.now d.staleAfter) hrow fun _ => rfl
      dsimp only
      rw [hstale]
      split
      · rfl
      · exact congrArg Decision.reuse hrow

theorem record (h : SameFor allowed b c d) (session query : String)
    (duration duration' : Number.Binary64) {total total' : Nat} (htotal : total = total') :
    Agree (fun p q : Row × Cache => p.1.untimed = q.1.untimed ∧ SameFor allowed b p.2 q.2)
      (c.record session query duration total) (d.record session query duration' total') := by
  refine (h.entryOrCreated session).bind fun r r' hr => ?_
  have hrow : (r.executed query c.now duration total).untimed =
      (r'.executed query d.now duration' total').untimed := by
    have hsession : r.session = r'.session := Row.eq_of_untimed hr fun _ => rfl
    simp only [Row.executed, Row.untimed, h.now, hsession, htotal]
  exact (h.putRow hrow).bind fun _ _ hput => ⟨hrow, hput⟩

theorem invalidate (h : SameFor allowed b c d) (session : String) :
    Agree (SameFor allowed b) (c.invalidate session) (d.invalidate session) := by
  refine (h.entryOrCreated session).bind fun r r' hr => h.putRow ?_
  have hsession : r.session = r'.session := Row.eq_of_untimed hr fun _ => rfl
  have htime : r.queryTime = r'.queryTime := Row.eq_of_untimed hr fun _ => rfl
  simp only [Row.emptied, Row.untimed, h.now, hsession, htime]

theorem removeRow (h : SameFor allowed b c d) (session : String) :
    Agree (fun p q : Bool × Cache => p.1 = q.1 ∧ SameFor allowed b p.2 q.2)
      (c.removeRow session) (d.removeRow session) := by
  obtain ⟨rows, rows', hc, hd, hrows⟩ := h.store
  have hhas : Table.has session rows = Table.has session rows' := by
    have hfind := congrArg (fun t => (Table.find? session t).isSome) hrows
    simp only [Table.find?_mapValues, Option.isSome_map] at hfind
    exact hfind
  have herase : Table.mapValues Row.untimed (Table.erase session rows) =
      Table.mapValues Row.untimed (Table.erase session rows') := by
    rw [← Table.erase_mapValues, hrows, Table.erase_mapValues]
  simp only [Cache.removeRow, Store.remove, hc, hd, Store.rows]
  change Agree _ ((if Table.has session rows then _ else _) >>= _)
    ((if Table.has session rows' then _ else _) >>= _)
  rw [← hhas]
  split
  · exact ⟨rfl, h.server, ⟨_, _, rfl, rfl, herase⟩, h.now, h.staleAfter⟩
  · exact ⟨rfl, h.server, ⟨_, _, rfl, rfl, hrows⟩, h.now, h.staleAfter⟩

/-- The same sessions are idle. -/
theorem expired (h : SameFor allowed b c d) (cutoff : Instant) :
    c.store.expired cutoff = d.store.expired cutoff := by
  obtain ⟨rows, rows', hc, hd, hrows⟩ := h.store
  -- what is asked of a row has no part in its time
  have hidle : ∀ t : Table String Row, ((t.map (·.2)).filter (·.idleSince cutoff)).map (·.session) =
      (((Table.mapValues Row.untimed t).map (·.2)).filter (·.idleSince cutoff)).map
        (·.session) := by
    intro t
    simp only [Table.mapValues, List.map_map, List.filter_map]
    rfl
  have hexpired : ∀ t : Table String Row, (Store.memory t).expired cutoff =
      .ok (((t.map (·.2)).filter (·.idleSince cutoff)).map (·.session)) := fun _ => rfl
  rw [hc, hd, hexpired, hexpired, hidle rows, hrows, ← hidle rows']

end Cache.SameFor

/-! ### Actions on caches -/

namespace Cache

variable {allowed : List Nat} {b : Catalog}

theorem close_parallel (session : String) :
    Parallel (SameFor allowed b) Eq (close session) (close session) :=
  .bind (.modify fun _ _ h => ⟨h.server.closeSession session, h.store, h.now, h.staleAfter⟩)
    fun _ _ _ => .stepWith fun _ _ h => h.removeRow session

theorem sweepSession_parallel (cutoff : Instant) (session : String) :
    Parallel (SameFor allowed b) Eq (sweepSession cutoff session)
      (sweepSession cutoff session) := by
  refine .bind (.look fun _ _ h => h.entry session) fun r r' hr => ?_
  cases r with
  | none => cases r' with
    | none => exact .pure rfl
    | some row' => cases hr
  | some row => cases r' with
    | none => cases hr
    | some row' =>
      have hidle : row.idleSince cutoff = row'.idleSince cutoff :=
        Row.eq_of_untimed (f := (·.idleSince cutoff)) (Option.some.inj hr) fun _ => rfl
      dsimp only
      rw [hidle]
      split
      · exact close_parallel session
      · exact .pure rfl

theorem sweepSessions_parallel (cutoff : Instant) (sessions : List String) :
    Parallel (SameFor allowed b) Eq (sweepSessions cutoff sessions)
      (sweepSessions cutoff sessions) := by
  induction sessions with
  | nil => exact .pure rfl
  | cons session rest ih =>
    refine .bind (sweepSession_parallel cutoff session) fun swept _ hswept => ?_
    refine .bind ih fun count _ hcount => .pure ?_
    rw [hswept, hcount]

theorem clearAll_parallel (cutoff? : Option Instant) :
    Parallel (SameFor allowed b) Eq (clearAll cutoff?) (clearAll cutoff?) := by
  refine .bind .get fun c d h => ?_
  rw [h.now]
  refine .bind (.look fun _ _ h => .of_eq (h.expired _)) fun sessions _ hsessions => ?_
  rw [hsessions]
  exact sweepSessions_parallel _ _

/-- **Executing a search within the collections** gives the same row, up to times. -/
theorem execute_parallel (session : String) (o : SearchOptions) {r : Request}
    (hplans : ∀ p ∈ r.plans, p.collections ⊆ b.authorized p.backend allowed) :
    Parallel (SameFor allowed b) (fun x y => x.map Row.untimed = y.map Row.untimed)
      (execute session o r) (execute session o r) := by
  refine .bind .get fun c d h => ?_
  obtain ⟨houtcomes, hserver⟩ := (h.server.clearResults session).executePlans o session hplans
  have hafter : SameFor allowed b (c.executed session o r).2 (d.executed session o r).2 :=
    ⟨hserver, h.store, h.now, h.staleAfter⟩
  have hfailed : (c.executed session o r).1.allFailed = (d.executed session o r).1.allFailed := by
    simp only [executed]
    rw [← Summary.allFailed_untimed, houtcomes, Summary.allFailed_untimed]
  have htotal : (c.executed session o r).1.total = (d.executed session o r).1.total := by
    simp only [executed]
    rw [← Summary.total_untimed, houtcomes, Summary.total_untimed]
  refine .bind (.set hafter) fun _ _ _ => ?_
  change Parallel _ _ (if (c.executed session o r).1.allFailed then _ else _)
    (if (d.executed session o r).1.allFailed then _ else _)
  rw [hfailed]
  split
  · exact .bind (.step fun _ _ h => h.invalidate session) fun _ _ _ => .pure rfl
  · exact .bind (.stepWith fun _ _ h => h.record session r.text _ _ htotal) fun _ _ hrow =>
      .pure (congrArg some hrow)

/-- **A search is answered by the same row**, up to times. -/
theorem answer_parallel (session : String) (o : SearchOptions) {r : Request} (force : Bool)
    (hplans : ∀ p ∈ r.plans, p.collections ⊆ b.authorized p.backend allowed) :
    Parallel (SameFor allowed b) (fun x y => x.map Row.untimed = y.map Row.untimed)
      (answer session o r force) (answer session o r force) := by
  refine .bind (.look fun _ _ h => h.decide session r.text force) fun x y hxy => ?_
  cases x with
  | reuse row => cases y with
    | reuse row' => exact .pure (congrArg some (Decision.reuse.inj hxy))
    | recompute => cases hxy
  | recompute => cases y with
    | reuse row' => cases hxy
    | recompute => exact execute_parallel session o hplans

end Cache

/-! ### What is planned -/

/-- More is authorized where more is allowed. -/
theorem Catalog.authorized_mono (c : Catalog) {allowed allowed' : List Nat}
    (h : allowed ⊆ allowed') (backend : Nat) :
    c.authorized backend allowed ⊆ c.authorized backend allowed' := by
  unfold Catalog.authorized
  cases c.backend? backend with
  | none => exact List.Subset.refl _
  | some b =>
    intro collection hcollection
    rw [Option.map_some, Option.getD_some, Backend.mem_authorized] at hcollection ⊢
    exact ⟨hcollection.1, h hcollection.2⟩

/-- Collections that are asked for are the ones that are searched. -/
theorem Engine.collections_effectiveOptions (e : Engine) {o : SearchOptions}
    (h : o.collections ≠ []) : (e.effectiveOptions o).collections = o.collections := by
  have hempty : o.collections.isEmpty = false := by simpa using h
  simp only [effectiveOptions, hempty, Bool.false_eq_true, if_false]

/-! ### Engines and visits that show the same -/

/-- **Two engines are the same for callers that are authorized for some collections.** -/
structure Engine.SameFor (allowed : List Nat) (b : Catalog) (e f : Engine) : Prop where
  cache : e.cache.SameFor allowed b f.cache
  config : e.config = f.config
  sweepAfter : e.sweepAfter = f.sweepAfter
  connected : e.connected = f.connected

namespace Engine

variable {allowed : List Nat} {b : Catalog}

theorem SameFor.withCache {e f : Engine} (h : SameFor allowed b e f) {c d : Cache}
    (hcache : c.SameFor allowed b d) :
    SameFor allowed b { e with cache := c } { f with cache := d } :=
  ⟨hcache, h.config, h.sweepAfter, h.connected⟩

theorem onCache_parallel {α β : Type} {Q : α → β → Prop} {x : Action Cache α} {y : Action Cache β}
    (h : Parallel (Cache.SameFor allowed b) Q x y) :
    Parallel (SameFor allowed b) Q (onCache x) (onCache y) :=
  h.onPart (fun _ _ h => h.cache) fun _ _ _ _ h hcache => h.withCache hcache

theorem connect_parallel :
    Parallel (SameFor allowed b) Eq (Action.step connect) (Action.step connect) := by
  refine .step fun e f h => ?_
  have hcatalog : e.catalog = f.catalog :=
    h.cache.server.catalog.trans h.cache.server.catalog_right.symm
  unfold connect
  by_cases hconnected : e.connected = true
  · rw [if_pos hconnected, if_pos (h.connected ▸ hconnected)]
    exact h
  · have hconnected' : ¬f.connected = true := h.connected ▸ hconnected
    rw [if_neg hconnected, if_neg hconnected', hcatalog]
    split
    · rfl
    · rw [h.config]
      refine (h.cache.server.connect _ _).map fun s t hserver => ?_
      exact ⟨⟨hserver, h.cache.store, h.cache.now, h.cache.staleAfter⟩, rfl, h.sweepAfter, rfl⟩

theorem sweep_parallel : Parallel (SameFor allowed b) Eq sweep sweep := by
  refine .bind (.look fun e f h => .of_eq ?_) fun cutoff _ hcutoff => ?_
  · simp only [sweepCutoff, h.cache.now, h.sweepAfter]
  · rw [hcutoff]
    exact onCache_parallel (Cache.clearAll_parallel _)

end Engine

/-- **Two visits are the same for callers that are authorized for some collections.** -/
structure Visit.SameFor (allowed : List Nat) (b : Catalog) (v w : Visit) : Prop where
  engine : v.engine.SameFor allowed b w.engine
  caller : v.caller = w.caller

namespace Visit

variable {allowed : List Nat} {b : Catalog}

theorem onEngine_parallel {α β : Type} {Q : α → β → Prop} {x : Action Engine α}
    {y : Action Engine β} (h : Parallel (Engine.SameFor allowed b) Q x y) :
    Parallel (SameFor allowed b) Q (onEngine x) (onEngine y) :=
  h.onPart (fun _ _ h => h.engine) fun _ _ _ _ h hengine => ⟨hengine, h.caller⟩

theorem onCache_parallel {α β : Type} {Q : α → β → Prop} {x : Action Cache α} {y : Action Cache β}
    (h : Parallel (Cache.SameFor allowed b) Q x y) :
    Parallel (SameFor allowed b) Q (onCache x) (onCache y) :=
  onEngine_parallel (Engine.onCache_parallel h)

theorem modifyCaller_parallel (f : Caller → Caller) :
    Parallel (SameFor allowed b) Eq (modifyCaller f) (modifyCaller f) :=
  .modify fun _ _ h => ⟨h.engine, congrArg f h.caller⟩

theorem attachNew_parallel (user : Nat) :
    Parallel (SameFor allowed b) Eq (attachNew user) (attachNew user) := by
  refine .bind (onCache_parallel (.stepWith (Q := Eq) fun c d h => ?_)) fun session _ hsession => ?_
  · unfold openSession
    rcases h.server.createSession user with ⟨fault, hc, hd⟩ | ⟨id, s, t, hc, hd, hserver⟩
    · rw [hc, hd]
      rfl
    · rw [hc, hd]
      exact ⟨rfl, hserver, h.store, h.now, h.staleAfter⟩
  · rw [← hsession]
    refine .bind (onCache_parallel (.step fun _ _ h => h.register session)) fun _ _ _ => ?_
    exact .bind (modifyCaller_parallel _) fun _ _ _ => .pure rfl

/-- **A caller is attached to the same session.** -/
theorem checkSession_parallel : Parallel (SameFor allowed b) Eq checkSession checkSession := by
  refine .bind .get fun v w h => ?_
  have hown : ∀ user, v.ownSession? user = w.ownSession? user := by
    intro user
    simp only [ownSession?, h.caller, Server.opens]
    exact congrArg (Option.filter · _) (funext fun id => by
      rw [Engine.server, Engine.server, h.engine.cache.server.cursor?_eq id])
  rw [h.caller]
  cases w.caller.user with
  | none => exact .fail _
  | some user =>
    dsimp only
    rw [hown user]
    cases w.ownSession? user with
    | none => exact attachNew_parallel user
    | some session =>
      exact .bind (onCache_parallel (.step fun _ _ h => h.register session)) fun _ _ _ => .pure rfl

theorem takeForce_parallel : Parallel (SameFor allowed b) Eq takeForce takeForce := by
  refine .bind .get fun v w h => ?_
  rw [h.caller]
  exact .bind (modifyCaller_parallel _) fun _ _ _ => .pure rfl

/-! ### Searches and excerpts -/

/-- The page of related rows is the same, up to times. -/
theorem SameFor.pageOf_eq {v w : Visit} (h : SameFor allowed b v w) (session : String)
    (o : SearchOptions) (r : Request) (offset count : Nat) {row row' : Option Row}
    (hrow : row.map Row.untimed = row'.map Row.untimed) :
    (v.pageOf session o r offset count row).untimed =
      (w.pageOf session o r offset count row').untimed := by
  cases row with
  | none => cases row' with
    | none => rfl
    | some new => cases hrow
  | some old => cases row' with
    | none => cases hrow
    | some new =>
      have hpage := h.engine.cache.server.page_eq session (Option.some.inj hrow) offset count
        (.ofLocale o.locale)
      exact congrArg (fun p : Page => { p with
        suggestions := suggestions r
        proposals := panel? (.ofLocale o.locale) r }) hpage

/-- **The excerpt of a result is the same.** -/
theorem SameFor.excerpt_eq {v w : Visit} (h : SameFor allowed b v w) (rank : Nat)
    (names : List String) : v.excerpt rank names = w.excerpt rank names := by
  unfold excerpt
  rw [h.caller]
  cases w.caller.session with
  | none => rfl
  | some session =>
    simp only [Server.excerpt, Engine.markers, h.engine.config]
    rw [Engine.server, Engine.server, h.engine.cache.server.fetch?_eq]

/-- **A search in a session**, for collections that the caller is authorized for. -/
theorem searchIn_parallel (session text : String) (offset asked : Nat) {options : SearchOptions}
    (hne : options.collections ≠ []) (hsub : options.collections ⊆ allowed) :
    Parallel (SameFor allowed b) (fun p q : Page => p.untimed = q.untimed)
      (searchIn session text offset asked options)
      (searchIn session text offset asked options) := by
  refine .bind takeForce_parallel fun force _ hforce => .bind .get fun v w h => ?_
  have hserver := h.engine.cache.server
  have hcatalog : v.engine.catalog = w.engine.catalog :=
    hserver.catalog.trans hserver.catalog_right.symm
  have hthesaurus : v.engine.server.thesaurus? = w.engine.server.thesaurus? :=
    hserver.eq_of_restrict (Server.thesaurus?_restrict allowed)
  have heffective : v.engine.effectiveOptions options = w.engine.effectiveOptions options := by
    simp only [Engine.effectiveOptions, hcatalog, h.engine.config]
  have hrequest : v.engine.request text = w.engine.request text := by
    funext o
    simp only [Engine.request, hcatalog, hthesaurus]
  rw [← hforce, heffective, hrequest]
  have hplans : ∀ p ∈ (w.engine.request text (w.engine.effectiveOptions options)).plans,
      p.collections ⊆ b.authorized p.backend allowed := by
    intro p hp
    rw [collections_of_mem_plans hp, Engine.collections_effectiveOptions w.engine hne,
      ← hserver.catalog_right]
    exact Catalog.authorized_mono _ hsub _
  refine .bind (onCache_parallel (Cache.answer_parallel session _ force hplans))
    fun row row' hrow => .bind .get fun v' w' h' => .pure ?_
  have hsize : v'.engine.pageSize asked = w'.engine.pageSize asked := by
    simp only [Engine.pageSize, h'.engine.config]
  rw [hsize]
  exact h'.pageOf_eq session _ _ offset _ hrow

/-- **A search for collections that the caller is authorized for** has the same outcome, up to
times. -/
theorem search_parallel (text : String) (offset asked : Nat) {options : SearchOptions}
    (hne : options.collections ≠ []) (hsub : options.collections ⊆ allowed) :
    Parallel (SameFor allowed b) (fun p q : Page => p.untimed = q.untimed)
      (search text offset asked options) (search text offset asked options) := by
  refine .bind (.look (Q := Eq) fun v w h => .of_eq ?_) fun _ _ _ => ?_
  · simp only [Engine.checkLength, h.engine.config]
  · refine .bind (onEngine_parallel Engine.connect_parallel) fun _ _ _ => ?_
    refine .bind (onEngine_parallel Engine.sweep_parallel) fun _ _ _ => ?_
    refine .bind checkSession_parallel fun session _ hsession => ?_
    rw [← hsession]
    exact searchIn_parallel session text offset asked hne hsub

end Visit

end FederatedSearch
