import FederatedSearch.Proofs.Engine.Refusal
import FederatedSearch.Proofs.Engine.Repeating

/-!
# Searches keep to their session

A search in a session reads the row and the cursor of this session, and what all sessions have in
common; and it writes the row and the cursor of this session, and counts executions. So two engines
that are the same at a session answer a search in it alike, and it leaves them the same there; every
other session stays as it is.

* `FederatedSearch.Engine.SameAt`: two engines are the same at a session.
* `FederatedSearch.Engine.Touches`: at most one session is changed.
* `FederatedSearch.Attempt.searchIn_sameAt`: a search in two engines that are the same at its
  session.
* `FederatedSearch.Attempt.searchIn_touches`: a search touches its own session.
-/

namespace FederatedSearch

open FederatedSearch.Action Query

/-! ### Servers that are the same at a session -/

/-- **Two servers are the same at a session**: they are in one condition, and have the same cursor
for the session. The executions since some time are as many on both; before it, one had `n` more
where the other had `m`. -/
structure Server.SameAt (session : String) (m n : Nat) (s t : Server) : Prop where
  condition : s.condition = t.condition
  timing : s.timing = t.timing
  cursor : s.cursor? session = t.cursor? session
  executions : s.executions + m = t.executions + n

namespace Server.SameAt

variable {session : String} {m n : Nat} {s t : Server}

theorem putCursor (h : s.SameAt session m n t) (c : Cursor) :
    (s.putCursor session c).SameAt session m n (t.putCursor session c) := by
  refine ⟨h.condition, h.timing, ?_, h.executions⟩
  rw [cursor?_putCursor, cursor?_putCursor, if_pos rfl, if_pos rfl]

theorem clearResults (h : s.SameAt session m n t) :
    (s.clearResults session).SameAt session m n (t.clearResults session) := by
  unfold Server.clearResults
  rw [← h.cursor]
  split
  · exact h
  · exact h.putCursor _

/-- **An execution in the session** has the same outcome. -/
theorem execute (h : s.SameAt session m n t) {x : Execution} (hx : x.session = session) :
    (s.execute x).1 = (t.execute x).1 ∧
      (s.execute x).2.SameAt session m n (t.execute x).2 := by
  subst hx
  have hindexes : s.indexes = t.indexes := congrArg Condition.indexes h.condition
  have hdown : s.down = t.down := congrArg Condition.down h.condition
  have hreachable : s.reachable = t.reachable := congrArg Condition.reachable h.condition
  have hsilent : s.silent = t.silent := congrArg Condition.silent h.condition
  have havailable : s.available x.backend = t.available x.backend := by
    rw [available, available, hreachable, hdown]
  have hindex : s.index? x.backend = t.index? x.backend := by rw [index?, index?, hindexes]
  have helapsed : s.elapsedOn x.backend = t.elapsedOn x.backend := by
    rw [elapsedOn, elapsedOn, h.timing]
  unfold Server.execute
  rw [hsilent, havailable, hindex, h.cursor, helapsed]
  split
  · exact ⟨rfl, h⟩
  · split
    · exact ⟨rfl, h⟩
    · cases t.index? x.backend with
      | none => exact ⟨rfl, h⟩
      | some i =>
        cases t.cursor? x.session with
        | none => exact ⟨rfl, h⟩
        | some c =>
          have hput := h.putCursor (c.append (x.hits i) x.query.positiveTerms x.stemming)
          refine ⟨rfl, hput.condition, hput.timing, hput.cursor, ?_⟩
          have hcount := h.executions
          simp only [afterExecution]
          omega

theorem executePlans (h : s.SameAt session m n t) (o : SearchOptions) (plans : List Plan) :
    (FederatedSearch.executePlans o session plans s).1 =
        (FederatedSearch.executePlans o session plans t).1 ∧
      (FederatedSearch.executePlans o session plans s).2.SameAt session m n
        (FederatedSearch.executePlans o session plans t).2 := by
  induction plans generalizing s t with
  | nil => exact ⟨rfl, h⟩
  | cons p rest ih =>
    have hcatalog := catalog_congr h.condition
    obtain ⟨hresult, hfirst⟩ := h.execute (x := p.execution t.catalog o session) rfl
    obtain ⟨houtcomes, hrest⟩ := ih hfirst
    simp only [FederatedSearch.executePlans, hcatalog, hresult, houtcomes]
    exact ⟨trivial, hrest⟩

/-- **A page of the session is the same.** -/
theorem page_eq (h : s.SameAt session m n t) (row : Row) (offset count : Nat)
    (language : Language) :
    s.page session row offset count language = t.page session row offset count language := by
  simp only [page, fetch?_congr h.condition (congrArg _ h.cursor), catalog_congr h.condition]

end Server.SameAt

/-! ### What an execution writes -/

namespace Cache

variable {P : Row → Prop} {c c' d : Cache} {session : String} {o : SearchOptions} {r : Request}

/-- **A row is put** where the store can be read and written. -/
theorem Sweepable.putRow (hc : c.Sweepable P) {row : Row} (hrow : P row) :
    ∃ store, c.putRow row = .ok { c with store } ∧ ({ c with store } : Cache).Sweepable P ∧
      ∀ id, ({ c with store } : Cache).entry id =
        if row.session = id then .ok (some row) else c.entry id := by
  obtain ⟨c', hput⟩ := exists_putRow hc.usable row
  obtain ⟨hkept, hentries⟩ := hc.kept.putRow hrow hput
  obtain ⟨store, -, rfl⟩ := putRow_ok hput
  exact ⟨store, hput, ⟨hkept, Store.usable_of_get? ((hentries row.session).trans (if_pos rfl))⟩,
    hentries⟩

/-- The row that an execution writes, in the place of an old one. -/
def writtenRow (c : Cache) (session : String) (o : SearchOptions) (r : Request) (old : Row) : Row :=
  let s := (c.executed session o r).1
  if s.allFailed then old.emptied c.now else old.executed r.text c.now s.duration s.total

theorem lastAccess_writtenRow (c : Cache) (session : String) (o : SearchOptions) (r : Request)
    (old : Row) : (c.writtenRow session o r old).lastAccess = c.now := by
  unfold writtenRow
  dsimp only
  split <;> rfl

/-- **What an execution does** where the store can be read and written: the plans are executed, and
a row is written. -/
theorem Sweepable.execute_eq (hc : c.Sweepable P) (hopen : (c.server.cursor? session).isSome)
    {old : Row} (hold : c.entryOrCreated session = .ok old)
    (hwritten : P (c.writtenRow session o r old)) :
    ∃ store, execute session o r c =
        (.ok (if (c.executed session o r).1.allFailed then none
          else some (c.writtenRow session o r old)), { (c.executed session o r).2 with store }) ∧
      ({ (c.executed session o r).2 with store } : Cache).Sweepable P ∧
      ∀ id, ({ (c.executed session o r).2 with store } : Cache).entry id =
        if old.session = id then .ok (some (c.writtenRow session o r old)) else c.entry id := by
  have hafter : (c.executed session o r).2.Sweepable P := ⟨hc.kept.executed hopen o r, hc.usable⟩
  have hold' : (c.executed session o r).2.entryOrCreated session = .ok old := hold
  obtain ⟨store, hput, hsweepable, hentries⟩ := hafter.putRow hwritten
  have hsession : (c.writtenRow session o r old).session = old.session := by
    unfold writtenRow
    dsimp only
    split <;> rfl
  rw [hsession] at hentries
  refine ⟨store, ?_, hsweepable, hentries⟩
  cases hfailed : (c.executed session o r).1.allFailed with
  | true =>
    have hrow : c.writtenRow session o r old = old.emptied c.now := if_pos hfailed
    refine execute_of_allFailed hfailed ?_
    rw [hrow] at hput
    simp only [invalidate, hold', bind, Except.bind]
    exact hput
  | false =>
    let row := old.executed r.text (c.executed session o r).2.now
      (c.executed session o r).1.duration (c.executed session o r).1.total
    have hrow : c.writtenRow session o r old = row := if_neg (Bool.eq_false_iff.1 hfailed)
    refine execute_of_not_allFailed hfailed ?_
    rw [hrow] at hput ⊢
    simp only [record, hold', bind, Except.bind, row, hput]
    rfl

/-- The row that an execution writes is of the kind. -/
theorem Kept.writtenRow (hc : c.Kept P) (hadmits : Row.Admits P c.now) {old : Row}
    (hold : c.entryOrCreated session = .ok old)
    (hwritten : (c.executed session o r).1.allFailed = false →
      P ⟨session, r.text, c.now, (c.executed session o r).1.duration,
        (c.executed session o r).1.total, c.now⟩) : P (c.writtenRow session o r old) := by
  obtain ⟨rfl, hkind⟩ := hc.entryOrCreated hadmits hold
  unfold Cache.writtenRow
  dsimp only
  split
  · exact hadmits.emptied old hkind
  · rename_i hcame
    exact hwritten (Bool.eq_false_iff.2 hcame)

/-! ### Changing one session -/

/-- **At most one session is changed**, and its row is as before or written now. -/
structure Touches (P : Row → Prop) (session : String) (c c' : Cache) : Prop where
  sweepable : c'.Sweepable P
  setting : c'.setting = c.setting
  timing : c'.server.timing = c.server.timing
  wired : c'.server.connected = c.server.connected
  nextSession : c'.server.nextSession = c.server.nextSession
  entries : ∀ id ≠ session, c'.entry id = c.entry id
  cursors : ∀ id ≠ session, c'.server.cursor? id = c.server.cursor? id
  row : c'.entry session = c.entry session ∨
    ∃ row, c'.entry session = .ok (some row) ∧ row.lastAccess = c.now

theorem Touches.refl (hc : c.Sweepable P) (session : String) : c.Touches P session c :=
  ⟨hc, rfl, rfl, rfl, rfl, fun _ _ => rfl, fun _ _ => rfl, .inl rfl⟩

/-- The same session is changed twice. -/
theorem Touches.trans {c'' : Cache} (h : c.Touches P session c') (h' : c'.Touches P session c'') :
    c.Touches P session c'' where
  sweepable := h'.sweepable
  setting := h'.setting.trans h.setting
  timing := h'.timing.trans h.timing
  wired := h'.wired.trans h.wired
  nextSession := h'.nextSession.trans h.nextSession
  entries id hid := (h'.entries id hid).trans (h.entries id hid)
  cursors id hid := (h'.cursors id hid).trans (h.cursors id hid)
  row := by
    rcases h'.row with hsame | ⟨row, hrow, hwritten⟩
    · rw [hsame]
      exact h.row
    · exact .inr ⟨row, hrow, hwritten.trans (now_eq h.setting)⟩

/-- **A session that is registered** has the row of one that was opened just now, unless it had
another one. -/
theorem Sweepable.of_register (hc : c.Sweepable P) (hadmits : Row.Admits P c.now)
    (h : c.register session = .ok c') :
    c'.Sweepable P ∧ ∀ id, c'.entry id =
      if session = id then (c.entryOrCreated session).map some else c.entry id := by
  obtain ⟨row?, hentry⟩ := hc.exists_entry session
  rw [entryOrCreated, hentry]
  rw [register, hentry] at h
  cases row? with
  | some row =>
    obtain rfl := Except.ok.inj h
    refine ⟨hc, fun id => ?_⟩
    split
    · rename_i hid
      exact hid ▸ hentry
    · rfl
  | none =>
    obtain ⟨store, hput, hsweepable, hentries⟩ := hc.putRow (hadmits.created session)
    obtain rfl := Except.ok.inj (hput.symm.trans h)
    exact ⟨hsweepable, hentries⟩

/-- **Registering a session** touches it. -/
theorem Sweepable.register_touches (hc : c.Sweepable P) (hadmits : Row.Admits P c.now)
    (h : c.register session = .ok c') : c.Touches P session c' := by
  obtain ⟨hsweepable, hentries⟩ := hc.of_register hadmits h
  obtain ⟨row?, hentry⟩ := hc.exists_entry session
  have hrow := (hentries session).trans (if_pos rfl)
  rw [entryOrCreated, hentry] at hrow
  obtain ⟨store, rfl⟩ := exists_store_of_register h
  refine ⟨hsweepable, rfl, rfl, rfl, rfl, fun id hid => (hentries id).trans (if_neg (Ne.symm hid)),
    fun _ _ => rfl, ?_⟩
  cases row? with
  | some row => exact .inl (hrow.trans hentry.symm)
  | none => exact .inr ⟨_, hrow, rfl⟩

/-- What a search may write into the row of its session, if it is executed. -/
def AdmitsAnswer (P : Row → Prop) (c : Cache) (session : String) (o : SearchOptions) (r : Request)
    (force : Bool) : Prop :=
  c.decide session r.text force = .ok .recompute → (c.executed session o r).1.allFailed = false →
    P ⟨session, r.text, c.now, (c.executed session o r).1.duration,
      (c.executed session o r).1.total, c.now⟩

/-- **An answer touches the session that it is given in.** -/
theorem Sweepable.answer_touches (hc : c.Sweepable P) (hopen : (c.server.cursor? session).isSome)
    (hadmits : Row.Admits P c.now) {force : Bool}
    (hwritten : c.AdmitsAnswer P session o r force) :
    c.Touches P session (answer session o r force c).2 := by
  by_cases hdecide : c.decide session r.text force = .ok .recompute
  · obtain ⟨old, hold⟩ := exists_entryOrCreated hc.usable session
    obtain ⟨hsession, -⟩ := hc.kept.entryOrCreated hadmits hold
    obtain ⟨store, hexecute, hsweepable, hentries⟩ :=
      hc.execute_eq hopen hold (hc.kept.writtenRow hadmits hold (hwritten hdecide))
    have hcursors := fun id (hid : id ≠ session) => cursor?_executed_of_ne hopen o r hid
    obtain ⟨sessions, executions, hexecuted⟩ := c.executed_eq session o r
    rw [answer_of_recompute hdecide, hexecute]
    rw [hsession] at hentries
    rw [hexecuted] at hsweepable hentries hcursors ⊢
    exact ⟨hsweepable, rfl, rfl, rfl, rfl, fun id hid => (hentries id).trans (if_neg (Ne.symm hid)),
      hcursors, .inr ⟨_, (hentries session).trans (if_pos rfl), c.lastAccess_writtenRow _ _ _ _⟩⟩
  · rw [answer_of_ne_recompute hdecide]
    exact .refl hc session

/-! ### Caches that are the same at a session -/

/-- **Two caches are the same at a session**: it is open, with the same row and the same cursor. -/
structure SameAt (P : Row → Prop) (session : String) (m n : Nat) (c d : Cache) : Prop where
  left : c.Sweepable P
  right : d.Sweepable P
  server : c.server.SameAt session m n d.server
  now : c.now = d.now
  staleAfter : c.staleAfter = d.staleAfter
  isOpen : (c.server.cursor? session).isSome
  entry : c.entry session = d.entry session

namespace SameAt

variable {m n : Nat}

theorem executed (h : c.SameAt P session m n d) (o : SearchOptions) (r : Request) :
    (c.executed session o r).1 = (d.executed session o r).1 ∧
      (c.executed session o r).2.server.SameAt session m n (d.executed session o r).2.server := by
  obtain ⟨houtcomes, hserver⟩ := h.server.clearResults.executePlans o r.plans
  exact ⟨congrArg (Summary.ofOutcomes _) houtcomes, hserver⟩

theorem decide_eq (h : c.SameAt P session m n d) (query : String) (force : Bool) :
    c.decide session query force = d.decide session query force := by
  simp only [Cache.decide, h.entry, h.now, h.staleAfter]

theorem admitsAnswer (h : c.SameAt P session m n d) {force : Bool}
    (hwritten : c.AdmitsAnswer P session o r force) : d.AdmitsAnswer P session o r force := by
  unfold AdmitsAnswer at hwritten ⊢
  rwa [← h.decide_eq, ← (h.executed o r).1, ← h.now]

theorem entryOrCreated_eq (h : c.SameAt P session m n d) :
    d.entryOrCreated session = c.entryOrCreated session := by
  rw [Cache.entryOrCreated, Cache.entryOrCreated, h.entry, h.now]

/-- **Registering the session** leaves the two the same. -/
theorem register {d' : Cache} (h : c.SameAt P session m n d) (hadmits : Row.Admits P c.now)
    (hc : c.register session = .ok c') (hd : d.register session = .ok d') :
    c'.SameAt P session m n d' := by
  obtain ⟨hleft, hentries⟩ := h.left.of_register hadmits hc
  obtain ⟨hright, hentries'⟩ := h.right.of_register (h.now ▸ hadmits) hd
  obtain ⟨store, rfl⟩ := exists_store_of_register hc
  obtain ⟨store', rfl⟩ := exists_store_of_register hd
  refine ⟨hleft, hright, h.server, h.now, h.staleAfter, h.isOpen, ?_⟩
  rw [hentries, hentries', if_pos rfl, if_pos rfl, h.entryOrCreated_eq]

/-- **An answer is the same**, and leaves the two the same. -/
theorem answer (h : c.SameAt P session m n d) (hadmits : Row.Admits P c.now) {force : Bool}
    (hwritten : c.AdmitsAnswer P session o r force) :
    (Cache.answer session o r force c).1 = (Cache.answer session o r force d).1 ∧
      (Cache.answer session o r force c).2.SameAt P session m n
        (Cache.answer session o r force d).2 := by
  have hdecide := h.decide_eq r.text force
  by_cases hrecompute : c.decide session r.text force = .ok .recompute
  · have hopen : (d.server.cursor? session).isSome := h.server.cursor ▸ h.isOpen
    obtain ⟨old, hold⟩ := exists_entryOrCreated h.left.usable session
    have hold' : d.entryOrCreated session = .ok old := h.entryOrCreated_eq.trans hold
    obtain ⟨hsession, -⟩ := h.left.kept.entryOrCreated hadmits hold
    obtain ⟨hsummary, hserver⟩ := h.executed o r
    have hrow : d.writtenRow session o r old = c.writtenRow session o r old := by
      rw [Cache.writtenRow, Cache.writtenRow, hsummary, h.now]
    have hkind := h.left.kept.writtenRow hadmits hold (hwritten hrecompute)
    obtain ⟨store, hexecute, hleft, hentries⟩ := h.left.execute_eq h.isOpen hold hkind
    obtain ⟨store', hexecute', hright, hentries'⟩ :=
      h.right.execute_eq hopen hold' (hrow.symm ▸ hkind)
    rw [answer_of_recompute hrecompute, answer_of_recompute (hdecide ▸ hrecompute), hexecute,
      hexecute', hrow, hsummary]
    obtain ⟨-, cursor, hcursor, -⟩ := exists_cursor_executed h.isOpen o r
    refine ⟨rfl, hleft, hright, hserver, h.now, h.staleAfter,
      Option.isSome_iff_exists.2 ⟨cursor, hcursor⟩, ?_⟩
    rw [hentries, hentries', hrow, if_pos hsession, if_pos hsession]
  · rw [answer_of_ne_recompute hrecompute, answer_of_ne_recompute (hdecide ▸ hrecompute)]
    refine ⟨?_, h⟩
    simp only [Cache.answer, bind_apply, look_apply, hdecide]
    cases hd : d.decide session r.text force with
    | error failure => rfl
    | ok decision =>
      cases decision with
      | reuse row => rfl
      | recompute => exact absurd (hdecide.trans hd) hrecompute

end SameAt

end Cache

/-! ### Engines -/

namespace Engine

/-- **Two engines are the same at a session.** -/
structure SameAt (P : Row → Prop) (session : String) (m n : Nat) (e f : Engine) : Prop where
  cache : e.cache.SameAt P session m n f.cache
  config : e.config = f.config
  sweepAfter : e.sweepAfter = f.sweepAfter

/-- **At most one session of an engine is changed.** -/
structure Touches (P : Row → Prop) (session : String) (e e' : Engine) : Prop where
  cache : e.cache.Touches P session e'.cache
  config : e'.config = e.config
  sweepAfter : e'.sweepAfter = e.sweepAfter
  connected : e'.connected = e.connected

theorem Touches.stands {P : Row → Prop} {session : String} {e e' : Engine}
    (h : e.Touches P session e') : e.Stands e' :=
  ⟨h.cache.setting, h.config, h.sweepAfter⟩

theorem Touches.trans {P : Row → Prop} {session : String} {e e' e'' : Engine}
    (h : e.Touches P session e') (h' : e'.Touches P session e'') : e.Touches P session e'' :=
  ⟨h.cache.trans h'.cache, h'.config.trans h.config, h'.sweepAfter.trans h.sweepAfter,
    h'.connected.trans h.connected⟩

/-- **At another session** an engine is the same when one session was changed. -/
theorem Touches.sameAt {P : Row → Prop} {session other : String} {e e' : Engine}
    (h : e.Touches P other e') (he : e.cache.Sweepable P)
    (hopen : (e.cache.server.cursor? session).isSome) (hne : session ≠ other) :
    e.SameAt P session e'.server.executions e.server.executions e' := by
  have hcondition := (Cache.condition_eq h.cache.setting).symm
  have hstale : e.cache.staleAfter = e'.cache.staleAfter :=
    congrArg Setting.staleAfter h.cache.setting.symm
  exact ⟨⟨he, h.cache.sweepable, ⟨hcondition, h.cache.timing.symm,
    (h.cache.cursors session hne).symm, Nat.add_comm _ _⟩, (Cache.now_eq h.cache.setting).symm,
    hstale, hopen, (h.cache.entries session hne).symm⟩, h.config.symm, h.sweepAfter.symm⟩

end Engine

namespace Attempt

variable {P : Row → Prop} {a : Attempt} {k : Caller} {f : Engine} {m n : Nat}

/-- What a search of a caller may write into the row of its session. -/
abbrev AdmitsFor (P : Row → Prop) (a : Attempt) (k : Caller) : Prop :=
  a.engine.cache.AdmitsAnswer P a.session a.effective a.request k.force

/-- The same is asked for in an engine that is the same at the session. -/
theorem again_eq_of_sameAt (h : a.engine.SameAt P a.session m n f) :
    (a.again a.session f).effective = a.effective ∧ (a.again a.session f).request = a.request := by
  obtain ⟨heffective, hrequest, -⟩ :=
    again_eq h.config.symm h.cache.server.condition.symm a.session
  exact ⟨heffective, hrequest⟩

theorem AdmitsFor.again (ha : a.AdmitsFor P k) (h : a.engine.SameAt P a.session m n f) :
    (a.again a.session f).AdmitsFor P k := by
  obtain ⟨heffective, hrequest⟩ := again_eq_of_sameAt h
  rw [AdmitsFor, heffective, hrequest]
  exact h.cache.admitsAnswer ha

/-- **A search touches its own session.** -/
theorem searchIn_touches (ha : a.engine.cache.Sweepable P)
    (hopen : (a.engine.server.cursor? a.session).isSome) (hadmits : Row.Admits P a.engine.cache.now)
    (hwritten : a.AdmitsFor P k) (offset asked : Nat) :
    a.engine.Touches P a.session
      (Visit.searchIn a.session a.text offset asked a.options ⟨a.engine, k⟩).2.engine := by
  rw [engine_searchIn]
  exact ⟨ha.answer_touches hopen hadmits hwritten, rfl, rfl, rfl⟩

/-- **A search in two engines that are the same at its session** gives one page and leaves one
caller, and the two are the same at the session afterwards. -/
theorem searchIn_sameAt (h : a.engine.SameAt P a.session m n f)
    (hadmits : Row.Admits P a.engine.cache.now) (hwritten : a.AdmitsFor P k)
    (offset asked : Nat) :
    let x := Visit.searchIn a.session a.text offset asked a.options ⟨a.engine, k⟩
    let y := Visit.searchIn a.session a.text offset asked a.options ⟨f, k⟩
    x.1 = y.1 ∧ x.2.caller = y.2.caller ∧ x.2.engine.SameAt P a.session m n y.2.engine := by
  let b := a.again a.session f
  obtain ⟨heffective, hrequest⟩ : b.effective = a.effective ∧ b.request = a.request :=
    again_eq_of_sameAt h
  have hsize : b.engine.pageSize asked = a.engine.pageSize asked := by
    rw [Engine.pageSize, Engine.pageSize, show b.engine.config = _ from h.config.symm]
  obtain ⟨hanswer, hafter⟩ := h.cache.answer hadmits hwritten
  have hy := b.searchIn_apply k offset asked
  rw [heffective, hrequest, hsize] at hy
  intro x y
  rw [show x = _ from a.searchIn_apply k offset asked, show y = _ from hy]
  rw [show b.session = a.session from rfl, show b.engine = f from rfl]
  generalize Cache.answer a.session a.effective a.request k.force a.engine.cache = rx,
    Cache.answer a.session a.effective a.request k.force f.cache = ry at hanswer hafter
  obtain ⟨rx, c⟩ := rx
  obtain ⟨ry, d⟩ := ry
  obtain rfl : rx = ry := hanswer
  cases rx with
  | error failure => exact ⟨rfl, rfl, hafter, h.config, h.sweepAfter⟩
  | ok row? =>
    refine ⟨congrArg Except.ok ?_, rfl, hafter, h.config, h.sweepAfter⟩
    cases row? with
    | none => rfl
    | some row =>
      have hpage := hafter.server.page_eq row offset (a.engine.pageSize asked)
        (.ofLocale a.effective.locale)
      exact congrArg (fun p : Page => { p with
        suggestions := suggestions a.request
        proposals := panel? (.ofLocale a.effective.locale) a.request }) hpage

end Attempt

end FederatedSearch
