import FederatedSearch.Proofs.Engine.Explained
import FederatedSearch.Proofs.Engine.Refusal
import FederatedSearch.Proofs.Engine.Repeating

/-!
# Owners of sessions

A session belongs to the user that it was opened for. Executions leave the owners of sessions as
they are, and what is done for a caller opens sessions of its user only, under ids that were not
given away before. So whoever is shown a page is its owner, and so is whoever had something executed
in the session of the page.

* `FederatedSearch.Server.owner?`: the owner of a session.
* `FederatedSearch.Engine.Step.run_grants`: one step opens sessions of its own user.
* `FederatedSearch.Engine.Reached.owned`: every session was opened for its owner.
* `FederatedSearch.Engine.Reached.search_isolated`: whose hits are on a page.
-/

namespace FederatedSearch

open FederatedSearch.Action Calendar

/-! ### Owners -/

namespace Server

variable {s : Server}

/-- **The user that a session belongs to**, if it is open. -/
def owner? (s : Server) (id : String) : Option Nat := (s.cursor? id).map (·.user)

theorem owner?_of_cursor? {t : Server} {id : String} (h : s.cursor? id = t.cursor? id) :
    s.owner? id = t.owner? id :=
  congrArg (Option.map _) h

theorem opens_iff_owner? {id : String} {user : Nat} :
    s.opens id user = true ↔ s.owner? id = some user := by
  simp only [opens, owner?, Option.any_eq_true, Option.map_eq_some_iff, beq_iff_eq]

/-- A cursor of the same user takes the place of the one of a session. -/
theorem owner?_putCursor {id : String} {c c' : Cursor} (hc : s.cursor? id = some c)
    (huser : c'.user = c.user) : (s.putCursor id c').owner? = s.owner? := by
  funext k
  rw [owner?, owner?, cursor?_putCursor]
  split
  · rename_i hid
    rw [← hid, hc, Option.map_some, Option.map_some, huser]
  · rfl

theorem owner?_clearResults (s : Server) (id : String) : (s.clearResults id).owner? = s.owner? := by
  unfold clearResults
  split
  · rfl
  · rename_i c hc
    exact owner?_putCursor hc rfl

/-- **An execution leaves the owners of sessions as they are.** -/
theorem owner?_execute (s : Server) (x : Execution) : (s.execute x).2.owner? = s.owner? := by
  unfold execute
  split
  · rfl
  · split
    · rfl
    · split
      · rfl
      · split
        · rfl
        · rename_i c hc
          exact owner?_putCursor hc rfl

end Server

theorem owner?_executePlans (o : SearchOptions) (session : String) (plans : List Query.Plan)
    (s : Server) : (executePlans o session plans s).2.owner? = s.owner? := by
  induction plans generalizing s with
  | nil => rfl
  | cons p rest ih => exact (ih _).trans (s.owner?_execute _)

namespace Cache

/-- **An answer leaves the owners of sessions as they are**, whether or not it is executed. -/
theorem owner?_answer (session : String) (o : SearchOptions) (r : Query.Request) (force : Bool)
    (c : Cache) : (answer session o r force c).2.server.owner? = c.server.owner? := by
  by_cases hdecide : c.decide session r.text force = .ok .recompute
  · cases hexecute : execute session o r c with
    | mk x c' =>
      obtain ⟨⟨store, rfl, -⟩, -⟩ := execute_outcome hexecute
      rw [answer_of_recompute hdecide, hexecute]
      exact (owner?_executePlans o session r.plans _).trans (c.server.owner?_clearResults session)
  · rw [answer_of_ne_recompute hdecide]

end Cache

/-! ### Opening sessions -/

namespace Engine

/-- **What is done for a user opens sessions of this user only**, under ids that were not given away
before. Where there is no user nothing is opened. -/
structure Grants (user? : Option Nat) (e e' : Engine) : Prop where
  nextSession : e.server.nextSession ≤ e'.server.nextSession
  owner : ∀ id user, e'.server.owner? id = some user → e.server.owner? id = some user ∨
    user? = some user ∧ ∃ n, e.server.nextSession ≤ n ∧ id = Server.sessionId n

variable {P : Row → Prop} {user? : Option Nat} {e e' : Engine}

/-- Sessions that stay or are closed. -/
theorem grants_of_trims (h : e.cache.Trims P e'.cache) : e.Grants user? e' := by
  refine ⟨Nat.le_of_eq h.nextSession.symm, fun id user howner => .inl ?_⟩
  rcases h.cursors id with hsame | hgone
  · exact (Server.owner?_of_cursor? hsame).symm.trans howner
  · rw [Server.owner?, show e'.server.cursor? id = none from hgone] at howner
    cases howner

/-- Where sessions are left alone no one is granted any. -/
theorem Spares.grants (h : e.Spares e') : e.Grants user? e' := by
  refine ⟨Nat.le_of_eq h.nextSession.symm, fun id user howner => .inl ?_⟩
  exact (Server.owner?_of_cursor? (congrArg (Table.find? id) h.sessions)).symm.trans howner

/-- What is owned by the same users was opened for the same. -/
theorem Grants.of_owner?_eq (h : e.Grants user? e') {e'' : Engine}
    (howner : e''.server.owner? = e'.server.owner?)
    (hnext : e''.server.nextSession = e'.server.nextSession) : e.Grants user? e'' :=
  ⟨hnext ▸ h.nextSession, fun id user hid => h.owner id user (howner ▸ hid)⟩

end Engine

namespace Visit

variable {P : Row → Prop} {v v' : Visit} {session : String}

/-- A caller that has a session: it was open for its user before, or is a new one. -/
theorem Gains.grants (h : v.Gains session v') (hadvances : v.engine.Advances v'.engine) {user : Nat}
    (huser : v.caller.user = some user) (hopens : v'.engine.server.opens session user = true) :
    v.engine.Grants v.caller.user v'.engine := by
  refine ⟨hadvances.nextSession, fun id owner howner => ?_⟩
  obtain ⟨cursor, hcursor, rfl⟩ := Option.map_eq_some_iff.1 howner
  rcases h.cursors id cursor hcursor with hbefore | ⟨rfl, hnew, -⟩
  · exact .inl (congrArg (Option.map _) hbefore)
  · have hsame := howner.symm.trans (Server.opens_iff_owner?.1 hopens)
    exact .inr ⟨huser.trans hsame.symm, _, Nat.le_refl _, hnew⟩

/-- **Attaching a caller** opens a session of its user, if any. -/
theorem checkSession_grants (hv : v.engine.cache.Sweepable P)
    (hadmits : Row.Admits P v.engine.cache.now) :
    v.engine.Grants v.caller.user (checkSession v).2.engine := by
  have hadvances := Engine.advances_runsAlong.toAttachesAlong.checkSession v
  cases hcheck : checkSession v with
  | mk r v' =>
    rw [hcheck] at hadvances
    cases r with
    | error failure =>
      obtain rfl := checkSession_error hv hcheck
      exact Engine.grants_of_trims (.refl hv.kept)
    | ok session =>
      obtain ⟨user, huser, hopens, -⟩ := checkSession_ok hcheck
      exact (checkSession_gains hv.kept hadmits hcheck).grants hadvances huser hopens

/-- A search opens a session of its user at most, before it looks at a row. -/
theorem attach_grants (hv : v.engine.cache.Sweepable P) (hadmits : Row.Admits P v.engine.cache.now)
    (text : String) : v.engine.Grants v.caller.user (attach text v).2.engine := by
  cases hattach : attach text v with
  | mk r v' =>
    cases r with
    | error failure =>
      obtain rfl := attach_error hv hattach
      exact Engine.grants_of_trims (prepare_trimming text v hv.kept)
    | ok session =>
      obtain ⟨user, huser, hopens, -⟩ := attach_ok hattach
      exact (attach_gains hv.kept hadmits hattach).grants (attach_advances hattach) huser hopens

end Visit

namespace Engine

/-! ### Steps -/

/-- **The user that a step is made for**: that of its caller. -/
def Step.user? : Step → Option Nat
  | search caller .. | checkSession caller | clearCache caller | resetCache caller => caller.user
  | _ => none

/-- A search leaves the owners of sessions as they are once its caller has a session. -/
theorem owner?_search (v : Visit) (text : String) (offset asked : Nat) (options : SearchOptions) :
    let e := (Visit.search text offset asked options v).2.engine
    let e' := (Visit.attach text v).2.engine
    e.server.owner? = e'.server.owner? ∧ e.server.nextSession = e'.server.nextSession := by
  rw [Visit.search_eq, bind_apply]
  rcases Visit.attach text v with ⟨failure | session, w⟩
  · exact ⟨rfl, rfl⟩
  · let a : Attempt := ⟨session, text, options, w.engine⟩
    have hengine := a.engine_searchIn w.caller offset asked
    obtain ⟨sessions, executions, store, hanswer, -⟩ :=
      Cache.answer_eq session a.effective a.request w.caller.force w.engine.cache
    have hcache := (congrArg Engine.cache hengine).trans hanswer
    refine ⟨(congrArg (·.server.owner?) hengine).trans ?_, congrArg (·.server.nextSession) hcache⟩
    exact Cache.owner?_answer session a.effective a.request w.caller.force w.engine.cache

/-- **One step opens sessions of its own user only.** -/
theorem Step.run_grants {P : Row → Prop} {e : Engine} (he : e.cache.Sweepable P)
    (hadmits : Row.Admits P e.cache.now) (s : Step) : e.Grants s.user? (s.run e) := by
  cases s with
  | search caller text offset asked options =>
    obtain ⟨howner, hnext⟩ := owner?_search ⟨e, caller⟩ text offset asked options
    exact (Visit.attach_grants (v := ⟨e, caller⟩) he hadmits text).of_owner?_eq howner hnext
  | checkSession caller => exact Visit.checkSession_grants (v := ⟨e, caller⟩) he hadmits
  | clearCache caller => exact grants_of_trims (Visit.clearCache_trimming ⟨e, caller⟩ he.kept)
  | clearAll cutoff? => exact grants_of_trims (Cache.clearAll_trimming cutoff? e.cache he.kept)
  | connect => exact grants_of_trims (connect_trimming e he.kept)
  | _ => exact (Step.run_spares e rfl).grants

/-! ### Sessions that were opened -/

/-- **A session is opened for a user** by a step that is made for it. -/
structure Moment.Opens (m : Moment) (id : String) (user : Nat) : Prop where
  requested : m.step.user? = some user
  isNew : m.before.server.cursor? id = none
  owner : m.after.server.owner? id = some user

/-- **What is known of the owners of sessions**: every open session was opened for its owner, no id
was given away twice, and what was executed in a session was asked for by one that it was opened
for. -/
structure Owned (h : History) (e : Engine) : Prop where
  opened : ∀ id user, e.server.owner? id = some user → ∃ m ∈ h, m.Opens id user
  issued : ∀ m ∈ h, ∀ id user, m.Opens id user → ∃ n < e.server.nextSession, id = Server.sessionId n
  unique : ∀ m ∈ h, ∀ m' ∈ h, ∀ id user user', m.Opens id user → m'.Opens id user' → user = user'
  requested : ∀ m ∈ h, ∀ id a, m.attemptIn? id = some a →
    ∃ user, m.step.user? = some user ∧ ∃ m' ∈ h, m'.Opens id user

theorem Fresh.owned {e : Engine} (h : e.Fresh) : Owned [] e where
  opened id user howner := by
    have hnone : e.server.cursor? id = none := congrArg (Table.find? id) h.sessions
    rw [Server.owner?, hnone] at howner
    cases howner
  issued _ hm := nomatch hm
  unique _ hm := nomatch hm
  requested _ hm := nomatch hm

section Steps

variable {h : History} {e : Engine} {P : Row → Prop}

/-- **The session of a search belongs to its caller** after the search. -/
theorem owner?_of_attemptIn? {m : Moment} {id : String} {a : Attempt}
    (ha : m.attemptIn? id = some a) :
    ∃ user, m.step.user? = some user ∧ m.after.server.owner? id = some user := by
  obtain ⟨step, before⟩ := m
  obtain ⟨hattempt, hid⟩ := Option.filter_eq_some_iff.1 ha
  obtain rfl := eq_of_beq hid
  cases step with
  | search caller text offset asked options =>
    obtain ⟨session, v, hattach, rfl, -⟩ := Step.exists_attach_of_attempt? hattempt
    obtain ⟨user, huser, hopens, -⟩ := Visit.attach_ok hattach
    obtain ⟨howner, -⟩ := owner?_search ⟨before, caller⟩ text offset asked options
    rw [hattach] at howner
    exact ⟨user, huser, (congrFun howner session).trans (Server.opens_iff_owner?.1 hopens)⟩
  | _ => cases hattempt

/-- **A step keeps the owners of sessions known.** -/
theorem Owned.step (hh : Owned h e) (he : e.cache.Sweepable P) (hadmits : Row.Admits P e.cache.now)
    {s : Step} (hafter : (s.run e).cache.Kept P) : Owned (⟨s, e⟩ :: h) (s.run e) := by
  have hgrants := s.run_grants he hadmits
  -- what this step opens has an id that was not given away before
  have hnew : ∀ id user, (Moment.mk s e).Opens id user →
      ∃ n, e.server.nextSession ≤ n ∧ id = Server.sessionId n := by
    intro id user hopens
    rcases hgrants.owner id user hopens.owner with hbefore | ⟨-, hid⟩
    · rw [Server.owner?, hopens.isNew] at hbefore
      cases hbefore
    · exact hid
  have hfresh : ∀ m ∈ h, ∀ id user user', (Moment.mk s e).Opens id user → ¬m.Opens id user' := by
    intro m hm id user user' hopens hbefore
    obtain ⟨n, hn, rfl⟩ := hnew id user hopens
    obtain ⟨n', hn', heq⟩ := hh.issued m hm _ _ hbefore
    exact absurd (Server.sessionId_injective heq) (by omega)
  have hopened : ∀ id user, (s.run e).server.owner? id = some user →
      ∃ m ∈ ⟨s, e⟩ :: h, m.Opens id user := by
    intro id user howner
    rcases hgrants.owner id user howner with hbefore | ⟨huser, n, hn, rfl⟩
    · obtain ⟨m, hm, hopens⟩ := hh.opened id user hbefore
      exact ⟨m, List.mem_cons_of_mem _ hm, hopens⟩
    · refine ⟨⟨s, e⟩, List.mem_cons_self, huser, ?_, howner⟩
      exact he.kept.cursor?_eq_none hn
  refine ⟨hopened, fun m hm id user hopens => ?_,
    fun m hm m' hm' id user user' hopens hopens' => ?_, fun m hm id a ha => ?_⟩
  · rcases List.mem_cons.1 hm with rfl | hm
    · obtain ⟨cursor, hcursor, -⟩ := Option.map_eq_some_iff.1 hopens.owner
      exact hafter.issued id (Option.isSome_iff_exists.2 ⟨cursor, hcursor⟩)
    · obtain ⟨n, hn, hid⟩ := hh.issued m hm id user hopens
      exact ⟨n, Nat.lt_of_lt_of_le hn hgrants.nextSession, hid⟩
  · rcases List.mem_cons.1 hm with rfl | hm <;> rcases List.mem_cons.1 hm' with rfl | hm'
    · exact Option.some.inj (hopens.requested.symm.trans hopens'.requested)
    · exact absurd hopens' (hfresh m' hm' id user user' hopens)
    · exact absurd hopens (hfresh m hm id user' user hopens')
    · exact hh.unique m hm m' hm' id user user' hopens hopens'
  · rcases List.mem_cons.1 hm with rfl | hm
    · obtain ⟨user, huser, howner⟩ := owner?_of_attemptIn? ha
      exact ⟨user, huser, hopened id user howner⟩
    · obtain ⟨user, huser, m', hm', hopens⟩ := hh.requested m hm id a ha
      exact ⟨user, huser, m', List.mem_cons_of_mem _ hm', hopens⟩

end Steps

variable {start e : Engine} {h : History}

theorem Fresh.started (h : start.Fresh) : start.Started fun _ => True :=
  ⟨by rw [h.store]; exact Store.memory_faithful (.nil _), h.sessions⟩

theorem Reached.sweepable_of_fresh (hstart : start.Fresh) (hreached : Reached start h e) :
    e.cache.Sweepable fun _ => True :=
  hreached.sweepable hstart.started ⟨[], hstart.store⟩

/-- **Every run keeps the owners of sessions known.** -/
theorem Reached.owned (hstart : start.Fresh) (hreached : Reached start h e) : Owned h e := by
  induction hreached with
  | start => exact hstart.owned
  | step s hreached ih =>
    exact ih.step (hreached.sweepable_of_fresh hstart) ⟨fun _ => trivial, fun _ _ => trivial⟩
      ((hreached.step s).sweepable_of_fresh hstart).kept

/-! ### Private sessions -/

/-- **A session that is private to a user**: it is open for the user, who is the only one that it
was ever opened for, and what is in its cursor was put there by executions that the user asked
for. -/
structure Private (h : History) (e : Engine) (session : String) (user : Nat) : Prop where
  owner : e.server.owner? session = some user
  opened : ∃ m ∈ h, m.Opens session user
  unique : ∀ m ∈ h, ∀ other, m.Opens session other → other = user
  requested : ∀ m ∈ h, ∀ a, m.attemptIn? session = some a → m.step.user? = some user
  hits : ∀ cursor, e.server.cursor? session = some cursor →
    cursor.hits = [] ∨ ∃ m ∈ h, ∃ a, m.attemptIn? session = some a ∧ cursor.hits = a.hits

/-- **Every session is private to its owner**, in all that is reached from a fresh engine. -/
theorem Reached.private_of_owner (hstart : start.Fresh) (hreached : Reached start h e)
    {session : String} {user : Nat} (howner : e.server.owner? session = some user) :
    Private h e session user := by
  have howned := hreached.owned hstart
  have hexplained := hreached.explained hstart
  obtain ⟨m, hm, hopens⟩ := howned.opened session user howner
  refine ⟨howner, ⟨m, hm, hopens⟩, fun m' hm' other hother =>
    howned.unique m' hm' m hm session other user hother hopens, fun m' hm' a ha => ?_,
    fun cursor hcursor => ?_⟩
  · obtain ⟨user', huser', m'', hm'', hopens'⟩ := howned.requested m' hm' session a ha
    rw [huser', howned.unique m'' hm'' m hm session user' user hopens' hopens]
  · have hslot : (e.cache.slot session).cursor = some cursor := hcursor
    rcases hexplained.slots session with hblank | ⟨a, ha, hwrote⟩
    · generalize e.cache.slot session = slot at hblank hslot
      cases hblank with
      | vacant => cases hslot
      | unqueried _ _ hhits =>
        obtain rfl := Option.some.inj hslot
        exact .inl hhits
    · obtain ⟨m', hm', ha⟩ := List.exists_of_findSome?_eq_some ha
      obtain ⟨cursor', hcursor', hhits⟩ := hwrote.cursor
      obtain rfl := Option.some.inj (hslot.symm.trans hcursor')
      exact .inr ⟨m', hm', a, ha, hhits⟩

end Engine

/-- **What an answer leaves in its session**: the row that it gives, or an empty one when nothing
came of the search. -/
theorem Attempt.entry_after_answer {P : Row → Prop} {a : Attempt} (hc : a.engine.cache.Kept P)
    (hadmits : Row.Admits P a.engine.cache.now) {force : Bool}
    (hwritten : a.engine.cache.decide a.session a.request.text force = .ok .recompute →
      ∀ row, a.row? = some row → P row)
    (hopen : (a.engine.cache.server.cursor? a.session).isSome) {row? : Option Row} {c : Cache}
    (h : Cache.answer a.session a.effective a.request force a.engine.cache = (.ok row?, c)) :
    ∃ row, c.entry a.session = .ok (some row) ∧
      (row? = some row ∧ row.query = a.request.text ∨
        row? = none ∧ row.query = "" ∧ a.FailsEverywhere) := by
  cases hdecide : a.engine.cache.decide a.session a.request.text force with
  | error failure =>
    simp only [Cache.answer, bind_apply, look_apply, hdecide] at h
    cases (Prod.mk.inj h).1
  | ok decision =>
    cases decision with
    | reuse row =>
      simp only [Cache.answer, bind_apply, look_apply, hdecide, pure_apply] at h
      obtain ⟨hrow, rfl⟩ := Prod.mk.inj h
      obtain rfl := Except.ok.inj hrow
      obtain ⟨hentry, hfresh⟩ := Cache.entry_of_reuse hdecide
      exact ⟨row, hentry, .inl ⟨rfl, Cache.query_eq_of_not_stale hfresh⟩⟩
    | recompute =>
      rw [Cache.answer_of_recompute hdecide] at h
      obtain ⟨r, c', hexecute, -, -, hcases⟩ := execute_cases hc hadmits (hwritten hdecide)
        hopen
      obtain ⟨rfl, rfl⟩ := Prod.mk.inj (hexecute.symm.trans h)
      rcases hcases with ⟨⟨failure, hfailure⟩, -⟩ | ⟨row, hrow, hcase, hentries⟩
      · cases hfailure
      · obtain rfl := Except.ok.inj hrow
        refine ⟨row, (hentries a.session).trans (if_pos rfl), ?_⟩
        rcases hcase with ⟨hnone, hquery, -⟩ | hsome
        · exact .inr ⟨hnone, hquery, row?_eq_none_iff.1 hnone⟩
        · exact .inl ⟨hsome, query_eq hsome⟩

/-- **A page is made** from the session that its caller was attached to, and the row of this
session. -/
theorem Visit.page_of_attach {P : Row → Prop} {e : Engine} (he : e.cache.Kept P)
    (hadmits : Row.Admits P e.cache.now) {k : Caller} {text session : String} {v v' : Visit}
    (hattach : attach text ⟨e, k⟩ = (.ok session, v)) {offset asked : Nat} {options : SearchOptions}
    (hwritten : ∀ row, (⟨session, text, options, v.engine⟩ : Attempt).row? = some row → P row)
    {page : Page} (hsearch : searchIn session text offset asked options v = (.ok page, v')) :
    let o := e.effectiveOptions options
    ∃ row?, page = v'.pageOf session o (e.request text o) offset (e.pageSize asked) row? ∧
      (∀ row, row? = some row → v'.engine.cache.entry session = .ok (some row)) ∧
      v'.caller.session = some session := by
  obtain ⟨user, huser, hopens, hcaller⟩ := attach_ok hattach
  have hstands := attach_stands hattach
  have hrests := attach_resting text ⟨e, k⟩ he hadmits
  rw [hattach] at hrests
  have hgains := attach_gains he hadmits hattach
  let a : Attempt := ⟨session, text, options, v.engine⟩
  -- what is asked for is the same before the caller was attached
  obtain ⟨heffective, hrequest, -⟩ : a.effective = e.effectiveOptions options ∧
      a.request = e.request text (e.effectiveOptions options) ∧ _ :=
    Attempt.again_eq (a := ⟨session, text, options, e⟩) hstands.config
      (Cache.condition_eq hstands.setting) session
  have hsize : a.engine.pageSize asked = e.pageSize asked :=
    Engine.pageSize_congr hstands.config asked
  have hsearch' := (a.searchIn_apply v.caller offset asked).symm.trans hsearch
  cases hanswer : Cache.answer a.session a.effective a.request v.caller.force a.engine.cache with
  | mk r c =>
    rw [hanswer] at hsearch'
    cases r with
    | error failure => cases (Prod.mk.inj hsearch').1
    | ok row? =>
      obtain ⟨hpage, rfl⟩ := Prod.mk.inj hsearch'
      refine ⟨row?, ?_, fun row hrow => ?_, congrArg Caller.session hcaller⟩
      · rw [← Except.ok.inj hpage, heffective, hrequest, hsize]
      · subst hrow
        obtain ⟨row', hentry, ⟨hsome, -⟩ | ⟨hnone, -⟩⟩ := Attempt.entry_after_answer hrests.kept
          (Cache.now_eq hrests.setting ▸ hadmits) (fun _ => hwritten) hgains.isOpen hanswer
        · obtain rfl := Option.some.inj hsome
          exact hentry
        · cases hnone

namespace Engine

variable {start e : Engine} {h : History}

/-- **Users are isolated from each other.** Let an engine be started without rows and sessions. In
every engine that is reached, a page is made for a user from one session and its row; the session is
private to the user. A caller that comes with a session that was opened for another user gets one
that is opened for itself by this search. -/
theorem Reached.search_isolated (hstart : start.Fresh) (hreached : Reached start h e) {k : Caller}
    {text : String} {offset asked : Nat} {options : SearchOptions} {page : Page} {v' : Visit}
    (hsearch : Visit.search text offset asked options ⟨e, k⟩ = (.ok page, v')) :
    let m : Moment := ⟨.search k text offset asked options, e⟩
    let o := e.effectiveOptions options
    ∃ user session row?, k.user = some user ∧ v'.caller.session = some session ∧
      page = v'.pageOf session o (e.request text o) offset (e.pageSize asked) row? ∧
      (∀ row, row? = some row → v'.engine.cache.entry session = .ok (some row)) ∧
      Private (m :: h) v'.engine session user ∧
      ∀ claimed other, k.session = some claimed → other ≠ user →
        (∃ m' ∈ h, m'.Opens claimed other) → session ≠ claimed ∧ m.Opens session user := by
  intro m o
  have he := hreached.sweepable_of_fresh hstart
  have hadmits : Row.Admits (fun _ => True) e.cache.now := ⟨fun _ => trivial, fun _ _ => trivial⟩
  have hafter : m.after = v'.engine := congrArg (·.2.engine) hsearch
  have hnext : Reached start (m :: h) v'.engine := hafter ▸ hreached.step m.step
  rw [Visit.search_eq, bind_apply] at hsearch
  cases hattach : Visit.attach text ⟨e, k⟩ with
  | mk r v =>
    rw [hattach] at hsearch
    cases r with
    | error failure => cases hsearch
    | ok session =>
      obtain ⟨user, huser, hopens, hcaller⟩ := Visit.attach_ok hattach
      have hgains := Visit.attach_gains he.kept hadmits hattach
      have howner : v'.engine.server.owner? session = some user := by
        rw [← hafter, ← Server.opens_iff_owner?.1 hopens]
        have hsame := (owner?_search ⟨e, k⟩ text offset asked options).1
        rw [hattach] at hsame
        exact congrFun hsame session
      have hprivate := hnext.private_of_owner hstart howner
      obtain ⟨row?, hpage, hrow, hsession⟩ :=
        Visit.page_of_attach he.kept hadmits hattach (fun _ _ => trivial) hsearch
      refine ⟨user, session, row?, huser, hsession, hpage, hrow, hprivate,
        fun claimed other hclaimed hother hbefore => ?_⟩
      have hne : session ≠ claimed := by
        rintro rfl
        obtain ⟨m', hm', hopens'⟩ := hbefore
        exact hother (hprivate.unique m' (List.mem_cons_of_mem _ hm') other hopens')
      have hnew : session = Server.sessionId e.server.nextSession :=
        hgains.origin.resolve_left fun horigin =>
          hne (Option.some.inj (horigin.symm.trans hclaimed))
      refine ⟨hne, huser, ?_, hafter ▸ howner⟩
      rw [hnew]
      exact he.kept.cursor?_next

/-- A user that comes with the session of another one gets a session of its own. -/
theorem search_isolated_of_claimed :
    let start : Engine := { demo with sweepAfter := ⟨3600 * nanosPerSecond⟩ }
    let first : Moment := ⟨.search ⟨some 1, none, false⟩ "sea" 0 10 .standard, start⟩
    let k : Caller := ⟨some 2, some "mem-00000001", false⟩
    let second : Moment := ⟨.search k "boat" 0 10 .standard, first.after⟩
    ∃ page v session, Visit.search "boat" 0 10 .standard ⟨first.after, k⟩ = (.ok page, v) ∧
      v.caller.session = some session ∧ session ≠ "mem-00000001" ∧ second.Opens session 2 ∧
        Private [second, first] v.engine session 2 := by
  intro start first k second
  have hanswer : (Visit.search "boat" 0 10 .standard ⟨first.after, k⟩).1.isOk = true := by
    decide +kernel
  have hfresh : start.Fresh := ⟨rfl, rfl⟩
  have hreached : Reached start [first] first.after := .step first.step .start
  have hfirst : first.Opens "mem-00000001" 1 := ⟨rfl, rfl, by decide +kernel⟩
  cases hsearch : Visit.search "boat" 0 10 .standard ⟨first.after, k⟩ with
  | mk answer v =>
    rw [hsearch] at hanswer
    cases answer with
    | error failure => cases hanswer
    | ok page =>
      obtain ⟨user, session, -, huser, hsession, -, -, hprivate, hclaimed⟩ :=
        Reached.search_isolated hfresh hreached hsearch
      obtain rfl : 2 = user := Option.some.inj huser
      obtain ⟨hne, hopens⟩ := hclaimed "mem-00000001" 1 rfl (by decide)
        ⟨first, List.mem_singleton_self first, hfirst⟩
      exact ⟨page, v, session, rfl, hsession, hne, hopens, hprivate⟩

end Engine

end FederatedSearch
