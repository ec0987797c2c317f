import FederatedSearch.Proofs.Engine.History

/-!
# What explains the slots of an engine

In every engine that steps lead to from a fresh one, a slot that is not blank holds the row and the
hits of the last execution in its session. The invariant behind it is that a history explains an
engine; each step keeps it, and it holds at the start.

* `FederatedSearch.Engine.Explained`: a history explains an engine.
* `FederatedSearch.Engine.Explained.step`: a step keeps it.
* `FederatedSearch.Engine.Reached.explained`: it holds of all that is reached from a fresh engine.
-/

namespace FederatedSearch.Engine

/-- **A history explains an engine**: what is in a slot was written by the last execution in the
session, and unless something was disturbed since then the server is still in the same condition. -/
structure Explained (h : History) (e : Engine) : Prop where
  orderly : e.cache.Orderly
  slots : ∀ id, (e.cache.slot id).Blank ∨
    ∃ a, h.lastAttempt? id = some a ∧ a.Wrote (e.cache.slot id)
  isOpen : ∀ id a, h.lastAttempt? id = some a →
    a.session = id ∧ (a.engine.cache.slot a.session).cursor.isSome
  config : ∀ id a, h.lastAttempt? id = some a → e.config = a.engine.config
  condition : ∀ id a, h.lastAttempt? id = some a →
    (∀ m ∈ h.sinceAttempt id, m.Undisturbed) → e.server.condition = a.engine.server.condition

/-! ### The start -/

theorem Fresh.slot_eq {e : Engine} (h : e.Fresh) (id : String) : e.cache.slot id = .vacant := by
  have hcursor : e.cache.server.cursor? id = none := congrArg (Table.find? id) h.sessions
  simp only [Cache.slot, Cache.row?, h.store, Store.empty, hcursor]
  rfl

/-- A fresh engine is explained by having no history. -/
theorem Fresh.explained {e : Engine} (h : e.Fresh) : Explained [] e where
  orderly := by
    refine ⟨⟨[], h.store⟩, fun id => ?_, fun id hid => ?_⟩
    · rw [h.slot_eq]
      exact Slot.vacant_sound id
    · rw [h.slot_eq] at hid
      cases hid
  slots id := .inl (by rw [h.slot_eq]; exact .vacant)
  isOpen _ _ ha := nomatch ha
  config _ _ ha := nomatch ha
  condition _ _ ha := nomatch ha

/-! ### Steps -/

section Steps

variable {h : History} {e : Engine} {s : Step} {id : String}

/-- After a step with no execution in a session, the last one there is the one before. -/
theorem lastAttempt?_cons_of_none (hs : (Moment.mk s e).attemptIn? id = none) :
    History.lastAttempt? id (⟨s, e⟩ :: h) = h.lastAttempt? id := by
  simp only [History.lastAttempt?, List.findSome?_cons, hs]

theorem lastAttempt?_cons_of_some {a : Attempt} (hs : (Moment.mk s e).attemptIn? id = some a) :
    History.lastAttempt? id (⟨s, e⟩ :: h) = some a := by
  simp only [History.lastAttempt?, List.findSome?_cons, hs]

/-- A moment with an execution in a session is the last one that counts there. -/
theorem sinceAttempt_cons_of_some {a : Attempt} (hs : (Moment.mk s e).attemptIn? id = some a) :
    History.sinceAttempt id (⟨s, e⟩ :: h) = [] := by
  simp only [History.sinceAttempt, List.takeWhile_cons, hs, Option.isNone_some, Bool.false_eq_true,
    if_false]

theorem sinceAttempt_cons_of_none (hs : (Moment.mk s e).attemptIn? id = none) :
    History.sinceAttempt id (⟨s, e⟩ :: h) = ⟨s, e⟩ :: h.sinceAttempt id := by
  simp only [History.sinceAttempt, List.takeWhile_cons, hs, Option.isNone_none, if_true]

/-- **What a step does to one session**: it leaves it as it was or without results, or it executes a
search in it. -/
theorem Step.run_slot (he : e.cache.Orderly) (s : Step) (id : String) :
    (Moment.mk s e).attemptIn? id = none ∧
        ((s.run e).cache.slot id = e.cache.slot id ∨ ((s.run e).cache.slot id).Blank) ∨
      ∃ a, (Moment.mk s e).attemptIn? id = some a ∧ a.session = id ∧ a.Ran e (s.run e) := by
  rcases s.run_cases he with ⟨hnone, hcalms⟩ | ⟨a, hsome, hran⟩
  · exact .inl ⟨by simp [Moment.attemptIn?, hnone], hcalms.slots id⟩
  · by_cases hid : a.session = id
    · exact .inr ⟨a, by simp [Moment.attemptIn?, hsome, hid], hid, hran⟩
    · -- an execution in another session does not touch this one
      refine .inl ⟨by simp [Moment.attemptIn?, hsome, hid], ?_⟩
      obtain ⟨slot, hwrites, -⟩ := hran.writes
      rw [hwrites.slot_other (Ne.symm hid)]
      exact hran.before.cache.slots id

/-- A step keeps an engine orderly. -/
theorem Step.run_orderly (he : e.cache.Orderly) (s : Step) : (s.run e).cache.Orderly := by
  rcases s.run_cases he with ⟨-, hcalms⟩ | ⟨a, -, hran⟩
  · exact hcalms.orderly
  · exact hran.orderly

/-- No step changes the configuration, or which backends are silent. -/
theorem Step.run_config (he : e.cache.Orderly) (s : Step) :
    (s.run e).config = e.config ∧ (s.run e).server.silent = e.server.silent := by
  rcases s.run_cases he with ⟨-, hcalms⟩ | ⟨a, -, hran⟩
  · exact ⟨hcalms.config, hcalms.silent⟩
  · obtain ⟨slot, hwrites, -⟩ := hran.writes
    have hcondition := (Cache.condition_eq hwrites.setting).trans
      (Cache.condition_eq hran.before.cache.setting)
    exact ⟨hran.config.trans hran.before.config, congrArg Condition.silent hcondition⟩

/-- An undisturbed moment keeps the condition of the server. -/
theorem Moment.Undisturbed.condition_eq (hm : (Moment.mk s e).Undisturbed)
    (he : e.cache.Orderly) : (s.run e).server.condition = e.server.condition := by
  have hindexes : (s.run e).server.indexes = e.server.indexes := hm.indexes
  have hdown : (s.run e).server.down = e.server.down := hm.down
  have hreachable : (s.run e).server.reachable = e.server.reachable := hm.reachable
  simp only [Server.condition, hindexes, hdown, hreachable, (s.run_config he).2]

/-- The last execution in a session is that of the last step, or the one before. -/
theorem lastAttempt?_cons_cases (he : e.cache.Orderly) {a : Attempt}
    (ha : History.lastAttempt? id (⟨s, e⟩ :: h) = some a) :
    (Moment.mk s e).attemptIn? id = none ∧ h.lastAttempt? id = some a ∨
      (Moment.mk s e).attemptIn? id = some a ∧ a.session = id ∧ a.Ran e (s.run e) := by
  rcases s.run_slot he id with ⟨hnone, -⟩ | ⟨b, hsome, hid, hran⟩
  · rw [lastAttempt?_cons_of_none hnone] at ha
    exact .inl ⟨hnone, ha⟩
  · rw [lastAttempt?_cons_of_some hsome] at ha
    obtain rfl := Option.some.inj ha
    exact .inr ⟨hsome, hid, hran⟩

/-- **A step keeps an engine explained** by its history. -/
theorem Explained.step (hh : Explained h e) (s : Step) : Explained (⟨s, e⟩ :: h) (s.run e) where
  orderly := s.run_orderly hh.orderly
  slots id := by
    rcases s.run_slot hh.orderly id with ⟨hnone, hslot | hblank⟩ | ⟨a, hsome, hid, hran⟩
    · rw [hslot, lastAttempt?_cons_of_none hnone]
      exact hh.slots id
    · exact .inl hblank
    · -- the execution is the last one in its session now, and wrote the slot or emptied it
      obtain ⟨slot, hwrites, hslot⟩ := hran.writes
      subst hid
      rw [lastAttempt?_cons_of_some hsome, hwrites.slot_same]
      rcases hslot with ⟨-, hblank⟩ | hwrote
      · exact .inl hblank
      · exact .inr ⟨a, rfl, hwrote⟩
  isOpen id a ha := by
    rcases lastAttempt?_cons_cases hh.orderly ha with ⟨-, ha⟩ | ⟨-, hid, hran⟩
    · exact hh.isOpen id a ha
    · exact ⟨hid, hran.isOpen⟩
  config id a ha := by
    rcases lastAttempt?_cons_cases hh.orderly ha with ⟨-, ha⟩ | ⟨-, -, hran⟩
    · exact (s.run_config hh.orderly).1.trans (hh.config id a ha)
    · exact hran.config
  condition id a ha hsince := by
    rcases lastAttempt?_cons_cases hh.orderly ha with ⟨hnone, ha⟩ | ⟨-, -, hran⟩
    · -- this step is one of those since the execution
      rw [sinceAttempt_cons_of_none hnone, List.forall_mem_cons] at hsince
      exact (hsince.1.condition_eq hh.orderly).trans (hh.condition id a ha hsince.2)
    · obtain ⟨slot, hwrites, -⟩ := hran.writes
      exact Cache.condition_eq hwrites.setting

end Steps

/-- **Every engine that is reached from a fresh one is explained by its history.** -/
theorem Reached.explained {start : Engine} (hstart : start.Fresh) {h : History} {e : Engine}
    (hreached : Reached start h e) : Explained h e := by
  induction hreached with
  | start => exact hstart.explained
  | step s _ ih => exact ih.step s

end FederatedSearch.Engine
