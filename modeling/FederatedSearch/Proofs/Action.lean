import FederatedSearch.Action

/-!
# Where actions lead

An action leaves a state whether it succeeds or fails. That this state is always related to the one
before it is shown part by part: the relation has to be reflexive and transitive, and each step has
to follow it.

* `LawfulMonad (Action σ)`: how a sequence of actions is bracketed does not matter.
* `FederatedSearch.Action.Along`: an action leads along a relation.
* `FederatedSearch.Action.Along.bind`: so does one action after the other.
* `FederatedSearch.Action.Succeeds`: an action succeeds where a property holds, and keeps it.
* `FederatedSearch.Action.Avoids`: an action does not fail in a certain way.
* `FederatedSearch.Action.Commutes`: a change of the state plays no part in an action.
* `FederatedSearch.Action.Parallel`: two actions on related states keep to each other.
-/

namespace FederatedSearch.Action

variable {σ τ α β : Type}

instance : LawfulMonad (Action σ) := .mk' _
  (fun x => by
    funext s
    change (match x s with | (.ok a, t) => (.ok a, t) | (.error e, t) => (.error e, t)) = x s
    rcases x s with ⟨_ | _, t⟩ <;> rfl)
  (fun _ _ => rfl)
  (fun x f g => by
    funext s
    simp only [bind_apply]
    rcases x s with ⟨_ | _, t⟩ <;> rfl)

@[simp] theorem map_apply (f : α → β) (x : Action σ α) (s : σ) :
    (f <$> x) s = match x s with
      | (.ok a, t) => (.ok (f a), t)
      | (.error e, t) => (.error e, t) := rfl

variable {R : σ → σ → Prop} {S : τ → τ → Prop}

/-- **The action leads along a relation**, also when it fails. -/
def Along (R : σ → σ → Prop) (x : Action σ α) : Prop := ∀ s, R s (x s).2

namespace Along

theorem mono {R' : σ → σ → Prop} {x : Action σ α} (hx : Along R x) (h : ∀ s t, R s t → R' s t) :
    Along R' x :=
  fun s => h s _ (hx s)

theorem pure (hrefl : ∀ s, R s s) (a : α) : Along R (Pure.pure a : Action σ α) := hrefl

theorem look (hrefl : ∀ s, R s s) (f : σ → Except Failure α) : Along R (look f) := hrefl

theorem get (hrefl : ∀ s, R s s) : Along R (get : Action σ σ) := hrefl

theorem fail (hrefl : ∀ s, R s s) (e : Failure) : Along R (fail e : Action σ α) := hrefl

theorem modify {f : σ → σ} (h : ∀ s, R s (f s)) : Along R (modify f) := h

theorem step (hrefl : ∀ s, R s s) {f : σ → Except Failure σ} (h : ∀ s t, f s = .ok t → R s t) :
    Along R (step f) := by
  intro s
  rw [step_apply]
  cases hf : f s with
  | ok t => exact h s t hf
  | error e => exact hrefl s

theorem stepWith (hrefl : ∀ s, R s s) {f : σ → Except Failure (α × σ)}
    (h : ∀ s a t, f s = .ok (a, t) → R s t) : Along R (stepWith f) := by
  intro s
  rw [stepWith_apply]
  cases hf : f s with
  | ok r => exact h s r.1 r.2 hf
  | error e => exact hrefl s

/-- **One action after the other.** When the first fails, the second is left out. -/
theorem bind (htrans : ∀ a b c, R a b → R b c → R a c) {x : Action σ α} {f : α → Action σ β}
    (hx : Along R x) (hf : ∀ a, Along R (f a)) : Along R (x >>= f) := by
  intro s
  have hs := hx s
  rw [bind_apply]
  generalize x s = r at hs
  obtain ⟨r, t⟩ := r
  cases r with
  | ok a => exact htrans s t _ hs (hf a t)
  | error e => exact hs

/-- **An action on a part** leads along what the relation of the parts says of the whole. -/
theorem onPart {part : τ → σ} {put : τ → σ → τ} {x : Action σ α} (hx : Along R x)
    (h : ∀ t s, R (part t) s → S t (put t s)) : Along S (onPart part put x) :=
  fun t => h t _ (hx (part t))

end Along

/-! ### Actions that succeed -/

section Succeeding

variable {s t : σ} {a : α}

/-- **When one action after the other succeeds**, both do. -/
theorem ok_of_bind {x : Action σ β} {f : β → Action σ α} (h : (x >>= f) s = (.ok a, t)) :
    ∃ b u, x s = (.ok b, u) ∧ f b u = (.ok a, t) := by
  rw [bind_apply] at h
  generalize hx : x s = r at h
  obtain ⟨e | b, u⟩ := r
  · cases h
  · exact ⟨b, u, rfl, h⟩

theorem ok_of_step {f : σ → Except Failure σ} {u : Unit} (h : step f s = (.ok u, t)) :
    f s = .ok t := by
  rw [step_apply] at h
  cases hf : f s with
  | error e =>
    rw [hf] at h
    cases h
  | ok t' =>
    rw [hf] at h
    exact congrArg Except.ok (Prod.mk.inj h).2

theorem ok_of_onPart {part : τ → σ} {put : τ → σ → τ} {x : Action σ α} {p q : τ}
    (h : onPart part put x p = (.ok a, q)) : ∃ s, x (part p) = (.ok a, s) ∧ q = put p s := by
  obtain ⟨hresult, rfl⟩ := Prod.mk.inj h
  exact ⟨_, Prod.ext hresult rfl, rfl⟩

end Succeeding

/-- **The action succeeds** on every state with a property, and leaves one that has it too. -/
def Succeeds (I : σ → Prop) (x : Action σ α) : Prop :=
  ∀ s, I s → ∃ a t, x s = (.ok a, t) ∧ I t

namespace Succeeds

variable {I : σ → Prop}

theorem pure (a : α) : Succeeds I (Pure.pure a : Action σ α) := fun s hs => ⟨a, s, rfl, hs⟩

theorem get : Succeeds I (get : Action σ σ) := fun s hs => ⟨s, s, rfl, hs⟩

theorem look {f : σ → Except Failure α} (h : ∀ s, I s → ∃ a, f s = .ok a) :
    Succeeds I (look f) := by
  intro s hs
  obtain ⟨a, ha⟩ := h s hs
  exact ⟨a, s, congrArg (·, s) ha, hs⟩

/-- **One action after the other.** -/
theorem bind {x : Action σ α} {f : α → Action σ β} (hx : Succeeds I x)
    (hf : ∀ a, Succeeds I (f a)) : Succeeds I (x >>= f) := by
  intro s hs
  obtain ⟨a, t, ha, ht⟩ := hx s hs
  rw [bind_apply, ha]
  exact hf a t ht

end Succeeds

/-! ### Actions that do not fail in one way -/

theorem ok_ne_error (a : α) (failure : Failure) :
    (Except.ok a : Except Failure α) ≠ .error failure :=
  nofun

/-- A failure that is passed on is the failure of what failed. -/
theorem error_ne_error {failure e : Failure} {r : Except Failure α} (hr : r ≠ .error failure)
    (h : r = .error e) : (Except.error e : Except Failure β) ≠ .error failure :=
  fun heq => hr (h.trans (congrArg Except.error (Except.error.inj heq)))

/-- A computation that goes on from a result does not fail in a way that its parts do not fail in. -/
theorem bind_ne_error {failure : Failure} {r : Except Failure α} {f : α → Except Failure β}
    (hr : r ≠ .error failure) (hf : ∀ a, f a ≠ .error failure) : (r >>= f) ≠ .error failure := by
  cases r with
  | ok a => exact hf a
  | error e => exact error_ne_error hr rfl

/-- **The action does not fail in a certain way**, on any state. -/
def Avoids (failure : Failure) (x : Action σ α) : Prop := ∀ s, (x s).1 ≠ .error failure

namespace Avoids

variable {failure : Failure}

theorem pure (a : α) : Avoids failure (Pure.pure a : Action σ α) := fun _ => nofun

theorem get : Avoids failure (get : Action σ σ) := fun _ => nofun

theorem set (s : σ) : Avoids failure (set s) := fun _ => nofun

theorem modify (f : σ → σ) : Avoids failure (modify f) := fun _ => nofun

theorem fail {e : Failure} (h : e ≠ failure) : Avoids failure (fail e : Action σ α) :=
  fun _ heq => h (Except.error.inj heq)

theorem look {f : σ → Except Failure α} (h : ∀ s, f s ≠ .error failure) :
    Avoids failure (look f) := h

theorem step {f : σ → Except Failure σ} (h : ∀ s, f s ≠ .error failure) :
    Avoids failure (step f) := by
  intro s
  have hs := h s
  rw [step_apply]
  cases hf : f s with
  | ok t => exact ok_ne_error () failure
  | error e => exact error_ne_error hs hf

theorem stepWith {f : σ → Except Failure (α × σ)} (h : ∀ s, f s ≠ .error failure) :
    Avoids failure (stepWith f) := by
  intro s
  have hs := h s
  rw [stepWith_apply]
  cases hf : f s with
  | ok r => exact ok_ne_error r.1 failure
  | error e => exact error_ne_error hs hf

/-- **One action after the other.** -/
theorem bind {x : Action σ α} {f : α → Action σ β} (hx : Avoids failure x)
    (hf : ∀ a, Avoids failure (f a)) : Avoids failure (x >>= f) := by
  intro s
  have hs := hx s
  rw [bind_apply]
  generalize x s = r at hs
  obtain ⟨e | a, t⟩ := r
  · exact error_ne_error hs rfl
  · exact hf a t

theorem onPart {part : τ → σ} {put : τ → σ → τ} {x : Action σ α} (h : Avoids failure x) :
    Avoids failure (onPart part put x) :=
  fun t => h (part t)

end Avoids

/-! ### Changes that play no part -/

/-- **A change of the state plays no part in an action**: the action has the same outcome on the
changed state, and leaves the changed state of the one that it would leave. -/
def Commutes (f : σ → σ) (x : Action σ α) : Prop := ∀ s, x (f s) = ((x s).1, f (x s).2)

namespace Commutes

variable {f : σ → σ}

theorem pure (a : α) : Commutes f (Pure.pure a : Action σ α) := fun _ => rfl

theorem fail (e : Failure) : Commutes f (fail e : Action σ α) := fun _ => rfl

theorem look {g : σ → Except Failure α} (h : ∀ s, g (f s) = g s) : Commutes f (look g) := by
  intro s
  simp only [look_apply, h]

theorem modify {g : σ → σ} (h : ∀ s, g (f s) = f (g s)) : Commutes f (modify g) := by
  intro s
  simp only [modify_apply, h]

theorem step {g : σ → Except Failure σ} (h : ∀ s, g (f s) = (g s).map f) :
    Commutes f (step g) := by
  intro s
  simp only [step_apply, h]
  cases g s <;> rfl

theorem stepWith {g : σ → Except Failure (α × σ)}
    (h : ∀ s, g (f s) = (g s).map fun p => (p.1, f p.2)) : Commutes f (stepWith g) := by
  intro s
  simp only [stepWith_apply, h]
  cases g s <;> rfl

/-- **One action after the other.** -/
theorem bind {x : Action σ α} {y : α → Action σ β} (hx : Commutes f x)
    (hy : ∀ a, Commutes f (y a)) : Commutes f (x >>= y) := by
  intro s
  simp only [bind_apply, hx s]
  rcases x s with ⟨_ | a, t⟩
  · rfl
  · exact hy a t

/-- An action that looks at the state, and finds the same in the changed state. -/
theorem get_bind {y : σ → Action σ α} (hsame : ∀ s, y (f s) = y s)
    (hy : ∀ s, Commutes f (y s)) : Commutes f (get >>= y) := by
  intro s
  simp only [bind_apply, get_apply, hsame]
  exact hy s s

/-- **An action on a part**, where the change of the whole is one of the part. -/
theorem onPart {g : τ → τ} {part : τ → σ} {put : τ → σ → τ} {x : Action σ α}
    (hx : Commutes f x) (hpart : ∀ t, part (g t) = f (part t))
    (hput : ∀ t s, put (g t) (f s) = g (put t s)) : Commutes g (onPart part put x) := by
  intro t
  simp only [onPart_apply, hpart, hx (part t), hput]

end Commutes

/-! ### Two runs -/

/-- **Two outcomes agree**: both are results, and these are related, or both are one failure. -/
def Agree (Q : α → β → Prop) : Except Failure α → Except Failure β → Prop
  | .ok a, .ok b => Q a b
  | .error e, .error f => e = f
  | _, _ => False

namespace Agree

theorem of_eq {r r' : Except Failure α} (h : r = r') : Agree Eq r r' := by
  subst h
  cases r <;> rfl

/-- A step that goes on from a result. -/
theorem bind {γ δ : Type} {Q : α → β → Prop} {Q' : γ → δ → Prop} {r : Except Failure α}
    {r' : Except Failure β} {f : α → Except Failure γ} {g : β → Except Failure δ}
    (h : Agree Q r r') (hf : ∀ a b, Q a b → Agree Q' (f a) (g b)) :
    Agree Q' (r >>= f) (r' >>= g) := by
  cases r with
  | ok a => cases r' with
    | ok b => exact hf a b h
    | error e => exact h.elim
  | error e => cases r' with
    | ok b => exact h.elim
    | error e' => exact h

theorem map {γ δ : Type} {Q : α → β → Prop} {Q' : γ → δ → Prop} {r : Except Failure α}
    {r' : Except Failure β} {f : α → γ} {g : β → δ} (h : Agree Q r r')
    (hf : ∀ a b, Q a b → Q' (f a) (g b)) : Agree Q' (r.map f) (r'.map g) :=
  h.bind (f := fun a => .ok (f a)) (g := fun b => .ok (g b)) hf

/-- What related results have in common is what the outcomes have in common. -/
theorem map_eq {γ : Type} {Q : α → β → Prop} {r : Except Failure α} {r' : Except Failure β}
    (h : Agree Q r r') {f : α → γ} {g : β → γ} (hQ : ∀ a b, Q a b → f a = g b) :
    r.map f = r'.map g := by
  cases r with
  | ok a => cases r' with
    | ok b => exact congrArg Except.ok (hQ a b h)
    | error e => exact h.elim
  | error e => cases r' with
    | ok b => exact h.elim
    | error e' => exact congrArg Except.error h

end Agree

/-- **Two actions keep to each other**: on related states their outcomes agree, and the states that
they leave are related. -/
def Parallel (R : σ → σ → Prop) (Q : α → β → Prop) (x : Action σ α) (y : Action σ β) : Prop :=
  ∀ s t, R s t → Agree Q (x s).1 (y t).1 ∧ R (x s).2 (y t).2

namespace Parallel

variable {Q : α → β → Prop}

theorem pure {a : α} {b : β} (h : Q a b) :
    Parallel R Q (Pure.pure a : Action σ α) (Pure.pure b : Action σ β) :=
  fun _ _ hst => ⟨h, hst⟩

theorem get : Parallel R R (get : Action σ σ) (get : Action σ σ) := fun _ _ hst => ⟨hst, hst⟩

theorem set {s t : σ} (h : R s t) : Parallel R Eq (set s) (set t) := fun _ _ _ => ⟨rfl, h⟩

theorem fail (e : Failure) : Parallel R Q (fail e : Action σ α) (fail e : Action σ β) :=
  fun _ _ hst => ⟨rfl, hst⟩

theorem look {f : σ → Except Failure α} {g : σ → Except Failure β}
    (h : ∀ s t, R s t → Agree Q (f s) (g t)) : Parallel R Q (look f) (look g) :=
  fun s t hst => ⟨h s t hst, hst⟩

theorem modify {f g : σ → σ} (h : ∀ s t, R s t → R (f s) (g t)) :
    Parallel R Eq (modify f) (modify g) :=
  fun s t hst => ⟨rfl, h s t hst⟩

theorem stepWith {f : σ → Except Failure (α × σ)} {g : σ → Except Failure (β × σ)}
    (h : ∀ s t, R s t → Agree (fun p q => Q p.1 q.1 ∧ R p.2 q.2) (f s) (g t)) :
    Parallel R Q (stepWith f) (stepWith g) := by
  intro s t hst
  have hfg := h s t hst
  rw [stepWith_apply, stepWith_apply]
  generalize f s = r, g t = r' at hfg
  rcases r with e | ⟨a, s'⟩ <;> rcases r' with e' | ⟨b, t'⟩
  · exact ⟨hfg, hst⟩
  · exact hfg.elim
  · exact hfg.elim
  · exact hfg

theorem step {f g : σ → Except Failure σ} (h : ∀ s t, R s t → Agree R (f s) (g t)) :
    Parallel R Eq (step f) (step g) := by
  intro s t hst
  have hfg := h s t hst
  rw [step_apply, step_apply]
  generalize f s = r, g t = r' at hfg
  rcases r with e | s' <;> rcases r' with e' | t'
  · exact ⟨hfg, hst⟩
  · exact hfg.elim
  · exact hfg.elim
  · exact ⟨rfl, hfg⟩

/-- **One action after the other.** -/
theorem bind {γ δ : Type} {Q' : γ → δ → Prop} {x : Action σ α} {y : Action σ β}
    {f : α → Action σ γ} {g : β → Action σ δ} (h : Parallel R Q x y)
    (hf : ∀ a b, Q a b → Parallel R Q' (f a) (g b)) : Parallel R Q' (x >>= f) (y >>= g) := by
  intro s t hst
  obtain ⟨hagree, hstates⟩ := h s t hst
  rw [bind_apply, bind_apply]
  generalize x s = p, y t = q at hagree hstates
  obtain ⟨e | a, s'⟩ := p <;> obtain ⟨e' | b, t'⟩ := q
  · exact ⟨hagree, hstates⟩
  · exact hagree.elim
  · exact hagree.elim
  · exact hf a b hagree s' t' hstates

/-- **Actions on a part** keep to each other as the whole does. -/
theorem onPart {part : τ → σ} {put : τ → σ → τ} {x : Action σ α} {y : Action σ β}
    (h : Parallel R Q x y) (hpart : ∀ s t, S s t → R (part s) (part t))
    (hput : ∀ s t s' t', S s t → R s' t' → S (put s s') (put t t')) :
    Parallel S Q (onPart part put x) (onPart part put y) := by
  intro s t hst
  obtain ⟨hagree, hstates⟩ := h _ _ (hpart s t hst)
  exact ⟨hagree, hput s t _ _ hst hstates⟩

end Parallel

end FederatedSearch.Action
