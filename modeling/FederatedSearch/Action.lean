import FederatedSearch.Failure

/-!
# Actions

An operation of the engine works on a state and may fail. What it has done before it fails stays
done, so an action gives back a state in both cases.
-/

namespace FederatedSearch

/-- **An action on a state**: it gives a result or fails, and leaves a state. -/
def Action (σ α : Type) : Type := σ → Except Failure α × σ

namespace Action

variable {σ τ α β : Type}

instance : Monad (Action σ) where
  pure a s := (.ok a, s)
  bind x f s := match x s with
    | (.ok a, s) => f a s
    | (.error e, s) => (.error e, s)

/-- The state. -/
def get : Action σ σ := fun s => (.ok s, s)

/-- Put another state in place. -/
def set (s : σ) : Action σ Unit := fun _ => (.ok (), s)

/-- Change the state. -/
def modify (f : σ → σ) : Action σ Unit := fun s => (.ok (), f s)

/-- Fail. -/
def fail (e : Failure) : Action σ α := fun s => (.error e, s)

/-- What is found by looking at the state, which stays as it is. -/
def look (f : σ → Except Failure α) : Action σ α := fun s => (f s, s)

/-- A step to another state that changes nothing when it fails. -/
def step (f : σ → Except Failure σ) : Action σ Unit := fun s =>
  match f s with
  | .ok t => (.ok (), t)
  | .error e => (.error e, s)

/-- A step that also gives a result. -/
def stepWith (f : σ → Except Failure (α × σ)) : Action σ α := fun s =>
  match f s with
  | .ok (a, t) => (.ok a, t)
  | .error e => (.error e, s)

/-- **An action on a part of a larger state.** -/
def onPart (part : τ → σ) (put : τ → σ → τ) (x : Action σ α) : Action τ α := fun t =>
  let (r, s) := x (part t)
  (r, put t s)

@[simp] theorem pure_apply (a : α) (s : σ) : (pure a : Action σ α) s = (.ok a, s) := rfl

@[simp] theorem bind_apply (x : Action σ α) (f : α → Action σ β) (s : σ) :
    (x >>= f) s = match x s with
      | (.ok a, s) => f a s
      | (.error e, s) => (.error e, s) := rfl

@[simp] theorem get_apply (s : σ) : (get : Action σ σ) s = (.ok s, s) := rfl

@[simp] theorem set_apply (s t : σ) : set s t = (.ok (), s) := rfl

@[simp] theorem modify_apply (f : σ → σ) (s : σ) : modify f s = (.ok (), f s) := rfl

@[simp] theorem fail_apply (e : Failure) (s : σ) : (fail e : Action σ α) s = (.error e, s) := rfl

@[simp] theorem look_apply (f : σ → Except Failure α) (s : σ) : look f s = (f s, s) := rfl

@[simp] theorem step_apply (f : σ → Except Failure σ) (s : σ) :
    step f s = match f s with
      | .ok t => (.ok (), t)
      | .error e => (.error e, s) := rfl

@[simp] theorem stepWith_apply (f : σ → Except Failure (α × σ)) (s : σ) :
    stepWith f s = match f s with
      | .ok (a, t) => (.ok a, t)
      | .error e => (.error e, s) := rfl

@[simp] theorem onPart_apply (part : τ → σ) (put : τ → σ → τ) (x : Action σ α) (t : τ) :
    onPart part put x t = ((x (part t)).1, put t (x (part t)).2) := rfl

end Action

end FederatedSearch
