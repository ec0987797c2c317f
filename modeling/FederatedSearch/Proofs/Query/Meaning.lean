import FederatedSearch.Query.Normal

/-!
# The meaning of an expression

An expression is made of leaves and of connectives, and what the connectives do is the same for
every record, every index and every thesaurus. So the meaning of an expression is defined over a
*valuation*, which says of each leaf and each scope whether the leaf holds there.

A chain is read from left to right, and all that has to be remembered is whether an earlier segment
between two `OR`s holds and whether the present one does. This is what makes a clause that is
appended to a query bind to its last segment only.

* `FederatedSearch.Query.Expr.means`: the meaning of an expression as a tree.
* `FederatedSearch.Query.Expr.reading`: the meaning of an expression as it is read, operators in
  reading order, and `OR` the weakest of them.
* `FederatedSearch.Query.Expr.means_normalize`: the normal form has the meaning that is read.
-/

namespace FederatedSearch.Query

/-- What a leaf says when words are looked for in a scope. -/
abbrev Valuation := Option (List String) → Expr → Bool

namespace Expr

variable (value : Valuation) (scope : Option (List String))

/-! ### Meaning as a tree -/

mutual

/-- **The meaning of an expression**, from what its leaves say. -/
def means (value : Valuation) (scope : Option (List String)) : Expr → Bool
  | .and children => (meansEach value scope children).all id
  | .or children => (meansEach value scope children).any id
  | .except left right => left.means value scope && !right.means value scope
  | .within inner fields => inner.means value (some fields)
  | .group inner => inner.means value scope
  | leaf => value scope leaf

/-- The meanings of several expressions. -/
def meansEach (value : Valuation) (scope : Option (List String)) : List Expr → List Bool
  | [] => []
  | e :: es => e.means value scope :: meansEach value scope es

end

theorem meansEach_eq_map (es : List Expr) :
    meansEach value scope es = es.map (means value scope) := by
  induction es with
  | nil => rfl
  | cons e es ih => simp [meansEach, ih]

@[simp] theorem means_and (es : List Expr) :
    (and es).means value scope = es.all (means value scope) := by
  simp [means, meansEach_eq_map]

@[simp] theorem means_or (es : List Expr) :
    (or es).means value scope = es.any (means value scope) := by
  simp [means, meansEach_eq_map]

@[simp] theorem means_except (left right : Expr) :
    (except left right).means value scope =
      (left.means value scope && !right.means value scope) := by
  simp [means]

@[simp] theorem means_within (inner : Expr) (fields : List String) :
    (within inner fields).means value scope = inner.means value (some fields) := by
  simp [means]

@[simp] theorem means_group (inner : Expr) :
    (group inner).means value scope = inner.means value scope := by
  simp [means]

/-! ### Merging -/

theorem all_conjuncts (e : Expr) :
    e.conjuncts.all (means value scope) = e.means value scope := by
  cases e <;> simp [conjuncts]

theorem any_disjuncts (e : Expr) :
    e.disjuncts.any (means value scope) = e.means value scope := by
  cases e <;> simp [disjuncts]

/-- Merging conjunctions does not change what they say. -/
@[simp] theorem means_andAll (parts : List Expr) :
    (andAll parts).means value scope = parts.all (means value scope) := by
  have hflat : (parts.flatMap conjuncts).all (means value scope) =
      parts.all (means value scope) := by
    induction parts with
    | nil => rfl
    | cons e es ih => rw [List.flatMap_cons, List.all_append, all_conjuncts, ih, List.all_cons]
  rw [← hflat]
  unfold andAll
  split
  · rename_i e he
    simp [he]
  · simp

/-- Merging disjunctions does not change what they say. -/
@[simp] theorem means_orAll (parts : List Expr) :
    (orAll parts).means value scope = parts.any (means value scope) := by
  have hflat : (parts.flatMap disjuncts).any (means value scope) =
      parts.any (means value scope) := by
    induction parts with
    | nil => rfl
    | cons e es ih => rw [List.flatMap_cons, List.any_append, any_disjuncts, ih, List.any_cons]
  rw [← hflat]
  unfold orAll
  split
  · rename_i e he
    simp [he]
  · simp

end Expr

/-! ### Meaning in reading order -/

/-- **What has been read of a chain**: whether an earlier segment holds, and whether the segment
holds that is being read. -/
structure Reading where
  earlier : Bool
  last : Bool
  deriving DecidableEq, Repr

namespace Reading

/-- A chain of one operand. -/
def ofOperand (v : Bool) : Reading := ⟨false, v⟩

/-- **Read one more operand**: `OR` begins a segment, the others change the one that is read. -/
def step (r : Reading) : Link → Bool → Reading
  | .and, v => ⟨r.earlier, r.last && v⟩
  | .or, v => ⟨r.earlier || r.last, v⟩
  | .except, v => ⟨r.earlier, r.last && !v⟩

/-- **Some segment holds.** -/
def holds (r : Reading) : Bool := r.earlier || r.last

@[simp] theorem holds_ofOperand (v : Bool) : (ofOperand v).holds = v := by simp [ofOperand, holds]

@[simp] theorem step_and (r : Reading) (v : Bool) :
    r.step .and v = ⟨r.earlier, r.last && v⟩ := rfl

@[simp] theorem step_or (r : Reading) (v : Bool) : r.step .or v = ⟨r.holds, v⟩ := rfl

@[simp] theorem step_except (r : Reading) (v : Bool) :
    r.step .except v = ⟨r.earlier, r.last && !v⟩ := rfl

/-- **Read several operands** from left to right. -/
def readAll (r : Reading) (rest : List (Link × Bool)) : Reading :=
  rest.foldl (fun r x => r.step x.1 x.2) r

theorem readAll_cons (r : Reading) (x : Link × Bool) (rest : List (Link × Bool)) :
    r.readAll (x :: rest) = (r.step x.1 x.2).readAll rest := rfl

theorem readAll_append (r : Reading) (xs ys : List (Link × Bool)) :
    r.readAll (xs ++ ys) = (r.readAll xs).readAll ys := List.foldl_append

/-- An earlier segment only adds itself to what holds at the end. -/
theorem holds_readAll (r : Reading) (rest : List (Link × Bool)) :
    (r.readAll rest).holds = (r.earlier || ((ofOperand r.last).readAll rest).holds) := by
  induction rest generalizing r with
  | nil => simp [readAll, holds, ofOperand]
  | cons x rest ih =>
    obtain ⟨op, v⟩ := x
    -- One step on both sides, then the induction hypothesis for the two readings that result.
    rw [readAll_cons, readAll_cons, ih, ih (step (ofOperand r.last) op v)]
    cases op <;> simp [ofOperand, holds, Bool.or_assoc]

end Reading

namespace Chain

variable (value : Valuation) (scope : Option (List String))

/-- What is read of operands that follow. -/
def readFrom (r : Reading) (rest : List (Link × Expr)) : Reading :=
  rest.foldl (fun r x => r.step x.1 (x.2.means value scope)) r

/-- **What is read of a chain** whose operands mean what they mean as trees. -/
def reading (c : Chain) : Reading :=
  readFrom value scope (.ofOperand (c.first.means value scope)) c.rest

@[simp] theorem reading_single (e : Expr) :
    reading value scope ⟨e, []⟩ = .ofOperand (e.means value scope) := rfl

@[simp] theorem reading_push (c : Chain) (op : Link) (e : Expr) :
    (c.push op e).reading value scope = (c.reading value scope).step op (e.means value scope) := by
  simp [reading, readFrom, push]

theorem readFrom_eq (r : Reading) (rest : List (Link × Expr)) :
    readFrom value scope r rest =
      r.readAll (rest.map fun x => (x.1, x.2.means value scope)) := by
  rw [readFrom, Reading.readAll, List.foldl_map]

theorem holds_readFrom (r : Reading) (rest : List (Link × Expr)) :
    (readFrom value scope r rest).holds =
      (r.earlier || (readFrom value scope (.ofOperand r.last) rest).holds) := by
  rw [readFrom_eq, readFrom_eq, Reading.holds_readAll]

/-- **The segments hold as they are read.** -/
theorem any_segmentsFrom (current : Expr) (rest : List (Link × Expr)) :
    (segmentsFrom current rest).any (Expr.means value scope) =
      (readFrom value scope (.ofOperand (current.means value scope)) rest).holds := by
  induction rest generalizing current with
  | nil => simp [segmentsFrom, readFrom]
  | cons x rest ih =>
    obtain ⟨op, e⟩ := x
    have hstep : readFrom value scope (.ofOperand (current.means value scope)) ((op, e) :: rest) =
        readFrom value scope (Reading.step (.ofOperand (current.means value scope)) op
          (e.means value scope)) rest := rfl
    rw [hstep]
    cases op with
    | and => simp [segmentsFrom, ih, Reading.ofOperand]
    | or =>
      -- the segment that ends here is set aside on both sides
      rw [segmentsFrom, List.any_cons, ih, holds_readFrom value scope (Reading.step _ .or _)]
      simp [Reading.ofOperand, Reading.holds]
    | except => simp [segmentsFrom, ih, Reading.ofOperand]

/-- **A chain stands for what is read of it.** -/
theorem means_toExpr (c : Chain) :
    c.toExpr.means value scope = (c.reading value scope).holds := by
  rw [reading, ← any_segmentsFrom]
  unfold toExpr
  split
  · rename_i e he
    simp [he]
  · rw [Expr.means_orAll]

end Chain

namespace Expr

mutual

/-- **What is read of an expression** whose operators stand in reading order: the operands along
its left spine are read one after the other. -/
def reading (value : Valuation) (scope : Option (List String)) : Expr → Reading
  | .and [left, right] => (left.reading value scope).step .and (right.operand value scope)
  | .or [left, right] => (left.reading value scope).step .or (right.operand value scope)
  | .except left right => (left.reading value scope).step .except (right.operand value scope)
  | e => .ofOperand (e.operand value scope)
termination_by e => 2 * sizeOf e + 1
decreasing_by all_goals decreasing_tactic

/-- **What an operand says.** Parentheses and a restriction to fields make an operand of all that
stands in them or before it. -/
def operand (value : Valuation) (scope : Option (List String)) : Expr → Bool
  | .group inner => (inner.reading value scope).holds
  | .within inner fields => (inner.reading value (some fields)).holds
  | .and children => (readingEach value scope children).all Reading.holds
  | .or children => (readingEach value scope children).any Reading.holds
  | e => e.means value scope
termination_by e => 2 * sizeOf e
decreasing_by all_goals decreasing_tactic

/-- What is read of several expressions. -/
def readingEach (value : Valuation) (scope : Option (List String)) : List Expr → List Reading
  | [] => []
  | e :: es => e.reading value scope :: readingEach value scope es
termination_by es => 2 * sizeOf es
decreasing_by all_goals decreasing_tactic

end

/-- **The outermost chain has several segments**: some operator of it is `OR`. -/
def hasSegments : Expr → Bool
  | .or [_, _] => true
  | .and [left, _] => left.hasSegments
  | .except left _ => left.hasSegments
  | _ => false

/-- A chain of one segment has none before the last. -/
theorem earlier_reading_eq_false (value : Valuation) (scope : Option (List String)) (e : Expr)
    (h : e.hasSegments = false) : (e.reading value scope).earlier = false := by
  fun_induction hasSegments e with
  | case1 => cases h
  | case2 left right ih =>
    rw [reading]
    exact ih h
  | case3 left right ih =>
    rw [reading]
    exact ih h
  | case4 e hor hand hexcept =>
    rw [reading]
    · rfl
    · exact hand
    · exact hor
    · exact hexcept

/-! ### Folding -/

mutual

/-- **Folding a chain keeps what is read.** -/
theorem reading_foldChain (value : Valuation) (scope : Option (List String)) (e : Expr) :
    e.foldChain.reading value scope = e.reading value scope := by
  unfold foldChain
  split
  · rename_i left right
    rw [reading, Chain.reading_push, reading_foldChain value scope left,
      means_foldOperand value scope right]
  · rename_i left right
    rw [reading, Chain.reading_push, reading_foldChain value scope left,
      means_foldOperand value scope right]
  · rename_i left right
    rw [reading, Chain.reading_push, reading_foldChain value scope left,
      means_foldOperand value scope right]
  · rw [reading, Chain.reading_single, means_foldOperand value scope e]
    all_goals assumption
termination_by 2 * sizeOf e + 1
decreasing_by all_goals decreasing_tactic

/-- Folding an operand keeps what it says. -/
theorem means_foldOperand (value : Valuation) (scope : Option (List String)) (e : Expr) :
    e.foldOperand.means value scope = e.operand value scope := by
  unfold foldOperand
  split
  · rename_i inner
    rw [operand, Chain.means_toExpr, reading_foldChain value scope inner]
  · rename_i inner fields
    rw [operand, means_within, Chain.means_toExpr, reading_foldChain value (some fields) inner]
  · rename_i children
    rw [operand, means_andAll, ← Function.id_comp Reading.holds, ← List.all_map,
      ← means_foldEach value scope children, List.all_map, Function.id_comp]
  · rename_i children
    rw [operand, means_orAll, ← Function.id_comp Reading.holds, ← List.any_map,
      ← means_foldEach value scope children, List.any_map, Function.id_comp]
  · rw [operand]
    all_goals assumption
termination_by 2 * sizeOf e
decreasing_by all_goals decreasing_tactic

/-- Folding several expressions keeps what is read of each. -/
theorem means_foldEach (value : Valuation) (scope : Option (List String)) (es : List Expr) :
    (foldEach es).map (means value scope) = (readingEach value scope es).map Reading.holds := by
  match es with
  | [] => simp [foldEach, readingEach]
  | e :: es =>
    rw [foldEach, readingEach, List.map_cons, List.map_cons, Chain.means_toExpr,
      reading_foldChain value scope e, means_foldEach value scope es]
termination_by 2 * sizeOf es
decreasing_by all_goals decreasing_tactic

end

variable (value : Valuation) (scope : Option (List String))

/-- **Binding the operators by priority keeps what is read.** -/
theorem means_fold (e : Expr) : e.fold.means value scope = (e.reading value scope).holds := by
  rw [fold, Chain.means_toExpr, reading_foldChain]

/-! ### Distribution -/

/-- A restriction that is pushed into a disjunction says what it said before. -/
@[simp] theorem means_restrict (fields : List String) (e : Expr) :
    (restrict fields e).means value scope = e.means value (some fields) := by
  unfold restrict
  split
  · rename_i children
    rw [means_or, means_or, List.any_map]
    exact congrArg children.any (funext fun e => means_within value scope e fields)
  · exact means_within value scope e fields

mutual

/-- **Distribution keeps the meaning.** -/
theorem means_distribute (value : Valuation) (scope : Option (List String)) :
    ∀ e : Expr, e.distribute.means value scope = e.means value scope
  | .all | .term _ | .phrase _ | .compare _ _ _ | .vocabulary _ _ => rfl
  | .and children => by
    rw [distribute, means_andAll, means, ← means_distributeEach value scope children,
      List.all_map, Function.id_comp]
  | .or children => by
    rw [distribute, means_orAll, means, ← means_distributeEach value scope children,
      List.any_map, Function.id_comp]
  | .except left right => by
    rw [distribute, means_except, means_except, means_distribute value scope left,
      means_distribute value scope right]
  | .within inner fields => by
    rw [distribute, means_restrict, means_within, means_distribute value (some fields) inner]
  | .group inner => by
    rw [distribute, means_group, means_distribute value scope inner]

/-- Distribution keeps the meanings of several expressions. -/
theorem means_distributeEach (value : Valuation) (scope : Option (List String)) :
    ∀ es : List Expr, (distributeEach es).map (means value scope) = meansEach value scope es
  | [] => rfl
  | e :: es => by
    rw [distributeEach, List.map_cons, meansEach, means_distribute value scope e,
      means_distributeEach value scope es]

end

/-- **The normal form has the meaning that is read.** -/
theorem means_normalize (e : Expr) :
    e.normalize.means value scope = (e.reading value scope).holds := by
  rw [normalize, means_distribute, means_fold]

end Expr

end FederatedSearch.Query
