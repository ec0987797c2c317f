import FederatedSearch.Query.Expr
import FederatedSearch.Query.Scan

/-!
# Reading a query

The grammar of queries over tokens:

| | |
|---|---|
| chain | operand, then any number of links |
| link | `AND`, `OR` or `EXCEPT` and an operand, an operand alone, or `IN` and fields |
| operand | a chain between parentheses, a phrase, a word, a comparison, a vocabulary word |
| fields | a word, or words with `OR` between them and parentheses around |

Operators are combined strictly in reading order: each link takes all that stands to its left in
the same chain as its left operand. Every step returns the tokens after it with the fact that they
are fewer, which is why reading ends.

* `FederatedSearch.Query.parseChain`, `FederatedSearch.Query.parseOperand`: the two steps.
* `FederatedSearch.Query.parse`: the expression that a whole query spells.
-/

namespace FederatedSearch.Query

/-- The result of a step on tokens: a value, and fewer tokens after it. -/
abbrev Fewer (α : Type) (ts : List Token) :=
  Except SyntaxError { r : α × List Token // r.2.length < ts.length }

/-- A value: a word or a phrase. `fin` is the end of the query. -/
def parseValue (fin : Nat) : (ts : List Token) → Fewer String ts
  | [] => .error ⟨fin, .valueExpected none⟩
  | ⟨position, kind⟩ :: ts =>
    match kind with
    | .word w => .ok ⟨(w, ts), Nat.lt_succ_self _⟩
    | .phrase q => .ok ⟨(q, ts), Nat.lt_succ_self _⟩
    | other => .error ⟨position, .valueExpected (some other)⟩

/-- The names after an opening parenthesis at `start`, up to the closing one. -/
def parseFieldNames (start : Nat) : (ts : List Token) → Fewer (List String) ts
  | ⟨_, .word name⟩ :: ⟨_, .disj⟩ :: ts => do
    let ⟨(names, rest), h⟩ ← parseFieldNames start ts
    return ⟨(name :: names, rest), by simp only [List.length_cons] at h ⊢; omega⟩
  | ⟨_, .word name⟩ :: ⟨_, .closeParen⟩ :: ts =>
    .ok ⟨([name], ts), by simp only [List.length_cons]; omega⟩
  | ⟨_, .word _⟩ :: _ => .error ⟨start, .unterminatedFieldList⟩
  | _ => .error ⟨start, .fieldNameExpected⟩

/-- The fields of a restriction. -/
def parseFields (fin : Nat) : (ts : List Token) → Fewer (List String) ts
  | [] => .error ⟨fin, .fieldListExpected none⟩
  | ⟨position, kind⟩ :: ts =>
    match kind with
    | .word name => .ok ⟨([name], ts), Nat.lt_succ_self _⟩
    | .openParen => do
      let ⟨(names, rest), h⟩ ← parseFieldNames position ts
      return ⟨(names, rest), Nat.lt_succ_of_lt h⟩
    | other => .error ⟨position, .fieldListExpected (some other)⟩

/-- An operand that starts with a word: a vocabulary word of the field, a comparison, or the word
itself. The word `all` stands for every record. -/
def parseWord (fin : Nat) (word : String) :
    (ts : List Token) → Except SyntaxError { r : Expr × List Token // r.2.length ≤ ts.length }
  | ⟨_, .colon⟩ :: ts => do
    let ⟨(term, rest), h⟩ ← parseValue fin ts
    return ⟨(.vocabulary (if word == "*" then none else some word) term, rest),
      Nat.le_of_lt (Nat.lt_succ_of_lt h)⟩
  | ⟨_, .compare op⟩ :: ts => do
    let ⟨(value, rest), h⟩ ← parseValue fin ts
    return ⟨(.compare word op value, rest), Nat.le_of_lt (Nat.lt_succ_of_lt h)⟩
  | ts => .ok ⟨(if Text.sameAscii word "all" then .all else .term word, ts), Nat.le_refl _⟩

mutual

/-- **A chain**: an operand and the links after it. `fin` is the end of the query. -/
def parseChain (fin : Nat) (ts : List Token) : Fewer Expr ts := do
  let ⟨(first, rest), h⟩ ← parseOperand fin ts
  have hrest : rest.length < ts.length := h
  let ⟨(e, last), h'⟩ ← parseLinks fin first rest
  return ⟨(e, last), Nat.lt_of_le_of_lt h' hrest⟩
termination_by 2 * ts.length + 1
decreasing_by all_goals omega

/-- **An operand.** -/
def parseOperand (fin : Nat) (ts : List Token) : Fewer Expr ts :=
  match ts with
  | [] => .error ⟨fin, .operandExpected⟩
  | ⟨position, kind⟩ :: ts =>
    match kind with
    | .openParen => do
      let ⟨(inner, rest), h⟩ ← parseChain fin ts
      match rest, h with
      | ⟨_, .closeParen⟩ :: rest, h =>
        return ⟨(.group inner, rest), by simp only [List.length_cons] at h ⊢; omega⟩
      | _, _ => .error ⟨position, .unbalanced⟩
    | .phrase q => .ok ⟨(.phrase q, ts), Nat.lt_succ_self _⟩
    | .colon => do
      let ⟨(term, rest), h⟩ ← parseValue fin ts
      return ⟨(.vocabulary none term, rest), Nat.lt_succ_of_lt h⟩
    | .word word => do
      let ⟨(e, rest), h⟩ ← parseWord fin word ts
      return ⟨(e, rest), Nat.lt_succ_of_le h⟩
    | other => .error ⟨position, .unexpected other⟩
termination_by 2 * ts.length
decreasing_by all_goals simp only [List.length_cons]; omega

/-- The links after an expression: each takes it as its left operand. -/
def parseLinks (fin : Nat) (left : Expr) (ts : List Token) :
    Except SyntaxError { r : Expr × List Token // r.2.length ≤ ts.length } :=
  match ts with
  | [] => .ok ⟨(left, []), Nat.le_refl _⟩
  | ⟨position, kind⟩ :: after =>
    match kind with
    | .closeParen => .ok ⟨(left, ⟨position, kind⟩ :: after), Nat.le_refl _⟩
    | .conj => do
      let ⟨(right, rest), h⟩ ← parseOperand fin after
      have hrest : rest.length < after.length := h
      let ⟨(e, last), h'⟩ ← parseLinks fin (.and [left, right]) rest
      return ⟨(e, last), by simp only [List.length_cons] at h' ⊢; omega⟩
    | .disj => do
      let ⟨(right, rest), h⟩ ← parseOperand fin after
      have hrest : rest.length < after.length := h
      let ⟨(e, last), h'⟩ ← parseLinks fin (.or [left, right]) rest
      return ⟨(e, last), by simp only [List.length_cons] at h' ⊢; omega⟩
    | .except => do
      let ⟨(right, rest), h⟩ ← parseOperand fin after
      have hrest : rest.length < after.length := h
      let ⟨(e, last), h'⟩ ← parseLinks fin (.except left right) rest
      return ⟨(e, last), by simp only [List.length_cons] at h' ⊢; omega⟩
    | .within => do
      let ⟨(fields, rest), h⟩ ← parseFields fin after
      have hrest : rest.length < after.length := h
      let ⟨(e, last), h'⟩ ← parseLinks fin (.within left fields) rest
      return ⟨(e, last), by simp only [List.length_cons] at h' ⊢; omega⟩
    | _ => do
      let ⟨(right, rest), h⟩ ← parseOperand fin (⟨position, kind⟩ :: after)
      have hrest : rest.length < after.length + 1 := h
      let ⟨(e, last), h'⟩ ← parseLinks fin (.and [left, right]) rest
      return ⟨(e, last), by simp only [List.length_cons] at h' ⊢; omega⟩
termination_by 2 * ts.length + 1
decreasing_by all_goals simp only [List.length_cons]; omega

end

/-- The expression that tokens spell, where `fin` is the end of the query. -/
def parseTokens (fin : Nat) (ts : List Token) : Except SyntaxError Expr :=
  if ts.isEmpty then .error ⟨0, .emptyQuery⟩
  else
    match parseChain fin ts with
    | .error e => .error e
    | .ok ⟨(e, []), _⟩ => .ok e
    | .ok ⟨(_, t :: _), _⟩ => .error ⟨t.position, .strayClose⟩

/-- **The expression that a query spells**, its operators in reading order and its parentheses
kept. -/
def parse (source : String) : Except SyntaxError Expr := do
  parseTokens (Text.byteLength source.toList) (← scan source)

end FederatedSearch.Query
