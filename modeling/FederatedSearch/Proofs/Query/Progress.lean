import FederatedSearch.Proofs.Query.Parsing

/-!
# Reading goes forward

Reading is a loop over the links of a chain, a loop over the names of a list of fields, and a chain
inside each pair of parentheses. Here it is watched: every turn of a loop and every chain is told
how many tokens there were when the turn before, or the reading of the chain around, began, and it
gives up unless there are fewer now. Reading that is watched never gives up, so each turn and each
chain costs a token, and its result is that of reading.

What is read from a list of tokens stays in it: what is left are its last tokens, and what is
refused is refused at one of them, or at the end when one is missing.

* `FederatedSearch.Query.watchChain`, `FederatedSearch.Query.watchLinks`,
  `FederatedSearch.Query.watchNames`: reading that is watched.
* `FederatedSearch.Query.watchParse_eq`: **it never gives up**.
* `FederatedSearch.Query.FaultIn`: a refusal at a token, or at the end.
* `FederatedSearch.Query.keeps_watchChain`: **reading stays in its tokens**.
-/

namespace FederatedSearch.Query

/-! ### Watched reading -/

/-- **Why watched reading ends** without a result. -/
inductive Halt where
  /-- The query is refused. -/
  | refused (fault : SyntaxError)
  /-- A turn of a loop, or a chain, began with no fewer tokens than the one before it. -/
  | stalled

/-- The results of watched reading. -/
abbrev Watched : Type → Type := Except Halt

/-- What is read, without the fact that there are fewer tokens after it. -/
def toWatched {α : Type} {p : α × List Token → Prop} (x : Except SyntaxError { r // p r }) :
    Watched (α × List Token) :=
  (x.map Subtype.val).mapError .refused

/-- The names after an opening parenthesis at `start`, where there were `limit` tokens at the turn
before. -/
def watchNames (start limit : Nat) (ts : List Token) : Watched (List String × List Token) :=
  if ts.length < limit then
    match ts with
    | ⟨_, .word name⟩ :: ⟨_, .disj⟩ :: after => do
      let (names, rest) ← watchNames start ts.length after
      return (name :: names, rest)
    | ⟨_, .word name⟩ :: ⟨_, .closeParen⟩ :: after => .ok ([name], after)
    | ⟨_, .word _⟩ :: _ => .error (.refused ⟨start, .unterminatedFieldList⟩)
    | _ => .error (.refused ⟨start, .fieldNameExpected⟩)
  else .error .stalled
termination_by limit

/-- The fields of a restriction. -/
def watchFields (fin : Nat) (ts : List Token) : Watched (List String × List Token) :=
  match ts with
  | ⟨position, .openParen⟩ :: after => watchNames position ts.length after
  | _ => toWatched (parseFields fin ts)

mutual

/-- A chain, where there were `limit` tokens when the chain around it began to read the operand that
this one is in. -/
def watchChain (fin limit : Nat) (ts : List Token) : Watched (Expr × List Token) :=
  if ts.length < limit then do
    let (first, rest) ← watchOperand fin ts
    watchLinks fin ts.length first rest
  else .error .stalled
termination_by 2 * limit
decreasing_by all_goals omega

/-- An operand. -/
def watchOperand (fin : Nat) (ts : List Token) : Watched (Expr × List Token) :=
  match ts with
  | [] => .error (.refused ⟨fin, .operandExpected⟩)
  | ⟨position, kind⟩ :: after =>
    match kind with
    | .openParen => do
      let (inner, rest) ← watchChain fin (after.length + 1) after
      match rest with
      | ⟨_, .closeParen⟩ :: rest => return (.group inner, rest)
      | _ => .error (.refused ⟨position, .unbalanced⟩)
    | .phrase q => .ok (.phrase q, after)
    | .colon => do
      let (term, rest) ← toWatched (parseValue fin after)
      return (.vocabulary none term, rest)
    | .word word => toWatched (parseWord fin word after)
    | other => .error (.refused ⟨position, .unexpected other⟩)
termination_by 2 * ts.length + 1
decreasing_by all_goals simp only [List.length_cons]; omega

/-- The links after an expression, where there were `limit` tokens at the turn before. -/
def watchLinks (fin limit : Nat) (left : Expr) (ts : List Token) : Watched (Expr × List Token) :=
  if h : ts.length < limit then
    match ts, h with
    | [], _ => .ok (left, [])
    | ⟨position, kind⟩ :: after, _ =>
      match kind.link?, kind with
      | some op, _ => do
        let (right, rest) ← watchOperand fin after
        watchLinks fin (after.length + 1) (op.combine left right) rest
      | none, .closeParen => .ok (left, ⟨position, kind⟩ :: after)
      | none, .within => do
        let (fields, rest) ← watchFields fin after
        watchLinks fin (after.length + 1) (.within left fields) rest
      | none, _ => do
        let (right, rest) ← watchOperand fin (⟨position, kind⟩ :: after)
        watchLinks fin (after.length + 1) (.and [left, right]) rest
  else .error .stalled
termination_by 2 * limit
decreasing_by all_goals simp only [List.length_cons] at *; omega

end

/-- **Reading a query, watched.** -/
def watchParse (source : String) : Watched Expr :=
  match scan source with
  | .error fault => .error (.refused fault)
  | .ok [] => .error (.refused ⟨0, .emptyQuery⟩)
  | .ok ts => do
    match ← watchChain (Text.byteLength source.toList) (ts.length + 1) ts with
    | (e, []) => return e
    | (_, t :: _) => .error (.refused ⟨t.position, .strayClose⟩)

/-! ### Watched reading never gives up -/

@[simp] theorem toWatched_ok {α : Type} {p : α × List Token → Prop} (r : { r // p r }) :
    toWatched (.ok r) = .ok r.1 := rfl

@[simp] theorem toWatched_error {α : Type} {p : α × List Token → Prop} (fault : SyntaxError) :
    toWatched (p := p) (.error fault) = .error (.refused fault) := rfl

/-- A watched step gives a value when the step itself does. -/
theorem toWatched_eq_ok_iff {α : Type} {p : α × List Token → Prop}
    {x : Except SyntaxError { r // p r }} {r : α × List Token} :
    toWatched x = .ok r ↔ ∃ h, x = .ok ⟨r, h⟩ := by
  rcases x with fault | ⟨s, hs⟩
  · simp
  · simp only [toWatched_ok, Except.ok.injEq, Subtype.mk.injEq]
    constructor
    · rintro rfl
      exact ⟨hs, rfl⟩
    · rintro ⟨-, rfl⟩
      rfl

/-- Every turn over the names of a list of fields takes a token. -/
theorem watchNames_eq {start limit : Nat} {ts : List Token} (h : ts.length < limit) :
    watchNames start limit ts = toWatched (parseFieldNames start ts) := by
  fun_induction parseFieldNames start ts generalizing limit with
  | case1 _ name _ after ih =>
    rw [watchNames, if_pos h]
    dsimp only
    rw [ih (by simp only [List.length_cons]; omega)]
    rcases parseFieldNames start after with fault | ⟨⟨names, rest⟩, _⟩ <;> rfl
  | case2 =>
    rw [watchNames, if_pos h]
    rfl
  | case3 _ _ _ hmore hlast =>
    rw [watchNames, if_pos h]
    · rfl
    · exact hmore
    · exact hlast
  | case4 ts hmore hlast hword =>
    rw [watchNames, if_pos h]
    · rfl
    · exact hmore
    · exact hlast
    · exact hword

theorem watchFields_eq (fin : Nat) (ts : List Token) :
    watchFields fin ts = toWatched (parseFields fin ts) := by
  unfold watchFields
  split
  · next position after =>
    rw [watchNames_eq (by simp)]
    simp only [parseFields]
    rcases parseFieldNames position after with fault | ⟨⟨names, rest⟩, _⟩ <;> rfl
  · rfl

mutual

/-- A chain with fewer tokens than the one around it is read. -/
theorem watchChain_eq {fin limit : Nat} {ts : List Token} (h : ts.length < limit) :
    watchChain fin limit ts = toWatched (parseChain fin ts) := by
  rw [watchChain, if_pos h, parseChain, watchOperand_eq]
  rcases parseOperand fin ts with fault | ⟨⟨first, rest⟩, hrest⟩
  · rfl
  · have hlen : rest.length < ts.length := hrest
    simp only [toWatched_ok, bind, Except.bind]
    rw [watchLinks_eq hlen]
    rcases parseLinks fin first rest with fault | ⟨⟨e, last⟩, _⟩ <;> rfl
termination_by 2 * ts.length + 1
decreasing_by all_goals omega

/-- An operand is read, since a chain in it starts after its parenthesis. -/
theorem watchOperand_eq (fin : Nat) (ts : List Token) :
    watchOperand fin ts = toWatched (parseOperand fin ts) := by
  match ts with
  | [] =>
    rw [watchOperand, parseOperand]
    rfl
  | ⟨position, kind⟩ :: after =>
    cases kind with
    | openParen =>
      rw [watchOperand, parseOperand]
      dsimp only
      rw [watchChain_eq (Nat.lt_succ_self after.length)]
      rcases parseChain fin after with fault | ⟨⟨inner, rest⟩, hrest⟩
      · rfl
      · rcases rest with - | ⟨⟨_, k⟩, rest⟩
        · rfl
        · cases k <;> rfl
    | colon =>
      rw [watchOperand, parseOperand]
      rcases parseValue fin after with fault | ⟨⟨term, rest⟩, _⟩ <;> rfl
    | word word =>
      rw [watchOperand, parseOperand]
      rcases parseWord fin word after with fault | ⟨⟨e, rest⟩, _⟩ <;> rfl
    | _ =>
      rw [watchOperand, parseOperand]
      · rfl
      all_goals nofun
termination_by 2 * ts.length
decreasing_by all_goals simp only [List.length_cons]; omega

/-- Every turn over the links of a chain takes a token. -/
theorem watchLinks_eq {fin limit : Nat} {left : Expr} {ts : List Token} (h : ts.length < limit) :
    watchLinks fin limit left ts = toWatched (parseLinks fin left ts) := by
  match ts with
  | [] =>
    rw [watchLinks, dif_pos h, parseLinks]
    rfl
  | ⟨position, kind⟩ :: after =>
    unfold watchLinks
    rw [dif_pos h]
    cases kind with
    | closeParen =>
      rw [parseLinks]
      rfl
    | conj | disj | except =>
      -- a keyword and the operand after it
      rw [parseLinks]
      simp only [TokenKind.link?, Link.combine]
      rw [watchOperand_eq]
      rcases parseOperand fin after with fault | ⟨⟨right, rest⟩, hrest⟩
      · rfl
      · have hlen : rest.length < after.length := hrest
        simp only [toWatched_ok, bind, Except.bind]
        rw [watchLinks_eq (Nat.lt_succ_of_lt hlen)]
        generalize parseLinks fin _ rest = read
        rcases read with fault | ⟨⟨e, last⟩, _⟩ <;> rfl
    | within =>
      rw [parseLinks]
      simp only [TokenKind.link?]
      rw [watchFields_eq]
      rcases parseFields fin after with fault | ⟨⟨fields, rest⟩, hrest⟩
      · rfl
      · have hlen : rest.length < after.length := hrest
        simp only [toWatched_ok, bind, Except.bind]
        rw [watchLinks_eq (Nat.lt_succ_of_lt hlen)]
        rcases parseLinks fin (.within left fields) rest with fault | ⟨⟨e, last⟩, _⟩ <;> rfl
    | word | phrase | openParen | colon | compare =>
      -- no keyword: the token itself starts the operand
      rw [parseLinks]
      · simp only [TokenKind.link?]
        rw [watchOperand_eq]
        generalize parseOperand fin (_ :: after) = read
        rcases read with fault | ⟨⟨right, rest⟩, hrest⟩
        · rfl
        · have hlen : rest.length < after.length + 1 := hrest
          simp only [toWatched_ok, bind, Except.bind]
          rw [watchLinks_eq hlen]
          rcases parseLinks fin (.and [left, right]) rest with fault | ⟨⟨e, last⟩, _⟩ <;> rfl
      all_goals nofun
termination_by 2 * ts.length + 1
decreasing_by all_goals simp only [List.length_cons]; omega

end

/-- **Reading a query that is watched never gives up**, and gives what reading gives. -/
theorem watchParse_eq (source : String) :
    watchParse source = (parse source).mapError .refused := by
  unfold watchParse parse
  rcases scan source with fault | ts
  · rfl
  · rcases ts with - | ⟨t, ts⟩
    · rfl
    · simp only [bind, Except.bind, parseTokens, List.isEmpty_cons]
      rw [watchChain_eq (Nat.lt_succ_self _)]
      rcases parseChain (Text.byteLength source.toList) (t :: ts) with fault | ⟨⟨e, rest⟩, _⟩
      · rfl
      · rcases rest with - | ⟨u, rest⟩ <;> rfl

/-! ### Reading stays in its tokens -/

/-- Something is missing at the end of the tokens. -/
def SyntaxFault.isMissing : SyntaxFault → Bool
  | .operandExpected | .valueExpected none | .fieldListExpected none => true
  | _ => false

/-- The kind of the token that stands where it should not, or that a partner is missing for. -/
def SyntaxFault.blamed? : SyntaxFault → Option TokenKind
  | .strayClose => some .closeParen
  | .unbalanced | .fieldNameExpected | .unterminatedFieldList => some .openParen
  | .unexpected found => some found
  | .valueExpected found | .fieldListExpected found => found
  | _ => none

/-- **A refusal at a token**, which the cause names, or at the end, when one is missing. -/
inductive FaultIn (fin : Nat) (ts : List Token) : SyntaxError → Prop
  | atEnd {fault : SyntaxFault} : fault.isMissing = true → FaultIn fin ts ⟨fin, fault⟩
  | atToken {t : Token} {fault : SyntaxFault} : t ∈ ts → fault.blamed? = some t.kind →
    FaultIn fin ts ⟨t.position, fault⟩

/-- **A result that stays in the tokens** it was read from: the last of them are left, or it is a
refusal at one of them or at the end. -/
inductive Keeps {α : Type} (fin : Nat) (ts : List Token) : Watched (α × List Token) → Prop
  | leaves {a : α} {rest : List Token} : rest <:+ ts → Keeps fin ts (.ok (a, rest))
  | refuses {fault : SyntaxError} : FaultIn fin ts fault → Keeps fin ts (.error (.refused fault))
  | stalls : Keeps fin ts (.error .stalled)

section Keeps

variable {α β : Type} {fin : Nat} {ts us : List Token}

theorem FaultIn.mono {fault : SyntaxError} (h : FaultIn fin us fault) (hsub : us <:+ ts) :
    FaultIn fin ts fault := by
  cases h with
  | atEnd hfault => exact .atEnd hfault
  | atToken ht hfault => exact .atToken (hsub.subset ht) hfault

/-- What stays in the last tokens stays in all of them. -/
theorem Keeps.mono {x : Watched (α × List Token)} (h : Keeps fin us x) (hsub : us <:+ ts) :
    Keeps fin ts x := by
  cases h with
  | leaves hrest => exact .leaves (hrest.trans hsub)
  | refuses hfault => exact .refuses (hfault.mono hsub)
  | stalls => exact .stalls

/-- Two steps stay in the tokens when each of them does. -/
theorem Keeps.bind {x : Watched (α × List Token)} {f : α × List Token → Watched (β × List Token)}
    (hx : Keeps fin ts x) (hf : ∀ a rest, rest <:+ ts → Keeps fin ts (f (a, rest))) :
    Keeps fin ts (x >>= f) := by
  cases hx with
  | leaves hrest => exact hf _ _ hrest
  | refuses hfault => exact .refuses hfault
  | stalls => exact .stalls

/-- The token that is refused is the first one. -/
theorem keeps_refused {position : Nat} {kind : TokenKind} {fault : SyntaxFault}
    (h : fault.blamed? = some kind) :
    Keeps (α := α) fin (⟨position, kind⟩ :: us) (.error (.refused ⟨position, fault⟩)) :=
  .refuses (.atToken (t := ⟨position, kind⟩) List.mem_cons_self h)

theorem keeps_parseValue (fin : Nat) (ts : List Token) :
    Keeps fin ts (toWatched (parseValue fin ts)) := by
  match ts with
  | [] => exact .refuses (.atEnd rfl)
  | ⟨position, kind⟩ :: after =>
    cases kind with
    | word | phrase => exact .leaves (List.suffix_cons _ _)
    | _ => exact keeps_refused rfl

/-- What is built of a value leaves what the value leaves. -/
theorem Keeps.build {p : α × List Token → Prop} {q : β × List Token → Prop}
    {x : Except SyntaxError { r // p r }} {f : { r // p r } → Except SyntaxError { r // q r }}
    (hx : Keeps fin ts (toWatched x)) (hf : ∀ r, ∃ b h, f r = .ok ⟨(b, r.1.2), h⟩) :
    Keeps fin ts (toWatched (x >>= f)) := by
  rcases x with fault | ⟨⟨a, rest⟩, hp⟩
  · cases hx with
    | refuses hfault => exact .refuses hfault
  · obtain ⟨b, hq, hr⟩ := hf ⟨(a, rest), hp⟩
    have hbuilt : (Except.ok ⟨(a, rest), hp⟩ >>= f) = .ok ⟨(b, rest), hq⟩ := hr
    rw [hbuilt]
    cases hx with
    | leaves hrest => exact .leaves hrest

theorem keeps_parseWord (fin : Nat) (word : String) (ts : List Token) :
    Keeps fin ts (toWatched (parseWord fin word ts)) := by
  unfold parseWord
  split
  · next position after =>
    have hvalue := (keeps_parseValue fin after).mono (List.suffix_cons ⟨position, .colon⟩ after)
    exact hvalue.build fun _ => ⟨_, _, rfl⟩
  · next position op after =>
    have hvalue :=
      (keeps_parseValue fin after).mono (List.suffix_cons ⟨position, .compare op⟩ after)
    exact hvalue.build fun _ => ⟨_, _, rfl⟩
  · exact .leaves (List.suffix_refl _)

/-- The names of a list of fields after its parenthesis. -/
theorem keeps_watchNames {start limit : Nat} (hstart : ⟨start, .openParen⟩ ∈ us)
    (hsub : ts <:+ us) : Keeps fin us (watchNames start limit ts) := by
  have hparen : ∀ {fault : SyntaxFault}, fault.blamed? = some .openParen →
      FaultIn fin us ⟨start, fault⟩ := fun hfault => .atToken hstart hfault
  fun_induction watchNames start limit ts with
  | case1 _ _ name _ after _ ih =>
    have hafter : after <:+ us :=
      (List.suffix_cons _ _).trans ((List.suffix_cons _ _).trans hsub)
    exact (ih hafter).bind fun names rest hrest => .leaves hrest
  | case2 _ _ name _ after _ =>
    exact .leaves ((List.suffix_cons _ _).trans ((List.suffix_cons _ _).trans hsub))
  | case3 | case4 => exact .refuses (hparen rfl)
  | case5 => exact .stalls

theorem keeps_watchFields (fin : Nat) (ts : List Token) : Keeps fin ts (watchFields fin ts) := by
  unfold watchFields
  split
  · next position after =>
    exact keeps_watchNames List.mem_cons_self (List.suffix_cons _ _)
  · next hparen =>
    match ts, hparen with
    | [], _ => exact .refuses (.atEnd rfl)
    | ⟨position, kind⟩ :: after, hparen =>
      cases kind with
      | openParen => exact absurd rfl (hparen _ _)
      | word => exact .leaves (List.suffix_cons _ _)
      | _ => exact keeps_refused rfl

mutual

/-- **Reading a chain stays in its tokens.** -/
theorem keeps_watchChain (fin limit : Nat) (ts : List Token) :
    Keeps fin ts (watchChain fin limit ts) := by
  rw [watchChain]
  split
  · refine (keeps_watchOperand fin ts).bind fun first rest hrest => ?_
    exact (keeps_watchLinks fin ts.length first rest).mono hrest
  · exact .stalls
termination_by 2 * limit
decreasing_by all_goals omega

/-- Reading an operand stays in its tokens. -/
theorem keeps_watchOperand (fin : Nat) (ts : List Token) : Keeps fin ts (watchOperand fin ts) := by
  match ts with
  | [] =>
    rw [watchOperand]
    exact .refuses (.atEnd rfl)
  | ⟨position, kind⟩ :: after =>
    have hafter : after <:+ ⟨position, kind⟩ :: after := List.suffix_cons _ _
    cases kind with
    | openParen =>
      rw [watchOperand]
      refine ((keeps_watchChain fin _ after).mono hafter).bind fun inner rest hrest => ?_
      rcases rest with - | ⟨⟨place, k⟩, rest⟩
      · exact keeps_refused rfl
      · cases k with
        | closeParen => exact .leaves ((List.suffix_cons _ _).trans hrest)
        | _ => exact keeps_refused rfl
    | phrase =>
      rw [watchOperand]
      exact .leaves hafter
    | colon =>
      rw [watchOperand]
      refine ((keeps_parseValue fin after).mono hafter).bind fun term rest hrest => ?_
      exact .leaves hrest
    | word word =>
      rw [watchOperand]
      exact (keeps_parseWord fin word after).mono hafter
    | _ =>
      rw [watchOperand]
      · exact keeps_refused rfl
      all_goals nofun
termination_by 2 * ts.length + 1
decreasing_by all_goals simp only [List.length_cons]; omega

/-- Reading the links after an expression stays in their tokens. -/
theorem keeps_watchLinks (fin limit : Nat) (left : Expr) (ts : List Token) :
    Keeps fin ts (watchLinks fin limit left ts) := by
  match ts with
  | [] =>
    rw [watchLinks]
    split
    · exact .leaves (List.suffix_refl _)
    · exact .stalls
  | ⟨position, kind⟩ :: after =>
    have hafter : after <:+ ⟨position, kind⟩ :: after := List.suffix_cons _ _
    unfold watchLinks
    split
    · next hfewer =>
      have hlen : after.length + 1 < limit := hfewer
      dsimp only
      split
      · refine ((keeps_watchOperand fin after).mono hafter).bind fun right rest hrest => ?_
        exact (keeps_watchLinks fin _ _ rest).mono hrest
      · exact .leaves (List.suffix_refl _)
      · refine ((keeps_watchFields fin after).mono hafter).bind fun fields rest hrest => ?_
        exact (keeps_watchLinks fin _ _ rest).mono hrest
      · refine (keeps_watchOperand fin (⟨position, _⟩ :: after)).bind fun right rest hrest => ?_
        exact (keeps_watchLinks fin _ _ rest).mono hrest
    · exact .stalls
termination_by 2 * limit
decreasing_by all_goals omega

end

end Keeps

end FederatedSearch.Query
