import FederatedSearch.Proofs.Query.Grammar

/-!
# Reading follows the grammar

The reading functions and the grammar say the same. In one direction the proof goes along the calls
of the functions, in the other along the derivation; the tokens that a call leaves are what the
derivation leaves, wherever they stand. Since the functions give one result, the grammar is
unambiguous, and each rule can be taken apart.

* `FederatedSearch.Query.reads_of_parseChain`: what is read follows the grammar.
* `FederatedSearch.Query.Reads.parses`: what the grammar spells is read.
* `FederatedSearch.Query.Reads.unique`: what is spelled, and what is left, is unique.
* `FederatedSearch.Query.parse_eq_ok_iff`: a query is read exactly when its tokens are one chain.
* `FederatedSearch.Query.reads_link_iff` and the lemmas beside it: what a derivation is made of.
-/

namespace FederatedSearch.Query

/-! ### What is read follows the grammar -/

/-- A sequence succeeds when both of its steps do. -/
theorem bind_eq_ok_iff {ε α β : Type} {x : Except ε α} {f : α → Except ε β} {b : β} :
    x >>= f = .ok b ↔ ∃ a, x = .ok a ∧ f a = .ok b := by
  cases x <;> simp [bind, Except.bind]

/-- A successful result that is changed comes from a successful result. -/
theorem map_eq_ok_iff {ε α β : Type} {x : Except ε α} {f : α → β} {b : β} :
    x.map f = .ok b ↔ ∃ a, x = .ok a ∧ f a = b := by
  cases x <;> simp [Except.map]

/-- A result is there when it is successful. -/
theorem toOption_eq_some_iff {ε α : Type} {x : Except ε α} {a : α} :
    x.toOption = some a ↔ x = .ok a := by
  cases x with
  | error failure =>
    constructor
    · intro h
      exact absurd h.symm (Option.some_ne_none a)
    · intro h
      cases h
  | ok b =>
    exact ⟨fun h => congrArg Except.ok (Option.some.inj h),
      fun h => congrArg some (Except.ok.inj h)⟩

/-- There is a result when some result is successful. -/
theorem isSome_toOption_iff {ε α : Type} {x : Except ε α} :
    x.toOption.isSome = true ↔ ∃ a, x = .ok a :=
  Option.isSome_iff_exists.trans (exists_congr fun _ => toOption_eq_some_iff)

theorem value?_of_parseValue {fin : Nat} {ts : List Token}
    {r : { r : String × List Token // r.2.length < ts.length }} (h : parseValue fin ts = .ok r) :
    ∃ k, k.value? = some r.1.1 ∧ kinds ts = k :: kinds r.1.2 := by
  match ts with
  | ⟨_, .word w⟩ :: ts =>
    obtain rfl := Except.ok.inj h
    exact ⟨.word w, rfl, rfl⟩
  | ⟨_, .phrase q⟩ :: ts =>
    obtain rfl := Except.ok.inj h
    exact ⟨.phrase q, rfl, rfl⟩

theorem fieldNames_of_parseFieldNames {start : Nat} {ts : List Token}
    {r : { r : List String × List Token // r.2.length < ts.length }}
    (h : parseFieldNames start ts = .ok r) : FieldNames (kinds ts) r.1.1 (kinds r.1.2) := by
  match ts with
  | ⟨_, .word name⟩ :: ⟨_, .disj⟩ :: ts =>
    rw [parseFieldNames, bind_eq_ok_iff] at h
    obtain ⟨⟨⟨names, rest⟩, hlen⟩, hrest, h⟩ := h
    obtain rfl := Except.ok.inj h
    exact .more name (fieldNames_of_parseFieldNames hrest)
  | ⟨_, .word name⟩ :: ⟨_, .closeParen⟩ :: ts =>
    obtain rfl := Except.ok.inj h
    exact .last name (kinds ts)

theorem fields_of_parseFields {fin : Nat} {ts : List Token}
    {r : { r : List String × List Token // r.2.length < ts.length }}
    (h : parseFields fin ts = .ok r) : Fields (kinds ts) r.1.1 (kinds r.1.2) := by
  match ts with
  | ⟨_, .word name⟩ :: ts =>
    obtain rfl := Except.ok.inj h
    exact .one name (kinds ts)
  | ⟨_, .openParen⟩ :: ts =>
    simp only [parseFields] at h
    obtain ⟨⟨⟨names, rest⟩, hlen⟩, hrest, h⟩ := bind_eq_ok_iff.1 h
    obtain rfl := Except.ok.inj h
    exact .several (fieldNames_of_parseFieldNames hrest)

theorem reads_of_parseWord {fin : Nat} {word : String} {ts : List Token}
    {r : { r : Expr × List Token // r.2.length ≤ ts.length }}
    (h : parseWord fin word ts = .ok r) :
    Reads .operand (.word word :: kinds ts) r.1.1 (kinds r.1.2) := by
  unfold parseWord at h
  split at h
  · obtain ⟨⟨⟨v, rest⟩, hlen⟩, hv, h⟩ := bind_eq_ok_iff.1 h
    obtain rfl := Except.ok.inj h
    obtain ⟨k, hk, hts⟩ := value?_of_parseValue hv
    rw [kinds_cons, hts]
    exact .vocabulary word (kinds rest) hk
  · obtain ⟨⟨⟨v, rest⟩, hlen⟩, hv, h⟩ := bind_eq_ok_iff.1 h
    obtain rfl := Except.ok.inj h
    obtain ⟨k, hk, hts⟩ := value?_of_parseValue hv
    rw [kinds_cons, hts]
    exact .compare word _ (kinds rest) hk
  · rename_i hcolon hcompare
    obtain rfl := Except.ok.inj h
    refine .word word fun k hk => ?_
    match ts, hk with
    | ⟨position, kind⟩ :: ts, hk =>
      obtain rfl := Option.some.inj hk
      cases kind <;> first | rfl | exact absurd rfl (hcolon _ _) | exact absurd rfl (hcompare _ _ _)

mutual

/-- What is read as a chain is a chain of the grammar. -/
theorem reads_of_parseChain {fin : Nat} {ts : List Token}
    {r : { r : Expr × List Token // r.2.length < ts.length }} (h : parseChain fin ts = .ok r) :
    Reads .chain (kinds ts) r.1.1 (kinds r.1.2) := by
  rw [parseChain, bind_eq_ok_iff] at h
  obtain ⟨⟨⟨first, rest⟩, hlen⟩, hfirst, h⟩ := h
  obtain ⟨⟨⟨e, last⟩, hlast⟩, hlinks, h⟩ := bind_eq_ok_iff.1 h
  obtain rfl := Except.ok.inj h
  have hrest : rest.length < ts.length := hlen
  exact .chain (reads_of_parseOperand hfirst) (reads_of_parseLinks hlinks)
termination_by 2 * ts.length + 1
decreasing_by all_goals omega

/-- What is read as an operand is an operand of the grammar. -/
theorem reads_of_parseOperand {fin : Nat} {ts : List Token}
    {r : { r : Expr × List Token // r.2.length < ts.length }} (h : parseOperand fin ts = .ok r) :
    Reads .operand (kinds ts) r.1.1 (kinds r.1.2) := by
  match ts with
  | [] => simp [parseOperand] at h
  | ⟨position, kind⟩ :: ts =>
    unfold parseOperand at h
    dsimp only at h
    split at h
    · obtain ⟨⟨⟨inner, rest⟩, hlen⟩, hinner, h⟩ := bind_eq_ok_iff.1 h
      have hchain := reads_of_parseChain hinner
      dsimp only at h hchain
      split at h
      · rename_i hkind
        obtain rfl := Except.ok.inj h
        exact .group hchain
      · cases h
    · obtain rfl := Except.ok.inj h
      exact .phrase _ (kinds ts)
    · obtain ⟨⟨⟨v, rest⟩, hlen⟩, hv, h⟩ := bind_eq_ok_iff.1 h
      obtain rfl := Except.ok.inj h
      obtain ⟨k, hk, hts⟩ := value?_of_parseValue hv
      rw [kinds_cons, hts]
      exact .anywhere (kinds rest) hk
    · obtain ⟨⟨⟨e, rest⟩, hlen⟩, hword, h⟩ := bind_eq_ok_iff.1 h
      obtain rfl := Except.ok.inj h
      exact reads_of_parseWord hword
    · cases h
termination_by 2 * ts.length
decreasing_by all_goals simp only [List.length_cons]; omega

/-- What is read as links are links of the grammar. -/
theorem reads_of_parseLinks {fin : Nat} {left : Expr} {ts : List Token}
    {r : { r : Expr × List Token // r.2.length ≤ ts.length }}
    (h : parseLinks fin left ts = .ok r) :
    Reads (.links left) (kinds ts) r.1.1 (kinds r.1.2) := by
  match ts with
  | [] =>
    rw [parseLinks] at h
    obtain rfl := Except.ok.inj h
    exact .stop left (by simp)
  | ⟨position, kind⟩ :: after =>
    unfold parseLinks at h
    dsimp only at h
    split at h
    case h_1 =>
      obtain rfl := Except.ok.inj h
      exact .stop left (by simp)
    case h_2 | h_3 | h_4 =>
      -- a keyword: `AND`, `OR` and `NOT` differ in how they combine only
      obtain ⟨⟨⟨right, rest⟩, hrest⟩, hright, h⟩ := bind_eq_ok_iff.1 h
      obtain ⟨⟨⟨e, last⟩, hlast⟩, hlinks, h⟩ := bind_eq_ok_iff.1 h
      obtain rfl := Except.ok.inj h
      have hlen : rest.length < after.length := hrest
      exact .link rfl (reads_of_parseOperand hright) (reads_of_parseLinks hlinks)
    case h_5 =>
      -- a restriction to fields
      obtain ⟨⟨⟨names, rest⟩, hrest⟩, hnames, h⟩ := bind_eq_ok_iff.1 h
      obtain ⟨⟨⟨e, last⟩, hlast⟩, hlinks, h⟩ := bind_eq_ok_iff.1 h
      obtain rfl := Except.ok.inj h
      have hlen : rest.length < after.length := hrest
      exact .within (fields_of_parseFields hnames) (reads_of_parseLinks hlinks)
    case h_6 =>
      -- no keyword: the token itself starts the operand
      obtain ⟨⟨⟨right, rest⟩, hrest⟩, hright, h⟩ := bind_eq_ok_iff.1 h
      obtain ⟨⟨⟨e, last⟩, hlast⟩, hlinks, h⟩ := bind_eq_ok_iff.1 h
      obtain rfl := Except.ok.inj h
      have hlen : rest.length < after.length + 1 := hrest
      exact .adjacent (reads_of_parseOperand hright) (reads_of_parseLinks hlinks)
termination_by 2 * ts.length + 1
decreasing_by all_goals simp only [List.length_cons]; omega

end

/-! ### The grammar is read -/

theorem kinds_eq_cons_iff {ts : List Token} {k : TokenKind} {ks : List TokenKind} :
    kinds ts = k :: ks ↔ ∃ position us, ts = ⟨position, k⟩ :: us ∧ kinds us = ks := by
  constructor
  · intro h
    match ts, h with
    | ⟨position, kind⟩ :: us, h =>
      obtain ⟨rfl, hus⟩ := List.cons.inj h
      exact ⟨position, us, rfl, hus⟩
  · rintro ⟨position, us, rfl, rfl⟩
    rfl

theorem parseValue_eq_ok {fin position : Nat} {k : TokenKind} {v : String}
    (hk : k.value? = some v) (ts : List Token) :
    parseValue fin (⟨position, k⟩ :: ts) = .ok ⟨(v, ts), Nat.lt_succ_self _⟩ := by
  cases k with
  | word w =>
    obtain rfl := Option.some.inj hk
    rfl
  | phrase q =>
    obtain rfl := Option.some.inj hk
    rfl
  | _ => cases hk

theorem FieldNames.parses {ks ls : List TokenKind} {names : List String}
    (hnames : FieldNames ks names ls) (start : Nat) :
    ∀ ts, kinds ts = ks → ∃ rest h, kinds rest = ls ∧
      parseFieldNames start ts = .ok ⟨(names, rest), h⟩ := by
  induction hnames with
  | last name ks =>
    intro ts hts
    obtain ⟨_, us, rfl, hus⟩ := kinds_eq_cons_iff.1 hts
    obtain ⟨_, vs, rfl, hvs⟩ := kinds_eq_cons_iff.1 hus
    exact ⟨vs, _, hvs, rfl⟩
  | more name _ ih =>
    intro ts hts
    obtain ⟨_, us, rfl, hus⟩ := kinds_eq_cons_iff.1 hts
    obtain ⟨_, vs, rfl, hvs⟩ := kinds_eq_cons_iff.1 hus
    obtain ⟨rest, h, hrest, hread⟩ := ih vs hvs
    refine ⟨rest, ?_, hrest, ?_⟩
    · simp only [List.length_cons] at h ⊢
      omega
    · rw [parseFieldNames, hread]
      rfl

theorem Fields.parses {ks ls : List TokenKind} {names : List String}
    (hfields : Fields ks names ls) (fin : Nat) (ts : List Token) (hts : kinds ts = ks) :
    ∃ rest h, kinds rest = ls ∧ parseFields fin ts = .ok ⟨(names, rest), h⟩ := by
  cases hfields with
  | one name ks =>
    obtain ⟨_, us, rfl, hus⟩ := kinds_eq_cons_iff.1 hts
    exact ⟨us, _, hus, rfl⟩
  | several hnames =>
    obtain ⟨position, us, rfl, hus⟩ := kinds_eq_cons_iff.1 hts
    obtain ⟨rest, h, hrest, hread⟩ := hnames.parses position us hus
    refine ⟨rest, Nat.lt_succ_of_lt h, hrest, ?_⟩
    simp only [parseFields, hread]
    rfl

/-- A word stands alone when the next token is not one that it takes. -/
theorem parseWord_eq_ok {fin : Nat} {ts : List Token}
    (hnext : ∀ k ∈ (kinds ts).head?, k.bindsWord = false) (word : String) :
    parseWord fin word ts = .ok ⟨(loneWord word, ts), Nat.le_refl _⟩ := by
  unfold parseWord
  split
  · cases hnext _ rfl
  · cases hnext _ rfl
  · rfl

section Links

variable {fin position : Nat} {k : TokenKind} {left right e : Expr} {after rest last : List Token}

/-- A keyword is read with the operand and the links after it. -/
theorem parseLinks_of_link {op : Link} (hk : k.link? = some op) {hlen hlen'}
    (hright : parseOperand fin after = .ok ⟨(right, rest), hlen⟩)
    (hlinks : parseLinks fin (op.combine left right) rest = .ok ⟨(e, last), hlen'⟩) :
    ∃ h, parseLinks fin left (⟨position, k⟩ :: after) = .ok ⟨(e, last), h⟩ := by
  refine ⟨?_, ?_⟩
  · simp only [List.length_cons] at hlen hlen' ⊢
    omega
  · cases k with
    | conj | disj | except =>
      obtain rfl := Option.some.inj hk
      simp only [Link.combine] at hlinks
      rw [parseLinks]
      simp only [hright, bind, Except.bind, hlinks]
      rfl
    | _ => cases hk

/-- An operand is read with the links after it. -/
theorem parseLinks_of_startsOperand (hk : k.startsOperand = true) {hlen hlen'}
    (hright : parseOperand fin (⟨position, k⟩ :: after) = .ok ⟨(right, rest), hlen⟩)
    (hlinks : parseLinks fin (.and [left, right]) rest = .ok ⟨(e, last), hlen'⟩) :
    ∃ h, parseLinks fin left (⟨position, k⟩ :: after) = .ok ⟨(e, last), h⟩ := by
  refine ⟨Nat.le_of_lt (Nat.lt_of_le_of_lt hlen' hlen), ?_⟩
  cases k with
  | word | phrase | openParen | colon =>
    rw [parseLinks]
    · simp only [hright, bind, Except.bind, hlinks]
      rfl
    all_goals nofun
  | _ => cases hk

end Links

/-- Reading a part of a query gives an expression and leaves tokens. -/
def Part.Parses (fin : Nat) (ts : List Token) (e : Expr) (rest : List Token) : Part → Prop
  | .chain => ∃ h, parseChain fin ts = .ok ⟨(e, rest), h⟩
  | .operand => ∃ h, parseOperand fin ts = .ok ⟨(e, rest), h⟩
  | .links left => ∃ h, parseLinks fin left ts = .ok ⟨(e, rest), h⟩

/-- **What the grammar spells is read**, wherever its tokens stand. -/
theorem Reads.parses {p : Part} {ks ls : List TokenKind} {e : Expr} (hreads : Reads p ks e ls)
    (fin : Nat) : ∀ ts, kinds ts = ks → ∃ rest, kinds rest = ls ∧ p.Parses fin ts e rest := by
  induction hreads with
  | chain _ _ ihfirst ihlinks =>
    intro ts hts
    obtain ⟨rest, hrest, hlen, hfirst⟩ := ihfirst ts hts
    obtain ⟨last, hlast, hlen', hlinks⟩ := ihlinks rest hrest
    refine ⟨last, hlast, Nat.lt_of_le_of_lt hlen' hlen, ?_⟩
    rw [parseChain, hfirst]
    simp only [bind, Except.bind, hlinks]
    rfl
  | group _ ih =>
    intro ts hts
    obtain ⟨position, us, rfl, hus⟩ := kinds_eq_cons_iff.1 hts
    obtain ⟨rest, hrest, hlen, hinner⟩ := ih us hus
    obtain ⟨_, last, rfl, hlast⟩ := kinds_eq_cons_iff.1 hrest
    refine ⟨last, hlast, ?_, ?_⟩
    · simp only [List.length_cons] at hlen ⊢
      omega
    · rw [parseOperand]
      simp only [hinner, bind, Except.bind]
      rfl
  | phrase text ks =>
    intro ts hts
    obtain ⟨position, us, rfl, hus⟩ := kinds_eq_cons_iff.1 hts
    exact ⟨us, hus, Nat.lt_succ_self _, by rw [parseOperand]⟩
  | anywhere ks hk =>
    intro ts hts
    obtain ⟨position, us, rfl, hus⟩ := kinds_eq_cons_iff.1 hts
    obtain ⟨_, vs, rfl, hvs⟩ := kinds_eq_cons_iff.1 hus
    refine ⟨vs, hvs, ?_, ?_⟩
    · simp only [List.length_cons]
      omega
    · rw [parseOperand]
      simp only [parseValue_eq_ok hk]
      rfl
  | vocabulary _ _ hk | compare _ _ _ hk =>
    -- a word, the token that it takes, and a value
    intro ts hts
    obtain ⟨position, us, rfl, hus⟩ := kinds_eq_cons_iff.1 hts
    obtain ⟨_, vs, rfl, hvs⟩ := kinds_eq_cons_iff.1 hus
    obtain ⟨_, ws, rfl, hws⟩ := kinds_eq_cons_iff.1 hvs
    refine ⟨ws, hws, ?_, ?_⟩
    · simp only [List.length_cons]
      omega
    · rw [parseOperand]
      simp only [parseWord, parseValue_eq_ok hk]
      rfl
  | word text hnext =>
    intro ts hts
    obtain ⟨position, us, rfl, hus⟩ := kinds_eq_cons_iff.1 hts
    refine ⟨us, hus, Nat.lt_succ_self _, ?_⟩
    rw [parseOperand]
    simp only [parseWord_eq_ok (hus ▸ hnext)]
    rfl
  | stop e hend =>
    -- nothing follows, or a parenthesis that the chain leaves to its caller
    intro ts hts
    refine ⟨ts, hts, Nat.le_refl _, ?_⟩
    rcases ts with - | ⟨⟨position, kind⟩, after⟩
    · rw [parseLinks]
    · obtain rfl : kind = .closeParen := hend kind (by rw [← hts]; rfl)
      rw [parseLinks]
  | link hk _ _ ihright ihlinks =>
    intro ts hts
    obtain ⟨position, us, rfl, hus⟩ := kinds_eq_cons_iff.1 hts
    obtain ⟨rest, hrest, _, hright⟩ := ihright us hus
    obtain ⟨last, hlast, _, hlinks⟩ := ihlinks rest hrest
    exact ⟨last, hlast, parseLinks_of_link hk hright hlinks⟩
  | adjacent hoperand _ ihright ihlinks =>
    -- the operand starts with the token that stands here, so the links see no keyword
    intro ts hts
    obtain ⟨rest, hrest, _, hright⟩ := ihright ts hts
    obtain ⟨last, hlast, _, hlinks⟩ := ihlinks rest hrest
    obtain ⟨k, ks, rfl, hstart⟩ := hoperand.startsOperand
    obtain ⟨position, us, rfl, hus⟩ := kinds_eq_cons_iff.1 hts
    exact ⟨last, hlast, parseLinks_of_startsOperand hstart hright hlinks⟩
  | within hfields _ ihlinks =>
    intro ts hts
    obtain ⟨position, us, rfl, hus⟩ := kinds_eq_cons_iff.1 hts
    obtain ⟨rest, hlen, hrest, hnames⟩ := hfields.parses fin us hus
    obtain ⟨last, hlast, hlen', hlinks⟩ := ihlinks rest hrest
    refine ⟨last, hlast, ?_, ?_⟩
    · simp only [List.length_cons] at hlen hlen' ⊢
      omega
    · rw [parseLinks]
      simp only [hnames, bind, Except.bind, hlinks]
      rfl

/-! ### Whole queries -/

/-- **What is spelled is unique**, and so is what is left after it. -/
theorem Reads.unique {p : Part} {ks ls ls' : List TokenKind} {e e' : Expr}
    (h : Reads p ks e ls) (h' : Reads p ks e' ls') : e = e' ∧ ls = ls' := by
  -- The tokens may stand anywhere, so all of them are put at the start.
  have hks : kinds (ks.map (Token.mk 0)) = ks := by simp [kinds, Function.comp_def]
  obtain ⟨rest, rfl, hread⟩ := h.parses 0 _ hks
  obtain ⟨rest', rfl, hread'⟩ := h'.parses 0 _ hks
  have heq : (e, rest) = (e', rest') := by
    cases p <;> obtain ⟨_, hread⟩ := hread <;> obtain ⟨_, hread'⟩ := hread' <;>
      exact congrArg Subtype.val (Except.ok.inj (hread.symm.trans hread'))
  obtain ⟨rfl, rfl⟩ := Prod.mk.inj heq
  exact ⟨rfl, rfl⟩

theorem parseTokens_eq_ok_iff {fin : Nat} {ts : List Token} {e : Expr} :
    parseTokens fin ts = .ok e ↔ Reads .chain (kinds ts) e [] := by
  constructor
  · intro h
    unfold parseTokens at h
    split at h
    · cases h
    · split at h
      · cases h
      · rename_i hread
        obtain rfl := Except.ok.inj h
        exact reads_of_parseChain hread
      · cases h
  · intro h
    obtain ⟨rest, hrest, _, hread⟩ := h.parses fin ts rfl
    obtain rfl := List.map_eq_nil_iff.1 hrest
    unfold parseTokens
    split
    · rename_i hempty
      obtain rfl := List.isEmpty_iff.1 hempty
      -- the empty query has a message of its own, but no chain is empty either
      simp [parseChain, parseOperand, bind, Except.bind] at hread
    · rw [hread]

/-- **A query is read exactly when its tokens are one chain.** -/
theorem parse_eq_ok_iff {source : String} {e : Expr} :
    parse source = .ok e ↔ ∃ ts, scan source = .ok ts ∧ Reads .chain (kinds ts) e [] := by
  rw [parse, bind_eq_ok_iff]
  simp only [parseTokens_eq_ok_iff]

/-! ### Taking readings apart -/

section Inversion

variable {ks ms : List TokenKind} {left e : Expr}

theorem reads_chain_iff :
    Reads .chain ks e ms ↔
      ∃ first ls, Reads .operand ks first ls ∧ Reads (.links first) ls e ms := by
  constructor
  · rintro (⟨hfirst, hlinks⟩ | _)
    exact ⟨_, _, hfirst, hlinks⟩
  · rintro ⟨first, ls, hfirst, hlinks⟩
    exact .chain hfirst hlinks

theorem reads_group_iff :
    Reads .operand (.openParen :: ks) e ms ↔
      ∃ inner, Reads .chain ks inner (.closeParen :: ms) ∧ .group inner = e := by
  constructor
  · rintro (_ | hinner)
    exact ⟨_, hinner, rfl⟩
  · rintro ⟨inner, hinner, rfl⟩
    exact .group hinner

theorem reads_compare_iff {field v : String} {op : Comparison} :
    Reads .operand (.word field :: .compare op :: .word v :: ks) e ms ↔
      .compare field op v = e ∧ ks = ms := by
  constructor
  · exact (Reads.compare field op ks rfl).unique
  · rintro ⟨rfl, rfl⟩
    exact .compare field op ks rfl

theorem reads_closeParen_iff :
    Reads (.links left) (.closeParen :: ks) e ms ↔ left = e ∧ .closeParen :: ks = ms := by
  constructor
  · exact (Reads.stop left (by simp)).unique
  · rintro ⟨rfl, rfl⟩
    exact .stop left (by simp)

theorem reads_nil_iff : Reads (.links left) [] e ms ↔ left = e ∧ [] = ms := by
  constructor
  · exact (Reads.stop left (by simp)).unique
  · rintro ⟨rfl, rfl⟩
    exact .stop left (by simp)

/-- A keyword between operands is one link, and nothing else can be read there. -/
theorem reads_link_iff {k : TokenKind} {op : Link} (hk : k.link? = some op) :
    Reads (.links left) (k :: ks) e ms ↔
      ∃ right ls, Reads .operand ks right ls ∧ Reads (.links (op.combine left right)) ls e ms := by
  constructor
  · intro h
    cases h with
    | stop _ hend =>
      obtain rfl := hend k rfl
      cases hk
    | link hk' hright hlinks =>
      obtain rfl := Option.some.inj (hk.symm.trans hk')
      exact ⟨_, _, hright, hlinks⟩
    | adjacent hright _ =>
      -- a keyword starts no operand
      obtain ⟨k', _, heq, hstart⟩ := hright.startsOperand
      obtain ⟨rfl, -⟩ := List.cons.inj heq
      rw [TokenKind.link?_of_startsOperand hstart] at hk
      cases hk
    | within => cases hk
  · rintro ⟨right, ls, hright, hlinks⟩
    exact .link hk hright hlinks

theorem fields_openParen_iff {names : List String} :
    Fields (.openParen :: ks) names ms ↔ FieldNames ks names ms := by
  constructor
  · rintro (_ | h)
    exact h
  · exact .several

theorem reads_within_iff :
    Reads (.links left) (.within :: ks) e ms ↔
      ∃ names ls, Fields ks names ls ∧ Reads (.links (.within left names)) ls e ms := by
  constructor
  · intro h
    cases h with
    | stop _ hend => cases hend _ rfl
    | link hk => cases hk
    | adjacent hright _ =>
      obtain ⟨k', _, heq, hstart⟩ := hright.startsOperand
      obtain ⟨rfl, -⟩ := List.cons.inj heq
      cases hstart
    | within hnames hlinks => exact ⟨_, _, hnames, hlinks⟩
  · rintro ⟨names, ls, hnames, hlinks⟩
    exact .within hnames hlinks

end Inversion

end FederatedSearch.Query
