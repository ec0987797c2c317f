import FederatedSearch.Proofs.Index.Matching
import FederatedSearch.Proofs.Query.Parsing
import FederatedSearch.Query.Normal
import Mathlib.Data.List.TakeWhile

/-!
# What a query says as it is written

The reference reading of a query looks at its tokens and at nothing that is made of them. The tokens
between two parentheses, and those of the whole query, are a *group*: operands, each with what joins
it to those before it, and fields to which all that stands before them is restricted. A group says
what its operands say from left to right: they fall into segments between the `OR`s, a segment holds
when its operands do, those after an `EXCEPT` excluded, and the group holds when some segment does.

* `FederatedSearch.Query.Written.Group`: a group as it is written, with its tokens.
* `FederatedSearch.Query.Written.Line.holds`: operands that stand in a line, between `OR`s.
* `FederatedSearch.Query.Written.Group.holds`: **the reference reading**.
* `FederatedSearch.Query.Written.Group.reads`, `FederatedSearch.Query.Reads.written`: the groups are
  what the grammar reads.
* `FederatedSearch.Query.compile_holds`: a compiled query holds of a record when its text does.
-/

namespace FederatedSearch.Query

namespace Written

/-! ### Queries as they are written -/

/-- A value: a word or a phrase. -/
inductive Value where
  /-- A word. -/
  | word (text : String)
  /-- A text between quotes. -/
  | phrase (text : String)

/-- The fields after an `IN`. -/
inductive FieldList where
  /-- One name. -/
  | one (name : String)
  /-- Names between parentheses, with `OR` between them. -/
  | several (first : String) (others : List String)

/-- What joins an operand to those before it. -/
inductive Joint where
  /-- A keyword. -/
  | keyword (op : Link)
  /-- Nothing: the operand follows the one before it. -/
  | adjacent

mutual

/-- **An operand as it is written.** -/
inductive Operand where
  /-- A word alone. -/
  | word (text : String)
  /-- A phrase. -/
  | phrase (text : String)
  /-- A vocabulary word in all fields: a colon and a value. -/
  | anywhere (value : Value)
  /-- A vocabulary word in a field: a word, a colon and a value. -/
  | vocabulary (field : String) (value : Value)
  /-- A comparison: a word, its symbol and a value. -/
  | compare (field : String) (op : Comparison) (value : Value)
  /-- A group between parentheses. -/
  | group (inner : Group)

/-- **A group as it is written**, from left to right. -/
inductive Group where
  /-- The first operand. -/
  | operand (first : Operand)
  /-- A further operand. -/
  | link (before : Group) (joint : Joint) (next : Operand)
  /-- `IN` and fields. -/
  | within (before : Group) (fields : FieldList)

end

/-! ### Their tokens -/

/-- The text of a value. -/
def Value.text : Value → String
  | .word text => text
  | .phrase text => text

/-- The token of a value. -/
def Value.kind : Value → TokenKind
  | .word text => .word text
  | .phrase text => .phrase text

/-- The names of the fields. -/
def FieldList.names : FieldList → List String
  | .one name => [name]
  | .several first others => first :: others

/-- The tokens of names after the first, up to the closing parenthesis. -/
def otherNames (names : List String) : List TokenKind :=
  names.flatMap (fun name => [.disj, .word name]) ++ [.closeParen]

/-- The tokens of the fields. -/
def FieldList.kinds : FieldList → List TokenKind
  | .one name => [.word name]
  | .several first others => .openParen :: .word first :: otherNames others

/-- The keyword of an operator. -/
def keyword : Link → TokenKind
  | .and => .conj
  | .or => .disj
  | .except => .except

/-- The tokens of a joint. -/
def Joint.kinds : Joint → List TokenKind
  | .keyword op => [Written.keyword op]
  | .adjacent => []

/-- The operator of a joint. Operands that follow each other are joined by `AND`. -/
def Joint.op : Joint → Link
  | .keyword op => op
  | .adjacent => .and

mutual

/-- **The tokens of an operand.** -/
def Operand.kinds : Operand → List TokenKind
  | .word text => [.word text]
  | .phrase text => [.phrase text]
  | .anywhere value => [.colon, value.kind]
  | .vocabulary field value => [.word field, .colon, value.kind]
  | .compare field op value => [.word field, .compare op, value.kind]
  | .group inner => .openParen :: inner.kinds ++ [.closeParen]

/-- **The tokens of a group.** -/
def Group.kinds : Group → List TokenKind
  | .operand first => first.kinds
  | .link before joint next => before.kinds ++ joint.kinds ++ next.kinds
  | .within before fields => before.kinds ++ .within :: fields.kinds

end

/-! ### Words and colons

A word takes a colon that follows it, so an operand that starts with a colon cannot follow a word
that stands alone. Otherwise the tokens of a group could be read in another way. -/

/-- The operand is a word alone. -/
def Operand.isWord : Operand → Bool
  | .word _ => true
  | _ => false

/-- The operand starts with a colon. -/
def Operand.startsWithColon : Operand → Bool
  | .anywhere _ => true
  | _ => false

/-- The last operand of the group is a word alone, and nothing stands after it. -/
def Group.endsInWord : Group → Bool
  | .operand first => first.isWord
  | .link _ _ next => next.isWord
  | .within _ _ => false

mutual

/-- Every word of the operand that stands alone is not followed by a colon. -/
def Operand.Tight : Operand → Prop
  | .group inner => inner.Tight
  | _ => True

/-- **Every word of the group that stands alone is not followed by a colon.** -/
def Group.Tight : Group → Prop
  | .operand first => first.Tight
  | .link before joint next => before.Tight ∧ next.Tight ∧
    (joint = .adjacent → before.endsInWord = true → next.startsWithColon = false)
  | .within before _ => before.Tight

end

/-- **The tokens are those of the group**, each word with the colon after it. -/
structure Group.Spells (g : Group) (ks : List TokenKind) : Prop where
  kinds : g.kinds = ks
  tight : g.Tight

/-! ### The reference reading -/

/-- **Operands in a line**: what the first one says, and what each further one says with the
operator before it. -/
structure Line where
  first : Bool
  rest : List (Link × Bool)

namespace Line

/-- The line with one more operand. -/
def push (l : Line) (op : Link) (v : Bool) : Line := ⟨l.first, l.rest ++ [(op, v)]⟩

/-- **The segments between the `OR`s**, each with its first operand. -/
def segments (first : Bool) (rest : List (Link × Bool)) : List (Bool × List (Link × Bool)) :=
  match hdrop : rest.dropWhile (·.1 != .or) with
  | [] => [(first, rest)]
  | (_, next) :: after =>
    have : after.length < rest.length := by
      have hle := (List.dropWhile_sublist (p := (·.1 != .or)) (l := rest)).length_le
      rw [hdrop, List.length_cons] at hle
      omega
    (first, rest.takeWhile (·.1 != .or)) :: segments next after
termination_by rest.length

/-- **A segment from left to right**: `EXCEPT` excludes the operand after it, and any other operator
asks for it. -/
def segmentHolds (first : Bool) (rest : List (Link × Bool)) : Bool :=
  rest.foldl (fun v x => match x.1 with
    | .except => v && !x.2
    | _ => v && x.2) first

/-- **Some segment holds.** -/
def holds (l : Line) : Bool := (segments l.first l.rest).any fun s => segmentHolds s.1 s.2

end Line

mutual

/-- **What an operand says**, when words are looked for in a scope. -/
def Operand.holds (leaf : Valuation) (scope : Option (List String)) : Operand → Bool
  | .word text => leaf scope (loneWord text)
  | .phrase text => leaf scope (.phrase text)
  | .anywhere value => leaf scope (.vocabulary none value.text)
  | .vocabulary field value =>
    leaf scope (.vocabulary (if field == "*" then none else some field) value.text)
  | .compare field op value => leaf scope (.compare field op value.text)
  | .group inner => (inner.line leaf scope).holds

/-- **The operands of a group in a line.** All that stands before `IN` is one operand, which is
read in the scope of the fields. -/
def Group.line (leaf : Valuation) (scope : Option (List String)) : Group → Line
  | .operand first => ⟨first.holds leaf scope, []⟩
  | .link before joint next => (before.line leaf scope).push joint.op (next.holds leaf scope)
  | .within before fields => ⟨(before.line leaf (some fields.names)).holds, []⟩

end

/-- **What a group says.** -/
def Group.holds (leaf : Valuation) (scope : Option (List String)) (g : Group) : Bool :=
  (g.line leaf scope).holds

/-! ### Lines are read from left to right -/

namespace Line

/-- What is read of a line. -/
def reading (l : Line) : Reading := Reading.readAll (.ofOperand l.first) l.rest

@[simp] theorem reading_single (v : Bool) : reading ⟨v, []⟩ = .ofOperand v := rfl

@[simp] theorem reading_push (l : Line) (op : Link) (v : Bool) :
    (l.push op v).reading = l.reading.step op v := by
  simp [reading, push, Reading.readAll]

/-- Without `OR` there is one segment, and it is the one that is being read. -/
theorem readAll_of_no_or (earlier last : Bool) (rest : List (Link × Bool))
    (h : ∀ x ∈ rest, x.1 ≠ .or) :
    Reading.readAll ⟨earlier, last⟩ rest = ⟨earlier, segmentHolds last rest⟩ := by
  induction rest generalizing last with
  | nil => rfl
  | cons x rest ih =>
    obtain ⟨op, v⟩ := x
    have hrest := fun v => ih v fun x hx => h x (List.mem_cons_of_mem _ hx)
    cases op with
    | and | except => exact hrest _
    | or => exact absurd rfl (h _ List.mem_cons_self)

/-- **The segments of a line hold as they are read.** -/
theorem any_segments (first : Bool) (rest : List (Link × Bool)) :
    (segments first rest).any (fun s => segmentHolds s.1 s.2) =
      (Reading.readAll (.ofOperand first) rest).holds := by
  have hsplit := List.takeWhile_append_dropWhile (p := fun x : Link × Bool => x.1 != .or)
    (l := rest)
  have hfree : ∀ x ∈ rest.takeWhile (·.1 != .or), x.1 ≠ .or := fun x hx => by
    simpa using List.mem_takeWhile_imp hx
  rw [segments]
  split
  · rename_i hdrop
    rw [hdrop, List.append_nil] at hsplit
    rw [hsplit] at hfree
    rw [Reading.ofOperand, readAll_of_no_or _ _ _ hfree]
    simp [Reading.holds]
  · rename_i op next after hdrop
    -- the operator at which the segment ends is `OR`
    obtain rfl : op = .or := by
      have hhead := List.head?_dropWhile_not (fun x : Link × Bool => x.1 != .or) rest
      rw [hdrop] at hhead
      simpa using hhead
    have hlen : after.length < rest.length := by
      rw [← hsplit, hdrop, List.length_append, List.length_cons]
      omega
    have hread : Reading.readAll (.ofOperand first) rest =
        Reading.readAll ⟨segmentHolds first (rest.takeWhile (·.1 != .or)), next⟩ after := by
      rw [hdrop] at hsplit
      refine (congrArg (Reading.readAll (.ofOperand first)) hsplit.symm).trans ?_
      rw [Reading.readAll_append, Reading.ofOperand, readAll_of_no_or _ _ _ hfree,
        Reading.readAll_cons, Reading.step_or, Reading.holds, Bool.false_or]
    rw [List.any_cons, any_segments next after, hread, Reading.holds_readAll ⟨_, next⟩]
termination_by rest.length

/-- A line says what is read of it. -/
theorem holds_eq (l : Line) : l.holds = l.reading.holds := any_segments l.first l.rest

end Line

/-! ### The expression of a group -/

mutual

/-- The expression of an operand. -/
def Operand.toExpr : Operand → Expr
  | .word text => loneWord text
  | .phrase text => .phrase text
  | .anywhere value => .vocabulary none value.text
  | .vocabulary field value => .vocabulary (if field == "*" then none else some field) value.text
  | .compare field op value => .compare field op value.text
  | .group inner => .group inner.toExpr

/-- **The expression of a group**: each operator has all that stands before it on its left. -/
def Group.toExpr : Group → Expr
  | .operand first => first.toExpr
  | .link before joint next => joint.op.combine before.toExpr next.toExpr
  | .within before fields => .within before.toExpr fields.names

end

/-- A word alone is a leaf. -/
theorem operand_loneWord (leaf : Valuation) (scope : Option (List String)) (text : String) :
    (loneWord text).operand leaf scope = leaf scope (loneWord text) := by
  unfold loneWord
  split <;> simp [Expr.operand, Expr.means]

/-- The expression of an operand is no operator, so its reading is that of one operand. -/
theorem reading_operand (leaf : Valuation) (scope : Option (List String)) (o : Operand) :
    o.toExpr.reading leaf scope = .ofOperand (o.toExpr.operand leaf scope) := by
  cases o with
  | word text =>
    rw [Operand.toExpr, loneWord]
    split <;> rw [Expr.reading] <;> nofun
  | _ => rw [Operand.toExpr, Expr.reading] <;> nofun

mutual

/-- The expression of an operand says what the operand says. -/
theorem Operand.operand_toExpr (leaf : Valuation) (scope : Option (List String)) :
    ∀ o : Operand, o.toExpr.operand leaf scope = o.holds leaf scope
  | .word text => operand_loneWord leaf scope text
  | .phrase _ | .anywhere _ | .vocabulary _ _ | .compare _ _ _ => by
    rw [Operand.toExpr, Operand.holds, Expr.operand] <;> first | rfl | nofun
  | .group inner => by
    rw [Operand.toExpr, Operand.holds, Expr.operand, Group.reading_toExpr leaf scope inner,
      Line.holds_eq]

/-- **What is read of the expression of a group is what is read of its operands in a line.** -/
theorem Group.reading_toExpr (leaf : Valuation) (scope : Option (List String)) :
    ∀ g : Group, g.toExpr.reading leaf scope = (g.line leaf scope).reading
  | .operand first => by
    rw [Group.toExpr, Group.line, reading_operand, Operand.operand_toExpr leaf scope first,
      Line.reading_single]
  | .link before joint next => by
    have hstep : (joint.op.combine before.toExpr next.toExpr).reading leaf scope =
        (before.toExpr.reading leaf scope).step joint.op (next.toExpr.operand leaf scope) := by
      cases joint.op <;> rw [Link.combine, Expr.reading]
    rw [Group.toExpr, Group.line, hstep, Group.reading_toExpr leaf scope before,
      Operand.operand_toExpr leaf scope next, Line.reading_push]
  | .within before fields => by
    rw [Group.toExpr, Group.line, Expr.reading, Expr.operand,
      Group.reading_toExpr leaf (some fields.names) before, Line.holds_eq, Line.reading_single]
    all_goals nofun

end

/-! ### Tokens that follow -/

/-- The token that follows is one that the word before it does not take, if there is one. -/
def Follows (ks : List TokenKind) (isWord : Bool) : Prop :=
  isWord = true → ∀ k ∈ ks.head?, k.bindsWord = false

/-! ### Values, keywords and fields -/

theorem value?_kind (v : Value) : v.kind.value? = some v.text := by
  cases v <;> rfl

/-- Every token that is a value is the token of one. -/
theorem exists_value {k : TokenKind} {v : String} (h : k.value? = some v) :
    ∃ value : Value, value.kind = k ∧ value.text = v := by
  cases k with
  | word text => exact ⟨.word text, rfl, Option.some.inj h⟩
  | phrase text => exact ⟨.phrase text, rfl, Option.some.inj h⟩
  | _ => cases h

theorem link?_keyword (op : Link) : (keyword op).link? = some op := by
  cases op <;> rfl

theorem eq_keyword {k : TokenKind} {op : Link} (h : k.link? = some op) : k = keyword op := by
  cases k with
  | conj | disj | except =>
    obtain rfl := Option.some.inj h
    rfl
  | _ => cases h

theorem bindsWord_keyword (op : Link) : (keyword op).bindsWord = false := by
  cases op <;> rfl

theorem fieldNames_names (first : String) (others : List String) (ks : List TokenKind) :
    FieldNames (.word first :: (otherNames others ++ ks)) (first :: others) ks := by
  induction others generalizing first with
  | nil => exact .last first ks
  | cons next others ih => exact .more first (ih next)

/-- The tokens of fields are read as these fields. -/
theorem FieldList.reads (fields : FieldList) (ks : List TokenKind) :
    Fields (fields.kinds ++ ks) fields.names ks := by
  cases fields with
  | one name => exact .one name ks
  | several first others => exact .several (fieldNames_names first others ks)

theorem exists_of_fieldNames {ks ls : List TokenKind} {names : List String}
    (h : FieldNames ks names ls) :
    ∃ first others, names = first :: others ∧ ks = .word first :: (otherNames others ++ ls) := by
  induction h with
  | last name ks => exact ⟨name, [], rfl, rfl⟩
  | more name _ ih =>
    obtain ⟨first, others, rfl, rfl⟩ := ih
    exact ⟨name, first :: others, rfl, rfl⟩

/-- What is read as fields are the tokens of fields. -/
theorem exists_fieldList {ks ls : List TokenKind} {names : List String}
    (h : Fields ks names ls) :
    ∃ fields : FieldList, fields.names = names ∧ ks = fields.kinds ++ ls := by
  cases h with
  | one name => exact ⟨.one name, rfl, rfl⟩
  | several hnames =>
    obtain ⟨first, others, rfl, rfl⟩ := exists_of_fieldNames hnames
    exact ⟨.several first others, rfl, rfl⟩

/-! ### From groups to the grammar -/

/-- The first token of an operand is one that the word before it takes only when it is a colon. -/
theorem Operand.follows (o : Operand) (ks : List TokenKind) {isWord : Bool}
    (h : isWord = true → o.startsWithColon = false) : Follows (o.kinds ++ ks) isWord := by
  intro hword k hk
  cases o with
  | anywhere => cases h hword
  | _ =>
    obtain rfl := Option.some.inj hk
    rfl

mutual

/-- **The tokens of an operand are read as its expression**, whatever follows them that a word
before it does not take. -/
theorem Operand.reads {ls : List TokenKind} :
    ∀ o : Operand, o.Tight → Follows ls o.isWord → Reads .operand (o.kinds ++ ls) o.toExpr ls
  | .word text, _, hls => .word text (hls rfl)
  | .phrase text, _, _ => .phrase text ls
  | .anywhere value, _, _ => .anywhere ls (value?_kind value)
  | .vocabulary field value, _, _ => .vocabulary field ls (value?_kind value)
  | .compare field op value, _, _ => .compare field op ls (value?_kind value)
  | .group inner, htight, _ => by
    have hstop : Reads (.links inner.toExpr) (.closeParen :: ls) inner.toExpr (.closeParen :: ls) :=
      .stop _ fun k hk => (Option.some.inj hk).symm
    have hinner := Group.reads inner htight (fun _ k hk => by
      obtain rfl := Option.some.inj hk
      rfl) hstop
    simpa [Operand.kinds, Operand.toExpr] using Reads.group hinner

/-- **The tokens of a group are read as its expression**, with the links that follow. -/
theorem Group.reads {ls ms : List TokenKind} {e : Expr} :
    ∀ g : Group, g.Tight → Follows ls g.endsInWord → Reads (.links g.toExpr) ls e ms →
      Reads .chain (g.kinds ++ ls) e ms
  | .operand first, htight, hls, hlinks => .chain (Operand.reads first htight hls) hlinks
  | .link before (.keyword op) next, ⟨hbefore, hnext, _⟩, hls, hlinks => by
    have hread : Reads (.links before.toExpr) (keyword op :: (next.kinds ++ ls)) e ms :=
      .link (link?_keyword op) (Operand.reads next hnext hls) hlinks
    have hgroup := Group.reads before hbefore (fun _ k hk => by
      obtain rfl := Option.some.inj hk
      exact bindsWord_keyword op) hread
    simpa [Group.kinds, Joint.kinds] using hgroup
  | .link before .adjacent next, ⟨hbefore, hnext, hcolon⟩, hls, hlinks => by
    have hread : Reads (.links before.toExpr) (next.kinds ++ ls) e ms :=
      .adjacent (Operand.reads next hnext hls) hlinks
    have hgroup := Group.reads before hbefore (next.follows ls (hcolon rfl)) hread
    simpa [Group.kinds, Joint.kinds] using hgroup
  | .within before fields, htight, _, hlinks => by
    have hgroup := Group.reads before htight (fun _ k hk => by
      obtain rfl := Option.some.inj hk
      rfl) (.within (fields.reads ls) hlinks)
    simpa [Group.kinds] using hgroup

end

/-- A group that the tokens spell is read as its expression. -/
theorem Group.Spells.reads {g : Group} {ks : List TokenKind} (h : g.Spells ks) :
    Reads .chain ks g.toExpr [] := by
  obtain ⟨rfl, htight⟩ := h
  have hstop : Reads (.links g.toExpr) [] g.toExpr [] := .stop g.toExpr fun k hk => nomatch hk
  have hfollows : Follows [] g.endsInWord := fun _ k hk => nomatch hk
  have hread := Group.reads g htight hfollows hstop
  rwa [List.append_nil] at hread

/-! ### From the grammar to groups -/

/-- What a part of a query is that is read as an expression, and leaves some tokens. -/
def IsPart (ks : List TokenKind) (e : Expr) (ls : List TokenKind) : Part → Prop
  | .operand => ∃ o : Operand, o.toExpr = e ∧ ks = o.kinds ++ ls ∧ o.Tight ∧ Follows ls o.isWord
  | .chain => ∃ g : Group, g.toExpr = e ∧ ks = g.kinds ++ ls ∧ g.Tight ∧ Follows ls g.endsInWord
  | .links left => ∀ before : Group, before.toExpr = left → before.Tight →
    Follows ks before.endsInWord → ∃ g : Group, g.toExpr = e ∧ before.kinds ++ ks = g.kinds ++ ls ∧
      g.Tight ∧ Follows ls g.endsInWord

/-- **What is read is written**: every part of a query that is read is an operand or a group. -/
theorem isPart_of_reads {p : Part} {ks ls : List TokenKind} {e : Expr} (h : Reads p ks e ls) :
    IsPart ks e ls p := by
  have hfree : ∀ {ls : List TokenKind}, Follows ls false := fun h => nomatch h
  induction h with
  | chain _ _ ihfirst ihlinks =>
    obtain ⟨o, rfl, rfl, htight, hfollows⟩ := ihfirst
    exact ihlinks (.operand o) rfl htight hfollows
  | group _ ih =>
    obtain ⟨g, rfl, rfl, htight, -⟩ := ih
    exact ⟨.group g, rfl, by simp [Operand.kinds], htight, hfree⟩
  | phrase text ks => exact ⟨.phrase text, rfl, rfl, trivial, hfree⟩
  | anywhere ks hk =>
    obtain ⟨value, rfl, rfl⟩ := exists_value hk
    exact ⟨.anywhere value, rfl, rfl, trivial, hfree⟩
  | vocabulary word ks hk =>
    obtain ⟨value, rfl, rfl⟩ := exists_value hk
    exact ⟨.vocabulary word value, rfl, rfl, trivial, hfree⟩
  | compare field op ks hk =>
    obtain ⟨value, rfl, rfl⟩ := exists_value hk
    exact ⟨.compare field op value, rfl, rfl, trivial, hfree⟩
  | word text hnext => exact ⟨.word text, rfl, rfl, trivial, fun _ => hnext⟩
  | stop e hend => exact fun before hbefore htight hfollows =>
      ⟨before, hbefore, rfl, htight, hfollows⟩
  | @link k op _ _ _ _ _ _ hk _ _ ihright ihlinks =>
    obtain ⟨o, rfl, rfl, htight', hfollows'⟩ := ihright
    rintro before rfl htight -
    obtain ⟨g, rfl, hkinds, hg, hfollows⟩ := ihlinks (.link before (.keyword op) o) rfl
      ⟨htight, htight', nofun⟩ hfollows'
    refine ⟨g, rfl, ?_, hg, hfollows⟩
    rw [← hkinds, eq_keyword hk]
    simp [Group.kinds, Joint.kinds]
  | adjacent _ _ ihright ihlinks =>
    obtain ⟨o, rfl, rfl, htight', hfollows'⟩ := ihright
    rintro before rfl htight hfollows
    -- a colon at the start of the operand would belong to the word before it
    have hcolon : before.endsInWord = true → o.startsWithColon = false := by
      intro hword
      cases o with
      | anywhere value => cases hfollows hword .colon rfl
      | _ => rfl
    obtain ⟨g, rfl, hkinds, hg, hfollows⟩ := ihlinks (.link before .adjacent o) rfl
      ⟨htight, htight', fun _ => hcolon⟩ hfollows'
    refine ⟨g, rfl, ?_, hg, hfollows⟩
    rw [← hkinds]
    simp [Group.kinds, Joint.kinds]
  | within hfields _ ihlinks =>
    obtain ⟨fields, rfl, rfl⟩ := exists_fieldList hfields
    rintro before rfl htight -
    obtain ⟨g, rfl, hkinds, hg, hfollows⟩ := ihlinks (.within before fields) rfl htight hfree
    refine ⟨g, rfl, ?_, hg, hfollows⟩
    rw [← hkinds]
    simp [Group.kinds]

end Written

/-- **What the grammar reads as a query is a group that the tokens spell.** -/
theorem Reads.written {ks : List TokenKind} {e : Expr} (h : Reads .chain ks e []) :
    ∃ g : Written.Group, g.toExpr = e ∧ g.Spells ks := by
  obtain ⟨g, rfl, hkinds, htight, -⟩ := Written.isPart_of_reads h
  rw [List.append_nil] at hkinds
  exact ⟨g, rfl, hkinds.symm, htight⟩

/-! ### Compiled queries -/

/-- **A compiled query holds of a record when its text does.** A text that can be read can be
compiled; its tokens spell a group; and for every group that they spell, every record and every
scope, the tree of the compiled query holds of the record exactly when the group does, read from
left to right. -/
theorem compile_holds {source : String} {e : Expr} (h : parse source = .ok e) :
    ∃ q ts, compile source = .ok q ∧ scan source = .ok ts ∧
      (∃ g : Written.Group, g.Spells (kinds ts)) ∧
      ∀ g : Written.Group, g.Spells (kinds ts) → ∀ (m : Index.Matcher)
        (scope : Option (List String)), m.holds scope q.tree = g.holds m.holds scope := by
  obtain ⟨ts, hts, hread⟩ := parse_eq_ok_iff.1 h
  obtain ⟨written, -, hwritten⟩ := hread.written
  refine ⟨⟨source, e.normalize, e.normalize.usesVocabulary⟩, ts, ?_, hts, ⟨written, hwritten⟩,
    fun g hg m scope => ?_⟩
  · rw [compile, h]
    rfl
  · -- a query is read in one way, so every group that is spelled has the expression that is read
    obtain ⟨rfl, -⟩ := hread.unique hg.reads
    rw [m.holds_normalize scope, Written.Group.reading_toExpr, Written.Group.holds,
      Written.Line.holds_eq]

/-- A chain with all operators: what stands before `IN` is read in the field, and what stands after
it is excluded in the whole scope. -/
theorem compile_holds_of_mixed_chain :
    ∃ q, compile "cat OR dog bird IN Title EXCEPT red" = .ok q ∧
      ∀ (m : Index.Matcher) (scope : Option (List String)), m.holds scope q.tree =
        ((m.hasTerm (some ["Title"]) "cat" ||
            m.hasTerm (some ["Title"]) "dog" && m.hasTerm (some ["Title"]) "bird") &&
          !m.hasTerm scope "red") := by
  have hread : (parse "cat OR dog bird IN Title EXCEPT red").toOption.isSome = true := by
    decide +kernel
  have hscan : (scan "cat OR dog bird IN Title EXCEPT red").toOption.map kinds =
      some [.word "cat", .disj, .word "dog", .word "bird", .within, .word "Title", .except,
        .word "red"] := by decide +kernel
  cases he : parse "cat OR dog bird IN Title EXCEPT red" with
  | error => simp [he, Except.toOption] at hread
  | ok e =>
    obtain ⟨q, ts, hq, hts, -, hholds⟩ := compile_holds he
    rw [hts, Except.toOption, Option.map_some, Option.some.injEq] at hscan
    refine ⟨q, hq, fun m scope => ?_⟩
    rw [hholds (.link (.within (.link (.link (.operand (.word "cat")) (.keyword .or)
      (.word "dog")) .adjacent (.word "bird")) (.one "Title")) (.keyword .except) (.word "red"))
      ⟨hscan.symm, by simp [Written.Group.Tight, Written.Operand.Tight,
        Written.Operand.startsWithColon]⟩ m scope]
    have hcat : loneWord "cat" = .term "cat" := if_neg (by decide)
    have hdog : loneWord "dog" = .term "dog" := if_neg (by decide)
    have hbird : loneWord "bird" = .term "bird" := if_neg (by decide)
    have hred : loneWord "red" = .term "red" := if_neg (by decide)
    simp [Written.Group.holds, Written.Group.line, Written.Line.holds_eq, Written.Operand.holds,
      Written.Joint.op, Written.FieldList.names, Reading.holds, Reading.ofOperand,
      Index.Matcher.holds, hcat, hdog, hbird, hred]

end FederatedSearch.Query
