import FederatedSearch.Query.Normal
import FederatedSearch.Query.Parser

/-!
# The grammar of queries

What the tokens of a query spell does not depend on where they stand, so the grammar is a relation
on the kinds of tokens: `FederatedSearch.Query.Reads` says which expression a part of a query spells
that stands at the start of a list of kinds, and which kinds it leaves. The parts are those of the
reading functions, and a word looks one token ahead, since it takes a colon or a comparison that
follows it.

* `FederatedSearch.Query.FieldNames`, `FederatedSearch.Query.Fields`: the fields of a restriction.
* `FederatedSearch.Query.Reads`: the grammar.
* `FederatedSearch.Query.Reads.startsOperand`: an operand can be told by its first token.
-/

namespace FederatedSearch.Query

/-- The kinds of tokens, without their places. -/
def kinds (ts : List Token) : List TokenKind := ts.map (·.kind)

@[simp] theorem kinds_nil : kinds [] = [] := rfl

@[simp] theorem kinds_cons (t : Token) (ts : List Token) :
    kinds (t :: ts) = t.kind :: kinds ts := rfl

/-! ### The grammar -/

namespace TokenKind

/-- The value that a word or a phrase is. -/
def value? : TokenKind → Option String
  | .word w => some w
  | .phrase q => some q
  | _ => none

/-- A token that a word before it takes. -/
def bindsWord : TokenKind → Bool
  | .colon | .compare _ => true
  | _ => false

/-- The operator that a keyword between two operands stands for. -/
def link? : TokenKind → Option Link
  | .conj => some .and
  | .disj => some .or
  | .except => some .except
  | _ => none

/-- A token that an operand can start with. -/
def startsOperand : TokenKind → Bool
  | .word _ | .phrase _ | .openParen | .colon => true
  | _ => false

/-- No operand starts with a keyword. -/
theorem link?_of_startsOperand {k : TokenKind} (h : k.startsOperand = true) : k.link? = none := by
  cases k with
  | word | phrase | openParen | colon => rfl
  | _ => cases h

end TokenKind

/-- Two operands with an operator between them. -/
def Link.combine : Link → Expr → Expr → Expr
  | .and, left, right => .and [left, right]
  | .or, left, right => .or [left, right]
  | .except, left, right => .except left right

/-- The names of a list of fields, with `OR` between them, up to the closing parenthesis. -/
inductive FieldNames : List TokenKind → List String → List TokenKind → Prop
  /-- The last name. -/
  | last (name : String) (ks : List TokenKind) :
    FieldNames (.word name :: .closeParen :: ks) [name] ks
  /-- A name before others. -/
  | more {ks ls : List TokenKind} {names : List String} (name : String) :
    FieldNames ks names ls → FieldNames (.word name :: .disj :: ks) (name :: names) ls

/-- The fields of a restriction. -/
inductive Fields : List TokenKind → List String → List TokenKind → Prop
  /-- One field. -/
  | one (name : String) (ks : List TokenKind) : Fields (.word name :: ks) [name] ks
  /-- A list of fields between parentheses. -/
  | several {ks ls : List TokenKind} {names : List String} :
    FieldNames ks names ls → Fields (.openParen :: ks) names ls

/-- The expression of a word that stands alone: the word `all` stands for every record. -/
def loneWord (word : String) : Expr := if Text.sameAscii word "all" then .all else .term word

/-- A part of a query. -/
inductive Part where
  /-- An operand and its links. -/
  | chain
  /-- An operand. -/
  | operand
  /-- The links after an expression. -/
  | links (left : Expr)

/-- **The grammar**: a part at the start of some kinds of tokens spells an expression and leaves the
kinds after it. -/
inductive Reads : Part → List TokenKind → Expr → List TokenKind → Prop
  /-- A chain is an operand and links. -/
  | chain {ks ls ms : List TokenKind} {first e : Expr} :
    Reads .operand ks first ls → Reads (.links first) ls e ms → Reads .chain ks e ms
  /-- A chain between parentheses. -/
  | group {ks ls : List TokenKind} {inner : Expr} :
    Reads .chain ks inner (.closeParen :: ls) →
      Reads .operand (.openParen :: ks) (.group inner) ls
  /-- A phrase. -/
  | phrase (text : String) (ks : List TokenKind) :
    Reads .operand (.phrase text :: ks) (.phrase text) ks
  /-- A vocabulary word in all fields. -/
  | anywhere {k : TokenKind} {v : String} (ks : List TokenKind) (h : k.value? = some v) :
    Reads .operand (.colon :: k :: ks) (.vocabulary none v) ks
  /-- A vocabulary word in a field. -/
  | vocabulary {k : TokenKind} {v : String} (word : String) (ks : List TokenKind)
    (h : k.value? = some v) :
    Reads .operand (.word word :: .colon :: k :: ks)
      (.vocabulary (if word == "*" then none else some word) v) ks
  /-- A comparison. -/
  | compare {k : TokenKind} {v : String} (field : String) (op : Comparison) (ks : List TokenKind)
    (h : k.value? = some v) :
    Reads .operand (.word field :: .compare op :: k :: ks) (.compare field op v) ks
  /-- A word alone. -/
  | word {ks : List TokenKind} (text : String) (h : ∀ k ∈ ks.head?, k.bindsWord = false) :
    Reads .operand (.word text :: ks) (loneWord text) ks
  /-- No link: the query or the group ends. -/
  | stop {ks : List TokenKind} (e : Expr) (h : ∀ k ∈ ks.head?, k = .closeParen) :
    Reads (.links e) ks e ks
  /-- A keyword between two operands, and the operand after it. -/
  | link {k : TokenKind} {op : Link} {ks ls ms : List TokenKind} {left right e : Expr} :
    k.link? = some op → Reads .operand ks right ls →
      Reads (.links (op.combine left right)) ls e ms → Reads (.links left) (k :: ks) e ms
  /-- An operand without a keyword before it, which counts as `AND`. -/
  | adjacent {ks ls ms : List TokenKind} {left right e : Expr} :
    Reads .operand ks right ls → Reads (.links (Link.and.combine left right)) ls e ms →
      Reads (.links left) ks e ms
  /-- `IN` and fields. -/
  | within {ks ls ms : List TokenKind} {left e : Expr} {names : List String} :
    Fields ks names ls → Reads (.links (.within left names)) ls e ms →
      Reads (.links left) (.within :: ks) e ms

/-! ### What starts a part -/

/-- An operand is there, and its first token can start one. -/
theorem Reads.startsOperand {ks ls : List TokenKind} {e : Expr} (h : Reads .operand ks e ls) :
    ∃ k ks', ks = k :: ks' ∧ k.startsOperand = true := by
  cases h <;> exact ⟨_, _, rfl, rfl⟩

end FederatedSearch.Query
