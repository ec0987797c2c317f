import FederatedSearch.Proofs.Query.Written

/-!
# The texts that are read

A derivation of the tokens of a query is a group that has these tokens
(`FederatedSearch.Query.Written.Group.kinds`). A list of tokens can have several: a word and a colon
after it can be two operands, or one. Reading takes the one in which every word has the colon after
it, and this module shows that there is one as soon as there is any, and never a second one. A
comparison cannot start an operand, so no derivation leaves it to anything but the word before it.

* `FederatedSearch.Query.Written.Group.tighten`: the derivation in which words take the colons after
  them.
* `FederatedSearch.Query.Written.Group.eq_of_kinds`: a list of tokens has one such derivation.
* `FederatedSearch.Query.Expr.Chained`: the expressions that a chain of operands is read as.
* `FederatedSearch.Query.parse_accepts_derivable`: reading accepts the tokens that have a
  derivation, and gives the expression of the one derivation in which words take colons.
-/

namespace FederatedSearch.Query

namespace Written

/-! ### Words take the colons after them -/

/-- The group with a further operand. A word alone that stands last takes a colon that follows. -/
def Group.follow : Group → Joint → Operand → Group
  | .operand (.word field), .adjacent, .anywhere value => .operand (.vocabulary field value)
  | .link before joint (.word field), .adjacent, .anywhere value =>
    .link before joint (.vocabulary field value)
  | before, joint, next => .link before joint next

mutual

/-- The operand, where words take the colons after them. -/
def Operand.tighten : Operand → Operand
  | .group inner => .group inner.tighten
  | o => o

/-- **The group, where words take the colons after them.** -/
def Group.tighten : Group → Group
  | .operand first => .operand first.tighten
  | .link before joint next => before.tighten.follow joint next.tighten
  | .within before fields => .within before.tighten fields

end

/-- A word that takes the colon after it leaves the tokens as they are. -/
theorem Group.kinds_follow (g : Group) (joint : Joint) (next : Operand) :
    (g.follow joint next).kinds = g.kinds ++ joint.kinds ++ next.kinds := by
  unfold Group.follow
  split <;> simp [Group.kinds, Operand.kinds, Joint.kinds]

/-- No word of the longer group is followed by a colon: when the last word was, it has taken it. -/
theorem Group.tight_follow {g : Group} {joint : Joint} {next : Operand} (hg : g.Tight)
    (hnext : next.Tight) : (g.follow joint next).Tight := by
  unfold Group.follow
  split
  · trivial
  · exact ⟨hg.1, trivial, fun _ _ => rfl⟩
  · next hsingle hlast =>
    refine ⟨hg, hnext, fun hadjacent hword => ?_⟩
    cases next with
    | anywhere value =>
      subst hadjacent
      -- a group that ends in a word ends in it as its only operand or as its last one
      cases g with
      | operand first =>
        cases first with
        | word field => exact (hsingle field value rfl rfl rfl).elim
        | _ => cases hword
      | link before joint last =>
        cases last with
        | word field => exact (hlast before joint field value rfl rfl rfl).elim
        | _ => cases hword
      | within => cases hword
    | _ => rfl

mutual

theorem Operand.kinds_tighten : ∀ o : Operand, o.tighten.kinds = o.kinds
  | .group inner => by
    rw [Operand.tighten, Operand.kinds, Operand.kinds, Group.kinds_tighten inner]
  | .word _ | .phrase _ | .anywhere _ | .vocabulary _ _ | .compare _ _ _ => rfl

theorem Group.kinds_tighten : ∀ g : Group, g.tighten.kinds = g.kinds
  | .operand first => Operand.kinds_tighten first
  | .link before joint next => by
    rw [Group.tighten, Group.kinds_follow, Group.kinds_tighten before,
      Operand.kinds_tighten next, Group.kinds]
  | .within before fields => by
    rw [Group.tighten, Group.kinds, Group.kinds, Group.kinds_tighten before]

end

mutual

theorem Operand.tight_tighten : ∀ o : Operand, o.tighten.Tight
  | .group inner => Group.tight_tighten inner
  | .word _ | .phrase _ | .anywhere _ | .vocabulary _ _ | .compare _ _ _ => trivial

theorem Group.tight_tighten : ∀ g : Group, g.tighten.Tight
  | .operand first => Operand.tight_tighten first
  | .link before _ next =>
    Group.tight_follow (Group.tight_tighten before) (Operand.tight_tighten next)
  | .within before _ => Group.tight_tighten before

end

/-- **Tokens that have a derivation have one in which words take the colons after them.** -/
theorem Group.spells_tighten (g : Group) : g.tighten.Spells g.kinds :=
  ⟨g.kinds_tighten, g.tight_tighten⟩

/-! ### There is one derivation -/

/-- An operand starts with a token that an operand can start with, so with no keyword. -/
theorem Operand.head_kinds (o : Operand) (ks : List TokenKind) :
    ∃ k, (o.kinds ++ ks).head? = some k ∧ k.startsOperand = true := by
  cases o <;> exact ⟨_, rfl, rfl⟩

theorem loneWord_eq (text : String) : loneWord text = .all ∨ loneWord text = .term text := by
  unfold loneWord
  split <;> simp

/-- The expression of an operand is no operator. -/
theorem Operand.toExpr_ne (o : Operand) {e : Expr} (he : e.isComposite = true) : o.toExpr ≠ e := by
  rintro rfl
  cases o with
  | word text =>
    rcases loneWord_eq text with h | h <;> simp [Operand.toExpr, h, Expr.isComposite] at he
  | _ => cases he

theorem isComposite_combine (op : Link) (left right : Expr) :
    (op.combine left right).isComposite = true := by
  cases op <;> rfl

theorem combine_ne_within {op : Link} {left right inner : Expr} {fields : List String} :
    op.combine left right ≠ .within inner fields := by
  cases op <;> nofun

/-- Operands with an operator between them can be told apart. -/
theorem combine_inj {op op' : Link} {left right left' right' : Expr}
    (h : op.combine left right = op'.combine left' right') :
    op = op' ∧ left = left' ∧ right = right' := by
  cases op <;> cases op' <;> simp_all [Link.combine]

/-- A keyword is no start of an operand, so the tokens of a joint tell which one it is. -/
theorem Joint.eq_of_kinds {joint joint' : Joint} {o o' : Operand} {ks ks' : List TokenKind}
    (hop : joint.op = joint'.op)
    (h : joint.kinds ++ (o.kinds ++ ks) = joint'.kinds ++ (o'.kinds ++ ks')) : joint = joint' := by
  obtain ⟨k, hk, hstarts⟩ := o.head_kinds ks
  obtain ⟨k', hk', hstarts'⟩ := o'.head_kinds ks'
  have hkeyword : ∀ op, (Written.keyword op).startsOperand = false := fun op => by cases op <;> rfl
  have hheads := congrArg List.head? h
  cases joint with
  | keyword op =>
    cases joint' with
    | keyword op' => exact congrArg Joint.keyword hop
    | adjacent =>
      obtain rfl : Written.keyword op = k' := Option.some.inj (hheads.trans hk')
      rw [hkeyword] at hstarts'
      cases hstarts'
  | adjacent =>
    cases joint' with
    | keyword op' =>
      obtain rfl : k = Written.keyword op' := Option.some.inj (hk.symm.trans hheads)
      rw [hkeyword] at hstarts
      cases hstarts
    | adjacent => rfl

theorem Value.kind_inj {v v' : Value} (h : v.kind = v'.kind) : v = v' := by
  cases v <;> cases v' <;> simp_all [Value.kind]

/-- Fields with the same names that start in the same way are the same. -/
theorem FieldList.eq_of_kinds {fields fields' : FieldList} {ks ks' : List TokenKind}
    (hnames : fields.names = fields'.names) (h : fields.kinds ++ ks = fields'.kinds ++ ks') :
    fields = fields' := by
  cases fields <;> cases fields' <;> simp_all [FieldList.names, FieldList.kinds]

mutual

/-- **An operand is known** from its expression and the tokens that it starts. -/
theorem Operand.eq_of_toExpr {ks ks' : List TokenKind} :
    ∀ o o' : Operand, o.toExpr = o'.toExpr → o.kinds ++ ks = o'.kinds ++ ks' → o = o' ∧ ks = ks'
  | .group inner, o', he, hks => by
    cases o' with
    | group inner' =>
      simp only [Operand.kinds, List.cons_append, List.append_assoc, List.cons.injEq,
        true_and] at hks
      obtain ⟨rfl, hrest⟩ := Group.eq_of_toExpr inner inner' (Expr.group.inj he) hks
      exact ⟨rfl, List.tail_eq_of_cons_eq hrest⟩
    | _ => simp [Operand.kinds] at hks
  | .word text, o', he, hks => by
    cases o' with
    | word text' => simpa [Operand.kinds] using hks
    -- a word that takes what follows it is read as no word alone
    | vocabulary | compare => rcases loneWord_eq text with h | h <;> simp [Operand.toExpr, h] at he
    | _ => simp [Operand.kinds] at hks
  | .phrase text, o', he, hks => by
    cases o' with
    | phrase text' => simpa [Operand.kinds] using hks
    | _ => simp [Operand.kinds] at hks
  | .anywhere value, o', he, hks => by
    cases o' with
    | anywhere value' =>
      simp only [Operand.kinds, List.cons_append, List.cons.injEq, true_and] at hks
      exact ⟨congrArg _ (Value.kind_inj hks.1), hks.2⟩
    | _ => simp [Operand.kinds] at hks
  | .vocabulary field value, o', he, hks => by
    cases o' with
    | vocabulary field' value' =>
      simp only [Operand.kinds, List.cons_append, List.cons.injEq, TokenKind.word.injEq,
        true_and] at hks
      exact ⟨by rw [hks.1, Value.kind_inj hks.2.1], hks.2.2⟩
    | word text' => rcases loneWord_eq text' with h | h <;> simp [Operand.toExpr, h] at he
    | _ => simp [Operand.kinds] at hks
  | .compare field op value, o', he, hks => by
    cases o' with
    | compare field' op' value' =>
      simp only [Operand.kinds, List.cons_append, List.cons.injEq, TokenKind.word.injEq,
        TokenKind.compare.injEq] at hks
      exact ⟨by rw [hks.1, hks.2.1, Value.kind_inj hks.2.2.1], hks.2.2.2⟩
    | word text' => rcases loneWord_eq text' with h | h <;> simp [Operand.toExpr, h] at he
    | _ => simp [Operand.kinds] at hks

/-- **A group is known** from its expression and the tokens that it starts. -/
theorem Group.eq_of_toExpr {ks ks' : List TokenKind} :
    ∀ g g' : Group, g.toExpr = g'.toExpr → g.kinds ++ ks = g'.kinds ++ ks' → g = g' ∧ ks = ks'
  | .operand first, g', he, hks => by
    cases g' with
    | operand first' =>
      obtain ⟨rfl, hrest⟩ := Operand.eq_of_toExpr first first' he hks
      exact ⟨rfl, hrest⟩
    | link => exact (first.toExpr_ne (isComposite_combine _ _ _) he).elim
    | within => exact (first.toExpr_ne rfl he).elim
  | .link before joint next, g', he, hks => by
    cases g' with
    | operand first' => exact (first'.toExpr_ne (isComposite_combine _ _ _) he.symm).elim
    | link before' joint' next' =>
      obtain ⟨hop, hbefore, hnext⟩ := combine_inj he
      simp only [Group.kinds, List.append_assoc] at hks
      obtain ⟨rfl, hrest⟩ := Group.eq_of_toExpr before before' hbefore hks
      obtain rfl := Joint.eq_of_kinds hop hrest
      obtain ⟨rfl, hlast⟩ := Operand.eq_of_toExpr next next' hnext (List.append_cancel_left hrest)
      exact ⟨rfl, hlast⟩
    | within => exact (combine_ne_within he).elim
  | .within before fields, g', he, hks => by
    cases g' with
    | operand first' => exact (first'.toExpr_ne rfl he.symm).elim
    | link => exact (combine_ne_within he.symm).elim
    | within before' fields' =>
      obtain ⟨hbefore, hnames⟩ := Expr.within.inj he
      simp only [Group.kinds, List.append_assoc, List.cons_append] at hks
      obtain ⟨rfl, hrest⟩ := Group.eq_of_toExpr before before' hbefore hks
      have hfields := List.tail_eq_of_cons_eq hrest
      obtain rfl := FieldList.eq_of_kinds hnames hfields
      exact ⟨rfl, List.append_cancel_left hfields⟩

end

/-- **A list of tokens has one derivation in which words take the colons after them.** -/
theorem Group.eq_of_kinds {g g' : Group} {ks : List TokenKind} (h : g.Spells ks)
    (h' : g'.Spells ks) : g = g' := by
  obtain ⟨he, -⟩ := h.reads.unique h'.reads
  have hks : g.kinds ++ [] = g'.kinds ++ [] := by rw [h.kinds, h'.kinds]
  exact (Group.eq_of_toExpr g g' he hks).1

end Written

/-! ### The expressions that are read -/

/-- **An expression that a chain is read as**: a conjunction or a disjunction has two parts, as it
comes from one operator, and a restriction names a field. -/
inductive Expr.Chained : Expr → Prop
  /-- Every record. -/
  | all : Chained .all
  /-- A word. -/
  | term (word : String) : Chained (.term word)
  /-- A phrase. -/
  | phrase (text : String) : Chained (.phrase text)
  /-- A comparison. -/
  | compare (field : String) (op : Comparison) (value : String) : Chained (.compare field op value)
  /-- A word of the vocabulary. -/
  | vocabulary (field : Option String) (term : String) : Chained (.vocabulary field term)
  /-- A conjunction of two parts. -/
  | and {left right : Expr} : Chained left → Chained right → Chained (.and [left, right])
  /-- A disjunction of two parts. -/
  | or {left right : Expr} : Chained left → Chained right → Chained (.or [left, right])
  /-- An exclusion. -/
  | except {left right : Expr} : Chained left → Chained right → Chained (.except left right)
  /-- A restriction to some field. -/
  | within {inner : Expr} {fields : List String} :
    Chained inner → fields ≠ [] → Chained (.within inner fields)
  /-- A group. -/
  | group {inner : Expr} : Chained inner → Chained (.group inner)

theorem Expr.Chained.combine {left right : Expr} (hleft : left.Chained) (hright : right.Chained)
    (op : Link) : (op.combine left right).Chained := by
  cases op with
  | and => exact .and hleft hright
  | or => exact .or hleft hright
  | except => exact .except hleft hright

namespace Written

theorem FieldList.names_ne_nil (fields : FieldList) : fields.names ≠ [] := by
  cases fields <;> exact List.cons_ne_nil _ _

mutual

theorem Operand.chained_toExpr : ∀ o : Operand, o.toExpr.Chained
  | .word text => by
    rw [Operand.toExpr, loneWord]
    split
    · exact .all
    · exact .term text
  | .phrase text => .phrase text
  | .anywhere value => .vocabulary none value.text
  | .vocabulary _ value => .vocabulary _ value.text
  | .compare field op value => .compare field op value.text
  | .group inner => .group (Group.chained_toExpr inner)

theorem Group.chained_toExpr : ∀ g : Group, g.toExpr.Chained
  | .operand first => Operand.chained_toExpr first
  | .link before joint next =>
    (Group.chained_toExpr before).combine (Operand.chained_toExpr next) joint.op
  | .within before fields => .within (Group.chained_toExpr before) fields.names_ne_nil

end

end Written

/-! ### What is accepted -/

/-- **Reading accepts exactly what the grammar derives.** A text that has tokens is read when its
tokens have a derivation, and only then. The tokens have then one derivation in which every word
takes the colon after it; the text is read as the expression of this derivation, in which every
operator has all that stands before it on its left, and which has two parts in each conjunction and
disjunction and a field in each restriction. -/
theorem parse_accepts_derivable {source : String} {ts : List Token} (hts : scan source = .ok ts) :
    ((∃ e, parse source = .ok e) ↔ ∃ g : Written.Group, g.kinds = kinds ts) ∧
      ∀ e, parse source = .ok e → (∃! g : Written.Group, g.Spells (kinds ts)) ∧
        (∀ g : Written.Group, g.Spells (kinds ts) → g.toExpr = e) ∧ e.Chained := by
  have hread : ∀ e, parse source = .ok e ↔ Reads .chain (kinds ts) e [] := fun e => by
    rw [parse_eq_ok_iff, hts]
    simp
  refine ⟨⟨?_, ?_⟩, ?_⟩
  · rintro ⟨e, he⟩
    obtain ⟨g, -, hg⟩ := ((hread e).1 he).written
    exact ⟨g, hg.kinds⟩
  · rintro ⟨g, hg⟩
    have hspells := g.spells_tighten
    rw [hg] at hspells
    exact ⟨_, (hread _).2 hspells.reads⟩
  · intro e he
    obtain ⟨g, rfl, hg⟩ := ((hread e).1 he).written
    refine ⟨⟨g, hg, fun g' hg' => Written.Group.eq_of_kinds hg' hg⟩, fun g' hg' => ?_,
      g.chained_toExpr⟩
    rw [Written.Group.eq_of_kinds hg' hg]

/-- The tokens of `cat:dog` have two derivations, and the text is read as the one in which the word
takes the colon. -/
theorem parse_accepts_word_with_colon :
    ∃ ts, scan "cat:dog bird IN (Title OR Caption)" = .ok ts ∧
      (∃ g : Written.Group, g.kinds = kinds ts ∧ ¬ g.Tight) ∧
      parse "cat:dog bird IN (Title OR Caption)" = .ok
        (.within (.and [.vocabulary (some "cat") "dog", .term "bird"]) ["Title", "Caption"]) := by
  have hscan : (scan "cat:dog bird IN (Title OR Caption)").toOption.map kinds =
      some [.word "cat", .colon, .word "dog", .word "bird", .within, .openParen, .word "Title",
        .disj, .word "Caption", .closeParen] := by decide +kernel
  cases hts : scan "cat:dog bird IN (Title OR Caption)" with
  | error => simp [hts, Except.toOption] at hscan
  | ok ts =>
    rw [hts, Except.toOption, Option.map_some, Option.some.injEq] at hscan
    obtain ⟨haccepts, hreads⟩ := parse_accepts_derivable hts
    refine ⟨ts, rfl, ⟨.within (.link (.link (.operand (.word "cat")) .adjacent
      (.anywhere (.word "dog"))) .adjacent (.word "bird")) (.several "Title" ["Caption"]),
      hscan.symm, by simp [Written.Group.Tight, Written.Group.endsInWord, Written.Operand.isWord,
        Written.Operand.startsWithColon]⟩, ?_⟩
    have hspells : (Written.Group.within (.link (.operand (.vocabulary "cat" (.word "dog")))
        .adjacent (.word "bird")) (.several "Title" ["Caption"])).Spells (kinds ts) :=
      ⟨hscan.symm, by simp [Written.Group.Tight, Written.Group.endsInWord,
        Written.Operand.Tight, Written.Operand.isWord]⟩
    obtain ⟨e, he⟩ := haccepts.2 ⟨_, hspells.kinds⟩
    have hbird : loneWord "bird" = .term "bird" := if_neg (by decide)
    rw [he, ← (hreads e he).2.1 _ hspells]
    simp [Written.Group.toExpr, Written.Operand.toExpr, Written.Joint.op, Link.combine,
      Written.Value.text, Written.FieldList.names, hbird]

end FederatedSearch.Query
