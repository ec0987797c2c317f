import FederatedSearch.Proofs.Query.NormalForm
import FederatedSearch.Proofs.Query.Targets
import FederatedSearch.Query.Render

/-!
# Reading a written tree back

The written form of a tree in normal form is a text of the query language, and it is the text of a
group that folds to the tree: every part of a conjunction or a disjunction is an operand, between
parentheses where it is composite, and so is what an exclusion and a restriction are made of. As no
part of a conjunction is a conjunction, and none of a disjunction a disjunction, folding merges
nothing that was apart. So **a compiled query is written as a text that compiles to the same
query**.

* `FederatedSearch.Query.Written.Operand.Writes`, `FederatedSearch.Query.Written.Group.Writes`: an
  operand or a group is what is written of a tree.
* `FederatedSearch.Query.Written.Group.writes_joined`: parts with an operator between them.
* `FederatedSearch.Query.Expr.IsNormal.isWritten`: every normal tree is written.
* `FederatedSearch.Query.compile_toText`: **compiling the written form of a compiled query**.
-/

namespace FederatedSearch.Query

/-! ### Chains with one operator -/

namespace Chain

/-- Operands with `OR` between them are segments. -/
theorem segmentsFrom_or (e : Expr) (es : List Expr) :
    segmentsFrom e (es.map (Link.or, ·)) = e :: es := by
  induction es generalizing e with
  | nil => rfl
  | cons e' es ih => rw [List.map_cons, segmentsFrom, ih]

/-- Operands with `AND` between them are one segment. -/
theorem segmentsFrom_and {current : Expr} {es : List Expr} (hcurrent : current.conjuncts ≠ [])
    (hne : es ≠ []) (hflat : ∀ e ∈ es, e.conjuncts = [e]) :
    segmentsFrom current (es.map (Link.and, ·)) = [.and (current.conjuncts ++ es)] := by
  induction es generalizing current with
  | nil => exact absurd rfl hne
  | cons e es ih =>
    obtain ⟨he, hes⟩ := List.forall_mem_cons.1 hflat
    have hstep : Expr.andAll [current, e] = .and (current.conjuncts ++ [e]) := by
      have hparts : [current, e].flatMap Expr.conjuncts = current.conjuncts ++ [e] := by simp [he]
      have hpos := List.length_pos_of_ne_nil hcurrent
      rw [(Expr.merges_andAll [current, e]).eq_of_length_ne_one, hparts]
      rw [hparts, List.length_append, List.length_singleton]
      omega
    rw [List.map_cons, segmentsFrom, hstep]
    rcases es with - | ⟨e', es⟩
    · rfl
    · rw [ih (by simp [Expr.conjuncts]) (List.cons_ne_nil _ _) hes]
      simp [Expr.conjuncts]

/-- **A chain of conjuncts** is their conjunction. -/
theorem toExpr_and {e : Expr} {es : List Expr} (hne : es ≠ [])
    (hflat : ∀ x ∈ e :: es, x.conjuncts = [x]) :
    toExpr ⟨e, es.map (Link.and, ·)⟩ = .and (e :: es) := by
  obtain ⟨he, hes⟩ := List.forall_mem_cons.1 hflat
  rw [toExpr, segmentsFrom_and (by simp [he]) hne hes, he]
  rfl

/-- **A chain of disjuncts** is their disjunction. -/
theorem toExpr_or {e : Expr} {es : List Expr} (hne : es ≠ [])
    (hflat : ∀ x ∈ e :: es, x.disjuncts = [x]) :
    toExpr ⟨e, es.map (Link.or, ·)⟩ = .or (e :: es) := by
  have hlen : (e :: es).length ≠ 1 := by
    have hpos := List.length_pos_of_ne_nil hne
    simp only [List.length_cons]
    omega
  unfold toExpr
  rw [segmentsFrom_or]
  split
  · next h =>
    obtain ⟨-, rfl⟩ := List.cons.inj h
    exact absurd rfl hne
  · exact (Expr.merges_orAll _).eq_build hlen hflat

end Chain

/-! ### Keywords -/

/-- The text of the keyword of an operator. -/
def Link.text : Link → String
  | .and => "AND"
  | .or => "OR"
  | .except => "EXCEPT"

/-- What is written between two operands. -/
def Link.between (op : Link) : List Char := ' ' :: (op.text.toList ++ [' '])

theorem Scans.link (op : Link) {ds : List Char} {ks : List TokenKind} (h : Scans ds ks) :
    Scans (op.between ++ ds) (Written.keyword op :: ks) := by
  have hword : Scans (op.text.toList ++ ' ' :: ds) (Written.keyword op :: ks) := by
    cases op <;> exact .fixed (by decide) h.space
  simpa [Link.between] using hword.space

theorem Link.endsWord_between (op : Link) (cs : List Char) : EndsWord (op.between ++ cs) :=
  endsWord_cons (by decide) _

namespace Written

/-! ### What is written -/

/-- **An operand is what is written of a tree** as a part of another: its tokens are scanned from
the written form, wherever no word goes on after it, and it folds to the tree. -/
structure Operand.Writes (o : Operand) (e : Expr) : Prop where
  scans : ∀ ds ks, EndsWord ds → Scans ds ks → Scans (e.wrap e.render ++ ds) (o.kinds ++ ks)
  tight : o.Tight
  fold : o.toExpr.foldOperand = e

/-- **A group is what is written of a tree.** -/
structure Group.Writes (g : Group) (e : Expr) : Prop where
  scans : ∀ ds ks, EndsWord ds → Scans ds ks → Scans (e.render ++ ds) (g.kinds ++ ks)
  tight : g.Tight
  fold : g.toExpr.fold = e

/-- What is not composite is written as an operand everywhere. -/
theorem Operand.Writes.group {o : Operand} {e : Expr} (h : o.Writes e)
    (he : e.isComposite = false) : (Group.operand o).Writes e := by
  refine ⟨fun ds ks hends hscans => ?_, h.tight, ?_⟩
  · simpa [Expr.wrap, he, Group.kinds] using h.scans ds ks hends hscans
  · rw [Group.toExpr, Expr.fold, o.foldChain_toExpr, h.fold]
    rfl

/-- What is composite is written between parentheses as an operand. -/
theorem Group.Writes.operand {g : Group} {e : Expr} (h : g.Writes e) (he : e.isComposite = true) :
    (Operand.group g).Writes e := by
  refine ⟨fun ds ks _ hscans => ?_, h.tight, ?_⟩
  · have hinner := h.scans _ _ (endsWord_cons (by decide) _) hscans.closeParen
    simpa [Expr.wrap, he, Operand.kinds] using hinner.openParen
  · rw [Operand.toExpr, Expr.foldOperand]
    exact h.fold

/-! ### Operands with an operator between them -/

/-- A group with further operands, all after the same operator. -/
def Group.extend (op : Link) (g : Group) (rest : List Operand) : Group :=
  rest.foldl (fun g o => .link g (.keyword op) o) g

/-- The tokens of operands after an operator. -/
def linkKinds (op : Link) (rest : List Operand) : List TokenKind :=
  rest.flatMap fun o => Written.keyword op :: o.kinds

theorem Group.kinds_extend (op : Link) (g : Group) (rest : List Operand) :
    (g.extend op rest).kinds = g.kinds ++ linkKinds op rest := by
  induction rest generalizing g with
  | nil => simp [extend, linkKinds]
  | cons o rest ih =>
    have hstep : g.extend op (o :: rest) = (Group.link g (.keyword op) o).extend op rest := rfl
    rw [hstep, ih]
    simp [Group.kinds, Joint.kinds, linkKinds]

theorem Group.tight_extend (op : Link) {g : Group} (hg : g.Tight) {rest : List Operand}
    (hrest : ∀ o ∈ rest, o.Tight) : (g.extend op rest).Tight := by
  induction rest generalizing g with
  | nil => exact hg
  | cons o rest ih =>
    obtain ⟨ho, hrest⟩ := List.forall_mem_cons.1 hrest
    exact ih ⟨hg, ho, nofun⟩ hrest

theorem Group.foldChain_extend (op : Link) (g : Group) (rest : List Operand) :
    (g.extend op rest).toExpr.foldChain = ⟨g.toExpr.foldChain.first,
      g.toExpr.foldChain.rest ++ rest.map fun o => (op, o.toExpr.foldOperand)⟩ := by
  induction rest generalizing g with
  | nil => simp [extend]
  | cons o rest ih =>
    have hstep : g.extend op (o :: rest) = (Group.link g (.keyword op) o).extend op rest := rfl
    rw [hstep, ih, Group.toExpr, foldChain_combine]
    simp [Chain.push, Joint.op]

section Joined

variable {o : Operand} {os : List Operand} {e : Expr} {es : List Expr}

/-- Operands with an operator between them are scanned one by one. -/
theorem scans_joined (op : Link) (ho : o.Writes e) (hos : List.Forall₂ Operand.Writes os es)
    {ds : List Char} {ks : List TokenKind} (hends : EndsWord ds) (hscans : Scans ds ks) :
    Scans (List.intercalate op.between (Expr.renderOperands (e :: es)) ++ ds)
      (o.kinds ++ (linkKinds op os ++ ks)) := by
  induction hos generalizing o e with
  | nil => simpa [Expr.renderOperands, linkKinds] using ho.scans ds ks hends hscans
  | @cons o' e' os es ho' _ ih =>
    have hfirst := ho.scans _ _ (op.endsWord_between _) ((ih ho').link op)
    simpa [Expr.renderOperands, List.intercalate_cons_cons, linkKinds] using hfirst

/-- The operands fold to what they are written of. -/
theorem map_foldOperand (op : Link) (hos : List.Forall₂ Operand.Writes os es) :
    os.map (fun o => (op, o.toExpr.foldOperand)) = es.map (op, ·) := by
  induction hos with
  | nil => rfl
  | cons ho _ ih => rw [List.map_cons, List.map_cons, ih, ho.fold]

theorem forall_tight (hos : List.Forall₂ Operand.Writes os es) : ∀ o ∈ os, o.Tight := by
  induction hos with
  | nil => simp
  | cons ho _ ih => exact List.forall_mem_cons.2 ⟨ho.tight, ih⟩

/-- **Parts with an operator between them** are what is written of a tree whose written form they
are, and which their chain stands for. -/
theorem Group.writes_joined (op : Link) (ho : o.Writes e)
    (hos : List.Forall₂ Operand.Writes os es) {tree : Expr}
    (hrender : tree.render = List.intercalate op.between (Expr.renderOperands (e :: es)))
    (htree : Chain.toExpr ⟨e, es.map (op, ·)⟩ = tree) :
    ((Group.operand o).extend op os).Writes tree := by
  have htight : (Group.operand o).Tight := ho.tight
  refine ⟨fun ds ks hends hscans => ?_, Group.tight_extend op htight (forall_tight hos), ?_⟩
  · rw [hrender, Group.kinds_extend, List.append_assoc]
    exact scans_joined op ho hos hends hscans
  · rw [Expr.fold, Group.foldChain_extend, Group.toExpr, o.foldChain_toExpr, List.nil_append,
      map_foldOperand op hos, ho.fold, htree]

end Joined

/-! ### Names of fields -/

/-- Names are scanned one by one, up to the closing parenthesis. -/
theorem scans_joinFields {ds : List Char} {ks : List TokenKind} (hscans : Scans ds ks) :
    ∀ (first : String) (others : List String), (∀ f ∈ first :: others, IsWord f) →
      Scans (Expr.joinFields (first :: others) ++ ')' :: ds)
        (.word first :: (otherNames others ++ ks))
  | first, [], hwords => by
    have hfirst := (hwords first List.mem_cons_self).scans (endsWord_cons (by decide) ds)
      hscans.closeParen
    simpa [Expr.joinFields, otherNames] using hfirst
  | first, next :: others, hwords => by
    obtain ⟨hword, hrest⟩ := List.forall_mem_cons.1 hwords
    have hnext := (scans_joinFields hscans next others hrest).link .or
    have hfirst := hword.scans (Link.endsWord_between .or _) hnext
    simpa [Expr.joinFields, List.intercalate_cons_cons, otherNames, Written.keyword,
      Link.between, Link.text] using hfirst

/-- **A restriction** is written as its inner tree, between parentheses when it is composite, and
the fields. -/
theorem Operand.Writes.within {o : Operand} {e : Expr} (h : o.Writes e) {first : String}
    {others : List String} (hwords : ∀ f ∈ first :: others, IsWord f) :
    (Group.within (.operand o) (.several first others)).Writes
      (.within e (first :: others)) := by
  refine ⟨fun ds ks _ hscans => ?_, h.tight, ?_⟩
  · have hnames := scans_joinFields hscans first others hwords
    have hin : Scans ("IN".toList ++ ' ' :: '(' :: (Expr.joinFields (first :: others) ++ ')' :: ds))
        (.within :: .openParen :: .word first :: (otherNames others ++ ks)) :=
      .fixed (by decide) hnames.openParen.space
    have hinner := h.scans _ _ (endsWord_cons (by decide) _) hin.space
    simpa [Expr.render, Group.kinds, FieldList.kinds] using hinner
  · rw [Group.toExpr, Expr.fold, foldChain_within, Group.toExpr, Expr.fold, o.foldChain_toExpr,
      h.fold]
    rfl

/-! ### Leaves -/

theorem isComposite_leaf {e : Expr} (h : e.Leaf) : e.isComposite = false := by
  cases h <;> rfl

/-- An operand that is read as a leaf is what is written of it, when its tokens are scanned from the
written form. -/
theorem Operand.writes_leaf {o : Operand} {e : Expr} (he : e.Leaf) (htree : o.toExpr = e)
    (htight : o.Tight)
    (hscans : ∀ ds ks, EndsWord ds → Scans ds ks → Scans (e.render ++ ds) (o.kinds ++ ks)) :
    o.Writes e := by
  refine ⟨fun ds ks hends h => ?_, htight, ?_⟩
  · simpa [Expr.wrap, isComposite_leaf he] using hscans ds ks hends h
  · rw [htree, foldOperand_leaf he]

theorem isWord_all : IsWord "all" :=
  ⟨⟨by decide, List.all_eq_true.1 (by decide)⟩, by decide⟩

theorem isWord_star : IsWord "*" :=
  ⟨⟨by decide, List.all_eq_true.1 (by decide)⟩, by decide⟩

/-- A vocabulary word is scanned as it is written, with the name of its field. -/
theorem scans_vocabulary {field word : String} (hfield : IsWord field) (hword : IsWord word)
    {ds : List Char} {ks : List TokenKind} (hends : EndsWord ds) (h : Scans ds ks) :
    Scans (field.toList ++ ':' :: word.toList ++ ds)
      (.word field :: .colon :: .word word :: ks) := by
  have hvalue := hfield.scans (endsWord_cons (by decide) _) (hword.scans hends h).colon
  simpa using hvalue

/-- A comparison is scanned as it is written. -/
theorem scans_compare {field value : String} (op : Comparison) (hfield : IsWord field)
    (hvalue : IsWord value) {ds : List Char} {ks : List TokenKind} (hends : EndsWord ds)
    (h : Scans ds ks) :
    Scans (field.toList ++ op.symbol.toList ++ value.toList ++ ds)
      (.word field :: .compare op :: .word value :: ks) := by
  have hword := hvalue.scans hends h
  obtain ⟨c, cs, hlist, hc⟩ := hvalue.exists_cons
  rw [hlist, List.cons_append] at hword
  have hcompare := hfield.scans (endsWord_symbol op _) (Scans.comparison_word op hc hword)
  simpa [hlist] using hcompare

/-- **A leaf that can be written is written** as an operand. -/
theorem exists_writes_of_leaf {e : Expr} (h : e.Leaf) : ∃ o : Operand, o.Writes e := by
  cases id h with
  | all =>
    have hlone : loneWord "all" = .all := if_pos (by decide)
    exact ⟨.word "all", Operand.writes_leaf h hlone trivial
      fun ds ks hends hscans => isWord_all.scans hends hscans⟩
  | @term word hword hall =>
    have hlone : loneWord word = .term word := if_neg (by simp [hall])
    exact ⟨.word word, Operand.writes_leaf h hlone trivial
      fun ds ks hends hscans => hword.scans hends hscans⟩
  | @phrase text htext =>
    refine ⟨.phrase text, Operand.writes_leaf h rfl trivial fun ds ks _ hscans => ?_⟩
    simpa [Expr.render, Operand.kinds] using htext.scans hscans
  | @compare field value op hfield hvalue =>
    exact ⟨.compare field op (.word value), Operand.writes_leaf h rfl trivial
      fun ds ks hends hscans => scans_compare op hfield hvalue hends hscans⟩
  | @anywhere word hword =>
    exact ⟨.vocabulary "*" (.word word), Operand.writes_leaf h
      (by simp [Operand.toExpr, Value.text]) trivial
      fun ds ks hends hscans => scans_vocabulary isWord_star hword hends hscans⟩
  | @vocabulary field word hfield hstar hword =>
    exact ⟨.vocabulary field (.word word), Operand.writes_leaf h
      (by simp [Operand.toExpr, Value.text, hstar]) trivial
      fun ds ks hends hscans => scans_vocabulary hfield hword hends hscans⟩

end Written

/-! ### Normal trees -/

/-- **A tree is written**, both as a part of another and by itself. -/
structure Expr.IsWritten (e : Expr) : Prop where
  operand : ∃ o : Written.Operand, o.Writes e
  group : ∃ g : Written.Group, g.Writes e

theorem Expr.Leaf.isWritten {e : Expr} (h : e.Leaf) : e.IsWritten := by
  obtain ⟨o, ho⟩ := Written.exists_writes_of_leaf h
  exact ⟨⟨o, ho⟩, .operand o, ho.group (Written.isComposite_leaf h)⟩

theorem Written.Group.Writes.isWritten {g : Written.Group} {e : Expr} (h : g.Writes e)
    (he : e.isComposite = true) : e.IsWritten :=
  ⟨⟨.group g, h.operand he⟩, g, h⟩

/-- Trees that are written are written one by one. -/
theorem exists_forall₂_writes {es : List Expr} (h : ∀ e ∈ es, e.IsWritten) :
    ∃ os, List.Forall₂ Written.Operand.Writes os es := by
  induction es with
  | nil => exact ⟨[], .nil⟩
  | cons e es ih =>
    obtain ⟨he, hes⟩ := List.forall_mem_cons.1 h
    obtain ⟨o, ho⟩ := he.operand
    obtain ⟨os, hos⟩ := ih hes
    exact ⟨o :: os, .cons ho hos⟩

/-- **Several trees that are written** are written with an operator between them. -/
theorem exists_writes_joined (op : Link) (tree : Expr) {es : List Expr} (hlen : 2 ≤ es.length)
    (h : ∀ e ∈ es, e.IsWritten)
    (hrender : tree.render = List.intercalate op.between (Expr.renderOperands es))
    (htree : ∀ e es', es' ≠ [] → es = e :: es' → Chain.toExpr ⟨e, es'.map (op, ·)⟩ = tree) :
    ∃ g : Written.Group, g.Writes tree := by
  obtain ⟨os, hos⟩ := exists_forall₂_writes h
  rcases hos with - | ⟨ho, hrest⟩
  · simp at hlen
  · refine ⟨_, Written.Group.writes_joined op ho hrest hrender (htree _ _ ?_ rfl)⟩
    rintro rfl
    simp at hlen

/-- **Every normal tree is written.** -/
theorem Expr.IsNormal.isWritten {e : Expr} (h : e.IsNormal) : e.IsWritten := by
  induction h with
  | leaf hleaf => exact hleaf.isWritten
  | and hlen _ hflat ih =>
    obtain ⟨g, hg⟩ := exists_writes_joined .and (.and _) hlen ih rfl fun e es hne heq => by
      subst heq
      exact Chain.toExpr_and hne hflat
    exact hg.isWritten rfl
  | or hlen _ hflat ih =>
    obtain ⟨g, hg⟩ := exists_writes_joined .or (.or _) hlen ih rfl fun e es hne heq => by
      subst heq
      exact Chain.toExpr_or hne hflat
    exact hg.isWritten rfl
  | @except left right _ _ ihleft ihright =>
    obtain ⟨o, ho⟩ := ihleft.operand
    obtain ⟨o', ho'⟩ := ihright.operand
    have hrender : (Expr.except left right).render =
        List.intercalate Link.except.between (renderOperands [left, right]) := by
      simp [render, renderOperands, Link.between, Link.text]
    exact (Written.Group.writes_joined .except ho (.cons ho' .nil) hrender rfl).isWritten rfl
  | @within inner fields _ _ hne hwords ih =>
    obtain ⟨o, ho⟩ := ih.operand
    rcases fields with - | ⟨first, others⟩
    · exact absurd rfl hne
    · exact (ho.within hwords).isWritten rfl

/-- **The written form of a normal tree is read**, and what is read folds to the tree. -/
theorem exists_parse_toText {e : Expr} (h : e.IsNormal) :
    ∃ raw, parse e.toText = .ok raw ∧ raw.fold = e := by
  obtain ⟨g, hg⟩ := h.isWritten.group
  have hscans := hg.scans [] [] endsWord_nil .nil
  rw [List.append_nil, List.append_nil] at hscans
  have hspells : g.Spells g.kinds := ⟨rfl, hg.tight⟩
  refine ⟨g.toExpr, parse_eq_ok_iff_scans.2 ⟨g.kinds, ?_, hspells.reads⟩, hg.fold⟩
  rwa [Expr.toText, String.toList_ofList]

/-- **A compiled query is written as a text that compiles to the same query.** When every value of
a query is written as a word and the query is compiled, the written form of its tree is compiled,
and to the same tree. -/
theorem compile_toText {source : String} {ts : List Token} {q : CompiledQuery}
    (hts : scan source = .ok ts) (hbare : BareValues (kinds ts)) (hq : compile source = .ok q) :
    compile q.tree.toText = .ok { q with source := q.tree.toText } := by
  obtain ⟨e, he, rfl⟩ := compile_eq_ok_iff.1 hq
  obtain ⟨ts', hts', hreads⟩ := parse_eq_ok_iff.1 he
  obtain rfl : ts = ts' := Except.ok.inj (hts.symm.trans hts')
  have hnormal := isNormal_normalize (scans_of_scanFrom hts) hbare hreads
  obtain ⟨raw, hraw, hfold⟩ := exists_parse_toText hnormal
  have htree : raw.normalize = e.normalize := by
    rw [Expr.normalize, hfold, hnormal.distribute_eq]
  exact compile_eq_ok_iff.2 ⟨raw, hraw, by rw [htree]⟩

/-- The parts of a query with all its operators stand between parentheses, and its restriction has
been distributed. -/
theorem compile_toText_of_mixed_query :
    ∃ q, compile "(cat OR \"big  dog\") IN Title AND Year>=2020 EXCEPT *:sea" = .ok q ∧
      q.tree.toText =
        "(((cat IN (Title)) OR (\"big dog\" IN (Title))) AND Year>=2020) EXCEPT *:sea" ∧
      compile q.tree.toText = .ok { q with source := q.tree.toText } := by
  have hscan : (scan "(cat OR \"big  dog\") IN Title AND Year>=2020 EXCEPT *:sea").toOption.map
      (fun ts => decide (BareValues (kinds ts))) = some true := by decide +kernel
  have hcompile :
      (compile "(cat OR \"big  dog\") IN Title AND Year>=2020 EXCEPT *:sea").toOption.map
        (·.tree.toText) =
          some "(((cat IN (Title)) OR (\"big dog\" IN (Title))) AND Year>=2020) EXCEPT *:sea" := by
    decide +kernel
  obtain ⟨ts, hts, hbare⟩ := Option.map_eq_some_iff.1 hscan
  obtain ⟨q, hq, htext⟩ := Option.map_eq_some_iff.1 hcompile
  have hsource := toOption_eq_some_iff.1 hq
  exact ⟨q, hsource, htext,
    compile_toText (toOption_eq_some_iff.1 hts) (of_decide_eq_true hbare) hsource⟩

end FederatedSearch.Query
