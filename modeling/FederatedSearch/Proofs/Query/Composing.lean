import FederatedSearch.Proofs.Query.Appending
import FederatedSearch.Proofs.Query.Words

/-!
# The tree of a query with clauses

Each clause of the options is a text that wraps the query before it. The restriction to fields puts
the query inside an `IN`; the other clauses put it on the left of an `AND` whose right operand is
the clause between parentheses. A name of a field that is a keyword makes a query unreadable.

* `FederatedSearch.Query.parse_queryText_eq_ok_iff`: the tree of a query with a record type.
* `FederatedSearch.Query.parse_backendQueryText_eq_ok_iff`: **the tree of a query for one
  backend**.
* `FederatedSearch.Query.parse_backendQueryText_exact`: clauses without keywords neither repair a
  query nor break it.
-/

namespace FederatedSearch.Query

open Calendar

/-! ### Alternatives -/

/-- The tokens of alternatives with `OR` between them. -/
def orKinds {α : Type} (tokens : α → List TokenKind) : List α → List TokenKind
  | [] => []
  | a :: as => tokens a ++ as.flatMap fun b => .disj :: tokens b

@[simp] theorem orKinds_singleton {α : Type} (tokens : α → List TokenKind) (a : α) :
    orKinds tokens [a] = tokens a := by
  simp [orKinds]

theorem orKinds_cons_cons {α : Type} (tokens : α → List TokenKind) (a b : α) (as : List α) :
    orKinds tokens (a :: b :: as) = tokens a ++ .disj :: orKinds tokens (b :: as) := by
  simp [orKinds]

/-- **Alternatives with `OR` between them** are scanned one by one. -/
theorem scans_alternatives {α : Type} (text : α → String) {tokens : α → List TokenKind}
    {ds : List Char} {ks : List TokenKind} (hends : EndsWord ds) (hscans : Scans ds ks) :
    ∀ as : List α, as ≠ [] →
      (∀ a ∈ as, ∀ ds ks, EndsWord ds → Scans ds ks →
        Scans ((text a).toList ++ ds) (tokens a ++ ks)) →
      Scans ((" OR ".intercalate (as.map text)).toList ++ ds) (orKinds tokens as ++ ks)
  | [a], _, hpiece => by
    simpa using hpiece a List.mem_cons_self ds ks hends hscans
  | a :: b :: as, _, hpiece => by
    have hrest := scans_alternatives text hends hscans (b :: as) (by simp)
      fun x hx => hpiece x (List.mem_cons_of_mem a hx)
    have hor : Scans
        ("OR".toList ++ ' ' :: ((" OR ".intercalate ((b :: as).map text)).toList ++ ds))
        (.disj :: (orKinds tokens (b :: as) ++ ks)) :=
      .fixed (by decide) hrest.space
    have hfirst := hpiece a List.mem_cons_self _ _ (endsWord_cons (by decide) _) hor.space
    simpa [String.intercalate_cons_cons, orKinds_cons_cons] using hfirst

/-! ### Names of fields -/

/-- The tokens of a name. -/
def nameKinds (name : String) : List TokenKind := [.ofWord name]

/-- A name that may be written into a clause is scanned as one word. -/
theorem scans_name {name : String} (hname : isFieldName name = true) {ds : List Char}
    {ks : List TokenKind} (hends : EndsWord ds) (h : Scans ds ks) :
    Scans (name.toList ++ ds) (nameKinds name ++ ks) := by
  simp only [isFieldName, Bool.and_eq_true, Bool.not_eq_true', List.all_eq_true] at hname
  obtain ⟨hne, hchars⟩ := hname
  have hword := Scans.word (w := name.toList) ?_
    (fun c hc => isWordChar_of_isFieldNameChar (hchars c hc)) hends h
  · simpa [nameKinds] using hword
  · simpa [String.isEmpty_iff] using hne

theorem mem_fieldNames (fields : List String) {name : String} (h : name ∈ fieldNames fields) :
    isFieldName name = true := by
  simpa using (List.mem_filter.1 h).2

theorem fieldNames_last_iff {name : String} {ks ls : List TokenKind} {names : List String} :
    FieldNames (.ofWord name :: .closeParen :: ks) names ls ↔
      isKeyword name = false ∧ [name] = names ∧ ks = ls := by
  constructor
  · intro h
    generalize hk : TokenKind.ofWord name = k at h
    cases h with
    | last =>
      obtain ⟨hkey, rfl⟩ := ofWord_eq_word_iff.1 hk
      exact ⟨hkey, rfl, rfl⟩
  · rintro ⟨hkey, rfl, rfl⟩
    rw [ofWord_of_isKeyword_eq_false hkey]
    exact .last name ks

theorem fieldNames_more_iff {name : String} {ks ls : List TokenKind} {names : List String} :
    FieldNames (.ofWord name :: .disj :: ks) names ls ↔
      isKeyword name = false ∧ ∃ rest, FieldNames ks rest ls ∧ name :: rest = names := by
  constructor
  · intro h
    generalize hk : TokenKind.ofWord name = k at h
    cases h with
    | more _ hrest =>
      obtain ⟨hkey, rfl⟩ := ofWord_eq_word_iff.1 hk
      exact ⟨hkey, _, hrest, rfl⟩
  · rintro ⟨hkey, rest, hrest, rfl⟩
    rw [ofWord_of_isKeyword_eq_false hkey]
    exact .more name hrest

/-- **A list of names is read when no name is a keyword.** -/
theorem fieldNames_orKinds_iff {ks ls : List TokenKind} :
    ∀ {names names' : List String}, names ≠ [] →
      (FieldNames (orKinds nameKinds names ++ .closeParen :: ks) names' ls ↔
        (∀ name ∈ names, isKeyword name = false) ∧ names = names' ∧ ks = ls)
  | [name], names', _ => by
    rw [orKinds_singleton, nameKinds, List.singleton_append, fieldNames_last_iff,
      List.forall_mem_singleton]
  | name :: next :: names, names', _ => by
    rw [orKinds_cons_cons, nameKinds, List.singleton_append, List.cons_append, List.cons_append,
      fieldNames_more_iff, List.forall_mem_cons]
    constructor
    · rintro ⟨hkey, rest, hrest, rfl⟩
      obtain ⟨hkeys, rfl, rfl⟩ := (fieldNames_orKinds_iff (List.cons_ne_nil _ _)).1 hrest
      exact ⟨⟨hkey, hkeys⟩, rfl, rfl⟩
    · rintro ⟨⟨hkey, hkeys⟩, rfl, rfl⟩
      exact ⟨hkey, _, (fieldNames_orKinds_iff (List.cons_ne_nil _ _)).2 ⟨hkeys, rfl, rfl⟩, rfl⟩

/-! ### The restriction to fields -/

/-- A text whose tokens wrap is a clause when there is no phrase in it. -/
theorem isClause_of_scans {clause : String} {ok : Prop} {wrap : Expr → Expr} (us : List TokenKind)
    (hscans : Scans clause.toList us) (hphrase : ∀ q, .phrase q ∉ us) (hwraps : Wraps us ok wrap) :
    IsClause clause ok wrap :=
  ⟨hscans.not_mem_quote hphrase, us, hscans, hwraps⟩

/-- Alternatives without phrases. -/
theorem phrase_not_mem_orKinds {α : Type} (tokens : α → List TokenKind) {q : String}
    (htokens : ∀ a, .phrase q ∉ tokens a) (as : List α) : .phrase q ∉ orKinds tokens as := by
  cases as with
  | nil => simp [orKinds]
  | cons a as => simp [orKinds, htokens]

theorem ofWord_ne_phrase (word q : String) : TokenKind.ofWord word ≠ .phrase q := by
  rcases ofWord_cases word with ⟨-, h⟩ | ⟨-, h⟩
  · rw [h]
    simp
  · intro heq
    rw [heq] at h
    simp at h

/-- Several names are written into a restriction. -/
theorem isClause_within {names : List String} (hne : names ≠ [])
    (hnames : ∀ name ∈ names, isFieldName name = true) :
    IsClause ("IN (" ++ " OR ".intercalate names ++ ")")
      (∀ name ∈ names, isKeyword name = false) (.within · names) := by
  have hclose : Scans [')'] [.closeParen] := .closeParen .nil
  have hlist := scans_alternatives id (endsWord_cons (by decide) _) hclose names hne
    fun name hname _ _ => scans_name (hnames name hname)
  have hscans : Scans ("IN".toList ++ ' ' :: '(' :: ((" OR ".intercalate (names.map id)).toList ++
      [')'])) (.within :: .openParen :: (orKinds nameKinds names ++ [.closeParen])) :=
    .fixed (by decide) hlist.openParen.space
  refine isClause_of_scans (.within :: .openParen :: (orKinds nameKinds names ++
    [.closeParen])) ?_ ?_ ⟨?_, ?_⟩
  · simpa using hscans
  · intro q
    have hlist := phrase_not_mem_orKinds nameKinds (q := q)
      (by simp [nameKinds, (ofWord_ne_phrase _ q).symm]) names
    simp [hlist]
  · rintro _ ⟨⟩
    rfl
  · intro left e ms
    rw [reads_within_iff]
    constructor
    · rintro ⟨names', ls, hfields, hlinks⟩
      obtain ⟨hkeys, rfl, rfl⟩ := (fieldNames_orKinds_iff hne).1 (fields_openParen_iff.1 hfields)
      obtain ⟨rfl, rfl⟩ := reads_nil_iff.1 hlinks
      exact ⟨hkeys, rfl, rfl⟩
    · rintro ⟨hkeys, rfl, rfl⟩
      exact ⟨names, [], fields_openParen_iff.2 ((fieldNames_orKinds_iff hne).2 ⟨hkeys, rfl, rfl⟩),
        reads_nil_iff.2 ⟨rfl, rfl⟩⟩

/-! ### Groups joined with `AND` -/

/-- Tokens that are read as an operand in one way only, joined with `AND` to what is before them,
wrap it in a conjunction. -/
theorem wraps_and (us : List TokenKind) {ok : Prop} {right : Expr}
    (hreads : ∀ e ms, Reads .operand us e ms ↔ ok ∧ right = e ∧ ms = []) :
    Wraps (.conj :: us) ok fun left => .and [left, right] := by
  refine ⟨?_, fun left e ms => ?_⟩
  · rintro _ ⟨⟩
    rfl
  · rw [reads_link_iff (show TokenKind.conj.link? = some .and from rfl)]
    constructor
    · rintro ⟨_, ls, hright, hlinks⟩
      obtain ⟨hok, rfl, rfl⟩ := (hreads _ _).1 hright
      obtain ⟨rfl, rfl⟩ := reads_nil_iff.1 hlinks
      exact ⟨hok, rfl, rfl⟩
    · rintro ⟨hok, rfl, rfl⟩
      exact ⟨right, [], (hreads _ _).2 ⟨hok, rfl, rfl⟩, reads_nil_iff.2 ⟨rfl, rfl⟩⟩

/-- Tokens between parentheses that are read in one way only wrap in the same way. -/
theorem wraps_group (us : List TokenKind) {ok : Prop} {inner : Expr}
    (hreads : ∀ e ms, Reads .chain (us ++ [.closeParen]) e (.closeParen :: ms) ↔
      ok ∧ inner = e ∧ ms = []) :
    Wraps (.conj :: .openParen :: (us ++ [.closeParen])) ok fun left =>
      .and [left, .group inner] := by
  refine wraps_and (.openParen :: (us ++ [.closeParen])) fun e ms => ?_
  rw [reads_group_iff]
  constructor
  · rintro ⟨_, hinner, rfl⟩
    obtain ⟨hok, rfl, rfl⟩ := (hreads _ _).1 hinner
    exact ⟨hok, rfl, rfl⟩
  · rintro ⟨hok, rfl, rfl⟩
    exact ⟨inner, (hreads _ _).2 ⟨hok, rfl, rfl⟩, rfl⟩

/-! ### The status clause -/

/-- The name of the status word in a query. -/
def statusName : String := "recordstatus"

/-- A string of bits is written into the status clause. -/
theorem isClause_status {status : StatusFilter} {backend : Nat} {bits : String}
    (h : status.bits? backend = some bits) :
    IsClause ("AND (recordstatus=" ++ bits ++ ")") True fun left =>
      .and [left, .group (.compare statusName .eq bits)] := by
  have hne := (StatusFilter.dropWhile_of_bits? h).2
  have hchars := StatusFilter.isWordChar_of_bits? h
  -- the tokens of the clause, from its end
  have hbits : Scans (bits.toList ++ [')']) [.word bits, .closeParen] := by
    have hword := Scans.word hne hchars (endsWord_cons (by decide) [])
      (Scans.closeParen Scans.nil)
    rwa [String.ofList_toList, StatusFilter.ofWord_of_bits? h] at hword
  have hname : Scans ("recordstatus".toList ++ '=' :: (bits.toList ++ [')']))
      [.word statusName, .compare .eq, .word bits, .closeParen] :=
    .fixed (by decide) hbits.equals
  have hscans : Scans ("AND".toList ++ ' ' :: '(' :: ("recordstatus".toList ++ '=' ::
      (bits.toList ++ [')']))) [.conj, .openParen, .word statusName, .compare .eq, .word bits,
        .closeParen] :=
    .fixed (by decide) hname.openParen.space
  refine isClause_of_scans _ (by simpa using hscans) (by simp)
    (wraps_group [.word statusName, .compare .eq, .word bits] fun e ms => ?_)
  rw [List.cons_append, List.cons_append, List.cons_append, List.nil_append, reads_chain_iff]
  constructor
  · rintro ⟨first, ls, hfirst, hlinks⟩
    obtain ⟨rfl, rfl⟩ := reads_compare_iff.1 hfirst
    obtain ⟨rfl, hls⟩ := reads_closeParen_iff.1 hlinks
    exact ⟨trivial, rfl, (List.cons.inj hls).2.symm⟩
  · rintro ⟨-, rfl, rfl⟩
    exact ⟨_, _, reads_compare_iff.2 ⟨rfl, rfl⟩, reads_closeParen_iff.2 ⟨rfl, rfl⟩⟩

/-! ### Date bounds -/

section Bounds

variable (op : Comparison) (date : Date)

/-- A bound on one field. -/
def bound (name : String) : Expr := .compare name op date.toText

/-- Bounds that are joined with `OR` to an expression, in reading order. -/
def orBounds (left : Expr) (names : List String) : Expr :=
  names.foldl (fun left name => .or [left, bound op date name]) left

/-- The bounds on some fields, joined with `OR`. -/
def bounds : List String → Expr
  | [] => .all
  | name :: names => orBounds op date (bound op date name) names

/-- The text of a bound. -/
def boundText (symbol : String) (name : String) : String :=
  name ++ " " ++ symbol ++ " " ++ date.toText

/-- The tokens of a bound. -/
def boundKinds (name : String) : List TokenKind :=
  [.ofWord name, .compare op, .word date.toText]

variable {op date}

theorem scans_bound (op : Comparison) {name : String} (hname : isFieldName name = true)
    {ds : List Char} {ks : List TokenKind} (hends : EndsWord ds) (h : Scans ds ks) :
    Scans ((boundText date op.symbol name).toList ++ ds) (boundKinds op date name ++ ks) := by
  have hdate := Scans.word (mt String.toList_eq_nil_iff.1 date.toText_ne_empty)
    (fun c hc => isWordChar_of_isNumberChar (Date.isNumberChar_of_mem_toText hc)) hends h
  rw [String.ofList_toList, Date.ofWord_toText] at hdate
  have hname := scans_name hname (endsWord_cons (by decide) _) (Scans.comparison op hdate).space
  simpa [boundText, boundKinds, nameKinds] using hname

theorem reads_bound_iff {name : String} {ks ms : List TokenKind} {e : Expr} :
    Reads .operand (boundKinds op date name ++ ks) e ms ↔
      isKeyword name = false ∧ bound op date name = e ∧ ks = ms := by
  constructor
  · intro h
    -- a name that is a keyword would start no operand
    obtain ⟨k, _, heq, hstart⟩ := h.startsOperand
    obtain ⟨rfl, -⟩ := List.cons.inj heq
    have hkey := isKeyword_eq_false_of_startsOperand hstart
    simp only [boundKinds, ofWord_of_isKeyword_eq_false hkey] at h
    exact ⟨hkey, reads_compare_iff.1 h⟩
  · rintro ⟨hkey, rfl, rfl⟩
    simp only [boundKinds, ofWord_of_isKeyword_eq_false hkey]
    exact reads_compare_iff.2 ⟨rfl, rfl⟩

/-- Bounds after an expression are links. -/
theorem reads_orBounds_iff {ks ms : List TokenKind} {e : Expr} (names : List String) :
    ∀ left, Reads (.links left)
        ((names.flatMap fun name => .disj :: boundKinds op date name) ++ .closeParen :: ks) e
        (.closeParen :: ms) ↔
      (∀ name ∈ names, isKeyword name = false) ∧ orBounds op date left names = e ∧ ks = ms := by
  induction names with
  | nil =>
    intro left
    rw [List.flatMap_nil, List.nil_append, reads_closeParen_iff]
    simp [orBounds]
  | cons name names ih =>
    intro left
    rw [List.flatMap_cons, List.append_assoc, List.cons_append,
      reads_link_iff (show TokenKind.disj.link? = some .or from rfl), List.forall_mem_cons]
    constructor
    -- each bound is the right operand of one `OR`, and what is before it the left one
    · rintro ⟨right, ls, hright, hlinks⟩
      obtain ⟨hkey, rfl, rfl⟩ := reads_bound_iff.1 hright
      obtain ⟨hkeys, rfl, rfl⟩ := (ih _).1 hlinks
      exact ⟨⟨hkey, hkeys⟩, rfl, rfl⟩
    · rintro ⟨⟨hkey, hkeys⟩, rfl, rfl⟩
      exact ⟨_, _, reads_bound_iff.2 ⟨hkey, rfl, rfl⟩, (ih _).2 ⟨hkeys, rfl, rfl⟩⟩

/-- **Bounds are read when no name is a keyword.** -/
theorem reads_bounds_iff {ks ms : List TokenKind} {e : Expr} {names : List String}
    (hne : names ≠ []) :
    Reads .chain (orKinds (boundKinds op date) names ++ .closeParen :: ks) e (.closeParen :: ms) ↔
      (∀ name ∈ names, isKeyword name = false) ∧ bounds op date names = e ∧ ks = ms := by
  rcases names with - | ⟨name, names⟩
  · exact absurd rfl hne
  · rw [orKinds, List.append_assoc, reads_chain_iff, List.forall_mem_cons]
    constructor
    · rintro ⟨first, ls, hfirst, hlinks⟩
      obtain ⟨hkey, rfl, rfl⟩ := reads_bound_iff.1 hfirst
      obtain ⟨hkeys, rfl, rfl⟩ := (reads_orBounds_iff names _).1 hlinks
      exact ⟨⟨hkey, hkeys⟩, rfl, rfl⟩
    · rintro ⟨⟨hkey, hkeys⟩, rfl, rfl⟩
      exact ⟨_, _, reads_bound_iff.2 ⟨hkey, rfl, rfl⟩,
        (reads_orBounds_iff names _).2 ⟨hkeys, rfl, rfl⟩⟩

/-- Bounds are written into a clause. -/
theorem isClause_bounds {names : List String} (hne : names ≠ [])
    (hnames : ∀ name ∈ names, isFieldName name = true) :
    IsClause ("AND ( " ++ " OR ".intercalate (names.map (boundText date op.symbol)) ++ " )")
      (∀ name ∈ names, isKeyword name = false) fun left =>
        .and [left, .group (bounds op date names)] := by
  have hclose : Scans [' ', ')'] [.closeParen] := (Scans.closeParen .nil).space
  have hlist := scans_alternatives (boundText date op.symbol) (endsWord_cons (by decide) _)
    hclose names hne fun name hname _ _ => scans_bound op (hnames name hname)
  have hscans : Scans ("AND".toList ++ ' ' :: '(' :: ' ' ::
      ((" OR ".intercalate (names.map (boundText date op.symbol))).toList ++ [' ', ')']))
      (.conj :: .openParen :: (orKinds (boundKinds op date) names ++ [.closeParen])) :=
    .fixed (by decide) hlist.space.openParen.space
  refine isClause_of_scans (.conj :: .openParen :: (orKinds (boundKinds op date) names ++
    [.closeParen])) (by simpa using hscans) ?_ (wraps_group _ fun e ms => ?_)
  · intro q
    have hlist := phrase_not_mem_orKinds (boundKinds op date) (q := q)
      (by simp [boundKinds, (ofWord_ne_phrase _ q).symm]) names
    simp [hlist]
  · rw [reads_bounds_iff hne]
    simp only [eq_comm]

end Bounds

/-! ### The record type -/

/-- The name of the record type in a query. -/
def typeName : String := "recordtype"

/-- **A plain word**: word characters only, and at least one of them. -/
def IsPlain (word : String) : Prop := word ≠ "" ∧ ∀ c ∈ word.toList, isWordChar c = true

/-- A comparison with a word is read when the word is no keyword. -/
theorem reads_compare_ofWord_iff {field word : String} {op : Comparison} {ks ms : List TokenKind}
    {e : Expr} :
    Reads .operand (.word field :: .compare op :: .ofWord word :: ks) e ms ↔
      isKeyword word = false ∧ .compare field op word = e ∧ ks = ms := by
  constructor
  · intro h
    generalize hk : TokenKind.ofWord word = k at h
    cases h with
    | compare _ _ _ hvalue =>
      rw [← hk] at hvalue
      obtain ⟨hkey, rfl⟩ := value?_ofWord_eq_some_iff.1 hvalue
      exact ⟨hkey, rfl, rfl⟩
    | word _ hnext => cases hnext _ rfl
  · rintro ⟨hkey, rfl, rfl⟩
    rw [ofWord_of_isKeyword_eq_false hkey]
    exact reads_compare_iff.2 ⟨rfl, rfl⟩

/-- A record type that is a plain word is written into a clause. -/
theorem isClause_type {type : String} (h : IsPlain type) :
    IsClause ("AND recordtype=" ++ type) (isKeyword type = false) fun left =>
      .and [left, .compare typeName .eq type] := by
  have htype := Scans.word (mt String.toList_eq_nil_iff.1 h.1) h.2 endsWord_nil .nil
  rw [String.ofList_toList, List.append_nil] at htype
  have hname : Scans ("recordtype".toList ++ '=' :: type.toList)
      [.word typeName, .compare .eq, .ofWord type] :=
    .fixed (by decide) htype.equals
  have hscans : Scans ("AND".toList ++ ' ' :: ("recordtype".toList ++ '=' :: type.toList))
      [.conj, .word typeName, .compare .eq, .ofWord type] :=
    .fixed (by decide) hname.space
  refine isClause_of_scans _ (by simpa using hscans) (by simp [(ofWord_ne_phrase _ _).symm])
    (wraps_and [.word typeName, .compare .eq, .ofWord type] fun e ms => ?_)
  rw [reads_compare_ofWord_iff]
  simp only [eq_comm]

/-! ### Queries with clauses -/

/-- A text to which a clause is appended, if there is one. -/
def appendClause (text : String) (clause : Option String) : String :=
  match clause with
  | none => text
  | some c => text ++ " " ++ c

/-- What a clause does, if there is one: without one the query stays as it is. -/
def IsOptional (clause : Option String) (ok : Prop) (wrap : Expr → Expr) : Prop :=
  match clause with
  | none => ok ∧ ∀ e, wrap e = e
  | some c => IsClause c ok wrap

theorem IsOptional.parse_eq_ok_iff {clause : Option String} {ok : Prop} {wrap : Expr → Expr}
    (h : IsOptional clause ok wrap) {base : String} {e : Expr} :
    parse (appendClause base clause) = .ok e ↔ ok ∧ ∃ b, parse base = .ok b ∧ wrap b = e := by
  cases clause with
  | none =>
    obtain ⟨hok, hwrap⟩ := h
    simp [appendClause, hok, hwrap]
  | some c => exact IsClause.parse_append_eq_ok_iff h

/-- The tree of a query with the status bits that are required on a backend. -/
def withStatus (status : StatusFilter) (backend : Nat) (e : Expr) : Expr :=
  match status.bits? backend with
  | none => e
  | some bits => .and [e, .group (.compare statusName .eq bits)]

/-- The tree of a query that is restricted to the fields whose names can be written. -/
def withFields (fields : List String) (e : Expr) : Expr :=
  if fieldNames fields = [] then e else .within e (fieldNames fields)

/-- The tree of a query with a bound on the dates of the fields whose names can be written. -/
def withBound (fields : List String) (op : Comparison) (date : Option Date) (e : Expr) : Expr :=
  match date with
  | none => e
  | some d =>
    if fieldNames fields = [] then e
    else .and [e, .group (bounds op d (fieldNames fields))]

/-- **The tree of a query for one backend**, made of the tree of the query. -/
def withClauses (o : SearchOptions) (backend : Nat) (e : Expr) : Expr :=
  withBound o.dateFields .le o.maxDate <| withBound o.dateFields .ge o.minDate <|
    withFields o.fields <| withStatus o.status backend e

/-- The clause of a bound, if there is one, is read when no name in it is a keyword. -/
def BoundOk (fields : List String) (date : Option Date) : Prop :=
  date.isSome = true → ∀ name ∈ fieldNames fields, isKeyword name = false

/-- **No name in a clause is a keyword.** -/
structure Writable (o : SearchOptions) : Prop where
  fields : ∀ name ∈ fieldNames o.fields, isKeyword name = false
  minDate : BoundOk o.dateFields o.minDate
  maxDate : BoundOk o.dateFields o.maxDate

theorem isOptional_status (status : StatusFilter) (backend : Nat) :
    IsOptional (statusClause? status backend) True (withStatus status backend) := by
  unfold statusClause? withStatus
  cases h : status.bits? backend with
  | none => exact ⟨trivial, fun _ => rfl⟩
  | some bits => exact isClause_status h

theorem isOptional_fields (fields : List String) :
    IsOptional (fieldClause? fields) (∀ name ∈ fieldNames fields, isKeyword name = false)
      (withFields fields) := by
  unfold fieldClause? withFields
  rcases h : fieldNames fields with - | ⟨name, names⟩
  · exact ⟨by simp, fun _ => rfl⟩
  · refine isClause_within (List.cons_ne_nil _ _) fun x hx => mem_fieldNames fields ?_
    rw [h]
    exact hx

theorem isOptional_bound (fields : List String) (op : Comparison) (date : Option Date) :
    IsOptional (date.bind (dateClause? fields op.symbol)) (BoundOk fields date)
      (withBound fields op date) := by
  cases date with
  | none => exact ⟨by simp [BoundOk], fun _ => rfl⟩
  | some d =>
    unfold BoundOk withBound
    simp only [Option.bind_some, Option.isSome_some, forall_const, dateClause?]
    rcases h : fieldNames fields with - | ⟨name, names⟩
    · exact ⟨by simp, fun _ => rfl⟩
    · refine isClause_bounds (List.cons_ne_nil _ _) fun x hx => mem_fieldNames fields ?_
      rw [h]
      exact hx

theorem foldl_appendClause (cs : List (Option String)) (base : String) :
    (cs.filterMap id).foldl (fun text clause => text ++ " " ++ clause) base =
      cs.foldl appendClause base := by
  induction cs generalizing base with
  | nil => rfl
  | cons c cs ih =>
    cases c with
    | none => exact ih base
    | some c => exact ih (base ++ " " ++ c)

/-- The clauses are appended one after the other. -/
theorem backendQueryText_eq (base : String) (o : SearchOptions) (backend : Nat) :
    backendQueryText base o backend =
      appendClause (appendClause (appendClause (appendClause base
        (statusClause? o.status backend)) (fieldClause? o.fields)) (minDateClause? o))
        (maxDateClause? o) :=
  foldl_appendClause _ base

/-- **The tree of a query for one backend** is that of the query, wrapped by its clauses. It is
refused when the query is refused or a name in a clause is a keyword. -/
theorem parse_backendQueryText_eq_ok_iff {base : String} {o : SearchOptions} {backend : Nat}
    {e : Expr} :
    parse (backendQueryText base o backend) = .ok e ↔
      Writable o ∧ ∃ b, parse base = .ok b ∧ withClauses o backend b = e := by
  have hmax : IsOptional (maxDateClause? o) _ _ := isOptional_bound o.dateFields .le o.maxDate
  have hmin : IsOptional (minDateClause? o) _ _ := isOptional_bound o.dateFields .ge o.minDate
  -- the clause that was appended last is taken off first
  rw [backendQueryText_eq, hmax.parse_eq_ok_iff]
  simp only [hmin.parse_eq_ok_iff, (isOptional_fields o.fields).parse_eq_ok_iff,
    (isOptional_status o.status backend).parse_eq_ok_iff]
  constructor
  · rintro ⟨hok, _, ⟨hok', _, ⟨hok'', _, ⟨-, b, hb, rfl⟩, rfl⟩, rfl⟩, rfl⟩
    exact ⟨⟨hok'', hok', hok⟩, b, hb, rfl⟩
  · rintro ⟨⟨hok'', hok', hok⟩, b, hb, rfl⟩
    exact ⟨hok, _, ⟨hok', _, ⟨hok'', _, ⟨trivial, b, hb, rfl⟩, rfl⟩, rfl⟩, rfl⟩

/-- The query that finds every record is read as such. -/
theorem parse_matchAll : parse matchAll = .ok .all := by
  have hscan : (scan matchAll).toOption.map kinds = some [.word "all"] := by decide +kernel
  have hlone : loneWord "all" = .all := if_pos (by decide)
  obtain ⟨ts, hts, hks⟩ := Option.map_eq_some_iff.1 hscan
  refine parse_eq_ok_iff.2 ⟨ts, toOption_eq_some_iff.1 hts, ?_⟩
  rw [hks, ← hlone]
  exact .chain (.word "all" (by simp [TokenKind.bindsWord])) (.stop _ (by simp))

/-- The tree of a query with a record type that is a plain word. -/
theorem parse_queryText_eq_ok_iff {raw type : String} {o : SearchOptions} {e : Expr}
    (htype : o.recordType = some type) (hplain : IsPlain type) :
    parse (queryText raw o) = .ok e ↔ isKeyword type = false ∧
      ∃ b, parse (if Text.isBlankText raw then matchAll else raw) = .ok b ∧
        .and [b, .compare typeName .eq type] = e := by
  have htext : queryText raw o =
      (if Text.isBlankText raw then matchAll else raw) ++ " " ++ ("AND recordtype=" ++ type) := by
    have hne : type.isEmpty = false := by simpa using hplain.1
    simp only [queryText, htype, hne, Bool.false_eq_true, if_false, String.append_assoc]
    rfl
  rw [htext, (isClause_type hplain).parse_append_eq_ok_iff]

/-! ### Names that are no keywords -/

/-- **No name of a field is a keyword**, whether it can be written into a clause or not. -/
def NoKeywords (o : SearchOptions) : Prop :=
  ∀ name ∈ o.fields ++ o.dateFields, isKeyword name = false

instance (o : SearchOptions) : Decidable (NoKeywords o) :=
  inferInstanceAs (Decidable (∀ name ∈ o.fields ++ o.dateFields, isKeyword name = false))

/-- Names that are written into clauses are among the names of the options. -/
theorem NoKeywords.writable {o : SearchOptions} (h : NoKeywords o) : Writable o := by
  obtain ⟨hfields, hdates⟩ := List.forall_mem_append.1 h
  refine ⟨fun name hname => ?_, fun _ name hname => ?_, fun _ name hname => ?_⟩
  · exact hfields name (List.mem_filter.1 hname).1
  · exact hdates name (List.mem_filter.1 hname).1
  · exact hdates name (List.mem_filter.1 hname).1

/-- **Clauses are appended exactly.** When no name of a field is a keyword, the query for a backend
is read exactly when the query before its clauses is, whatever that leaves open; and its tree is
the tree of the query, wrapped by the status bits, the fields that can be written, the bound from
below and the bound from above. -/
theorem parse_backendQueryText_exact {o : SearchOptions} (hnames : NoKeywords o) (base : String)
    (backend : Nat) :
    ((∃ e, parse (backendQueryText base o backend) = .ok e) ↔ ∃ b, parse base = .ok b) ∧
      ∀ b, parse base = .ok b →
        parse (backendQueryText base o backend) = .ok (withClauses o backend b) := by
  have hread : ∀ b, parse base = .ok b →
      parse (backendQueryText base o backend) = .ok (withClauses o backend b) := fun b hb =>
    parse_backendQueryText_eq_ok_iff.2 ⟨hnames.writable, b, hb, rfl⟩
  refine ⟨⟨?_, ?_⟩, hread⟩
  · rintro ⟨e, he⟩
    obtain ⟨-, b, hb, -⟩ := parse_backendQueryText_eq_ok_iff.1 he
    exact ⟨b, hb⟩
  · rintro ⟨b, hb⟩
    exact ⟨_, hread b hb⟩

/-- Options with clauses wrap a query that is read, and a parenthesis that is left open before them
stays open. -/
theorem parse_backendQueryText_of_clauses :
    ∃ o : SearchOptions, NoKeywords o ∧
      backendQueryText "cat OR dog" o 1 = "cat OR dog AND (recordstatus=1xxxxx) " ++
        "IN (Title OR Caption) AND ( Year >= 2020-01-02 OR Month >= 2020-01-02 )" ∧
      parse (backendQueryText "cat OR dog" o 1) = .ok (.and [
        .within (.and [.or [.term "cat", .term "dog"],
          .group (.compare "recordstatus" .eq "1xxxxx")]) ["Title", "Caption"],
        .group (.or [.compare "Year" .ge "2020-01-02", .compare "Month" .ge "2020-01-02"])]) ∧
      ¬ ∃ e, parse (backendQueryText "(cat OR dog" o 1) = .ok e := by
  refine ⟨{
      fields := ["Title", "two words", "Caption"]
      dateFields := ["Year", "Month"]
      minDate := some ⟨2020, 1, 2, by decide⟩
      status := StatusFilter.empty.require 5 1 true },
    by decide, by decide +kernel, ?_, ?_⟩
  · have hscan : (scan "cat OR dog").toOption.map kinds =
        some [.word "cat", .disj, .word "dog"] := by decide +kernel
    have hcat : loneWord "cat" = .term "cat" := if_neg (by decide)
    have hdog : loneWord "dog" = .term "dog" := if_neg (by decide)
    have hparse : parse "cat OR dog" = .ok (.or [.term "cat", .term "dog"]) := by
      obtain ⟨ts, hts, hks⟩ := Option.map_eq_some_iff.1 hscan
      refine parse_eq_ok_iff.2 ⟨ts, toOption_eq_some_iff.1 hts, ?_⟩
      rw [hks, ← hcat, ← hdog]
      exact .chain (.word "cat" (by simp [TokenKind.bindsWord]))
        (.link rfl (.word "dog" (by simp)) (.stop _ (by simp)))
    have hbits : (StatusFilter.empty.require 5 1 true).bits? 1 = some "1xxxxx" := by decide +kernel
    have hfields : fieldNames ["Title", "two words", "Caption"] = ["Title", "Caption"] := by
      decide +kernel
    have hdates : fieldNames ["Year", "Month"] = ["Year", "Month"] := by decide +kernel
    have hdate : Date.toText ⟨2020, 1, 2, by decide⟩ = "2020-01-02" := by decide +kernel
    rw [(parse_backendQueryText_exact (by decide) "cat OR dog" 1).2 _ hparse]
    simp [withClauses, withBound, withFields, withStatus, hbits, hfields, hdates, bounds, orBounds,
      bound, hdate, statusName]
  · rw [(parse_backendQueryText_exact (by decide) "(cat OR dog" 1).1]
    have hread : (parse "(cat OR dog").toOption.isSome = false := by decide +kernel
    rintro ⟨b, hb⟩
    rw [toOption_eq_some_iff.2 hb] at hread
    cases hread

end FederatedSearch.Query
