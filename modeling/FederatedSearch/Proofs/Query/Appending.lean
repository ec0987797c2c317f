import FederatedSearch.Proofs.Query.Scanning

/-!
# Appending to a query

A text is appended to a query whose first token joins operands: a keyword. Nothing in a query can
reach over such a token but the links of its outermost chain, so what is read is the query itself
and then the links that the appended tokens are. A clause is a text whose tokens are links that
wrap what is before them; so **a query with a clause is read as the query, wrapped**, and it is
refused when the query is refused, whatever the query left open.

* `FederatedSearch.Query.Reads.splits`: reading tokens that are appended.
* `FederatedSearch.Query.Wraps`: tokens that are links and wrap what is before them.
* `FederatedSearch.Query.IsClause`: a text with such tokens.
* `FederatedSearch.Query.IsClause.parse_append_eq_ok_iff`: a query with a clause.
-/

namespace FederatedSearch.Query

/-- A keyword that only a link can start with. With `OR` a list of fields could go on. -/
def TokenKind.joins : TokenKind → Bool
  | .conj | .except | .within => true
  | _ => false

/-- A token that joins is none that a word takes. -/
theorem TokenKind.bindsWord_of_joins {k : TokenKind} (h : k.joins = true) :
    k.bindsWord = false := by
  cases k with
  | conj | except | within => rfl
  | _ => cases h

/-- A token that is a value joins nothing. -/
theorem TokenKind.joins_of_value? {k : TokenKind} {v : String} (h : k.value? = some v) :
    k.joins = false := by
  cases k with
  | word | phrase => rfl
  | _ => cases h

/-! ### Where a chain ends -/

/-- A chain and its links leave nothing, or a closing parenthesis first. -/
theorem Reads.head_eq_closeParen {p : Part} {ks ls : List TokenKind} {e : Expr}
    (h : Reads p ks e ls) (hp : p ≠ .operand) : ∀ k ∈ ls.head?, k = .closeParen := by
  induction h with
  | chain _ _ _ ih => exact ih nofun
  | stop _ hend => exact hend
  | link _ _ _ _ ih => exact ih nofun
  | adjacent _ _ _ ih => exact ih nofun
  | within _ _ ih => exact ih nofun
  | _ => exact absurd rfl hp

/-! ### Reading what is appended -/

section Splitting

variable {us : List TokenKind} (hus : ∀ k ∈ us.head?, k.joins = true)

include hus

/-- A token that joins nothing stands before the appended tokens. -/
theorem exists_of_cons_eq_append {k : TokenKind} {xs ks : List TokenKind} (hk : k.joins = false)
    (h : k :: xs = ks ++ us) : ∃ ks', ks = k :: ks' ∧ xs = ks' ++ us := by
  rcases List.cons_eq_append_iff.1 h with ⟨rfl, rfl⟩ | h
  · cases hk.symm.trans (hus k rfl)
  · exact h

/-- A list of fields is closed before the appended tokens. -/
theorem FieldNames.splits {xs ls : List TokenKind} {names : List String}
    (h : FieldNames xs names ls) :
    ∀ ks, xs = ks ++ us → ∃ ls', FieldNames ks names ls' ∧ ls = ls' ++ us := by
  induction h with
  | last name _ =>
    intro ks hks
    obtain ⟨js, rfl, hjs⟩ := exists_of_cons_eq_append hus rfl hks
    obtain ⟨ls, rfl, hls⟩ := exists_of_cons_eq_append hus rfl hjs
    exact ⟨ls, .last name ls, hls⟩
  | more name _ ih =>
    intro ks hks
    obtain ⟨js, rfl, hjs⟩ := exists_of_cons_eq_append hus rfl hks
    obtain ⟨is, rfl, his⟩ := exists_of_cons_eq_append hus rfl hjs
    obtain ⟨ls', hnames, hls⟩ := ih is his
    exact ⟨ls', .more name hnames, hls⟩

/-- The fields of a restriction stand before the appended tokens. -/
theorem Fields.splits {ks ls : List TokenKind} {names : List String}
    (h : Fields (ks ++ us) names ls) : ∃ ls', Fields ks names ls' ∧ ls = ls' ++ us := by
  generalize hxs : ks ++ us = xs at h
  cases h with
  | one name ls =>
    obtain ⟨ls', rfl, hls⟩ := exists_of_cons_eq_append hus rfl hxs.symm
    exact ⟨ls', .one name ls', hls⟩
  | several hnames =>
    obtain ⟨ks', rfl, hks⟩ := exists_of_cons_eq_append hus rfl hxs.symm
    obtain ⟨ls', hnames, hls⟩ := hnames.splits hus ks' hks
    exact ⟨ls', .several hnames, hls⟩

omit hus in
/-- What happens to a part that spells an expression and leaves some tokens, when others are
appended: an operand is as it was, and links go on with what is left. -/
def Part.Goes (us : List TokenKind) (e : Expr) (ls : List TokenKind) (e' : Expr)
    (ms : List TokenKind) : Part → Prop
  | .operand => e = e' ∧ ls ++ us = ms
  | .chain | .links _ => Reads (.links e) (ls ++ us) e' ms

/-- Appended tokens are links of the outermost chain, when they leave no closing parenthesis: all
other parts are read without them. -/
theorem Reads.splits {p : Part} {xs ms : List TokenKind} {e' : Expr}
    (hclosed : ∀ left e ks, ¬ Reads (.links left) us e (.closeParen :: ks))
    (h : Reads p xs e' ms) :
    ∀ ks, xs = ks ++ us → ∃ e ls, Reads p ks e ls ∧ p.Goes us e ls e' ms := by
  induction h with
  | chain _ _ ihfirst ihlinks =>
    intro ks hks
    obtain ⟨_, ls, hfirst, rfl, hls⟩ := ihfirst ks hks
    obtain ⟨e, ls', hrest, hgoes⟩ := ihlinks ls hls.symm
    exact ⟨e, ls', .chain hfirst hrest, hgoes⟩
  | group _ ih =>
    intro ks hks
    obtain ⟨js, rfl, hjs⟩ := exists_of_cons_eq_append hus rfl hks
    obtain ⟨e, ls, hinner, hlinks⟩ := ih js hjs
    -- The group is closed by a parenthesis of its own, since there is none to appended tokens.
    rcases ls with - | ⟨k, ls⟩
    · exact absurd hlinks (hclosed e _ _)
    · obtain rfl : k = .closeParen := hinner.head_eq_closeParen nofun k rfl
      obtain ⟨rfl, hls⟩ := reads_closeParen_iff.1 hlinks
      exact ⟨_, ls, .group hinner, rfl, (List.cons.inj hls).2⟩
  | phrase text _ =>
    intro ks hks
    obtain ⟨ls, rfl, rfl⟩ := exists_of_cons_eq_append hus rfl hks
    exact ⟨_, ls, .phrase text ls, rfl, rfl⟩
  | anywhere _ hk =>
    intro ks hks
    obtain ⟨js, rfl, hjs⟩ := exists_of_cons_eq_append hus rfl hks
    obtain ⟨ls, rfl, rfl⟩ := exists_of_cons_eq_append hus (TokenKind.joins_of_value? hk) hjs
    exact ⟨_, ls, .anywhere ls hk, rfl, rfl⟩
  | vocabulary word _ hk =>
    -- neither the word, nor what it takes, nor the value joins anything
    intro ks hks
    obtain ⟨js, rfl, hjs⟩ := exists_of_cons_eq_append hus rfl hks
    obtain ⟨is, rfl, his⟩ := exists_of_cons_eq_append hus rfl hjs
    obtain ⟨ls, rfl, rfl⟩ := exists_of_cons_eq_append hus (TokenKind.joins_of_value? hk) his
    exact ⟨_, ls, .vocabulary word ls hk, rfl, rfl⟩
  | compare field op _ hk =>
    intro ks hks
    obtain ⟨js, rfl, hjs⟩ := exists_of_cons_eq_append hus rfl hks
    obtain ⟨is, rfl, his⟩ := exists_of_cons_eq_append hus rfl hjs
    obtain ⟨ls, rfl, rfl⟩ := exists_of_cons_eq_append hus (TokenKind.joins_of_value? hk) his
    exact ⟨_, ls, .compare field op ls hk, rfl, rfl⟩
  | word text hnext =>
    intro ks hks
    obtain ⟨ls, rfl, rfl⟩ := exists_of_cons_eq_append hus rfl hks
    refine ⟨_, ls, .word text fun k hk => hnext k ?_, rfl, rfl⟩
    rw [List.head?_append, hk]
    rfl
  | stop e hend =>
    rintro ks rfl
    refine ⟨e, ks, .stop e fun k hk => hend k ?_, .stop e hend⟩
    rw [List.head?_append, hk]
    rfl
  | @link k op xs _ _ left _ _ hk hright hlinks ihright ihlinks =>
    -- either the appended tokens begin with this very link, or the link is part of the query
    intro ks hks
    rcases List.cons_eq_append_iff.1 hks with ⟨rfl, rfl⟩ | ⟨js, rfl, hjs⟩
    · exact ⟨left, [], .stop left (by simp), .link hk hright hlinks⟩
    · obtain ⟨_, ls, hoperand, rfl, hls⟩ := ihright js hjs
      obtain ⟨e, ls', hrest, hgoes⟩ := ihlinks ls hls.symm
      exact ⟨e, ls', .link hk hoperand hrest, hgoes⟩
  | adjacent _ _ ihright ihlinks =>
    intro ks hks
    obtain ⟨_, ls, hoperand, rfl, hls⟩ := ihright ks hks
    obtain ⟨e, ls', hrest, hgoes⟩ := ihlinks ls hls.symm
    exact ⟨e, ls', .adjacent hoperand hrest, hgoes⟩
  | @within xs _ _ left _ _ hfields hlinks ihlinks =>
    intro ks hks
    rcases List.cons_eq_append_iff.1 hks with ⟨rfl, rfl⟩ | ⟨js, rfl, rfl⟩
    · exact ⟨left, [], .stop left (by simp), .within hfields hlinks⟩
    · obtain ⟨ls, hnames, hls⟩ := hfields.splits hus
      obtain ⟨e, ls', hrest, hgoes⟩ := ihlinks ls hls
      exact ⟨e, ls', .within hnames hrest, hgoes⟩

omit hus in
theorem FieldNames.append {ks ls : List TokenKind} {names : List String}
    (h : FieldNames ks names ls) (us : List TokenKind) :
    FieldNames (ks ++ us) names (ls ++ us) := by
  induction h with
  | last name ks => exact .last name (ks ++ us)
  | more name _ ih => exact .more name ih

omit hus in
theorem Fields.append {ks ls : List TokenKind} {names : List String} (h : Fields ks names ls)
    (us : List TokenKind) : Fields (ks ++ us) names (ls ++ us) := by
  cases h with
  | one name ks => exact .one name (ls ++ us)
  | several hnames => exact .several (hnames.append us)

/-- A part is read with tokens appended as it is read without them. -/
theorem Reads.append {p : Part} {ks ls : List TokenKind} {e : Expr} (h : Reads p ks e ls) :
    ∀ e' ms, p.Goes us e ls e' ms → Reads p (ks ++ us) e' ms := by
  induction h with
  | chain _ _ ihfirst ihlinks =>
    intro e' ms hrest
    exact .chain (ihfirst _ _ ⟨rfl, rfl⟩) (ihlinks e' ms hrest)
  | @group ks ls inner hinner ih =>
    rintro _ _ ⟨rfl, rfl⟩
    exact .group (ih _ _ (.stop inner (by simp)))
  | phrase text ks =>
    rintro _ _ ⟨rfl, rfl⟩
    exact .phrase text (ks ++ us)
  | anywhere ks hk =>
    rintro _ _ ⟨rfl, rfl⟩
    exact .anywhere (ks ++ us) hk
  | vocabulary word ks hk =>
    rintro _ _ ⟨rfl, rfl⟩
    exact .vocabulary word (ks ++ us) hk
  | compare field op ks hk =>
    rintro _ _ ⟨rfl, rfl⟩
    exact .compare field op (ks ++ us) hk
  | @word ks text hnext =>
    rintro _ _ ⟨rfl, rfl⟩
    -- at the end of the query, the word now looks at the first of the appended tokens
    refine .word text fun k hk => ?_
    rcases ks with - | ⟨k', ks⟩
    · exact TokenKind.bindsWord_of_joins (hus k hk)
    · exact hnext k hk
  | stop e hend =>
    intro e' ms hrest
    exact hrest
  | link hk _ _ ihright ihlinks =>
    intro e' ms hrest
    exact .link hk (ihright _ _ ⟨rfl, rfl⟩) (ihlinks e' ms hrest)
  | adjacent _ _ ihright ihlinks =>
    intro e' ms hrest
    exact .adjacent (ihright _ _ ⟨rfl, rfl⟩) (ihlinks e' ms hrest)
  | within hfields _ ihlinks =>
    intro e' ms hrest
    exact .within (hfields.append us) (ihlinks e' ms hrest)

/-- **Tokens that are appended to a query are links after it**: what a part is read as with them
follows from what it is read as without them. -/
theorem reads_append_iff (hclosed : ∀ left e ks, ¬ Reads (.links left) us e (.closeParen :: ks))
    {p : Part} {ks ms : List TokenKind} {e' : Expr} :
    Reads p (ks ++ us) e' ms ↔ ∃ e ls, Reads p ks e ls ∧ p.Goes us e ls e' ms := by
  constructor
  · intro h
    exact h.splits hus hclosed ks rfl
  · rintro ⟨e, ls, h, hrest⟩
    exact h.append hus e' ms hrest

end Splitting

/-! ### Clauses -/

/-- **Tokens that wrap what is before them**: when `ok`, they are links that make `wrap left` of the
expression `left` before them, and otherwise nothing is read. -/
structure Wraps (us : List TokenKind) (ok : Prop) (wrap : Expr → Expr) : Prop where
  /-- They start with a keyword that only a link can start with. -/
  joins : ∀ k ∈ us.head?, k.joins = true
  /-- They are read as links, and to the end. -/
  reads_iff : ∀ left e ms, Reads (.links left) us e ms ↔ ok ∧ wrap left = e ∧ ms = []

/-- Tokens that wrap are read after a chain as what wraps its expression. -/
theorem Wraps.reads_append_iff {us ks : List TokenKind} {ok : Prop} {wrap : Expr → Expr} {e : Expr}
    (h : Wraps us ok wrap) :
    Reads .chain (ks ++ us) e [] ↔ ok ∧ ∃ base, Reads .chain ks base [] ∧ wrap base = e := by
  have hclosed : ∀ left e ks, ¬ Reads (.links left) us e (.closeParen :: ks) := by
    intro left e ks hreads
    cases ((h.reads_iff _ _ _).1 hreads).2.2
  rw [Query.reads_append_iff h.joins hclosed]
  constructor
  · rintro ⟨base, ls, hbase, hlinks⟩
    rcases ls with - | ⟨k, ls⟩
    · obtain ⟨hok, hwrap, -⟩ := (h.reads_iff _ _ _).1 hlinks
      exact ⟨hok, base, hbase, hwrap⟩
    · obtain rfl : k = .closeParen := hbase.head_eq_closeParen nofun k rfl
      cases (reads_closeParen_iff.1 hlinks).2
  · rintro ⟨hok, base, hbase, rfl⟩
    exact ⟨base, [], hbase, (h.reads_iff _ _ _).2 ⟨hok, rfl, rfl⟩⟩

/-- **A clause**: a text without quotes whose tokens wrap what is before them. -/
def IsClause (clause : String) (ok : Prop) (wrap : Expr → Expr) : Prop :=
  '"' ∉ clause.toList ∧ ∃ us, Scans clause.toList us ∧ Wraps us ok wrap

/-- **A query with a clause is read as the query, wrapped**, and only when the query is read. -/
theorem IsClause.parse_append_eq_ok_iff {clause : String} {ok : Prop} {wrap : Expr → Expr}
    (h : IsClause clause ok wrap) {base : String} {e : Expr} :
    parse (base ++ " " ++ clause) = .ok e ↔ ok ∧ ∃ b, parse base = .ok b ∧ wrap b = e := by
  obtain ⟨hquote, us, hscans, hwraps⟩ := h
  have htext : (base ++ " " ++ clause).toList = base.toList ++ ' ' :: clause.toList := by simp
  rw [parse_eq_ok_iff_scans, htext]
  constructor
  · rintro ⟨ks, hks, hreads⟩
    obtain ⟨js, ls, rfl, hjs, hls⟩ := (scans_append_iff hquote).1 hks
    obtain rfl := hls.unique hscans
    obtain ⟨hok, b, hb, hwrap⟩ := hwraps.reads_append_iff.1 hreads
    exact ⟨hok, b, parse_eq_ok_iff_scans.2 ⟨js, hjs, hb⟩, hwrap⟩
  · rintro ⟨hok, b, hb, hwrap⟩
    obtain ⟨js, hjs, hreads⟩ := parse_eq_ok_iff_scans.1 hb
    exact ⟨js ++ us, hjs.append hquote hscans, hwraps.reads_append_iff.2 ⟨hok, b, hreads, hwrap⟩⟩

end FederatedSearch.Query
