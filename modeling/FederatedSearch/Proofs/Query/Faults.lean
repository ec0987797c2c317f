import FederatedSearch.Proofs.Query.Appending
import FederatedSearch.Proofs.Query.Layout
import FederatedSearch.Proofs.Query.Progress

/-!
# Where a query is refused

A query is refused with a place and a cause, and the place is always one in the query: its start
when there is nothing but blanks in it, a quote without a partner, the token that the cause names,
or the end when a token is missing. Since tokens and quotes start at characters, no place falls
inside one, whatever the query and wherever it breaks off.

* `FederatedSearch.Query.FaultAt`: the places of all causes.
* `FederatedSearch.Query.faultAt_of_parse`: **a query is refused at such a place**.
* `FederatedSearch.Query.FaultAt.pointsInto`: each of them is between two characters.
* `FederatedSearch.Query.parse_points_into_source`: both, with the fact that reading always ends
  because it goes forward.
-/

namespace FederatedSearch.Query

/-- **Where a query is refused**, by the cause. -/
inductive FaultAt (source : String) : SyntaxError → Prop
  /-- A query of blanks alone is refused at its start. -/
  | blank : (∀ c ∈ source.toList, Text.isBlank c = true) → FaultAt source ⟨0, .emptyQuery⟩
  /-- A quote without a partner is the last one, after an even number of others. -/
  | quote {before after : List Char} : source.toList = before ++ '"' :: after → '"' ∉ after →
    Even (before.count '"') → FaultAt source ⟨Text.byteLength before, .unterminatedPhrase⟩
  /-- Everything else is refused at a token, or at the end. -/
  | reading {ts : List Token} {fault : SyntaxError} : scan source = .ok ts →
    FaultIn (Text.byteLength source.toList) ts fault → FaultAt source fault

/-- **A refusal that points into the query**, in front of one of its characters or at its end. -/
structure PointsInto (source : String) (fault : SyntaxError) : Prop where
  /-- The place is not behind the end. -/
  le_end : fault.position ≤ Text.byteLength source.toList
  /-- The place is between two characters. -/
  between : ∃ before after, source.toList = before ++ after ∧
    fault.position = Text.byteLength before
  /-- What stands there. -/
  place : FaultAt source fault

/-! ### The places -/

section Places

variable {source : String} {fault : SyntaxError}

/-- **Where a query is refused there is a place between two characters**, or the start or the
end. -/
theorem FaultAt.between (h : FaultAt source fault) :
    ∃ before after, source.toList = before ++ after ∧
      fault.position = Text.byteLength before := by
  cases h with
  | blank => exact ⟨[], source.toList, rfl, rfl⟩
  | quote hsplit => exact ⟨_, _, hsplit, rfl⟩
  | reading hscan hfault =>
    cases hfault with
    | atEnd => exact ⟨source.toList, [], (List.append_nil _).symm, rfl⟩
    | atToken ht =>
      obtain ⟨before, lexeme, after, hsplit, hplace, -⟩ :=
        (layout_of_scanFrom hscan).exists_spells _ ht
      exact ⟨before, lexeme ++ after, hsplit, by rw [hplace, Nat.zero_add]⟩

theorem FaultAt.pointsInto (h : FaultAt source fault) : PointsInto source fault where
  le_end := by
    obtain ⟨before, after, hsplit, hplace⟩ := h.between
    rw [hplace, hsplit, Text.byteLength_append]
    exact Nat.le_add_right _ _
  between := h.between
  place := h

/-- A query without tokens is blank. -/
theorem forall_isBlank_of_scan (h : scan source = .ok []) :
    ∀ c ∈ source.toList, Text.isBlank c = true := by
  have hlayout : Layout 0 source.toList [] := layout_of_scanFrom h
  generalize source.toList = cs at hlayout
  cases hlayout with
  | done hblanks => exact hblanks

/-- What a chain leaves starts with a parenthesis that closes. -/
theorem kind_eq_closeParen_of_watchChain {fin limit : Nat} {ts rest : List Token} {t : Token}
    {e : Expr} (hlen : ts.length < limit) (h : watchChain fin limit ts = .ok (e, t :: rest)) :
    t.kind = .closeParen := by
  rw [watchChain_eq hlen, toWatched_eq_ok_iff] at h
  obtain ⟨hrest, hread⟩ := h
  exact (reads_of_parseChain hread).head_eq_closeParen nofun t.kind rfl

/-- **A query is refused at the place of the cause.** -/
theorem faultAt_of_parse (h : parse source = .error fault) : FaultAt source fault := by
  have hwatched : watchParse source = .error (.refused fault) := by
    rw [watchParse_eq, h]
    rfl
  unfold watchParse at hwatched
  split at hwatched
  · next hscan =>
    cases hwatched
    obtain ⟨before, after, hsplit, hafter, heven, rfl⟩ := exists_of_scanFrom_eq_error hscan
    rw [Nat.zero_add]
    exact .quote hsplit hafter heven
  · next hscan =>
    cases hwatched
    exact .blank (forall_isBlank_of_scan hscan)
  · next ts _ hscan =>
    have hkeeps := keeps_watchChain (Text.byteLength source.toList) (ts.length + 1) ts
    rcases hchain : watchChain (Text.byteLength source.toList) (ts.length + 1) ts with
      halt | ⟨e, rest⟩
    · rw [hchain] at hkeeps hwatched
      cases hwatched
      cases hkeeps with
      | refuses hfault => exact .reading hscan hfault
    · rw [hchain] at hkeeps hwatched
      rcases rest with - | ⟨t, rest⟩
      · cases hwatched
      · -- a parenthesis is left that no chain has opened
        cases hwatched
        have hkind := kind_eq_closeParen_of_watchChain (Nat.lt_succ_self _) hchain
        cases hkeeps with
        | leaves hrest =>
          exact .reading hscan (.atToken (hrest.subset List.mem_cons_self) (by rw [hkind]; rfl))

end Places

/-! ### Tokens that are taken -/

section Taking

variable {fin : Nat} {ts : List Token}

/-- What leaves fewer tokens, and the last ones, has taken the first. -/
theorem exists_taken {α : Type} {a : α} {rest : List Token}
    (hkeeps : Keeps fin ts (.ok (a, rest))) (hlen : rest.length < ts.length) :
    ∃ taken, taken ≠ [] ∧ ts = taken ++ rest := by
  cases hkeeps with
  | leaves hrest =>
    obtain ⟨taken, rfl⟩ := hrest
    refine ⟨taken, ?_, rfl⟩
    rintro rfl
    exact absurd hlen (Nat.lt_irrefl _)

theorem exists_taken_of_parseChain {r : { r : Expr × List Token // r.2.length < ts.length }}
    (h : parseChain fin ts = .ok r) : ∃ taken, taken ≠ [] ∧ ts = taken ++ r.1.2 := by
  have hkeeps := keeps_watchChain fin (ts.length + 1) ts
  rw [watchChain_eq (Nat.lt_succ_self _), h] at hkeeps
  exact exists_taken hkeeps r.2

theorem exists_taken_of_parseOperand {r : { r : Expr × List Token // r.2.length < ts.length }}
    (h : parseOperand fin ts = .ok r) : ∃ taken, taken ≠ [] ∧ ts = taken ++ r.1.2 := by
  have hkeeps := keeps_watchOperand fin ts
  rw [watchOperand_eq, h] at hkeeps
  exact exists_taken hkeeps r.2

end Taking

/-! ### Queries -/

/-- **A query is refused at a place in it, and reading always ends**: every turn of a loop and every
chain inside another one begins with fewer tokens than the one before it, and every chain and
operand that is read has taken a token. -/
theorem parse_points_into_source (source : String) :
    (∀ fault, parse source = .error fault → PointsInto source fault) ∧
      watchParse source = (parse source).mapError .refused ∧
      ∀ fin ts,
        (∀ r, parseChain fin ts = .ok r → ∃ taken, taken ≠ [] ∧ ts = taken ++ r.1.2) ∧
        ∀ r, parseOperand fin ts = .ok r → ∃ taken, taken ≠ [] ∧ ts = taken ++ r.1.2 := by
  refine ⟨fun fault h => (faultAt_of_parse h).pointsInto, watchParse_eq source, fun fin ts => ?_⟩
  exact ⟨fun _ => exists_taken_of_parseChain, fun _ => exists_taken_of_parseOperand⟩

/-- A parenthesis without a partner, after a letter of two bytes. -/
theorem parse_points_into_source_of_open_group :
    parse "é (b" = .error ⟨3, .unbalanced⟩ ∧ PointsInto "é (b" ⟨3, .unbalanced⟩ := by
  have hfault : (match parse "é (b" with
      | .error fault => decide (fault = ⟨3, .unbalanced⟩)
      | .ok _ => false) = true := by
    decide +kernel
  have hparse : parse "é (b" = .error ⟨3, .unbalanced⟩ := by
    split at hfault
    · next fault hrefused => rw [hrefused, of_decide_eq_true hfault]
    · cases hfault
  exact ⟨hparse, (parse_points_into_source "é (b").1 _ hparse⟩

end FederatedSearch.Query
