import FederatedSearch.Proofs.Query.Spelling
import Mathlib.Algebra.Group.Nat.Even
import Mathlib.Algebra.Ring.Parity

/-!
# Where the tokens of a text stand

A text that is scanned is blanks and lexemes in turn, and every token stands where its lexeme
starts: nothing of the text is lost but how long the blanks are and how a keyword or the blanks of
a phrase are written. A text cannot be scanned exactly when one of its quotes has no partner, and
then it is refused at the last one.

* `FederatedSearch.Query.Spells`: what a token is spelled as, before what comes after it.
* `FederatedSearch.Query.Layout`: a text as blanks and lexemes in turn.
* `FederatedSearch.Query.scanFrom_eq_ok_iff`: **scanning finds the layout of a text**.
* `FederatedSearch.Query.exists_of_scanFrom_eq_error`: a text is refused at its last quote.
* `FederatedSearch.Query.scan_lossless`: both for a query, with what follows for its tokens.
-/

namespace FederatedSearch.Query

/-! ### Lexemes -/

/-- The keyword of a kind of tokens, in small letters. -/
def TokenKind.keyword? : TokenKind → Option String
  | .conj => some "and"
  | .disj => some "or"
  | .except => some "except"
  | .within => some "in"
  | _ => none

/-- **What a token is spelled as**, before the text that comes after it. That text shows that the
token does not go on: no word goes on with a word character, and no comparison with a character
that makes it a longer one. -/
inductive Spells : TokenKind → List Char → List Char → Prop
  | openParen {rest : List Char} : Spells .openParen ['('] rest
  | closeParen {rest : List Char} : Spells .closeParen [')'] rest
  | colon {rest : List Char} : Spells .colon [':'] rest
  /-- The longest symbol of a comparison that the text starts with. -/
  | compare {op : Comparison} {rest : List Char} :
    (∀ other : Comparison, other.symbol.toList <+: op.symbol.toList ++ rest →
      other.symbol.toList.length ≤ op.symbol.toList.length) →
    Spells (.compare op) op.symbol.toList rest
  /-- Two quotes, and what is between them with its blanks collapsed. -/
  | phrase {body rest : List Char} : '"' ∉ body →
    Spells (.phrase (.ofList (Text.collapse body))) ('"' :: (body ++ ['"'])) rest
  | word {w : String} {rest : List Char} : IsWord w → EndsWord rest →
    Spells (.word w) w.toList rest
  /-- A keyword in any case of letters. -/
  | keyword {k : TokenKind} {w name : String} {rest : List Char} : k.keyword? = some name →
    Text.sameAscii w name = true → IsPlain w → EndsWord rest → Spells k w.toList rest

/-- A keyword in any case of letters is read as its kind. -/
theorem ofWord_of_keyword? {k : TokenKind} {w name : String} (hk : k.keyword? = some name)
    (hsame : Text.sameAscii w name = true) : TokenKind.ofWord w = k := by
  have hlower : Text.asciiLower w = name := by
    rw [Text.sameAscii_iff.1 hsame]
    cases k <;> cases hk <;> decide
  unfold TokenKind.ofWord
  rw [hlower]
  cases k <;> cases hk <;> rfl

/-- A run of word characters is a word, or the keyword of the kind that it is read as. -/
theorem ofWord_spelled (w : String) :
    (isKeyword w = false ∧ TokenKind.ofWord w = .word w) ∨
      ∃ name, (TokenKind.ofWord w).keyword? = some name ∧ Text.sameAscii w name = true := by
  rcases ofWord_cases w with hword | ⟨hkey, -⟩
  · exact .inl hword
  · obtain ⟨name, hname, hsame⟩ := List.any_eq_true.1 hkey
    obtain ⟨k, hk⟩ : ∃ k : TokenKind, k.keyword? = some name := by
      simp only [keywords, List.mem_cons, List.not_mem_nil, or_false] at hname
      rcases hname with rfl | rfl | rfl | rfl
      exacts [⟨.conj, rfl⟩, ⟨.disj, rfl⟩, ⟨.except, rfl⟩, ⟨.within, rfl⟩]
    exact .inr ⟨name, by rw [ofWord_of_keyword? hk hsame, hk], hsame⟩

/-- A run of word characters is what its token is spelled as, where it ends. -/
theorem Spells.ofWord {w : String} {rest : List Char} (hw : IsPlain w) (hrest : EndsWord rest) :
    Spells (.ofWord w) w.toList rest := by
  rcases ofWord_spelled w with ⟨hkey, hword⟩ | ⟨name, hname, hsame⟩
  · rw [hword]
    exact .word ⟨hw, hkey⟩ hrest
  · exact .keyword hname hsame hw hrest

/-- Where a run of word characters ends, it does not go on. -/
theorem endsWord_drop_takeWhile (cs : List Char) :
    EndsWord (cs.drop (cs.takeWhile isWordChar).length) := by
  intro c hc
  have hsplit : cs.takeWhile isWordChar ++ cs.dropWhile isWordChar = cs :=
    List.takeWhile_append_dropWhile
  have hdrop : cs.drop (cs.takeWhile isWordChar).length = cs.dropWhile isWordChar := by
    nth_rewrite 2 [← hsplit]
    exact List.drop_left
  rw [hdrop] at hc
  have hnot := List.head?_dropWhile_not isWordChar cs
  rw [Option.mem_def.1 hc] at hnot
  simpa using hnot

/-- No symbol of a comparison has more than two characters. -/
theorem length_symbol_le (op : Comparison) : op.symbol.toList.length ≤ 2 := by
  cases op <;> decide

/-- A symbol of two characters is the longest one, whatever comes after it. -/
theorem Spells.compare_two (op : Comparison) {rest : List Char}
    (hop : op.symbol.toList.length = 2) : Spells (.compare op) op.symbol.toList rest :=
  .compare fun other _ => hop ▸ length_symbol_le other

/-- A symbol of one character is the longest one before a character that none goes on with. -/
theorem Spells.compare_one (op : Comparison) {c : Char} {rest : List Char}
    (hop : op.symbol.toList = [c])
    (hrest : ∀ other : Comparison, ∀ d ∈ rest.head?, other.symbol.toList ≠ [c, d]) :
    Spells (.compare op) [c] rest := by
  rw [← hop]
  refine .compare fun other hother => ?_
  have hle := length_symbol_le other
  rcases hlist : other.symbol.toList with - | ⟨a, - | ⟨d, - | ⟨e, es⟩⟩⟩
  · simp
  · simp [hop]
  · rw [hop, hlist, List.singleton_append, List.cons_prefix_cons] at hother
    obtain ⟨rfl, hd⟩ := hother
    rcases rest with - | ⟨b, rest⟩
    · simp at hd
    · rw [List.cons_prefix_cons] at hd
      exact absurd (hd.1 ▸ hlist) (hrest other b rfl)
  · rw [hlist] at hle
    simp at hle

/-- What is no blank and no word character is one of the seven that stand for themselves. -/
theorem mem_marks {c : Char} (hblank : Text.isBlank c = false) (hword : isWordChar c = false) :
    c ∈ ['(', ')', '"', ':', '=', '<', '>'] := by
  by_contra hmark
  refine absurd (isWordChar_of_forall hblank fun d hd hcd => hmark (hcd ▸ hd)) ?_
  simp [hword]

/-- What starts with `<` is the longest comparison that does. -/
theorem spells_less {cs : List Char} {k : TokenKind} {n : Nat}
    (h : lexeme? '<' cs = some (k, n)) : Spells k ('<' :: cs.take n) (cs.drop n) := by
  rcases cs with - | ⟨c, cs⟩
  · cases h
    exact .compare_one .lt rfl fun _ _ hd => by simp at hd
  · by_cases hle : c = '='
    · subst hle
      cases h
      exact .compare_two .le rfl
    · by_cases hne : c = '>'
      · subst hne
        cases h
        exact .compare_two .ne rfl
      · have hlt : lexeme? '<' (c :: cs) = some (.compare .lt, 0) := by
          simp [lexeme?, hle, hne]
        cases hlt.symm.trans h
        refine .compare_one .lt rfl fun other d hd => ?_
        obtain rfl := Option.mem_some.1 hd
        cases other <;> simp [Comparison.symbol, Ne.symm hle, Ne.symm hne]

/-- What starts with `>` is the longest comparison that does. -/
theorem spells_more {cs : List Char} {k : TokenKind} {n : Nat}
    (h : lexeme? '>' cs = some (k, n)) : Spells k ('>' :: cs.take n) (cs.drop n) := by
  rcases cs with - | ⟨c, cs⟩
  · cases h
    exact .compare_one .gt rfl fun _ _ hd => by simp at hd
  · by_cases hge : c = '='
    · subst hge
      cases h
      exact .compare_two .ge rfl
    · have hgt : lexeme? '>' (c :: cs) = some (.compare .gt, 0) := by
        simp [lexeme?, hge]
      cases hgt.symm.trans h
      refine .compare_one .gt rfl fun other d hd => ?_
      obtain rfl := Option.mem_some.1 hd
      cases other <;> simp [Comparison.symbol, Ne.symm hge]

/-- **The characters that a token takes are what it is spelled as.** -/
theorem spells_of_lexeme? {c : Char} {cs : List Char} {k : TokenKind} {n : Nat}
    (hc : Text.isBlank c = false) (h : lexeme? c cs = some (k, n)) :
    Spells k (c :: cs.take n) (cs.drop n) := by
  cases hword : isWordChar c with
  | true =>
    rw [lexeme?_of_isWordChar hword] at h
    obtain ⟨rfl, rfl⟩ := Prod.mk.inj (Option.some.inj h)
    have hrun : cs.take (cs.takeWhile isWordChar).length = cs.takeWhile isWordChar :=
      (List.prefix_iff_eq_take.1 (List.takeWhile_prefix isWordChar)).symm
    have hplain : IsPlain (.ofList (c :: cs.takeWhile isWordChar)) := by
      refine ⟨by simp, ?_⟩
      rw [String.toList_ofList, List.forall_mem_cons]
      exact ⟨hword, fun _ => List.mem_takeWhile_imp⟩
    have hspells := Spells.ofWord hplain (endsWord_drop_takeWhile cs)
    rw [String.toList_ofList] at hspells
    rwa [hrun]
  | false =>
    have hmark := mem_marks hc hword
    simp only [List.mem_cons, List.not_mem_nil, or_false] at hmark
    rcases hmark with rfl | rfl | rfl | rfl | rfl | rfl | rfl
    · cases h
      exact .openParen
    · cases h
      exact .closeParen
    · by_cases hmem : '"' ∈ cs
      · obtain ⟨body, rest, rfl, hbody⟩ := List.eq_append_cons_of_mem hmem
        cases (lexeme?_quote hbody rest).symm.trans h
        rw [List.append_cons, List.take_left' (by simp), List.drop_left' (by simp)]
        exact .phrase hbody
      · cases (lexeme?_open_quote hmem).symm.trans h
    · cases h
      exact .colon
    · cases h
      exact .compare_one .eq rfl fun other _ _ => by
        cases other <;> simp [Comparison.symbol]
    · exact spells_less h
    · exact spells_more h

/-- Where no token starts, a quote has no partner. -/
theorem of_lexeme?_eq_none {c : Char} {cs : List Char} (hnone : lexeme? c cs = none) :
    c = '"' ∧ '"' ∉ cs := by
  have h := hnone
  unfold lexeme? at h
  dsimp only at h
  -- every mark is a token
  iterate 4
    split at h
    · cases h
  split at h
  · split at h <;> cases h
  split at h
  · split at h <;> cases h
  split at h
  · rename_i hquote
    obtain rfl := eq_of_beq hquote
    refine ⟨rfl, fun hmem => ?_⟩
    obtain ⟨body, rest, rfl, hbody⟩ := List.eq_append_cons_of_mem hmem
    cases (lexeme?_quote hbody rest).symm.trans hnone
  -- and so is every run of word characters
  · cases h

/-- A run of word characters is scanned up to where it ends. -/
theorem lexeme?_of_isPlain {w : String} {rest : List Char} (hw : IsPlain w)
    (hrest : EndsWord rest) : ∃ c tail, w.toList = c :: tail ∧ Text.isBlank c = false ∧
      lexeme? c (tail ++ rest) = some (.ofWord w, tail.length) := by
  rcases hlist : w.toList with - | ⟨c, tail⟩
  · exact absurd (String.toList_eq_nil_iff.1 hlist) hw.1
  · have hchars := hw.2
    rw [hlist, List.forall_mem_cons] at hchars
    refine ⟨c, tail, rfl, isBlank_of_isWordChar hchars.1, ?_⟩
    rw [lexeme?_of_isWordChar hchars.1, takeWhile_isWordChar_append hchars.2 hrest, ← hlist,
      String.ofList_toList]

/-- **What a token is spelled as makes the token**, when it is scanned. -/
theorem Spells.exists_lexeme? {k : TokenKind} {lexeme rest : List Char}
    (h : Spells k lexeme rest) : ∃ c tail, lexeme = c :: tail ∧ Text.isBlank c = false ∧
      lexeme? c (tail ++ rest) = some (k, tail.length) := by
  cases h with
  | openParen => exact ⟨_, _, rfl, by decide, rfl⟩
  | closeParen => exact ⟨_, _, rfl, by decide, rfl⟩
  | colon => exact ⟨_, _, rfl, by decide, rfl⟩
  | @compare op _ hlongest =>
    cases op with
    | lt =>
      rcases rest with - | ⟨d, rest⟩
      · exact ⟨_, _, rfl, by decide, rfl⟩
      · have hle : d ≠ '=' := by
          rintro rfl
          exact absurd (hlongest .le ⟨rest, rfl⟩) (by decide)
        have hne : d ≠ '>' := by
          rintro rfl
          exact absurd (hlongest .ne ⟨rest, rfl⟩) (by decide)
        exact ⟨'<', [], rfl, by decide, by simp [lexeme?, hle, hne]⟩
    | gt =>
      rcases rest with - | ⟨d, rest⟩
      · exact ⟨_, _, rfl, by decide, rfl⟩
      · have hge : d ≠ '=' := by
          rintro rfl
          exact absurd (hlongest .ge ⟨rest, rfl⟩) (by decide)
        exact ⟨'>', [], rfl, by decide, by simp [lexeme?, hge]⟩
    | _ => exact ⟨_, _, rfl, by decide, rfl⟩
  | phrase hbody =>
    refine ⟨_, _, rfl, by decide, ?_⟩
    rw [List.append_assoc, List.singleton_append, lexeme?_quote hbody, List.length_append,
      List.length_singleton]
  | word hw hrest =>
    rw [← ofWord_of_isKeyword_eq_false hw.not_keyword]
    exact lexeme?_of_isPlain hw.plain hrest
  | keyword hk hsame hw hrest =>
    rw [← ofWord_of_keyword? hk hsame]
    exact lexeme?_of_isPlain hw hrest

/-- A lexeme takes room. -/
theorem Spells.byteLength_pos {k : TokenKind} {lexeme rest : List Char}
    (h : Spells k lexeme rest) : 0 < Text.byteLength lexeme := by
  obtain ⟨c, tail, rfl, -⟩ := h.exists_lexeme?
  have hc := c.utf8Size_pos
  simp only [Text.byteLength_cons]
  omega

/-- **Every lexeme holds as many opening as closing quotes.** -/
theorem Spells.even_count {k : TokenKind} {lexeme rest : List Char} (h : Spells k lexeme rest) :
    Even (lexeme.count '"') := by
  have hplain : ∀ w : String, IsPlain w → Even (w.toList.count '"') := by
    intro w hw
    rw [List.count_eq_zero.2 fun hmem => absurd (hw.2 _ hmem) (by decide)]
    exact ⟨0, rfl⟩
  cases h with
  | openParen => decide
  | closeParen => decide
  | colon => decide
  | @compare op _ _ => cases op <;> decide
  | phrase hbody => simp [List.count_eq_zero.2 hbody]
  | word hw _ => exact hplain _ hw.plain
  | keyword _ _ hw _ => exact hplain _ hw

/-! ### Layouts -/

/-- **A text as blanks and lexemes in turn**: the text starts at a place, and every token stands
where its lexeme starts, with nothing but blanks before it up to the end of the lexeme before. -/
inductive Layout : Nat → List Char → List Token → Prop
  /-- Nothing but blanks is left. -/
  | done {start : Nat} {blanks : List Char} :
    (∀ c ∈ blanks, Text.isBlank c = true) → Layout start blanks []
  /-- Blanks, a lexeme, and the text after it. -/
  | token {start : Nat} {blanks lexeme rest : List Char} {k : TokenKind} {ts : List Token} :
    (∀ c ∈ blanks, Text.isBlank c = true) → Spells k lexeme rest →
    Layout (start + Text.byteLength blanks + Text.byteLength lexeme) rest ts →
    Layout start (blanks ++ (lexeme ++ rest)) (⟨start + Text.byteLength blanks, k⟩ :: ts)

section Layout

variable {start : Nat} {cs : List Char} {ts : List Token}

/-- A blank more at the start of a text. -/
theorem Layout.cons_blank {c : Char} (hc : Text.isBlank c = true)
    (h : Layout (start + c.utf8Size) cs ts) : Layout start (c :: cs) ts := by
  cases h with
  | done hblanks => exact .done (List.forall_mem_cons.2 ⟨hc, hblanks⟩)
  | @token _ blanks lexeme rest k ts hblanks hspells hrest =>
    have hplace : start + c.utf8Size + Text.byteLength blanks =
        start + Text.byteLength (c :: blanks) := by
      rw [Text.byteLength_cons, Nat.add_assoc]
    rw [hplace] at hrest ⊢
    exact .token (List.forall_mem_cons.2 ⟨hc, hblanks⟩) hspells hrest

/-- The tokens of a text stand as the text is laid out. -/
theorem layout_of_scanFrom {start : Nat} {cs : List Char} {ts : List Token}
    (h : scanFrom start cs = .ok ts) : Layout start cs ts := by
  match cs with
  | [] =>
    rw [scanFrom] at h
    obtain rfl := Except.ok.inj h
    exact .done (by simp)
  | c :: rest =>
    rw [scanFrom] at h
    split at h
    · rename_i hblank
      exact .cons_blank hblank (layout_of_scanFrom h)
    · rename_i hblank
      split at h
      · cases h
      · rename_i k n hlexeme
        obtain ⟨us, hus, rfl⟩ := map_eq_ok_iff.1 h
        have hspells := spells_of_lexeme? (by simpa using hblank) hlexeme
        have hlayout := Layout.token (by simp : ∀ c ∈ [], Text.isBlank c = true) hspells
          (layout_of_scanFrom hus)
        simpa using hlayout
termination_by cs.length
decreasing_by all_goals simp only [List.length_cons, List.length_drop]; omega

/-- Blanks are passed over. -/
theorem scanFrom_append {blanks : List Char} (hblanks : ∀ c ∈ blanks, Text.isBlank c = true)
    (start : Nat) (cs : List Char) :
    scanFrom start (blanks ++ cs) = scanFrom (start + Text.byteLength blanks) cs := by
  induction blanks generalizing start with
  | nil => rfl
  | cons c blanks ih =>
    obtain ⟨hc, hblanks⟩ := List.forall_mem_cons.1 hblanks
    rw [List.cons_append, scanFrom, if_pos hc, ih hblanks, Text.byteLength_cons, Nat.add_assoc]

/-- A lexeme gives its token, and scanning goes on after it. -/
theorem Spells.scanFrom {k : TokenKind} {lexeme rest : List Char} (h : Spells k lexeme rest)
    (start : Nat) : Query.scanFrom start (lexeme ++ rest) =
      (Query.scanFrom (start + Text.byteLength lexeme) rest).map (⟨start, k⟩ :: ·) := by
  obtain ⟨c, tail, rfl, hblank, hlexeme⟩ := h.exists_lexeme?
  rw [List.cons_append, Query.scanFrom, if_neg (by simp [hblank])]
  simp only [hlexeme, List.take_left, List.drop_left]

/-- A text that is laid out is scanned. -/
theorem Layout.scanFrom (h : Layout start cs ts) : Query.scanFrom start cs = .ok ts := by
  induction h with
  | @done start blanks hblanks =>
    have hscan := scanFrom_append hblanks start []
    rwa [List.append_nil, Query.scanFrom] at hscan
  | token hblanks hspells _ ih =>
    rw [scanFrom_append hblanks, hspells.scanFrom, ih]
    rfl

/-- **Scanning finds the layout of a text**, which is the only one. -/
theorem scanFrom_eq_ok_iff : scanFrom start cs = .ok ts ↔ Layout start cs ts :=
  ⟨layout_of_scanFrom, Layout.scanFrom⟩

/-- No token stands before the text. -/
theorem Layout.le_position (h : Layout start cs ts) : ∀ t ∈ ts, start ≤ t.position := by
  induction h with
  | done => simp
  | token _ _ _ ih =>
    refine List.forall_mem_cons.2 ⟨Nat.le_add_right _ _, fun t ht => ?_⟩
    have hle := ih t ht
    omega

/-- **The tokens stand one after the other.** -/
theorem Layout.pairwise (h : Layout start cs ts) :
    ts.Pairwise (·.position < ·.position) := by
  induction h with
  | done => exact .nil
  | token _ hspells hrest ih =>
    refine List.pairwise_cons.2 ⟨fun t ht => ?_, ih⟩
    have hle := hrest.le_position t ht
    have hpos := hspells.byteLength_pos
    dsimp only
    omega

/-- **Where a token stands, its lexeme starts.** -/
theorem Layout.exists_spells (h : Layout start cs ts) :
    ∀ t ∈ ts, ∃ before lexeme after, cs = before ++ (lexeme ++ after) ∧
      t.position = start + Text.byteLength before ∧ Spells t.kind lexeme after := by
  induction h with
  | done => simp
  | @token start blanks lexeme rest k ts hblanks hspells hrest ih =>
    refine List.forall_mem_cons.2 ⟨⟨blanks, lexeme, rest, rfl, rfl, hspells⟩, fun t ht => ?_⟩
    obtain ⟨before, lexeme', after, rfl, hposition, hspells'⟩ := ih t ht
    refine ⟨blanks ++ (lexeme ++ before), lexeme', after, by simp, ?_, hspells'⟩
    simp only [hposition, Text.byteLength_append]
    omega

/-- The words of a text are words. -/
theorem Layout.isWord (h : Layout start cs ts) {t : Token} (ht : t ∈ ts) {w : String}
    (hw : t.kind = .word w) : IsWord w := by
  obtain ⟨-, lexeme, after, -, -, hspells⟩ := h.exists_spells t ht
  rw [hw] at hspells
  cases hspells with
  | word hword => exact hword
  | keyword hk => cases hk

/-- **A text that is laid out holds as many opening as closing quotes.** -/
theorem Layout.even_count (h : Layout start cs ts) : Even (cs.count '"') := by
  have hnone : ∀ blanks : List Char, (∀ c ∈ blanks, Text.isBlank c = true) →
      blanks.count '"' = 0 := by
    intro blanks hblanks
    exact List.count_eq_zero.2 fun hmem => absurd (hblanks _ hmem) (by decide)
  induction h with
  | done hblanks =>
    rw [hnone _ hblanks]
    exact ⟨0, rfl⟩
  | token hblanks hspells _ ih =>
    rw [List.count_append, hnone _ hblanks, List.count_append, Nat.zero_add]
    exact hspells.even_count.add ih

end Layout

/-! ### Texts that are refused -/

/-- A result that is changed fails as it did before. -/
theorem map_eq_error_iff {ε α β : Type} {x : Except ε α} {f : α → β} {failure : ε} :
    x.map f = .error failure ↔ x = .error failure := by
  cases x <;> simp [Except.map]

/-- **A text is refused at its last quote**, which is the first one without a partner. -/
theorem exists_of_scanFrom_eq_error {start : Nat} {cs : List Char} {fault : SyntaxError}
    (h : scanFrom start cs = .error fault) :
    ∃ before after, cs = before ++ '"' :: after ∧ '"' ∉ after ∧ Even (before.count '"') ∧
      fault = ⟨start + Text.byteLength before, .unterminatedPhrase⟩ := by
  match cs with
  | [] =>
    rw [scanFrom] at h
    cases h
  | c :: rest =>
    rw [scanFrom] at h
    split at h
    · rename_i hblank
      obtain ⟨before, after, rfl, hafter, heven, rfl⟩ := exists_of_scanFrom_eq_error h
      have hc : c ≠ '"' := by
        rintro rfl
        cases hblank
      refine ⟨c :: before, after, rfl, hafter, ?_, ?_⟩
      · rwa [List.count_cons_of_ne hc]
      · rw [Text.byteLength_cons, Nat.add_assoc]
    · rename_i hblank
      split at h
      · rename_i hnone
        obtain ⟨rfl, hrest⟩ := of_lexeme?_eq_none hnone
        cases h
        exact ⟨[], rest, rfl, hrest, by simp, by simp⟩
      · rename_i k n hlexeme
        have hspells := spells_of_lexeme? (by simpa using hblank) hlexeme
        obtain ⟨before, after, hsplit, hafter, heven, rfl⟩ :=
          exists_of_scanFrom_eq_error (map_eq_error_iff.1 h)
        refine ⟨c :: rest.take n ++ before, after, ?_, hafter, ?_, ?_⟩
        · rw [List.append_assoc, ← hsplit, List.cons_append, List.take_append_drop]
        · rw [List.count_append]
          exact hspells.even_count.add heven
        · rw [Text.byteLength_append, Nat.add_assoc]
termination_by cs.length
decreasing_by all_goals simp only [List.length_cons, List.length_drop]; omega

/-! ### Queries -/

/-- **A query and its tokens**: nothing of the query is lost. -/
structure LaidOut (source : String) (ts : List Token) : Prop where
  /-- The query is blanks and lexemes in turn. -/
  layout : Layout 0 source.toList ts
  /-- The tokens stand one after the other. -/
  increasing : ts.Pairwise (·.position < ·.position)
  /-- Every token stands in front of a character of the query, and its lexeme starts there. -/
  spelled : ∀ t ∈ ts, ∃ before lexeme after, source.toList = before ++ (lexeme ++ after) ∧
    t.position = Text.byteLength before ∧ Spells t.kind lexeme after
  /-- No word is empty or a keyword, and every word holds word characters only. -/
  words : ∀ t ∈ ts, ∀ w, t.kind = .word w → IsWord w

theorem Layout.laidOut {source : String} {ts : List Token} (h : Layout 0 source.toList ts) :
    LaidOut source ts where
  layout := h
  increasing := h.pairwise
  spelled := by simpa using h.exists_spells
  words := fun _ ht _ => h.isWord ht

/-- **Scanning is lossless, and fails on an odd number of quotes only**, at the last one. -/
theorem scan_lossless (source : String) :
    ((∃ fault, scan source = .error fault) ↔ Odd (source.toList.count '"')) ∧
      (Odd (source.toList.count '"') ↔ ∃ before after,
        source.toList = before ++ '"' :: after ∧ '"' ∉ after ∧
          scan source = .error ⟨Text.byteLength before, .unterminatedPhrase⟩) ∧
      ∀ ts, scan source = .ok ts ↔ LaidOut source ts := by
  have hrefused : ∀ fault, scan source = .error fault → ∃ before after,
      source.toList = before ++ '"' :: after ∧ '"' ∉ after ∧ Odd (source.toList.count '"') ∧
        fault = ⟨Text.byteLength before, .unterminatedPhrase⟩ := by
    intro fault h
    obtain ⟨before, after, hsplit, hafter, heven, rfl⟩ := exists_of_scanFrom_eq_error h
    refine ⟨before, after, hsplit, hafter, ?_, by rw [Nat.zero_add]⟩
    rw [hsplit, List.count_append, List.count_cons_self, List.count_eq_zero.2 hafter]
    exact heven.add_one
  have hfails : Odd (source.toList.count '"') → ∃ fault, scan source = .error fault := by
    intro hodd
    cases hscan : scan source with
    | error fault => exact ⟨fault, rfl⟩
    | ok ts =>
      exact absurd (scanFrom_eq_ok_iff.1 hscan).even_count (Nat.not_even_iff_odd.2 hodd)
  refine ⟨⟨?_, hfails⟩, ⟨?_, ?_⟩, fun ts => ⟨?_, ?_⟩⟩
  · rintro ⟨fault, h⟩
    obtain ⟨-, -, -, -, hodd, -⟩ := hrefused fault h
    exact hodd
  · intro hodd
    obtain ⟨fault, h⟩ := hfails hodd
    obtain ⟨before, after, hsplit, hafter, -, rfl⟩ := hrefused fault h
    exact ⟨before, after, hsplit, hafter, h⟩
  · rintro ⟨_, _, -, -, h⟩
    obtain ⟨-, -, -, -, hodd, -⟩ := hrefused _ h
    exact hodd
  · intro h
    exact (scanFrom_eq_ok_iff.1 h).laidOut
  · intro h
    exact scanFrom_eq_ok_iff.2 h.layout

end FederatedSearch.Query
