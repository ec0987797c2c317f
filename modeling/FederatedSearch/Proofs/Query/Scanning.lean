import FederatedSearch.Proofs.Query.Parsing
import Mathlib.Data.List.TakeWhile

/-!
# The tokens of a text

Which kinds of tokens a text has does not depend on where it stands, and is a relation between
texts and kinds: `FederatedSearch.Query.Scans`. A text that follows a blank is scanned by itself,
unless a quote in it closes one that is open before: this is why a clause without quotes can be
appended to any text.

* `FederatedSearch.Query.scans_iff`: the relation is what scanning gives.
* `FederatedSearch.Query.scans_append_iff`: **a text without quotes that is appended after a blank**
  adds its own tokens and nothing else.
* `FederatedSearch.Query.Scans.word` and the lemmas after it: the tokens of a text piece by piece.
-/

namespace FederatedSearch.Query

/-- **The kinds of the tokens of a text.** -/
inductive Scans : List Char → List TokenKind → Prop
  /-- No text has no tokens. -/
  | nil : Scans [] []
  /-- A blank is passed over. -/
  | blank {c : Char} {cs : List Char} {ks : List TokenKind} :
    Text.isBlank c = true → Scans cs ks → Scans (c :: cs) ks
  /-- A token that starts at a character, and those of the text after it. -/
  | token {c : Char} {rest : List Char} {k : TokenKind} {n : Nat} {ks : List TokenKind} :
    Text.isBlank c = false → lexeme? c rest = some (k, n) → Scans (rest.drop n) ks →
      Scans (c :: rest) (k :: ks)

/-! ### Scanning -/

/-- The tokens of a text are of the kinds that it has. -/
theorem scans_of_scanFrom {position : Nat} {cs : List Char} {ts : List Token}
    (h : scanFrom position cs = .ok ts) : Scans cs (kinds ts) := by
  match cs with
  | [] =>
    rw [scanFrom] at h
    obtain rfl := Except.ok.inj h
    exact .nil
  | c :: rest =>
    rw [scanFrom] at h
    split at h
    · rename_i hblank
      exact .blank hblank (scans_of_scanFrom h)
    · rename_i hblank
      split at h
      · cases h
      · rename_i k n hlexeme
        obtain ⟨us, hus, rfl⟩ := map_eq_ok_iff.1 h
        exact .token (by simpa using hblank) hlexeme (scans_of_scanFrom hus)
termination_by cs.length
decreasing_by all_goals simp only [List.length_cons, List.length_drop]; omega

/-- A text is scanned wherever it stands. -/
theorem Scans.scanFrom {cs : List Char} {ks : List TokenKind} (h : Scans cs ks) :
    ∀ position, ∃ ts, scanFrom position cs = .ok ts ∧ kinds ts = ks := by
  induction h with
  | nil =>
    intro position
    exact ⟨[], by rw [Query.scanFrom], rfl⟩
  | @blank c cs ks hblank _ ih =>
    intro position
    obtain ⟨ts, hts, hks⟩ := ih (position + c.utf8Size)
    exact ⟨ts, by rw [Query.scanFrom, if_pos hblank, hts], hks⟩
  | @token c rest k n ks hblank hlexeme _ ih =>
    intro position
    obtain ⟨ts, hts, rfl⟩ := ih (position + Text.byteLength (c :: rest.take n))
    refine ⟨⟨position, k⟩ :: ts, ?_, rfl⟩
    rw [Query.scanFrom, if_neg (by simp [hblank])]
    simp only [hlexeme, hts]
    rfl

theorem scans_iff {cs : List Char} {ks : List TokenKind} (position : Nat) :
    Scans cs ks ↔ ∃ ts, scanFrom position cs = .ok ts ∧ kinds ts = ks := by
  constructor
  · intro h
    exact h.scanFrom position
  · rintro ⟨ts, hts, rfl⟩
    exact scans_of_scanFrom hts

/-- **A query is read exactly when its kinds of tokens are one chain.** -/
theorem parse_eq_ok_iff_scans {source : String} {e : Expr} :
    parse source = .ok e ↔ ∃ ks, Scans source.toList ks ∧ Reads .chain ks e [] := by
  rw [parse_eq_ok_iff, scan]
  constructor
  · rintro ⟨ts, hts, h⟩
    exact ⟨kinds ts, (scans_iff 0).2 ⟨ts, hts, rfl⟩, h⟩
  · rintro ⟨ks, hks, h⟩
    obtain ⟨ts, hts, rfl⟩ := (scans_iff 0).1 hks
    exact ⟨ts, hts, h⟩

/-! ### Appending -/

/-- A run ends before a character outside its class, whatever comes after that. -/
theorem takeWhile_append_cons {p : Char → Bool} {c : Char} (hc : p c = false) (cs ds : List Char) :
    (cs ++ c :: ds).takeWhile p = cs.takeWhile p := by
  induction cs with
  | nil => simp [hc]
  | cons a cs ih =>
    simp only [List.cons_append, List.takeWhile_cons, ih]

/-- A quote is closed in the text itself, or not at all. -/
theorem length_takeWhile_append_lt_iff {ds : List Char} (hds : '"' ∉ ds) (cs : List Char) :
    ((cs ++ ' ' :: ds).takeWhile (· != '"')).length < (cs ++ ' ' :: ds).length ↔
      (cs.takeWhile (· != '"')).length < cs.length := by
  have hall : (' ' :: ds).takeWhile (· != '"') = ' ' :: ds := by
    refine List.takeWhile_eq_self_iff.2 fun a ha => bne_iff_ne.2 ?_
    rintro rfl
    rcases List.mem_cons.1 ha with h | h
    · exact absurd h (by decide)
    · exact hds h
  rw [List.takeWhile_append, hall]
  have hle := (List.takeWhile_sublist (p := (· != '"')) (l := cs)).length_le
  split
  · rename_i heq
    simp only [heq, Nat.lt_irrefl]
  · simp only [List.length_append]
    omega

/-- **A token does not see what is appended after a blank**, unless there is a quote in it. -/
theorem lexeme?_append {ds : List Char} (hds : '"' ∉ ds) (c : Char) (cs : List Char) :
    lexeme? c (cs ++ ' ' :: ds) = lexeme? c cs := by
  have hrun : (cs ++ ' ' :: ds).takeWhile isWordChar = cs.takeWhile isWordChar :=
    takeWhile_append_cons (by decide) cs ds
  have hquote := length_takeWhile_append_lt_iff hds cs
  unfold lexeme?
  iterate 4 refine ite_congr rfl (fun _ => rfl) fun _ => ?_
  refine ite_congr rfl (fun _ => ?_) fun _ => ite_congr rfl (fun _ => ?_) fun _ =>
    ite_congr rfl (fun _ => ?_) fun _ => ?_
  -- A comparison looks at one character, and the blank is none that it takes.
  · rcases cs with - | ⟨a, cs⟩
    · rfl
    · by_cases heq : a = '='
      · rw [heq, List.cons_append]
        rfl
      · by_cases hgt : a = '>'
        · rw [hgt, List.cons_append]
          rfl
        · simp [heq, hgt]
  · rcases cs with - | ⟨a, cs⟩
    · rfl
    · by_cases heq : a = '='
      · rw [heq, List.cons_append]
        rfl
      · simp [heq]
  · dsimp only
    split
    · rename_i hlt
      have hbody := hquote.1 hlt
      rw [if_pos hbody, List.takeWhile_append, if_neg (Nat.ne_of_lt hbody)]
    · rename_i hlt
      rw [if_neg fun hlt' => hlt (hquote.2 hlt')]
  · rw [hrun]

/-- **What a token is**: a mark, a phrase that ends at the next quote, or a word. -/
theorem lexeme?_cases {c : Char} {cs : List Char} {k : TokenKind} {n : Nat}
    (h : lexeme? c cs = some (k, n)) :
    (n ≤ cs.length ∧ '"' ∉ c :: cs.take n) ∨
      (n ≤ cs.length ∧ ∃ q, k = .phrase q) ∨
      (c ≠ '"' ∧ n = (cs.takeWhile isWordChar).length) := by
  unfold lexeme? at h
  dsimp only at h
  -- the marks of one character
  iterate 4
    split at h
    · cases h
      exact .inl ⟨Nat.zero_le _, by simp_all⟩
  -- the comparisons, of one character or two
  split at h
  · split at h <;> cases h <;> exact .inl ⟨by simp, by simp_all⟩
  split at h
  · split at h <;> cases h <;> exact .inl ⟨by simp, by simp_all⟩
  split at h
  · split at h
    · rename_i hlt
      cases h
      exact .inr (.inl ⟨hlt, _, rfl⟩)
    · cases h
  · rename_i hquote
    obtain ⟨-, rfl⟩ := Prod.mk.inj (Option.some.inj h)
    exact .inr (.inr ⟨by simpa using hquote, rfl⟩)

/-- A token takes no more characters than there are. -/
theorem le_length_of_lexeme? {c : Char} {cs : List Char} {k : TokenKind} {n : Nat}
    (h : lexeme? c cs = some (k, n)) : n ≤ cs.length := by
  rcases lexeme?_cases h with ⟨hle, -⟩ | ⟨hle, -⟩ | ⟨-, rfl⟩
  · exact hle
  · exact hle
  · exact (List.takeWhile_sublist isWordChar).length_le

section Append

variable {cs ds : List Char} {js ks ls : List TokenKind}

/-- A text without quotes adds its tokens when it is appended after a blank. -/
theorem Scans.append (hds : '"' ∉ ds) (hjs : Scans cs js) (hls : Scans ds ls) :
    Scans (cs ++ ' ' :: ds) (js ++ ls) := by
  induction hjs with
  | nil => exact .blank (by decide) hls
  | blank hblank _ ih => exact .blank hblank ih
  | token hblank hlexeme _ ih =>
    refine .token hblank ((lexeme?_append hds _ _).trans hlexeme) ?_
    rw [List.append_eq, List.drop_append_of_le_length (le_length_of_lexeme? hlexeme)]
    exact ih

/-- When it is appended after a blank, a text without quotes adds nothing but its tokens. -/
theorem exists_of_scans_append {ds : List Char} (hds : '"' ∉ ds) {cs : List Char}
    {ks : List TokenKind} (h : Scans (cs ++ ' ' :: ds) ks) :
    ∃ js ls, ks = js ++ ls ∧ Scans cs js ∧ Scans ds ls := by
  match cs with
  | [] =>
    cases h with
    | blank _ h => exact ⟨[], ks, rfl, .nil, h⟩
    | token hblank => exact absurd hblank (by decide)
  | c :: rest =>
    rw [List.cons_append] at h
    cases h with
    | blank hblank h =>
      obtain ⟨js, ls, rfl, hjs, hls⟩ := exists_of_scans_append hds h
      exact ⟨js, ls, rfl, .blank hblank hjs, hls⟩
    | @token _ _ k n _ hblank hlexeme h =>
      rw [lexeme?_append hds] at hlexeme
      rw [List.drop_append_of_le_length (le_length_of_lexeme? hlexeme)] at h
      obtain ⟨js, ls, rfl, hjs, hls⟩ := exists_of_scans_append hds h
      exact ⟨k :: js, ls, rfl, .token hblank hlexeme hjs, hls⟩
termination_by cs.length
decreasing_by all_goals simp only [List.length_cons, List.length_drop]; omega

/-- **A text without quotes that is appended after a blank** adds its own tokens. -/
theorem scans_append_iff (hds : '"' ∉ ds) :
    Scans (cs ++ ' ' :: ds) ks ↔ ∃ js ls, ks = js ++ ls ∧ Scans cs js ∧ Scans ds ls := by
  constructor
  · exact exists_of_scans_append hds
  · rintro ⟨js, ls, rfl, hjs, hls⟩
    exact hjs.append hds hls

end Append

/-! ### Quotes -/

/-- A token with a quote in it is a phrase. -/
theorem exists_phrase_of_lexeme? {c : Char} {cs : List Char} {k : TokenKind} {n : Nat}
    (h : lexeme? c cs = some (k, n)) (hquote : '"' ∈ c :: cs.take n) : ∃ q, k = .phrase q := by
  rcases lexeme?_cases h with ⟨-, hnone⟩ | ⟨-, hphrase⟩ | ⟨hc, rfl⟩
  · exact absurd hquote hnone
  · exact hphrase
  · -- a quote is no character of a word
    have hrun : cs.takeWhile isWordChar = cs.take (cs.takeWhile isWordChar).length :=
      List.prefix_iff_eq_take.1 (List.takeWhile_prefix isWordChar)
    rw [← hrun] at hquote
    rcases List.mem_cons.1 hquote with heq | hmem
    · exact absurd heq.symm hc
    · cases List.mem_takeWhile_imp hmem

/-- **A text without phrases has no quotes.** -/
theorem Scans.not_mem_quote {cs : List Char} {ks : List TokenKind} (h : Scans cs ks)
    (hks : ∀ q, .phrase q ∉ ks) : '"' ∉ cs := by
  induction h with
  | nil => simp
  | @blank c cs ks hblank _ ih =>
    rw [List.mem_cons, not_or]
    refine ⟨?_, ih hks⟩
    rintro rfl
    cases hblank
  | @token c rest k n ks _ hlexeme _ ih =>
    have hrest := ih fun q hq => hks q (List.mem_cons_of_mem k hq)
    intro hmem
    have hsplit : '"' ∈ (c :: rest.take n) ++ rest.drop n := by
      rw [List.cons_append, List.take_append_drop]
      exact hmem
    rcases List.mem_append.1 hsplit with hfirst | hlast
    · obtain ⟨q, rfl⟩ := exists_phrase_of_lexeme? hlexeme hfirst
      exact hks q List.mem_cons_self
    · exact hrest hlast

/-! ### Piece by piece -/

/-- The kinds of tokens of a text are unique. -/
theorem Scans.unique {cs : List Char} {ks ls : List TokenKind} (hks : Scans cs ks)
    (hls : Scans cs ls) : ks = ls := by
  obtain ⟨ts, hts, rfl⟩ := hks.scanFrom 0
  obtain ⟨us, hus, rfl⟩ := hls.scanFrom 0
  rw [hts] at hus
  obtain rfl := Except.ok.inj hus
  rfl

/-- A text that does not go on with the word before it. -/
def EndsWord (cs : List Char) : Prop := ∀ c ∈ cs.head?, isWordChar c = false

theorem endsWord_nil : EndsWord [] := by
  rintro c ⟨⟩

theorem endsWord_cons {c : Char} (hc : isWordChar c = false) (cs : List Char) :
    EndsWord (c :: cs) := by
  rintro _ ⟨⟩
  exact hc

/-- A word character is no blank. -/
theorem isBlank_of_isWordChar {c : Char} (hc : isWordChar c = true) : Text.isBlank c = false := by
  rw [isWordChar, Bool.and_eq_true] at hc
  simpa using hc.1

/-- A word character starts a word of all the word characters that follow. -/
theorem lexeme?_of_isWordChar {c : Char} (hc : isWordChar c = true) (cs : List Char) :
    lexeme? c cs = some (.ofWord (.ofList (c :: cs.takeWhile isWordChar)),
      (cs.takeWhile isWordChar).length) := by
  simp only [isWordChar, Bool.and_eq_true, Bool.not_eq_true', Bool.or_eq_false_iff] at hc
  obtain ⟨-, ⟨⟨⟨⟨⟨hopen, hclose⟩, hquote⟩, hcolon⟩, heq⟩, hlt⟩, hgt⟩ := hc
  simp only [lexeme?, hopen, hclose, hquote, hcolon, heq, hlt, hgt, Bool.false_eq_true, if_false]

/-- A run of word characters ends where the text does not go on with it. -/
theorem takeWhile_isWordChar_append {w ds : List Char} (hchars : ∀ c ∈ w, isWordChar c = true)
    (hnext : EndsWord ds) : (w ++ ds).takeWhile isWordChar = w := by
  rw [List.takeWhile_append_of_pos hchars]
  rcases ds with - | ⟨d, ds⟩
  · simp
  · simp [hnext d rfl]

/-- A quote starts what goes on to the next quote. -/
theorem lexeme?_quote {body : List Char} (hbody : '"' ∉ body) (ds : List Char) :
    lexeme? '"' (body ++ '"' :: ds) =
      some (.phrase (.ofList (Text.collapse body)), body.length + 1) := by
  have hrun : (body ++ '"' :: ds).takeWhile (· != '"') = body := by
    rw [takeWhile_append_cons (by decide)]
    exact List.takeWhile_eq_self_iff.2 fun c hc => bne_iff_ne.2 fun hcq => hbody (hcq ▸ hc)
  have hquote : lexeme? '"' (body ++ '"' :: ds) =
      if ((body ++ '"' :: ds).takeWhile (· != '"')).length < (body ++ '"' :: ds).length then
        some (.phrase (.ofList (Text.collapse ((body ++ '"' :: ds).takeWhile (· != '"')))),
          ((body ++ '"' :: ds).takeWhile (· != '"')).length + 1)
      else none := rfl
  rw [hquote, hrun, if_pos (by simp)]

/-- A quote without a partner starts no token. -/
theorem lexeme?_open_quote {cs : List Char} (hcs : '"' ∉ cs) : lexeme? '"' cs = none := by
  have hrun : cs.takeWhile (· != '"') = cs :=
    List.takeWhile_eq_self_iff.2 fun c hc => bne_iff_ne.2 fun hcq => hcs (hcq ▸ hc)
  have hquote : lexeme? '"' cs =
      if (cs.takeWhile (· != '"')).length < cs.length then
        some (.phrase (.ofList (Text.collapse (cs.takeWhile (· != '"')))),
          (cs.takeWhile (· != '"')).length + 1)
      else none := rfl
  rw [hquote, hrun, if_neg (Nat.lt_irrefl _)]

/-- **A word** and the text after it, which does not go on with the word. -/
theorem Scans.word {w ds : List Char} {ks : List TokenKind} (hw : w ≠ [])
    (hchars : ∀ c ∈ w, isWordChar c = true) (hnext : EndsWord ds) (h : Scans ds ks) :
    Scans (w ++ ds) (.ofWord (.ofList w) :: ks) := by
  match w with
  | c :: w =>
    obtain ⟨hc, hchars⟩ := List.forall_mem_cons.1 hchars
    have hlexeme := lexeme?_of_isWordChar hc (w ++ ds)
    rw [takeWhile_isWordChar_append hchars hnext] at hlexeme
    refine .token (isBlank_of_isWordChar hc) hlexeme ?_
    rwa [List.append_eq, List.drop_left]

/-- **A text of word characters is one token**, which starts with the text. -/
theorem scan_of_isWordChar {w : String} (hne : w ≠ "")
    (hchars : ∀ c ∈ w.toList, isWordChar c = true) : scan w = .ok [⟨0, .ofWord w⟩] := by
  rcases hlist : w.toList with - | ⟨c, cs⟩
  · exact absurd (String.toList_eq_nil_iff.1 hlist) hne
  · rw [hlist, List.forall_mem_cons] at hchars
    obtain ⟨hc, hcs⟩ := hchars
    have hlexeme := lexeme?_of_isWordChar hc cs
    rw [List.takeWhile_eq_self_iff.2 hcs, ← hlist, String.ofList_toList] at hlexeme
    rw [scan, hlist, scanFrom, if_neg (by simp [isBlank_of_isWordChar hc])]
    simp only [hlexeme, List.drop_length, scanFrom]
    rfl

/-- **A fixed word** before a character that ends it, which can be seen by looking at the characters
one by one. -/
theorem Scans.fixed {w ds : List Char} {c : Char} {ks : List TokenKind}
    (hw : (!w.isEmpty && w.all isWordChar && !isWordChar c) = true) (h : Scans (c :: ds) ks) :
    Scans (w ++ c :: ds) (.ofWord (.ofList w) :: ks) := by
  simp only [Bool.and_eq_true, Bool.not_eq_true', List.isEmpty_eq_false_iff, List.all_eq_true] at hw
  obtain ⟨⟨hne, hchars⟩, hc⟩ := hw
  exact .word hne hchars (endsWord_cons hc ds) h

theorem Scans.space {ds : List Char} {ks : List TokenKind} (h : Scans ds ks) :
    Scans (' ' :: ds) ks :=
  .blank (by decide) h

theorem Scans.openParen {ds : List Char} {ks : List TokenKind} (h : Scans ds ks) :
    Scans ('(' :: ds) (.openParen :: ks) :=
  .token (by decide) rfl h

theorem Scans.closeParen {ds : List Char} {ks : List TokenKind} (h : Scans ds ks) :
    Scans (')' :: ds) (.closeParen :: ks) :=
  .token (by decide) rfl h

theorem Scans.equals {ds : List Char} {ks : List TokenKind} (h : Scans ds ks) :
    Scans ('=' :: ds) (.compare .eq :: ks) :=
  .token (by decide) rfl h

/-- A comparison and a blank after it. -/
theorem Scans.comparison (op : Comparison) {ds : List Char} {ks : List TokenKind}
    (h : Scans ds ks) : Scans (op.symbol.toList ++ ' ' :: ds) (.compare op :: ks) := by
  cases op <;> exact .token (by decide) rfl h.space

end FederatedSearch.Query
