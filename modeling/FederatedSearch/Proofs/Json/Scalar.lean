import FederatedSearch.Json.Printer
import FederatedSearch.Json.Reader
import FederatedSearch.Proofs.Json.Numeral

/-!
# Texts and words that are written and read

Each character of a text is written by a short escape, by its number or as it stands, and is read
from it as one unit. So a text is read again, whatever its characters are. The values that are
neither lists nor objects have in common that their first character tells them from those, and that
they end by themselves or, if they are numbers, before anything that does not go on with a number.

* `FederatedSearch.Json.readString?_escaped`: **a text is read again**.
* `FederatedSearch.Json.readName?_quoted`: the name of a member.
* `FederatedSearch.Json.IsScalar`: a value that is no list and no object, and what is written of it.
-/

namespace FederatedSearch.Json

open Number

/-! ### Texts -/

/-- A hexadecimal digit has its value. -/
theorem hexValue?_hexDigit : ∀ n < 16, hexValue? (hexDigit n) = some n := by decide

/-- **A character is written** by a short escape, by its number, or as it stands. -/
theorem escapeChar_cases (c : Char) :
    (∃ e, escapeChar c = ['\\', e] ∧ shortEscape? e = some c) ∨
      c.toNat < 32 ∧ escapeChar c =
        ['\\', 'u', '0', '0', hexDigit (c.toNat / 16), hexDigit (c.toNat % 16)] ∨
      32 ≤ c.toNat ∧ c ≠ '"' ∧ c ≠ '\\' ∧ escapeChar c = [c] := by
  have hext : ∀ d : Char, c.toNat = d.toNat → d = c :=
    fun d h => Char.ext (UInt32.toNat_inj.1 h.symm)
  simp only [escapeChar, beq_iff_eq]
  split_ifs with hquote hslash hline hreturn htab hback hfeed hlow
  · exact .inl ⟨'"', rfl, by rw [hquote]; rfl⟩
  · exact .inl ⟨'\\', rfl, by rw [hslash]; rfl⟩
  · exact .inl ⟨'n', rfl, by rw [hline]; rfl⟩
  · exact .inl ⟨'r', rfl, by rw [hreturn]; rfl⟩
  · exact .inl ⟨'t', rfl, by rw [htab]; rfl⟩
  · exact .inl ⟨'b', rfl, congrArg some (hext '\x08' hback)⟩
  · exact .inl ⟨'f', rfl, congrArg some (hext '\x0c' hfeed)⟩
  · exact .inr (.inl ⟨hlow, rfl⟩)
  · exact .inr (.inr ⟨Nat.le_of_not_lt hlow, hquote, hslash, rfl⟩)

theorem readUnits?_short {c e : Char} (h : shortEscape? e = some c) (cs : List Char) :
    readUnits? ('\\' :: e :: cs) =
      (readUnits? cs).map fun (us, after) => (.char c :: us, after) := by
  have hu : e ≠ 'u' := by
    rintro rfl
    cases h
  rw [readUnits?]
  · simp only [h]
    cases readUnits? cs <;> rfl
  · rintro _ _ _ _ _ rfl
    exact absurd rfl hu

theorem readUnits?_plain {c : Char} (hlow : 32 ≤ c.toNat) (hquote : c ≠ '"') (hslash : c ≠ '\\')
    (cs : List Char) :
    readUnits? (c :: cs) = (readUnits? cs).map fun (us, after) => (.char c :: us, after) := by
  have hrefused : ¬(decide (c.toNat < 32) || c == '\\') = true := by
    simp [hslash, Nat.not_lt.2 hlow]
  rw [readUnits?, if_neg hrefused]
  · cases readUnits? cs <;> rfl
  · exact hquote
  · rintro _ _ _ _ _ rfl
    exact absurd rfl hslash
  · rintro _ _ rfl
    exact absurd rfl hslash

/-- **A character that is written** is read as one unit, which spells it. -/
theorem exists_readUnits?_escapeChar (c : Char) : ∃ u : CodeUnit,
    (∀ us, joinUnits? (u :: us) = (joinUnits? us).map (c :: ·)) ∧
      ∀ cs, readUnits? (escapeChar c ++ cs) =
        (readUnits? cs).map fun (us, after) => (u :: us, after) := by
  rcases escapeChar_cases c with ⟨e, hc, he⟩ | ⟨hlow, hc⟩ | ⟨hlow, hquote, hslash, hc⟩
  · exact ⟨.char c, fun _ => rfl, fun cs => hc ▸ readUnits?_short he cs⟩
  · refine ⟨.escaped c.toNat, fun us => ?_, fun cs => ?_⟩
    · have hbelow : ∀ n, c.toNat < 0xD800 + n := fun n => by omega
      rw [joinUnits?.eq_def]
      simp only [Nat.not_le.2 (hbelow 0), Nat.not_le.2 (hbelow 0x400), decide_false,
        Bool.false_and, Bool.false_eq_true, if_false, Char.ofNat_toNat]
    · have hhigh := hexValue?_hexDigit (c.toNat / 16) (by omega)
      have hunit := hexValue?_hexDigit (c.toNat % 16) (by omega)
      have hsplit : 0 * 4096 + 0 * 256 + c.toNat / 16 * 16 + c.toNat % 16 = c.toNat := by omega
      have hzero : hexValue? '0' = some 0 := rfl
      simp only [hc, List.cons_append, List.nil_append, readUnits?, hzero, hhigh, hunit,
        Option.bind_eq_bind, Option.bind_some, hsplit]
      cases readUnits? cs <;> rfl
  · exact ⟨.char c, fun _ => rfl, fun cs => hc ▸ readUnits?_plain hlow hquote hslash cs⟩

/-- **A text is read again**, whatever its characters are. -/
theorem readString?_escaped (s : String) (rest : List Char) :
    readString? (s.toList.flatMap escapeChar ++ '"' :: rest) = some (some s, rest) := by
  have hunits : ∀ cs : List Char, ∃ us,
      readUnits? (cs.flatMap escapeChar ++ '"' :: rest) = some (us, rest) ∧
        joinUnits? us = some cs := by
    intro cs
    induction cs with
    | nil => exact ⟨[], rfl, rfl⟩
    | cons c cs ih =>
      obtain ⟨us, hread, hjoin⟩ := ih
      obtain ⟨u, hu, hc⟩ := exists_readUnits?_escapeChar c
      refine ⟨u :: us, ?_, ?_⟩
      · rw [List.flatMap_cons, List.append_assoc, hc, hread, Option.map_some]
      · rw [hu, hjoin, Option.map_some]
  obtain ⟨us, hread, hjoin⟩ := hunits s.toList
  simp only [readString?, hread, hjoin, Option.bind_eq_bind, Option.bind_some, Option.map_some,
    Option.pure_def, String.ofList_toList]

variable {cs rest after : List Char}

/-! ### Blanks -/

/-- Blanks before a text are passed over. -/
theorem skipSpace_append {b cs : List Char} (hb : ∀ c ∈ b, isSpace c = true) :
    skipSpace (b ++ cs) = skipSpace cs := by
  rw [skipSpace, List.dropWhile_append_of_pos hb, skipSpace]

theorem skipSpace_cons {c : Char} (hc : isSpace c = false) (cs : List Char) :
    skipSpace (c :: cs) = c :: cs :=
  List.dropWhile_cons_of_neg (by simp [hc])

/-- Only the blanks before a text are passed over. -/
theorem skipSpace_append_cons {b : List Char} (hb : ∀ c ∈ b, isSpace c = true) {c : Char}
    (hc : isSpace c = false) (cs : List Char) : skipSpace (b ++ c :: cs) = c :: cs := by
  rw [skipSpace_append hb, skipSpace_cons hc]

/-! ### Scalars -/

/-- A number starts with a digit or a minus sign. -/
theorem exists_cons_of_readNumber? {r : Json × List Char} (h : readNumber? cs = some r) :
    ∃ c ds, cs = c :: ds ∧ (c = '-' ∨ c.isDigit = true) := by
  rcases cs with - | ⟨c, ds⟩
  · cases h
  · refine ⟨c, ds, rfl, ?_⟩
    by_cases hminus : c = '-'
    · exact .inl hminus
    · by_contra hno
      have hdigit : c.isDigit = false := by simpa [hminus] using hno
      rw [readNumber?_of_ne hminus] at h
      simp [readUnsigned?, readWhole?, hdigit] at h

/-- A character that a number starts with is none that another value starts with. -/
theorem ne_of_startsNumber {c d : Char} (hc : c = '-' ∨ c.isDigit = true) (hminus : d ≠ '-')
    (hdigit : d.isDigit = false) : c ≠ d := by
  rintro rfl
  rcases hc with rfl | hc
  · exact hminus rfl
  · rw [hdigit] at hc
    cases hc

theorem readScalar?_of_readNumber? {j : Json} (h : readNumber? cs = some (j, []))
    (hrest : EndsNumber rest) : readScalar? (cs ++ rest) = some (j, rest) := by
  have hnumber := readNumber?_append hrest h
  obtain ⟨c, ds, rfl, hc⟩ := exists_cons_of_readNumber? h
  have hquote := ne_of_startsNumber (d := '"') hc (by decide) (by decide)
  have ht := ne_of_startsNumber (d := 't') hc (by decide) (by decide)
  have hf := ne_of_startsNumber (d := 'f') hc (by decide) (by decide)
  have hn := ne_of_startsNumber (d := 'n') hc (by decide) (by decide)
  rw [List.cons_append] at hnumber ⊢
  simpa [readScalar?, hquote, ht, hf, hn] using hnumber

theorem toList_quoted (s : String) :
    (quoted s).toList = '"' :: (s.toList.flatMap escapeChar ++ ['"']) :=
  String.toList_ofList

/-- A text between quotes is read again. -/
theorem readScalar?_quoted (s : String) (rest : List Char) :
    readScalar? ((quoted s).toList ++ rest) = some (.text s, rest) := by
  have hread := readString?_escaped s rest
  simp [readScalar?, toList_quoted, hread, ofString]

/-- **The name of a member is read again**, after blanks. -/
theorem readName?_quoted {b : List Char} (hb : ∀ c ∈ b, isSpace c = true) (name : String)
    (rest : List Char) :
    readName? (b ++ ((quoted name).toList ++ ':' :: rest)) = some (some name, rest) := by
  have hread := readString?_escaped name (':' :: rest)
  have hcolon : skipSpace (':' :: rest) = ':' :: rest := skipSpace_cons (by decide) _
  rw [readName?, toList_quoted, List.cons_append, skipSpace_append_cons hb (by decide)]
  simp [hread, hcolon]

/-- **A value is no list and no object**, and is read as it is written wherever it ends. -/
structure IsScalar (j : Json) (cs : List Char) : Prop where
  exists_cons : ∃ c ds, cs = c :: ds ∧ isSpace c = false ∧ c ≠ '[' ∧ c ≠ '\x7b' ∧ c ≠ ']'
  read : ∀ rest, EndsNumber rest → readScalar? (cs ++ rest) = some (j, rest)

theorem isScalar_number {j : Json} (h : readNumber? cs = some (j, [])) : IsScalar j cs := by
  refine ⟨?_, fun rest hrest => readScalar?_of_readNumber? h hrest⟩
  obtain ⟨c, ds, rfl, hc⟩ := exists_cons_of_readNumber? h
  refine ⟨c, ds, rfl, ?_, ne_of_startsNumber hc (by decide) (by decide),
    ne_of_startsNumber hc (by decide) (by decide), ne_of_startsNumber hc (by decide) (by decide)⟩
  have hspace : isSpace c = true → c = ' ' ∨ c = '\n' ∨ c = '\t' ∨ c = '\r' := by
    simp [isSpace, or_assoc]
  rw [← Bool.not_eq_true]
  intro hblank
  rcases hspace hblank with rfl | rfl | rfl | rfl <;> revert hc <;> decide

theorem isScalar_text (s : String) : IsScalar (.text s) (quoted s).toList := by
  refine ⟨⟨'"', _, toList_quoted s, ?_⟩, fun rest _ => readScalar?_quoted s rest⟩
  decide

/-- A word that stands for a value is read again. -/
theorem readWord?_append (word : String) (value : Json) (rest : List Char) :
    readWord? word value (word.toList ++ rest) = some (value, rest) := by
  have hword : word.toList.isPrefixOf (word.toList ++ rest) = true :=
    List.isPrefixOf_iff_prefix.2 (List.prefix_append _ _)
  rw [readWord?, if_pos hword, List.drop_left' String.length_toList]

theorem isScalar_null : IsScalar .null "null".toList :=
  ⟨⟨'n', _, rfl, by decide⟩, fun rest _ => readWord?_append "null" .null rest⟩

theorem isScalar_bool : ∀ b : Bool, IsScalar (.bool b) (if b then "true" else "false").toList
  | false => ⟨⟨'f', _, rfl, by decide⟩, fun rest _ => readWord?_append "false" (.bool false) rest⟩
  | true => ⟨⟨'t', _, rfl, by decide⟩, fun rest _ => readWord?_append "true" (.bool true) rest⟩

end FederatedSearch.Json
