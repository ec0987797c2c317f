import FederatedSearch.Proofs.Calendar.Reading
import FederatedSearch.Proofs.Query.Scanning
import FederatedSearch.Proofs.Text.Case
import FederatedSearch.Query.Clause

/-!
# The words of clauses

A clause is put together from names of fields, dates and strings of bits. Each of them is scanned as
one word. A date and a string of bits are never keywords; a name of a field may be one.

* `FederatedSearch.Query.isKeyword`: a word that is read as a keyword.
* `FederatedSearch.isWordChar_of_isFieldNameChar`: the names of fields are words.
* `FederatedSearch.Calendar.Date.ofWord_toText`: a date is a word and no keyword.
* `FederatedSearch.StatusFilter.ofWord_of_bits?`: so is a string of bits.
-/

namespace FederatedSearch

open Query

/-! ### Characters -/

/-- A character that is no blank and none of the seven that stand for themselves is one of a
word. -/
theorem isWordChar_of_forall {c : Char} (hblank : Text.isBlank c = false)
    (hmark : ∀ d ∈ ['(', ')', '"', ':', '=', '<', '>'], c ≠ d) : isWordChar c = true := by
  simp only [List.forall_mem_cons] at hmark
  simp [isWordChar, hblank, hmark]

/-- **The characters of names of fields are word characters.** -/
theorem isWordChar_of_isFieldNameChar {c : Char} (h : isFieldNameChar c = true) :
    isWordChar c = true := by
  have hblanks : ∀ c : Char, Text.isBlank c = true → isFieldNameChar c = false :=
    Text.forall_isBlank (by decide +kernel)
  have hmarks : ['(', ')', '"', ':', '=', '<', '>'].all (!isFieldNameChar ·) = true := by
    decide +kernel
  refine isWordChar_of_forall (Bool.eq_false_iff.2 fun hblank => ?_) fun d hd hcd => ?_
  · rw [hblanks c hblank] at h
    cases h
  · have hc := List.all_eq_true.1 hmarks d hd
    rw [← hcd, h] at hc
    cases hc

/-- A character of a number that may have a sign. -/
def isNumberChar (c : Char) : Bool := c.isDigit || c == '-' || c == '+'

theorem toNat_of_isNumberChar {c : Char} (h : isNumberChar c = true) :
    (48 ≤ c.toNat ∧ c.toNat ≤ 57) ∨ c.toNat = 45 ∨ c.toNat = 43 := by
  simp only [isNumberChar, Bool.or_eq_true, beq_iff_eq, Char.isDigit, Bool.and_eq_true,
    decide_eq_true_eq] at h
  rcases h with (⟨hlo, hhi⟩ | rfl) | rfl
  · exact .inl ⟨UInt32.le_iff_toNat_le.1 hlo, UInt32.le_iff_toNat_le.1 hhi⟩
  · decide
  · decide

/-- The characters of numbers are word characters. -/
theorem isWordChar_of_isNumberChar {c : Char} (h : isNumberChar c = true) :
    isWordChar c = true := by
  have hnat := toNat_of_isNumberChar h
  refine isWordChar_of_forall (Bool.eq_false_iff.2 fun hblank => ?_) fun d hd hcd => ?_
  · have hmem := Text.toNat_mem_blankNumbers hblank
    simp only [Text.blankNumbers, List.mem_append, List.mem_range'_1, List.mem_cons,
      List.not_mem_nil, or_false] at hmem
    omega
  · subst hcd
    simp only [List.mem_cons, List.not_mem_nil, or_false] at hd
    rcases hd with rfl | rfl | rfl | rfl | rfl | rfl | rfl <;> revert hnat <;> decide

/-! ### Keywords -/

namespace Query

/-- The four keywords, in small letters. -/
def keywords : List String := ["and", "or", "except", "in"]

/-- **A word that is read as a keyword**, in any case of letters. -/
def isKeyword (word : String) : Bool := keywords.any (Text.sameAscii word)

/-- A run of word characters is a keyword or a word. -/
theorem ofWord_cases (word : String) :
    (isKeyword word = false ∧ TokenKind.ofWord word = .word word) ∨
      (isKeyword word = true ∧
        TokenKind.ofWord word ∈ [TokenKind.conj, .disj, .except, .within]) := by
  have hlower : keywords.map Text.asciiLower = keywords := by decide
  have hkey : isKeyword word = (keywords.map Text.asciiLower).any (Text.asciiLower word == ·) := by
    rw [List.any_map]
    rfl
  rw [hkey, hlower]
  simp only [keywords, List.any_cons, List.any_nil, Bool.or_false, TokenKind.ofWord]
  cases (Text.asciiLower word == "and") <;> cases (Text.asciiLower word == "or") <;>
    cases (Text.asciiLower word == "except") <;> cases (Text.asciiLower word == "in") <;> simp

theorem ofWord_of_isKeyword_eq_false {word : String} (h : isKeyword word = false) :
    TokenKind.ofWord word = .word word := by
  rcases ofWord_cases word with ⟨-, hword⟩ | ⟨hkey, -⟩
  · exact hword
  · cases h.symm.trans hkey

/-- A run of word characters that is a word is that word, and no keyword. -/
theorem ofWord_eq_word_iff {word other : String} :
    TokenKind.ofWord word = .word other ↔ isKeyword word = false ∧ word = other := by
  constructor
  · intro h
    rcases ofWord_cases word with ⟨hkey, hword⟩ | ⟨-, hmem⟩
    · exact ⟨hkey, TokenKind.word.inj (hword.symm.trans h)⟩
    · rw [h] at hmem
      simp at hmem
  · rintro ⟨hkey, rfl⟩
    exact ofWord_of_isKeyword_eq_false hkey

/-- A run of word characters that is a value is a word, and no keyword. -/
theorem value?_ofWord_eq_some_iff {word v : String} :
    (TokenKind.ofWord word).value? = some v ↔ isKeyword word = false ∧ word = v := by
  rcases ofWord_cases word with ⟨hkey, hword⟩ | ⟨hkey, hmem⟩
  · simp [hkey, hword, TokenKind.value?]
  · have hall : ∀ k ∈ [TokenKind.conj, .disj, .except, .within], k.value? = none := by decide
    simp [hkey, hall _ hmem]

/-- No operand starts with a keyword, so a word that starts one is none. -/
theorem isKeyword_eq_false_of_startsOperand {word : String}
    (h : (TokenKind.ofWord word).startsOperand = true) : isKeyword word = false := by
  rcases ofWord_cases word with ⟨hkey, -⟩ | ⟨-, hmem⟩
  · exact hkey
  · have hall : ∀ k ∈ [TokenKind.conj, .disj, .except, .within], k.startsOperand = false := by
      decide
    cases h.symm.trans (hall _ hmem)

/-- **A word that starts like a number is no keyword.** -/
theorem isKeyword_eq_false_of_isNumberChar {word : String} {c : Char} {cs : List Char}
    (hword : word.toList = c :: cs) (hc : isNumberChar c = true) : isKeyword word = false := by
  have hnat := toNat_of_isNumberChar hc
  have hlower : c.toLower = c := Char.toLower_of_lt (by omega)
  refine Bool.eq_false_iff.2 fun hkey => ?_
  obtain ⟨k, hk, hsame⟩ := List.any_eq_true.1 hkey
  -- the first letter of a keyword, in either case, is no digit and no sign
  have hlist := congrArg String.toList (Text.sameAscii_iff.1 hsame)
  simp only [Text.asciiLower, hword, List.map_cons, hlower, String.toList_ofList] at hlist
  have hhead : c ∈ ['a', 'o', 'e', 'i'] := by
    simp only [keywords, List.mem_cons, List.not_mem_nil, or_false] at hk
    rcases hk with rfl | rfl | rfl | rfl
    all_goals
      rw [(List.cons.inj hlist).1]
      decide
  simp only [List.mem_cons, List.not_mem_nil, or_false] at hhead
  rcases hhead with rfl | rfl | rfl | rfl <;> revert hnat <;> decide

/-- A number that may have a sign is one word. -/
theorem ofWord_of_isNumberChar {word : String} (hword : word ≠ "")
    (hchars : ∀ c ∈ word.toList, isNumberChar c = true) : TokenKind.ofWord word = .word word := by
  rcases hlist : word.toList with - | ⟨c, cs⟩
  · exact absurd (String.toList_eq_nil_iff.1 hlist) hword
  · have hc : isNumberChar c = true := hchars c (by rw [hlist]; exact List.mem_cons_self)
    exact ofWord_of_isKeyword_eq_false (isKeyword_eq_false_of_isNumberChar hlist hc)

end Query

/-! ### Dates -/

namespace Calendar.Date

theorem isNumberChar_of_mem_padded {width n : Nat} {c : Char}
    (h : c ∈ (padded width n).toList) : isNumberChar c = true := by
  rw [isNumberChar, isDigit_of_mem_padded h]
  rfl

/-- A date is written with digits, hyphens and perhaps a sign. -/
theorem isNumberChar_of_mem_toText {d : Date} {c : Char} (h : c ∈ d.toText.toList) :
    isNumberChar c = true := by
  have hyear : c ∈ (yearText d.year).toList → isNumberChar c = true := by
    unfold yearText
    split
    · exact isNumberChar_of_mem_padded
    -- a year of more than four digits, or before the first, has a sign
    · rw [String.toList_append, List.mem_append]
      rintro (hsign | hdigits)
      · split at hsign <;> obtain rfl := List.mem_singleton.1 hsign <;> decide
      · exact isNumberChar_of_mem_padded hdigits
  have hhyphen : c ∈ "-".toList → isNumberChar c = true := by
    intro hc
    obtain rfl := List.mem_singleton.1 hc
    decide
  simp only [toText, partsText, String.toList_append, List.mem_append] at h
  rcases h with (((h | h) | h) | h) | h
  · exact hyear h
  · exact hhyphen h
  · exact isNumberChar_of_mem_padded h
  · exact hhyphen h
  · exact isNumberChar_of_mem_padded h

theorem toText_ne_empty (d : Date) : d.toText ≠ "" := by
  intro h
  have hlist := congrArg String.toList h
  simp [toText, partsText] at hlist

/-- **A date is a word and no keyword.** -/
theorem ofWord_toText (d : Date) : TokenKind.ofWord d.toText = .word d.toText :=
  ofWord_of_isNumberChar d.toText_ne_empty fun _ => isNumberChar_of_mem_toText

end Calendar.Date

/-! ### Strings of bits -/

namespace StatusFilter

variable {f : StatusFilter} {backend : Nat}

/-- A character of a string of bits. -/
theorem mem_of_mem_bitChars {c : Char} (h : c ∈ f.bitChars backend) : c ∈ ['0', '1', 'x'] := by
  obtain ⟨bit, -, rfl⟩ := List.mem_map.1 h
  unfold bitChar
  split
  · decide
  · split <;> decide

/-- The characters of a string of bits start at the highest bit that is fixed. -/
theorem dropWhile_of_bits? {bits : String} (h : f.bits? backend = some bits) :
    (f.bitChars backend).dropWhile (· == 'x') = bits.toList ∧ bits.toList ≠ [] := by
  unfold bits? at h
  split at h
  · cases h
  · rename_i hne
    obtain rfl := Option.some.inj h
    rw [String.toList_ofList]
    exact ⟨rfl, hne⟩

theorem mem_of_bits? {bits : String} (h : f.bits? backend = some bits) :
    ∀ c ∈ bits.toList, c ∈ ['0', '1', 'x'] := by
  intro c hc
  rw [← (dropWhile_of_bits? h).1] at hc
  exact mem_of_mem_bitChars ((List.dropWhile_sublist _).subset hc)

theorem isWordChar_of_bits? {bits : String} (h : f.bits? backend = some bits) :
    ∀ c ∈ bits.toList, isWordChar c = true := by
  have hall : ['0', '1', 'x'].all isWordChar = true := by decide
  exact fun c hc => List.all_eq_true.1 hall c (mem_of_bits? h c hc)

/-- **A string of bits is a word and no keyword**: its first bit is fixed. -/
theorem ofWord_of_bits? {bits : String} (h : f.bits? backend = some bits) :
    TokenKind.ofWord bits = .word bits := by
  obtain ⟨hdrop, hne⟩ := dropWhile_of_bits? h
  rcases hlist : bits.toList with - | ⟨c, cs⟩
  · exact absurd hlist hne
  · have hc : c ∈ ['0', '1', 'x'] := mem_of_bits? h c (by rw [hlist]; exact List.mem_cons_self)
    -- what is cut off are the free bits at the front, so the first one that is left is fixed
    have hx := List.head?_dropWhile_not (· == 'x') (f.bitChars backend)
    rw [hdrop, hlist, List.head?_cons] at hx
    refine ofWord_of_isKeyword_eq_false (isKeyword_eq_false_of_isNumberChar hlist ?_)
    simp only [List.mem_cons, List.not_mem_nil, or_false] at hc
    rcases hc with rfl | rfl | rfl
    · decide
    · decide
    · cases hx

end StatusFilter

end FederatedSearch
