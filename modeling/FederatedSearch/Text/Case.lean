import FederatedSearch.Text.CaseTable

/-!
# Letter case

Two ways to compare texts without regard to case.

* `FederatedSearch.Text.lowercase`: the lowercase form of a whole text, over all scripts. One
  letter looks at its neighbours: a capital sigma at the end of a word becomes a final sigma.
* `FederatedSearch.Text.sameAscii`: equality up to the case of ASCII letters only, for names and
  keywords.
-/

namespace FederatedSearch.Text

/-! ### Lowercase -/

/-- A cased character that is not passed over. -/
def isCased (c : Char) : Bool :=
  if c.toNat < 128 then c.isAlpha else c.inRanges casedRanges

/-- A character that is passed over when the neighbour of a letter is looked for: marks,
apostrophes and modifiers. -/
def isPassedOver (c : Char) : Bool :=
  if c.toNat < 128 then c == '\'' || c == '.' || c == ':' || c == '^' || c.toNat == 0x60
  else c.inRanges passedOverRanges

/-- The next character that is not passed over is cased. -/
def beforeCased (cs : List Char) : Bool :=
  match cs.dropWhile isPassedOver with
  | [] => false
  | c :: _ => isCased c

/-- The lowercase form of a character that stands alone. A capital I with a dot is the only one
whose form has two characters. -/
def lowerChar (c : Char) : List Char :=
  if c.toNat < 128 then [c.toLower]
  else if c.toNat == 0x130 then ['i', '\u0307']
  else match caseRuns.find? (·.contains c) with
    | some run => [Char.ofNat ((c.toNat : Int) + run.shift).toNat]
    | none => [c]

/-- The lowercase form of what follows a text, where `afterCased` says whether that text ends with
a cased character, those that are passed over left aside. -/
def lowercaseFrom : Bool → List Char → List Char
  | _, [] => []
  | afterCased, c :: cs =>
    (if c == 'Σ' then [if afterCased && !beforeCased cs then 'ς' else 'σ'] else lowerChar c) ++
      lowercaseFrom (if isPassedOver c then afterCased else isCased c) cs

/-- **The lowercase form of a text.** -/
def lowercase (cs : List Char) : List Char := lowercaseFrom false cs

/-- The lowercase form of a text. -/
def lowercaseText (s : String) : String := .ofList (lowercase s.toList)

@[simp] theorem lowercase_nil : lowercase [] = [] := rfl

/-! ### ASCII case -/

/-- The text with its ASCII capitals made small. -/
def asciiLower (s : String) : String := .ofList (s.toList.map Char.toLower)

/-- **Equality up to the case of ASCII letters.** -/
def sameAscii (s t : String) : Bool := asciiLower s == asciiLower t

@[simp] theorem sameAscii_refl (s : String) : sameAscii s s = true := by simp [sameAscii]

theorem sameAscii_iff {s t : String} : sameAscii s t = true ↔ asciiLower s = asciiLower t := by
  simp [sameAscii]

theorem sameAscii_comm (s t : String) : sameAscii s t = sameAscii t s := BEq.comm

end FederatedSearch.Text
