import FederatedSearch.Text.Printable

/-!
# Escaped texts

A text is shown between double quotes, with everything escaped that would end it or could not be
seen: quotes, backslashes and characters that are not printable. A text that is written into a page
has the five characters that markup is made of replaced by their names.

* `FederatedSearch.Text.escaped`: a text between quotes.
* `FederatedSearch.Markup.escape`: a text in a page.
-/

/-! ### Texts between quotes -/

namespace FederatedSearch.Text

/-- A character by its number, in hexadecimal digits between braces. -/
def escapeNumber (c : Char) : List Char :=
  '\\' :: 'u' :: '\x7b' :: Nat.toDigits 16 c.toNat ++ ['\x7d']

/-- **A character of a text between quotes.** -/
def escape (c : Char) : List Char :=
  if c == '"' then ['\\', '"']
  else if c == '\\' then ['\\', '\\']
  else if c == '\n' then ['\\', 'n']
  else if c == '\r' then ['\\', 'r']
  else if c == '\t' then ['\\', 't']
  else if c.toNat == 0 then ['\\', '0']
  else if isPrintable c then [c]
  else escapeNumber c

/-- **A text between quotes.** -/
def escaped (s : String) : String := .ofList ('"' :: s.toList.flatMap escape ++ ['"'])

end FederatedSearch.Text

/-! ### Texts in a page -/

namespace FederatedSearch.Markup

/-- A character in a page. -/
def escapeChar (c : Char) : List Char :=
  if c == '&' then "&amp;".toList
  else if c == '<' then "&lt;".toList
  else if c == '>' then "&gt;".toList
  else if c == '"' then "&quot;".toList
  else if c == '\'' then "&#39;".toList
  else [c]

/-- **A text in a page.** -/
def escape (s : String) : String := .ofList (s.toList.flatMap escapeChar)

/-- A text with one character more. -/
theorem escape_cons (c : Char) (cs : List Char) :
    escape (.ofList (c :: cs)) = .ofList (escapeChar c ++ cs.flatMap escapeChar) := by
  simp [escape]

end FederatedSearch.Markup
