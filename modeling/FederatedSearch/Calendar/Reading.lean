import FederatedSearch.Calendar.Date
import FederatedSearch.Text.Blank
import FederatedSearch.Text.Bytes

/-!
# Reading dates

Dates are read in two ways, which differ in the blanks that they let pass. A reading step gives a
value and the text after it.

* `FederatedSearch.Calendar.Date.ofText?`: a date that stands alone. Blanks may precede each number
  and each hyphen, and follow the date; the year may have a sign and then any number of digits.
* `FederatedSearch.Calendar.Date.ofField?`: the date at the start of a field value, which is its
  first ten bytes.
-/

namespace FederatedSearch.Calendar

/-- **Up to `width` digits**, at least one, as a number. -/
def readDigits? (width : Nat) (cs : List Char) : Option (Nat × List Char) :=
  let digits := (cs.take width).takeWhile Char.isDigit
  if digits.isEmpty then none
  else some (Number.digitsValue digits, cs.drop digits.length)

/-- A number of up to `width` digits after blanks. -/
def readNumber? (width : Nat) (cs : List Char) : Option (Nat × List Char) :=
  readDigits? width (Text.trimStart cs)

/-- A year after blanks: four digits at most, or a sign and any number of digits. -/
def readYear? (cs : List Char) : Option (Int × List Char) :=
  match Text.trimStart cs with
  | '-' :: rest => (readDigits? rest.length rest).map fun (n, r) => (-(n : Int), r)
  | '+' :: rest => (readDigits? rest.length rest).map fun (n, r) => ((n : Int), r)
  | rest => (readDigits? 4 rest).map fun (n, r) => ((n : Int), r)

/-- One character that has to come next. -/
def readChar? (c : Char) : List Char → Option (List Char)
  | d :: rest => if d == c then some rest else none
  | [] => none

/-- A year, a month and a day of the month with hyphens between them. Blanks before a hyphen pass
when `loose`. -/
def readDate? (loose : Bool) (cs : List Char) : Option (Date × List Char) := do
  let skip := if loose then Text.trimStart else id
  let (year, cs) ← readYear? cs
  let cs ← readChar? '-' (skip cs)
  let (month, cs) ← readNumber? 2 cs
  let cs ← readChar? '-' (skip cs)
  let (day, cs) ← readNumber? 2 cs
  let date ← Date.of? year month day
  return (date, cs)

/-- **A date that stands alone.** -/
def Date.ofText? (s : String) : Option Date := do
  let (date, rest) ← readDate? true s.toList
  if rest.all Text.isBlank then some date else none

/-- **The date at the start of a field value.** Its first ten bytes are a date and nothing else. -/
def Date.ofField? (s : String) : Option Date := do
  let start ← Text.takeBytes? 10 s.toList
  let (date, rest) ← readDate? false start
  if rest.isEmpty then some date else none

end FederatedSearch.Calendar
