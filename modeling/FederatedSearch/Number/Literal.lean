import FederatedSearch.Number.Binary64
import FederatedSearch.Text.Case

/-!
# Written numbers

How a number is read from a text: a natural number in decimal digits, a bounded integer, and a
floating-point number with an optional fraction and exponent.
-/

namespace FederatedSearch.Number

/-! ### Digits -/

/-- The value of a decimal digit. -/
def digitValue (c : Char) : Nat := c.toNat - '0'.toNat

/-- The number that decimal digits spell, in front of which `n` has been read. -/
def digitsFrom (n : Nat) (cs : List Char) : Nat :=
  cs.foldl (fun acc c => 10 * acc + digitValue c) n

/-- The number that decimal digits spell. -/
def digitsValue (cs : List Char) : Nat := digitsFrom 0 cs

/-- A nonempty text of decimal digits. -/
def isDigits (cs : List Char) : Bool := !cs.isEmpty && cs.all Char.isDigit

/-! ### Bounded integers -/

/-- **A natural number up to a bound**, with an optional plus sign. -/
def natUpTo? (bound : Nat) (s : String) : Option Nat :=
  let cs := match s.toList with
    | '+' :: rest => rest
    | cs => cs
  if isDigits cs && digitsValue cs ≤ bound then some (digitsValue cs) else none

/-- **An integer between two bounds**, with an optional sign. -/
def intBetween? (low high : Int) (s : String) : Option Int :=
  let (negative, cs) := match s.toList with
    | '-' :: rest => (true, rest)
    | '+' :: rest => (false, rest)
    | cs => (false, cs)
  let n : Int := if negative then -(digitsValue cs : Int) else digitsValue cs
  if isDigits cs && low ≤ n && n ≤ high then some n else none

/-! ### Floating-point numbers -/

/-- The exponent part of a number: nothing, or a mark, an optional sign and digits. -/
def exponentPart? : List Char → Option Int
  | [] => some 0
  | c :: rest =>
    if c == 'e' || c == 'E' then
      let (negative, digits) := match rest with
        | '-' :: ds => (true, ds)
        | '+' :: ds => (false, ds)
        | ds => (false, ds)
      if isDigits digits then
        some (if negative then -(digitsValue digits : Int) else digitsValue digits)
      else none
    else none

/-- A number without its sign: digits with an optional point among, before or after them, and an
optional exponent. At least one digit is needed. -/
def unsigned? (negative : Bool) (cs : List Char) : Option Binary64 :=
  let whole := cs.takeWhile Char.isDigit
  let afterWhole := cs.dropWhile Char.isDigit
  let (fraction, afterFraction) := match afterWhole with
    | '.' :: rest => (rest.takeWhile Char.isDigit, rest.dropWhile Char.isDigit)
    | rest => ([], rest)
  if whole.isEmpty && fraction.isEmpty then none
  else
    (exponentPart? afterFraction).map fun e =>
      .ofDecimal negative (digitsValue (whole ++ fraction)) (e - fraction.length)

/-- **A floating-point number**: an optional sign, then a number, an infinity spelled `inf` or
`infinity`, or `nan`, in any case of letters. -/
def binary64? (cs : List Char) : Option Binary64 :=
  let (negative, rest) := match cs with
    | '-' :: r => (true, r)
    | '+' :: r => (false, r)
    | r => (false, r)
  let word := Text.asciiLower (.ofList rest)
  if word == "inf" || word == "infinity" then some (.infinite negative)
  else if word == "nan" then some .nan
  else unsigned? negative rest

end FederatedSearch.Number
