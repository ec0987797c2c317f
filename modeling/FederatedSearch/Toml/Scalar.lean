import FederatedSearch.Calendar.Instant
import FederatedSearch.Json.Basic

/-!
# Numbers, truth values and times in TOML

A value that is no text and holds no other value is written in letters, digits and a few signs.
Its whole written form decides what it is.

* `FederatedSearch.Toml.integer?`: an integer of 64 bits, in decimal or with a base.
* `FederatedSearch.Toml.real?`: a floating-point number.
* `FederatedSearch.Toml.isMoment`: a date, a time of day, or both.
* `FederatedSearch.Toml.scalar?`: any of them, or a truth value.
-/

namespace FederatedSearch.Toml

open Number

/-- A character of a value that is no text and holds no other value. -/
def isScalarChar (c : Char) : Bool :=
  c.isAlphanum || c == '_' || c == '+' || c == '-' || c == '.' || c == ':'

/-! ### Numbers -/

/-- Digits without the underscores that stand one by one between them. -/
def grouped? (isDigit : Char → Bool) : List Char → Option (List Char)
  | [] => none
  | [c] => if isDigit c then some [c] else none
  | c :: '_' :: rest => if isDigit c then (grouped? isDigit rest).map (c :: ·) else none
  | c :: rest => if isDigit c then (grouped? isDigit rest).map (c :: ·) else none

/-- The value of a digit in a base up to sixteen. -/
def valueOf (c : Char) : Nat :=
  if c.isDigit then digitValue c else c.toLower.toNat - 'a'.toNat + 10

/-- A digit of a base up to sixteen. -/
def isDigitIn (base : Nat) (c : Char) : Bool := c.isAlphanum && valueOf c < base

/-- A number in a base. -/
def inBase? (base : Nat) (cs : List Char) : Option Int :=
  (grouped? (isDigitIn base) cs).map fun digits =>
    (digits.foldl (fun n c => base * n + valueOf c) 0 : Nat)

/-- A sign, and what it stands in front of. -/
def readSign : List Char → Bool × List Char
  | '-' :: rest => (true, rest)
  | '+' :: rest => (false, rest)
  | rest => (false, rest)

/-- A decimal number: it starts with a zero only when it has no other digit. -/
def decimal? (cs : List Char) : Option (List Char) :=
  match grouped? Char.isDigit cs with
  | some ('0' :: _ :: _) => none
  | digits => digits

/-- An integer of any size: decimal with an optional sign, or with the mark of its base. -/
def anyInteger? : List Char → Option Int
  | '0' :: 'x' :: digits => inBase? 16 digits
  | '0' :: 'o' :: digits => inBase? 8 digits
  | '0' :: 'b' :: digits => inBase? 2 digits
  | cs =>
    let (negative, cs) := readSign cs
    (decimal? cs).map fun digits =>
      if negative then -(digitsValue digits : Int) else digitsValue digits

/-- **An integer of 64 bits with a sign.** -/
def integer? (cs : List Char) : Option Int :=
  (anyInteger? cs).filter fun n => leastInt ≤ n && n ≤ greatestInt

/-- A digit or an underscore. -/
def isGroupChar (c : Char) : Bool := c.isDigit || c == '_'

/-- The exponent part of a number: a mark, an optional sign, and digits. -/
def exponent? : List Char → Option Int
  | c :: rest =>
    if c == 'e' || c == 'E' then
      let (negative, cs) := readSign rest
      (grouped? Char.isDigit cs).map fun digits =>
        if negative then -(digitsValue digits : Int) else digitsValue digits
    else none
  | [] => none

/-- What follows the whole part of a number: the digits of a fraction, and an exponent. One of them
has to be there. -/
def fractionAndExponent? : List Char → Option (List Char × Int)
  | '.' :: rest => do
    let fraction ← grouped? Char.isDigit (rest.takeWhile isGroupChar)
    match rest.dropWhile isGroupChar with
    | [] => some (fraction, 0)
    | after => (exponent? after).map fun e => (fraction, e)
  | rest => (exponent? rest).map fun e => ([], e)

/-- A floating-point number without its sign. -/
def unsignedReal? (negative : Bool) (cs : List Char) : Option Binary64 :=
  if cs == ['i', 'n', 'f'] then some (.infinite negative)
  else if cs == ['n', 'a', 'n'] then some .nan
  else do
    let whole ← decimal? (cs.takeWhile isGroupChar)
    let (fraction, e) ← fractionAndExponent? (cs.dropWhile isGroupChar)
    match Binary64.ofDecimal negative (digitsValue (whole ++ fraction)) (e - fraction.length) with
    | .infinite false => none
    | x => some x

/-- **A floating-point number.** One that is too great is refused. -/
def real? (cs : List Char) : Option Binary64 :=
  let (negative, rest) := readSign cs
  unsignedReal? negative rest

/-! ### Times -/

/-- The text is a date. -/
def isDate : List Char → Bool
  | [y1, y2, y3, y4, '-', m1, m2, '-', d1, d2] =>
    [y1, y2, y3, y4, m1, m2, d1, d2].all Char.isDigit &&
      (Calendar.Date.of? (digitsValue [y1, y2, y3, y4]) (digitsValue [m1, m2])
        (digitsValue [d1, d2])).isSome
  | _ => false

/-- Two digits that do not exceed a bound. -/
def twoDigits (bound : Nat) (a b : Char) : Bool :=
  a.isDigit && b.isDigit && digitsValue [a, b] ≤ bound

/-- The text is the fraction of a second, or nothing. -/
def isFraction : List Char → Bool
  | [] => true
  | '.' :: digits => isDigits digits
  | _ => false

/-- The text is a time of day. -/
def isTime : List Char → Bool
  | h1 :: h2 :: ':' :: m1 :: m2 :: ':' :: s1 :: s2 :: rest =>
    twoDigits 23 h1 h2 && twoDigits 59 m1 m2 && twoDigits 60 s1 s2 && isFraction rest
  | _ => false

/-- The text is an offset from universal time, or nothing. -/
def isOffset : List Char → Bool
  | [] | ['Z'] | ['z'] => true
  | [sign, h1, h2, ':', m1, m2] =>
    (sign == '+' || sign == '-') && twoDigits 23 h1 h2 && twoDigits 59 m1 m2
  | _ => false

/-- A character of a time of day. -/
def isTimeChar (c : Char) : Bool := c.isDigit || c == ':' || c == '.'

/-- The text is a time of day with an optional offset. -/
def isTimeWithOffset (cs : List Char) : Bool :=
  isTime (cs.takeWhile isTimeChar) && isOffset (cs.dropWhile isTimeChar)

/-- The text is a date, the letter `T`, and a time of day with an optional offset. -/
def isDateTime (cs : List Char) : Bool :=
  isDate (cs.take 10) &&
    match cs.drop 10 with
    | 'T' :: rest | 't' :: rest => isTimeWithOffset rest
    | _ => false

/-- **The text is a date, a time of day, or both.** -/
def isMoment (cs : List Char) : Bool := isDate cs || isTime cs || isDateTime cs

/-- A date or a time as a value: an object of its own kind, which is no text. -/
def moment (cs : List Char) : Json := .object [("moment", .text (.ofList cs))]

/-! ### Values -/

/-- **The value with a written form that is no text and holds no other value.** -/
def scalar? (cs : List Char) : Option Json :=
  if cs == "true".toList then some (.bool true)
  else if cs == "false".toList then some (.bool false)
  else if isMoment cs then some (moment cs)
  else match integer? cs with
    | some n => some (.integer n)
    | none => (real? cs).map .real

end FederatedSearch.Toml
