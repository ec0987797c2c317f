import FederatedSearch.Json.Basic
import FederatedSearch.Number.Literal

/-!
# Numbers in JSON

A number is an integer part without leading zeros, an optional fraction and an optional exponent.
One that is written as an integer of 64 bits is exact. Any other keeps as many digits as fit in 64
bits and is scaled by a power of ten, with one rounding per step, so its last bit may differ from
that of the nearest number.
-/

namespace FederatedSearch.Json

open Number

/-! ### The digits that are kept -/

/-- The digits read so far: the number they spell and the power of ten it counts. -/
structure Kept where
  significand : Nat
  exponent : Int
  deriving Repr

/-- The digit still fits in 64 bits behind the others. -/
def Kept.fits (k : Kept) (d : Nat) : Bool := k.significand * 10 + d ≤ maxWord 64

/-- Digits of the integer part: once a digit does not fit, it and those after it only count. -/
def Kept.whole (k : Kept) : List Char → Kept
  | [] => k
  | c :: cs =>
    if k.fits (digitValue c) then
      Kept.whole { k with significand := k.significand * 10 + digitValue c } cs
    else { k with exponent := k.exponent + cs.length + 1 }

/-- Digits of the fraction: once a digit does not fit, it and those after it are dropped. -/
def Kept.fraction (k : Kept) : List Char → Kept
  | [] => k
  | c :: cs =>
    if k.fits (digitValue c) then
      Kept.fraction ⟨k.significand * 10 + digitValue c, k.exponent - 1⟩ cs
    else k

/-! ### Scaling -/

/-- The greatest power of ten that is a number of the format. -/
def greatestPower : Nat := 308

/-- A power of ten as a number of the format. -/
def powerOfTen (n : Nat) : Binary64 := .ofDecimal false 1 n

/-- **A number scaled by a power of ten**, in steps that each are a number of the format. -/
def scale (x : Binary64) (exponent : Int) : Binary64 :=
  if exponent.natAbs ≤ greatestPower then
    if exponent ≥ 0 then x.mul (powerOfTen exponent.natAbs) else x.div (powerOfTen exponent.natAbs)
  else if x == .zero false then x
  else if 0 ≤ exponent then .infinite false
  else scale (x.div (powerOfTen greatestPower)) (exponent + greatestPower)
termination_by exponent.natAbs
decreasing_by
  simp only [greatestPower] at *
  omega

/-! ### Reading -/

/-- The kept digits and exponent as a number. -/
def Kept.toReal (k : Kept) (negative : Bool) : Binary64 :=
  let x := scale (.ofNat k.significand) k.exponent
  if negative then x.neg else x

/-- A floating-point number as a value. One that is too great is none. -/
def ofReal (x : Binary64) : Json := if x.isInfinite then .broken else .real x

/-- The number that is spelled by its parts, where a missing fraction and a missing exponent are
not the same as empty ones. -/
def ofParts (negative : Bool) (whole : List Char) (fraction : Option (List Char))
    (exponent : Option Int) : Json :=
  let n := digitsValue whole
  if fraction.isNone && exponent.isNone && !negative && n ≤ maxWord 64 then .integer n
  else if fraction.isNone && exponent.isNone && negative && 0 < n && n ≤ twoTo 63 then .integer (-n)
  else
    let k := (Kept.whole ⟨0, 0⟩ whole).fraction (fraction.getD [])
    ofReal ({ k with exponent := k.exponent + exponent.getD 0 }.toReal negative)

/-- The digits of an integer part: a zero alone, or digits that do not start with one. -/
def readWhole? (cs : List Char) : Option (List Char × List Char) :=
  let digits := cs.takeWhile Char.isDigit
  match digits with
  | [] => none
  | '0' :: _ :: _ => none
  | _ => some (digits, cs.dropWhile Char.isDigit)

/-- An optional fraction: a point and at least one digit. -/
def readFractionPart? : List Char → Option (Option (List Char) × List Char)
  | '.' :: cs =>
    let digits := cs.takeWhile Char.isDigit
    if digits.isEmpty then none else some (some digits, cs.dropWhile Char.isDigit)
  | cs => some (none, cs)

/-- An optional exponent: a mark, an optional sign and at least one digit. -/
def readExponentPart? (cs : List Char) : Option (Option Int × List Char) :=
  match cs with
  | [] => some (none, [])
  | c :: rest =>
    if c == 'e' || c == 'E' then
      let (negative, cs) := match rest with
        | '-' :: r => (true, r)
        | '+' :: r => (false, r)
        | r => (false, r)
      let digits := cs.takeWhile Char.isDigit
      if digits.isEmpty then none
      else
        let n : Int := digitsValue digits
        some (some (if negative then -n else n), cs.dropWhile Char.isDigit)
    else some (none, c :: rest)

/-- **A number**, and the text after it. -/
def readNumber? (cs : List Char) : Option (Json × List Char) := do
  let (negative, cs) := match cs with
    | '-' :: rest => (true, rest)
    | rest => (false, rest)
  let (whole, cs) ← readWhole? cs
  let (fraction, cs) ← readFractionPart? cs
  let (exponent, cs) ← readExponentPart? cs
  return (ofParts negative whole fraction exponent, cs)

end FederatedSearch.Json
