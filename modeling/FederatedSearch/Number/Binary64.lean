import FederatedSearch.Number.Power

/-!
# Floating-point numbers of 64 bits

Durations and the values of number fields are numbers of the binary64 format. A finite one is an
exact dyadic rational, so its arithmetic is that of the integers followed by one rounding
(`FederatedSearch.Number.Binary64.ofRatio`), and comparing two of them is comparing two integers.
Every rounding of this library is that of a quotient of two natural numbers: the rounding of a real
number to the floating-point grid and that of a floating-point number to fixed decimals.

* `FederatedSearch.Number.roundDiv`: the rounding, a half going to the even neighbour.
* `FederatedSearch.Number.Binary64`: the numbers, infinities and the value that is no number.
* `FederatedSearch.Number.Binary64.ofRatio`: the nearest number to a quotient, a tie going to the
  even mantissa.
* `add`, `sub`, `mul`, `div`, `floor`: exact, then rounded once.
* `FederatedSearch.Number.Binary64.compare?`: the order, undefined on the value that is no number.
-/

namespace FederatedSearch.Number

/-- **The quotient rounded to the nearest natural number**, a half going to the even one. -/
def roundDiv (num den : Nat) : Nat :=
  let q := num / den
  let r := num % den
  if 2 * r > den || (2 * r == den && q % 2 == 1) then q + 1 else q

/-- A number of the binary64 format. -/
inductive Binary64 where
  /-- The value that is no number. -/
  | nan
  /-- An infinity. -/
  | infinite (negative : Bool)
  /-- The number `mantissa * 2 ^ exponent`, or its opposite. A zero has a sign. -/
  | finite (negative : Bool) (mantissa : Nat) (exponent : Int)
  deriving DecidableEq, Repr, Inhabited

namespace Binary64

/-- The exponent of the finest grid. -/
def leastExponent : Int := -1074

/-- The exponent of the coarsest grid. -/
def greatestExponent : Int := 971

/-- The number of binary digits of a mantissa. -/
def precision : Nat := 53

/-- Zero, of the given sign. -/
def zero (negative : Bool) : Binary64 := .finite negative 0 leastExponent

/-! ### Rounding a quotient to the grid -/

/-- A nonnegative quotient compared with a power of two: `num / den < 2 ^ k`. -/
def ratioLtPow (num den : Nat) (k : Int) : Bool :=
  num * twoTo (-k).toNat < den * twoTo k.toNat

/-- The exponent of the grid on which a positive quotient is rounded: the one that gives the
mantissa its full precision, and no finer one than the finest. -/
def gridExponent (num den : Nat) : Int :=
  let k : Int := (Nat.log2 num : Int) - Nat.log2 den
  let top := if ratioLtPow num den k then k - 1 else k
  max (top - (precision - 1 : Nat)) leastExponent

/-- The number with the given mantissa on a grid, after a rounding that may have carried the
mantissa to the next power of two, or past the greatest number. -/
def ofGrid (negative : Bool) (mantissa : Nat) (exponent : Int) : Binary64 :=
  let carried := mantissa == twoTo precision
  let m := if carried then twoTo (precision - 1) else mantissa
  let e := if carried then exponent + 1 else exponent
  if m == 0 then zero negative
  else if e > greatestExponent then .infinite negative
  else .finite negative m e

/-- **The nearest number to a quotient**, a tie going to the even mantissa. -/
def ofRatio (negative : Bool) (num den : Nat) : Binary64 :=
  if num == 0 then zero negative
  else
    let e := gridExponent num den
    ofGrid negative (roundDiv (num * twoTo (-e).toNat) (den * twoTo e.toNat)) e

/-- The nearest number to a natural number. -/
def ofNat (n : Nat) : Binary64 := ofRatio false n 1

/-- The nearest number to `mantissa * 2 ^ exponent`. -/
def ofScaled (negative : Bool) (mantissa : Nat) (exponent : Int) : Binary64 :=
  ofRatio negative (mantissa * twoTo exponent.toNat) (twoTo (-exponent).toNat)

/-- **The number written as decimal digits and a power of ten**, correctly rounded. Far outside
the range the answer is known without the power. -/
def ofDecimal (negative : Bool) (digits : Nat) (exponent : Int) : Binary64 :=
  if digits == 0 then zero negative
  else
    let size : Int := (Nat.toDigits 10 digits).length
    if exponent + size > 400 then .infinite negative
    else if exponent + size < -400 then zero negative
    else ofRatio negative (digits * tenTo exponent.toNat) (tenTo (-exponent).toNat)

/-! ### Arithmetic -/

/-- The number is negative or a negative zero. -/
def isNegative : Binary64 → Bool
  | .nan => false
  | .infinite s => s
  | .finite s _ _ => s

/-- The number with the opposite sign. -/
def neg : Binary64 → Binary64
  | .nan => .nan
  | .infinite s => .infinite (!s)
  | .finite s m e => .finite (!s) m e

/-- The mantissa of a number on a grid that is no coarser than its own, with its sign. -/
def onGrid (negative : Bool) (mantissa : Nat) (exponent grid : Int) : Int :=
  let m : Int := (mantissa * twoTo (exponent - grid).toNat : Nat)
  if negative then -m else m

/-- **The sum**, rounded. Opposite infinities have none; a sum that is exactly zero is a positive
zero, but for two negative zeros. -/
def add : Binary64 → Binary64 → Binary64
  | .nan, _ | _, .nan => .nan
  | .infinite s, .infinite t => if s == t then .infinite s else .nan
  | .infinite s, .finite .. => .infinite s
  | .finite .., .infinite t => .infinite t
  | .finite s m e, .finite t n f =>
    let grid := min e f
    let sum := onGrid s m e grid + onGrid t n f grid
    if sum == 0 then zero (s && t) else ofScaled (sum < 0) sum.natAbs grid

/-- The difference, rounded. -/
def sub (x y : Binary64) : Binary64 := x.add y.neg

/-- **The product**, rounded. -/
def mul : Binary64 → Binary64 → Binary64
  | .nan, _ | _, .nan => .nan
  | .infinite s, .infinite t => .infinite (s != t)
  | .infinite s, .finite t n _ => if n == 0 then .nan else .infinite (s != t)
  | .finite s m _, .infinite t => if m == 0 then .nan else .infinite (s != t)
  | .finite s m e, .finite t n f => ofScaled (s != t) (m * n) (e + f)

/-- **The quotient**, rounded. -/
def div : Binary64 → Binary64 → Binary64
  | .nan, _ | _, .nan => .nan
  | .infinite _, .infinite _ => .nan
  | .infinite s, .finite t _ _ => .infinite (s != t)
  | .finite s _ _, .infinite t => zero (s != t)
  | .finite s m e, .finite t n f =>
    if n == 0 then if m == 0 then .nan else .infinite (s != t)
    else ofRatio (s != t) (m * twoTo (e - f).toNat) (n * twoTo (f - e).toNat)

/-- The greatest whole number that is not above. -/
def floor : Binary64 → Binary64
  | .finite s m e =>
    if e ≥ 0 || m == 0 then .finite s m e
    else
      let unit := twoTo (-e).toNat
      ofRatio s (if s then (m + unit - 1) / unit else m / unit) 1
  | x => x

/-! ### Order -/

/-- The order of two mantissas with signs. -/
def compareFinite (s : Bool) (m : Nat) (e : Int) (t : Bool) (n : Nat) (f : Int) : Ordering :=
  compare (onGrid s m e (min e f)) (onGrid t n f (min e f))

/-- **The order of two numbers**, undefined when one of them is no number. The two zeros are
equal. -/
def compare? : Binary64 → Binary64 → Option Ordering
  | .nan, _ | _, .nan => none
  | .infinite s, .infinite t => some (if s == t then .eq else if s then .lt else .gt)
  | .infinite s, .finite .. => some (if s then .lt else .gt)
  | .finite .., .infinite t => some (if t then .gt else .lt)
  | .finite s m e, .finite t n f => some (compareFinite s m e t n f)

/-- The first number is at least the second. -/
def atLeast (x y : Binary64) : Bool := (x.compare? y).any (· != .lt)

/-- The number is an infinity. -/
def isInfinite : Binary64 → Bool
  | .infinite _ => true
  | _ => false

/-- The sum of a list of numbers, from left to right. It starts from the negative zero, which
changes no sum. -/
def sum (xs : List Binary64) : Binary64 := xs.foldl add (zero true)

end Binary64

end FederatedSearch.Number
