import FederatedSearch.Number.Binary64

/-!
# Decimals

A number is written in two ways. With the fewest digits that read back as the same number: around a
finite number lie the reals that round to it; the coarsest decimal grid with a point among them
gives the digits, and of two such points the nearer one is taken. And with a fixed count of
decimals: there the exact value is rounded, a half going to the even neighbour, and a negative
number keeps its sign when it is rounded to zero.

* `FederatedSearch.Number.Binary64.shortest`: the digits and the power of ten.
* `FederatedSearch.Number.Binary64.toShortest`: the written form, positional between `1e-5` and
  `1e+16` and with an exponent outside.
* `FederatedSearch.Number.Binary64.toFixed`: the written form with a count of decimals.
-/

namespace FederatedSearch.Number.Binary64

/-! ### The fewest digits -/

/-- The reals that round to a positive number: from `low / scale` to `high / scale`, with `centre`
the number itself. Both ends belong to them exactly when `closed`. -/
structure RoundingInterval where
  low : Nat
  centre : Nat
  high : Nat
  scale : Nat
  closed : Bool

/-- The reals that round to `m * 2 ^ e`, in quarters of the distance to the next number. Below a
power of two the grid is twice as fine. -/
def RoundingInterval.of (m : Nat) (e : Int) : RoundingInterval :=
  let finerBelow := m == twoTo (precision - 1) && e > leastExponent
  let up := twoTo e.toNat
  { low := (4 * m - if finerBelow then 1 else 2) * up
    centre := 4 * m * up
    high := (4 * m + 2) * up
    scale := 4 * twoTo (-e).toNat
    closed := m % 2 == 0 }

/-- The point `digits * 10 ^ power` lies among the reals that round to the number. -/
def RoundingInterval.holds (i : RoundingInterval) (digits : Nat) (power : Int) : Bool :=
  let point := digits * tenTo power.toNat * i.scale
  let unit := tenTo (-power).toNat
  let low := i.low * unit
  let high := i.high * unit
  if i.closed then low ≤ point && point ≤ high else low < point && point < high

/-- The point of the grid of `10 ^ power` that lies among the reals that round to the number, if
there is one; of two, the nearer. -/
def RoundingInterval.pointOn? (i : RoundingInterval) (power : Int) : Option Nat :=
  let num := i.centre * tenTo (-power).toNat
  let den := i.scale * tenTo power.toNat
  let nearest := roundDiv num den
  let below := num / den
  if i.holds nearest power then some nearest
  else if i.holds below power then some below
  else if i.holds (below + 1) power then some (below + 1)
  else none

/-- The first grid among those of `10 ^ power`, `10 ^ (power - 1)`, … that has a point. -/
def RoundingInterval.firstPoint (i : RoundingInterval) : Nat → Int → Nat × Int
  | 0, power => (roundDiv (i.centre * tenTo (-power).toNat) (i.scale * tenTo power.toNat), power)
  | n + 1, power =>
    match i.pointOn? power with
    | some digits => (digits, power)
    | none => i.firstPoint n (power - 1)

/-- A number of digits without the zeros at its end, and its power of ten. -/
def stripZeros : Nat → Nat → Int → Nat × Int
  | 0, digits, power => (digits, power)
  | n + 1, digits, power =>
    if digits != 0 && digits % 10 == 0 then stripZeros n (digits / 10) (power + 1)
    else (digits, power)

/-- **The fewest digits that read back**, and the power of ten they count: for a positive number
`m * 2 ^ e`. Seventeen grids always suffice from the power of ten just above the number on. -/
def shortest (m : Nat) (e : Int) : Nat × Int :=
  let i := RoundingInterval.of m e
  let size : Int := (Nat.toDigits 10 (i.centre / i.scale)).length
  let top : Int := if i.centre < i.scale then
      2 - ((Nat.toDigits 10 (i.scale / i.centre)).length : Int)
    else size
  let (digits, power) := i.firstPoint 20 top
  stripZeros 20 digits power

/-- The digits with a point after the first and an exponent, which always has a sign. -/
def scientific (digits : List Char) (exponent : Int) : String :=
  let mantissa := match digits with
    | [] => ""
    | [d] => d.toString
    | d :: rest => d.toString ++ "." ++ .ofList rest
  mantissa ++ (if 0 ≤ exponent then "e+" else "e") ++ toString exponent

/-- **The shortest written form.** With the point after the first `whole` digits, a number is
written positionally when `whole` is between `-4` and `16`, and always with a decimal. -/
def toShortest : Binary64 → String
  | .nan => "NaN"
  | .infinite s => if s then "-inf" else "inf"
  | .finite s m e =>
    let sign := if s then "-" else ""
    if m == 0 then sign ++ "0.0"
    else
      let (value, power) := shortest m e
      let digits := Nat.toDigits 10 value
      let whole : Int := digits.length + power
      if 0 ≤ power && whole ≤ 16 then
        sign ++ .ofList (digits ++ List.replicate power.toNat '0') ++ ".0"
      else if 0 < whole && whole ≤ 16 then
        sign ++ .ofList (digits.take whole.toNat) ++ "." ++ .ofList (digits.drop whole.toNat)
      else if -5 < whole && whole ≤ 0 then
        sign ++ "0." ++ .ofList (List.replicate (-whole).toNat '0' ++ digits)
      else sign ++ scientific digits (whole - 1)

/-! ### Fixed decimals -/

/-- The digits of a natural number of hundredths, thousandths, … with the point before the last
`places` of them. -/
def placePoint (places units : Nat) : String :=
  let digits := (toString units).toList
  let padded := List.replicate (places + 1 - digits.length) '0' ++ digits
  let cut := padded.length - places
  if places == 0 then .ofList padded
  else .ofList (padded.take cut ++ '.' :: padded.drop cut)

/-- **The number with a fixed count of decimals.** -/
def toFixed (places : Nat) : Binary64 → String
  | .nan => "NaN"
  | .infinite s => if s then "-inf" else "inf"
  | .finite s m e =>
    let units := roundDiv (m * tenTo places * twoTo e.toNat) (twoTo (-e).toNat)
    (if s then "-" else "") ++ placePoint places units

end FederatedSearch.Number.Binary64
