/-!
# Finite 64-bit floating-point numbers

A parameter document may hold a number that is no integer of 64 bits. Such a
number is kept as a binary floating-point number of 53 significant bits, and
written with the fewest decimal digits to which it is the nearest such number.

A number is a sign and a `magnitude`, the position of its absolute value in the
list of all finite non-negative values in increasing order. The position is also
the lower 63 bits of the interchange format, so neighbours in value are
neighbours in `magnitude`, and rounding to the nearest value is rounding a
quotient to an integer.

Everything works in exact integer arithmetic; `nearestMagnitude` is the one place
where a value is rounded, a tie going to the even neighbour. `ofDecimal?` rounds
the digits, rounds the power of ten, and rounds their product or quotient. For up
to fifteen digits and a power of ten up to 22 the digits and the power are exact,
so that the result is the nearest number; beyond, it may be a neighbour of it.
`shortest` tries one digit, two digits, and so on up to seventeen; on each grid
only the two neighbours of the value can hit the interval of reals that round
to it.
-/

namespace ServiceTemplates.Json

/-- The leading bit of a significand that is not subnormal, which is not stored; also
the number of magnitudes per exponent. -/
def hiddenBit : Nat := 0x10000000000000

/-- One more than the greatest finite magnitude: all exponent bits set. -/
def magnitudeBound : Nat := 2047 * hiddenBit

/-- A finite binary floating-point number. -/
structure Binary64 where
  /-- Whether the sign bit is set; zero has both signs. -/
  negative : Bool
  /-- The position of the absolute value among the finite ones. -/
  magnitude : Nat
  /-- Infinities and not-a-numbers lie above. -/
  finite : magnitude < magnitudeBound
deriving DecidableEq

namespace Binary64

/-- Equality of values: both zeros are the same value. -/
def sameValue (a b : Binary64) : Bool :=
  a.magnitude == b.magnitude && (a.negative == b.negative || a.magnitude == 0)

/-- The value at a position is `significandAt * 2 ^ exponentAt`. -/
def significandAt (magnitude : Nat) : Nat :=
  if magnitude < hiddenBit then magnitude else hiddenBit + magnitude % hiddenBit

/-- The value at a position is `significandAt * 2 ^ exponentAt`. -/
def exponentAt (magnitude : Nat) : Int :=
  if magnitude < hiddenBit then -1074 else (magnitude / hiddenBit : Nat) - 1075

/-- The absolute value is `significand * 2 ^ exponent`. -/
def significand (x : Binary64) : Nat := significandAt x.magnitude

/-- The absolute value is `significand * 2 ^ exponent`. -/
def exponent (x : Binary64) : Int := exponentAt x.magnitude

/-! ### Reading -/

/-- The quotient rounded to the nearest integer, a tie to the even one. -/
def roundQuotient (num den : Nat) : Nat :=
  let floor := num / den
  let twice := 2 * (num % den)
  if twice < den then floor
  else if twice > den then floor + 1
  else if floor % 2 = 0 then floor else floor + 1

/-- `num / den * 2 ^ -shift`, as a numerator and a denominator. -/
def scaled (num den : Nat) (shift : Int) : Nat × Nat :=
  if shift < 0 then (num * Nat.pow 2 shift.natAbs, den) else (num, den * Nat.pow 2 shift.natAbs)

/-- The magnitude nearest to the positive rational `num / den`. The shift aims at
a quotient between `2 ^ 52` and `2 ^ 53`; the estimate from the bit lengths can be
one too low, which the quotient's size shows. -/
def nearestMagnitude (num den : Nat) : Nat :=
  let estimate : Int := (num.log2 : Int) - den.log2 - 53
  let (n, d) := scaled num den estimate
  let fitted : Int := if n / d < 2 * hiddenBit then estimate else estimate + 1
  let shift : Int := max fitted (-1074)
  let (n, d) := scaled num den shift
  (shift + 1074).toNat * hiddenBit + roundQuotient n d

/-- The product of the values at two positions, rounded; the position may lie
beyond the finite ones. -/
def product (a b : Nat) : Nat :=
  let (n, d) := scaled (significandAt a * significandAt b) 1 (-(exponentAt a + exponentAt b))
  if n = 0 then 0 else nearestMagnitude n d

/-- The quotient of the values at two positions, rounded. -/
def quotient (a b : Nat) : Nat :=
  let (n, d) := scaled (significandAt a) (significandAt b) (exponentAt b - exponentAt a)
  if n = 0 then 0 else nearestMagnitude n d

/-- The greatest power of ten that is finite. -/
def greatestPower : Nat := 308

/-- The position of a power of ten, rounded. -/
def powerOfTen (n : Nat) : Nat := nearestMagnitude (Nat.pow 10 n) 1

/-- The value at a position divided by a power of ten, by at most the greatest
finite one at a time. -/
def dividedByPowerOfTen (magnitude n : Nat) : Nat :=
  if magnitude = 0 then 0
  else if n ≤ greatestPower then quotient magnitude (powerOfTen n)
  else dividedByPowerOfTen (quotient magnitude (powerOfTen greatestPower)) (n - greatestPower)
termination_by n
decreasing_by
  have : 0 < greatestPower := by decide
  omega

/-- The number that `digits * 10 ^ power` is read as under the given sign; `none`
when that lies beyond the greatest finite one. -/
def ofDecimal? (negative : Bool) (digits : Nat) (power : Int) : Option Binary64 :=
  if digits = 0 then some ⟨negative, 0, by decide⟩
  else if power > greatestPower then none
  else
    let whole := nearestMagnitude digits 1
    let magnitude :=
      if power < 0 then dividedByPowerOfTen whole power.natAbs
      else product whole (powerOfTen power.natAbs)
    if h : magnitude < magnitudeBound then some ⟨negative, magnitude, h⟩ else none

/-! ### Writing -/

/-- A decimal `digits * 10 ^ power`. -/
structure Decimal where
  digits : Nat
  power : Int
deriving DecidableEq, Inhabited

/-- The decimal exponent of the leading digit of `num / den`. -/
def leadingPower (num den : Nat) : Int :=
  if num ≥ den then ((Nat.toDigits 10 (num / den)).length : Int) - 1
  else -((Nat.toDigits 10 ((den + num - 1) / num - 1)).length : Int)

/-- The point of the grid of multiples of `10 ^ power` that is nearest to
`m / d` among the two neighbours lying in the interval from `low / d` to
`high / d`, ends counted iff `closed`; of two equally near the even one. -/
def gridPoint? (low m high d : Nat) (closed : Bool) (power : Int) : Option Nat :=
  let up := if power < 0 then Nat.pow 10 power.natAbs else 1
  let unit := d * if power < 0 then 1 else Nat.pow 10 power.natAbs
  let below := m * up / unit
  let inside (k : Nat) : Bool :=
    let x := k * unit
    if closed then low * up ≤ x && x ≤ high * up else low * up < x && x < high * up
  match inside below, inside (below + 1) with
  | true, true =>
    let rest := 2 * (m * up % unit)
    if rest < unit then some below
    else if rest > unit then some (below + 1)
    else if below % 2 = 0 then some below else some (below + 1)
  | true, false => some below
  | false, true => some (below + 1)
  | false, false => none

/-- A decimal of some digits; ten of a unit are one of the next. -/
def Decimal.carried (digits : Nat) (power : Int) : Decimal :=
  if digits = 10 then ⟨1, power + 1⟩ else ⟨digits, power⟩

/-- The decimal with the fewest digits among those to which `x` is the nearest
number, the sign apart. -/
def shortest (x : Binary64) : Decimal :=
  -- In quarters of a unit of the last bit, the ends of the interval are integers.
  let m := x.significand
  let q := x.exponent - 2
  let up := if q < 0 then 1 else Nat.pow 2 q.natAbs
  let d := if q < 0 then Nat.pow 2 q.natAbs else 1
  -- Below a power of two the numbers lie twice as close.
  let lowerGap := if m = hiddenBit && x.exponent > -1074 then 1 else 2
  let low := (4 * m - lowerGap) * up
  let high := (4 * m + 2) * up
  let middle := 4 * m * up
  let lead := leadingPower middle d
  let attempts := (List.range 17).findSome? fun (n : Nat) =>
    let power : Int := lead - n
    (gridPoint? low middle high d (m % 2 = 0) power).map (Decimal.carried · power)
  attempts.getD ⟨0, 0⟩

/-- The digits of the shortest decimal are written positionally while its point
falls at most sixteen places right of the first digit or five places left of it,
and with an exponent otherwise; a positional integer ends in `.0`. -/
def toText (x : Binary64) : String :=
  let sign := if x.negative then "-" else ""
  if x.magnitude = 0 then sign ++ "0.0"
  else
    let s := x.shortest
    let digits := Nat.toDigits 10 s.digits
    let point : Int := digits.length + s.power
    let zeros (n : Nat) : List Char := List.replicate n '0'
    let text : List Char :=
      if 0 ≤ s.power && point ≤ 16 then digits ++ zeros s.power.natAbs ++ ['.', '0']
      else if 0 < point && point ≤ 16 then
        digits.take point.natAbs ++ '.' :: digits.drop point.natAbs
      else if -5 < point && point ≤ 0 then '0' :: '.' :: zeros point.natAbs ++ digits
      else
        let fraction := match digits.drop 1 with
          | [] => []
          | rest => '.' :: rest
        digits.take 1 ++ fraction ++ 'e' :: (toString (point - 1)).toList
    sign ++ String.ofList text

end Binary64

end ServiceTemplates.Json
