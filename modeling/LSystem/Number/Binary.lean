/-! # Binary floating point numbers, exactly

A finite `Float` is an integer times a power of two, so everything about it can be said in integers:
`Binary.ofFloat` takes it apart, and `nearest` goes back from a quotient of natural numbers to the
float that is nearest to it. Rounding, comparison, remainders and decimal digits are built on the
two. -/

namespace LSystem.Number

/-- The number `(-1) ^ negative * mantissa * 2 ^ exponent`. -/
structure Binary where
  negative : Bool
  mantissa : Nat
  exponent : Int
  deriving DecidableEq, Repr

namespace Binary

def ofFloat (x : Float) : Binary :=
  let bits := x.toBits.toNat
  let fraction := bits % Nat.pow 2 52
  let biased : Nat := bits / Nat.pow 2 52 % Nat.pow 2 11
  if biased = 0 then ⟨Nat.pow 2 63 ≤ bits, fraction, -1074⟩
  else ⟨Nat.pow 2 63 ≤ bits, fraction + Nat.pow 2 52, (biased : Int) - 1075⟩

/-- The absolute value is `magnitude / denominator`. -/
def magnitude (b : Binary) : Nat := b.mantissa * Nat.pow 2 b.exponent.toNat

/-- A power of two. -/
def denominator (b : Binary) : Nat := Nat.pow 2 (-b.exponent).toNat

/-- The number is `numerator / denominator`. -/
def numerator (b : Binary) : Int := if b.negative then -b.magnitude else b.magnitude

/-- The integer nearest to zero among those at most one away. -/
def truncate (b : Binary) : Int := b.numerator.tdiv b.denominator

/-- The greatest integer that is not greater. -/
def floor (b : Binary) : Int := b.numerator.fdiv b.denominator

/-- The least integer that is not less. -/
def ceil (b : Binary) : Int := -(-b.numerator).fdiv b.denominator

end Binary

/-- The integer nearest to `num / den`; of two equally near the even one. -/
def roundHalfEven (num : Int) (den : Nat) : Int :=
  let q := num.fdiv den
  let twice := 2 * num.fmod den
  if twice < den then q else if den < twice then q + 1 else if q % 2 = 0 then q else q + 1

/-- The exponent of the greatest power of two that is at most `num / den`, for positive `num` and
`den`. -/
def binaryExponent (num den : Nat) : Int :=
  let e : Int := (num.log2 : Int) - den.log2
  if den * Nat.pow 2 e.toNat ≤ num * Nat.pow 2 (-e).toNat then e else e - 1

/-- The greatest power of ten that is at most `num / den`, as its exponent, for positive `num` and
`den`. -/
def decimalExponent (num den : Nat) : Int :=
  let e : Int := ((Nat.toDigits 10 num).length : Int) - (Nat.toDigits 10 den).length
  if den * Nat.pow 10 e.toNat ≤ num * Nat.pow 10 (-e).toNat then e else e - 1

def withSign (negative : Bool) (x : Float) : Float := if negative then -x else x

/-- The float nearest to `num / den`, of two equally near the one with an even mantissa. There is
none if the quotient is too great. -/
def nearest? (num den : Nat) : Option Float :=
  if num = 0 then some 0.0 else
    let e := binaryExponent num den
    if 1023 < e then none
    else if e < -1080 then some 0.0
    else
      let exponent := max (e - 52) (-1074)
      let mantissa :=
        roundHalfEven (num * Nat.pow 2 (-exponent).toNat) (den * Nat.pow 2 exponent.toNat)
      let bits := (exponent + 1074).toNat * Nat.pow 2 52 + mantissa.toNat
      if bits < 2047 * Nat.pow 2 52 then some (Float.ofBits (UInt64.ofNat bits)) else none

def infinity : Float := Float.ofBits 0x7FF0000000000000

def undefined : Float := Float.ofBits 0x7FF8000000000000

/-- The float nearest to an integer; there is none if it is too great. -/
def ofInt? (i : Int) : Option Float := (nearest? i.natAbs 1).map (withSign (i < 0))

/-- The float nearest to the quotient of two integers, the divisor not being zero. A quotient that
vanishes has the sign of the quotient of the signs. -/
def quotient? (a b : Int) : Option Float :=
  (nearest? a.natAbs b.natAbs).map (withSign (decide (a < 0) != decide (b < 0)))

/-- The float nearest to `digits * 10 ^ exponent`, infinite if that is too great. -/
def ofDecimal (digits : Nat) (exponent : Int) : Float :=
  let leading := exponent + digits.log2 * 30103 / 100000
  if digits = 0 || leading < -400 then 0.0
  else if 400 < leading then infinity
  else (nearest? (digits * Nat.pow 10 exponent.toNat) (Nat.pow 10 (-exponent).toNat)).getD infinity

/-- Compares an integer with a float exactly; there is no answer if the float is undefined. -/
def compareInt (i : Int) (x : Float) : Option Ordering :=
  if x.isNaN then none
  else if x.isInf then some (if 0 < x then .lt else .gt)
  else
    let b := Binary.ofFloat x
    some (compare (i * b.denominator) b.numerator)

/-- Compares two floats; there is no answer if one is undefined. -/
def compareFloat (x y : Float) : Option Ordering :=
  if x < y then some .lt else if y < x then some .gt else if x == y then some .eq else none

end LSystem.Number
