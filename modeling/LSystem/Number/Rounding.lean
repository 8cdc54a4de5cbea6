import LSystem.Number.Binary

/-! # Rounding and remainders of floats

Rounding to decimal places is exact: the float is scaled and rounded as a quotient of integers, and
the result is the float nearest to that decimal. A remainder of floats is a float, so it is exact
too. -/

namespace LSystem.Number

/-- The first float with the sign of the second. -/
def copySign (x y : Float) : Float := withSign (Binary.ofFloat y).negative x.abs

/-- A finite float rounded to `places` decimal places, a half to the even neighbour. A negative
number of places counts places before the point. There is no result if that is too great for a
float. -/
def roundPlaces? (x : Float) (places : Int) : Option Float :=
  if 323 < places || x == 0.0 then some x
  else if places < -308 then some (0.0 * x)
  else
    let b := Binary.ofFloat x
    let up : Nat := Nat.pow 10 places.toNat
    let down : Nat := Nat.pow 10 (-places).toNat
    let n := roundHalfEven (b.magnitude * up) (b.denominator * down)
    (nearest? (n.toNat * down) up).map (withSign b.negative)

/-- An integer rounded to `places` decimal places, a half to the even neighbour. -/
def roundIntPlaces (i : Int) (places : Int) : Int :=
  if 0 ≤ places then i
  else if ((i.natAbs.log2 : Int) + 1) < -places then 0
  else
    let unit : Nat := Nat.pow 10 (-places).toNat
    roundHalfEven i unit * unit

/-- What is left of `x` after taking away as many whole `y` as fit, with the sign of `x`. -/
def floatRemainder (x y : Float) : Float :=
  if x.isNaN || y.isNaN || x.isInf || y == 0.0 then undefined
  else if y.isInf then x
  else
    let a := Binary.ofFloat x
    let b := Binary.ofFloat y
    let e := min a.exponent b.exponent
    let m := a.mantissa * Nat.pow 2 (a.exponent - e).toNat
    let n := b.mantissa * Nat.pow 2 (b.exponent - e).toNat
    let r := m % n
    withSign a.negative ((nearest? (r * Nat.pow 2 e.toNat) (Nat.pow 2 (-e).toNat)).getD 0.0)

/-- The remainder with the sign of the divisor, which is not zero. -/
def floorRemainder (x y : Float) : Float :=
  let r := floatRemainder x y
  if r == 0.0 then copySign 0.0 y
  else if (y < 0.0) != (r < 0.0) then r + y
  else r

/-- The quotient rounded down, for a divisor that is not zero. -/
def floorQuotient (x y : Float) : Float :=
  let r := floatRemainder x y
  let q := (x - r) / y
  let q := if !(r == 0.0) && (y < 0.0) != (r < 0.0) then q - 1.0 else q
  if q == 0.0 then copySign 0.0 (x / y)
  else
    let f := q.floor
    if q - f > 0.5 then f + 1.0 else f

/-- The square root of `num / den ^ 2`, to some sixty binary places and one more that says whether
there is anything left. -/
def squareRoot? (num den : Nat) : Option Float :=
  let places := 64 + den.log2 - num.log2 / 2
  let scaled := num * Nat.pow 4 places
  let root := scaled.sqrt
  nearest? (2 * root + if root * root = scaled then 0 else 1) (2 * den * Nat.pow 2 places)

/-- The length of the longest side of a right triangle with the other two sides given. -/
def hypotenuse (x y : Float) : Float :=
  if x.isInf || y.isInf then infinity
  else if x.isNaN || y.isNaN then undefined
  else
    let a := Binary.ofFloat x
    let b := Binary.ofFloat y
    let e := min a.exponent b.exponent
    let m := a.mantissa * Nat.pow 2 (a.exponent - e).toNat
    let n := b.mantissa * Nat.pow 2 (b.exponent - e).toNat
    let up : Nat := Nat.pow 2 e.toNat
    let down : Nat := Nat.pow 2 (-e).toNat
    (squareRoot? ((m * m + n * n) * up * up) down).getD infinity

def isOddInteger (x : Float) : Bool :=
  let b := Binary.ofFloat x
  if 0 < b.exponent then false
  else b.magnitude % b.denominator = 0 && b.magnitude / b.denominator % 2 = 1

def isInteger (x : Float) : Bool :=
  let b := Binary.ofFloat x
  b.magnitude % b.denominator = 0

end LSystem.Number
