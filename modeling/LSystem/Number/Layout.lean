import LSystem.Number.Decimal

/-! # Decimal digits of floats, and how they are laid out

`shortest` finds the fewest digits that read back as a float, and the nearest of those; `rounded`
rounds it to a given number of digits. A `Layout` says how such digits become a text: as they stand
or with an exponent, and whether a point is always shown. -/

namespace LSystem.Number

/-- The positive decimal number `d.ddd * 10 ^ exponent`, with the digits of `digits`, of which the
first and the last are not zero. -/
structure Scientific where
  digits : Text
  exponent : Int
  deriving DecidableEq, Repr

namespace Scientific

/-- The decimal number `n * 10 ^ scale`, for positive `n`. -/
def ofScaled (n : Nat) (scale : Int) : Scientific :=
  let digits := Nat.toDigits 10 n
  { digits := (digits.reverse.dropWhile (· = '0')).reverse
    exponent := scale + digits.length - 1 }

/-- `num / den` rounded to `count` significant digits, a half to the even neighbour, for positive
`num` and `den`. -/
def rounded (count num den : Nat) : Scientific :=
  let scale := decimalExponent num den - count + 1
  let num := num * Nat.pow 10 (-scale).toNat
  let den := den * Nat.pow 10 scale.toNat
  ofScaled (roundHalfEven num den).toNat scale

/-- The decimal number with `count` digits next to `num / den` that reads back as the float `x`, if
one of the two neighbours does. Of two the nearer is taken, of two equally near the even one. -/
def neighbour? (x : Float) (num den count : Nat) : Option Scientific :=
  let scale := decimalExponent num den - count + 1
  let num := num * Nat.pow 10 (-scale).toNat
  let den := den * Nat.pow 10 scale.toNat
  let below := num / den
  let readsBack (n : Nat) : Bool :=
    nearest? (n * Nat.pow 10 scale.toNat) (Nat.pow 10 (-scale).toNat) == some x
  let close := (roundHalfEven num den).toNat
  let far := if close = below then below + 1 else below
  if readsBack close then some (ofScaled close scale)
  else if readsBack far then some (ofScaled far scale)
  else none

/-- The fewest digits that read back as the positive finite float `x`, and the nearest of those.
Seventeen digits always suffice. -/
def shortest (x : Float) : Scientific :=
  let b := Binary.ofFloat x
  let counts := (List.range 17).map (· + 1)
  (counts.findSome? (neighbour? x b.magnitude b.denominator)).getD
    (rounded 17 b.magnitude b.denominator)

end Scientific

structure Layout where
  /-- Numbers with a decimal exponent from this one on are written as they stand. -/
  least : Int
  /-- Numbers with a decimal exponent from this one on get an exponent again. -/
  limit : Int
  /-- Whether an integral number that is written as it stands ends in `.0`. -/
  showsPoint : Bool
  deriving DecidableEq, Repr

namespace Layout

/-- The exponent of a number: its sign and at least two digits. -/
def exponentText (e : Int) : Text :=
  let digits := Nat.toDigits 10 e.natAbs
  'e' :: (if e < 0 then '-' else '+') :: (List.replicate (2 - digits.length) '0' ++ digits)

def write (layout : Layout) (s : Scientific) : Text :=
  if layout.least ≤ s.exponent && s.exponent < layout.limit then
    if s.exponent < 0 then
      '0' :: '.' :: (List.replicate (-s.exponent - 1).toNat '0' ++ s.digits)
    else
      let whole := s.exponent.toNat + 1
      let fraction := s.digits.drop whole
      s.digits.take whole ++ List.replicate (whole - s.digits.length) '0' ++
        (if fraction.isEmpty then if layout.showsPoint then ['.', '0'] else [] else '.' :: fraction)
  else
    match s.digits with
    | [d] => d :: exponentText s.exponent
    | d :: rest => d :: '.' :: (rest ++ exponentText s.exponent)
    | [] => []

/-- A float in a layout, given how many digits it takes. -/
def writeFloat (layout : Layout) (digits : Float → Scientific) (x : Float) : Text :=
  if x.isNaN then ['n', 'a', 'n']
  else
    let negative := (Binary.ofFloat x).negative
    let x := x.abs
    let body :=
      if x.isInf then ['i', 'n', 'f']
      else if x == 0.0 then if layout.showsPoint then ['0', '.', '0'] else ['0']
      else layout.write (digits x)
    if negative then '-' :: body else body

end Layout

/-- Floats in messages: exact, recognisable as floats, and as they stand below `10 ^ 16`. -/
def exactLayout : Layout := ⟨-4, 16, true⟩

/-- Floats in commands: rounded to fifteen digits, and as they stand below `10 ^ 15`. -/
def commandLayout : Layout := ⟨-4, 15, false⟩

/-- The shortest text that reads back as the float. -/
def floatText (x : Float) : Text := exactLayout.writeFloat Scientific.shortest x

/-- The float rounded to fifteen significant digits. Zero has no sign. -/
def commandText (x : Float) : Text :=
  commandLayout.writeFloat (fun x =>
    let b := Binary.ofFloat x
    Scientific.rounded 15 b.magnitude b.denominator) (if x == 0.0 then 0.0 else x)

end LSystem.Number
