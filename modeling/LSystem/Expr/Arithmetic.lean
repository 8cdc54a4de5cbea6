import LSystem.Expr.Value
import LSystem.Number.Rounding

/-! # Arithmetic on values

Integers have no bound, truth values count as integers, and an integer meets a float as the float
nearest to it. Quotients and remainders of `//` and `%` go with the floor. Texts and lists can be
added and repeated. What could take too long or grow too much is refused before it is tried. -/

namespace LSystem.Expr

/-- The greatest absolute value of a base or an exponent. -/
def powerLimit : Nat := 4000000

def shiftLimit : Nat := 10000

/-- The greatest absolute value that is shifted, the greatest finite float. -/
def shiftBaseLimit : Nat := (Nat.pow 2 53 - 1) * Nat.pow 2 971

/-- The greatest length of a text that an operation makes. -/
def lengthLimit : Nat := 100000

/-- The numbers of repetitions are below this one. -/
def repetitionLimit : Nat := Nat.pow 2 63

def floatOfInt (i : Int) : Except Failure Float :=
  match Number.ofInt? i with
  | some x => .ok x
  | none => .error (.overflow .integerAsFloat)

namespace Numeric

def toFloat : Numeric → Except Failure Float
  | .int i => floatOfInt i
  | .float x => .ok x
  | .complex .. => .error .typeMismatch

def toComplex : Numeric → Except Failure (Float × Float)
  | .int i => do
    let x ← floatOfInt i
    .ok (x, 0.0)
  | .float x => .ok (x, 0.0)
  | .complex re im => .ok (re, im)

def isComplex : Numeric → Bool
  | .complex .. => true
  | _ => false

def modulus (re im : Float) : Except Failure Float :=
  let x := Number.hypotenuse re im
  if x.isInf && !re.isInf && !im.isInf then .error (.overflow .modulus) else .ok x

/-- Whether the absolute value of a number is greater than `limit`. -/
def exceeds (limit : Nat) : Numeric → Except Failure Bool
  | .int i => .ok (decide (limit < i.natAbs))
  | .float x => .ok (Number.compareInt limit x.abs == some .lt)
  | .complex re im => do
    let x ← modulus re im
    .ok (Number.compareInt limit x == some .lt)

/-- Applies the operation for the wider of two numbers. -/
def combine (ints : Int → Int → Except Failure Numeric)
    (floats : Float → Float → Except Failure Numeric)
    (complexes : Float × Float → Float × Float → Except Failure Numeric) :
    Numeric → Numeric → Except Failure Numeric
  | .int a, .int b => ints a b
  | a, b =>
    if a.isComplex || b.isComplex then do
      let a ← a.toComplex
      let b ← b.toComplex
      complexes a b
    else do
      let x ← a.toFloat
      let y ← b.toFloat
      floats x y

def add : Numeric → Numeric → Except Failure Numeric :=
  combine (fun a b => .ok (.int (a + b))) (fun x y => .ok (.float (x + y)))
    (fun (a, b) (c, d) => .ok (.complex (a + c) (b + d)))

def sub : Numeric → Numeric → Except Failure Numeric :=
  combine (fun a b => .ok (.int (a - b))) (fun x y => .ok (.float (x - y)))
    (fun (a, b) (c, d) => .ok (.complex (a - c) (b - d)))

def complexMul : Float × Float → Float × Float → Float × Float
  | (a, b), (c, d) => (a * c - b * d, a * d + b * c)

def mul : Numeric → Numeric → Except Failure Numeric :=
  combine (fun a b => .ok (.int (a * b))) (fun x y => .ok (.float (x * y)))
    (fun z w => let (re, im) := complexMul z w; .ok (.complex re im))

/-- The quotient of complex numbers, unless the divisor is zero. -/
def complexDiv? : Float × Float → Float × Float → Option (Float × Float)
  | (a, b), (c, d) =>
    if c.abs ≥ d.abs then
      if c == 0.0 then none
      else
        let ratio := d / c
        let denom := c + d * ratio
        some ((a + b * ratio) / denom, (b - a * ratio) / denom)
    else if d.abs ≥ c.abs then
      let ratio := c / d
      let denom := c * ratio + d
      some ((a * ratio + b) / denom, (b * ratio - a) / denom)
    else some (Number.undefined, Number.undefined)

def intDiv (a b : Int) : Except Failure Numeric :=
  if b = 0 then .error (.zeroDivision .integer)
  else
    match Number.quotient? a b with
    | some x => .ok (.float x)
    | none => .error (.overflow .quotient)

def div : Numeric → Numeric → Except Failure Numeric :=
  combine intDiv
    (fun x y => if y == 0.0 then .error (.zeroDivision .float) else .ok (.float (x / y)))
    (fun z w =>
      match complexDiv? z w with
      | some (re, im) => .ok (.complex re im)
      | none => .error (.zeroDivision .complex))

/-- The quotient of two numbers, rounded down. -/
def floorDiv : Numeric → Numeric → Except Failure Numeric :=
  combine (fun a b => if b = 0 then .error (.zeroDivision .integerFloor) else .ok (.int (a.fdiv b)))
    (fun x y =>
      if y == 0.0 then .error (.zeroDivision .floatFloor)
      else .ok (.float (Number.floorQuotient x y)))
    (fun _ _ => .error .typeMismatch)

/-- What the quotient rounded down leaves. -/
def mod : Numeric → Numeric → Except Failure Numeric :=
  combine
    (fun a b => if b = 0 then .error (.zeroDivision .integerRemainder) else .ok (.int (a.fmod b)))
    (fun x y =>
      if y == 0.0 then .error (.zeroDivision .floatRemainder)
      else .ok (.float (Number.floorRemainder x y)))
    (fun _ _ => .error .typeMismatch)

def intPower (a : Int) (n : Nat) : Int :=
  if a < 0 && n % 2 = 1 then -(a.natAbs.pow n : Int) else (a.natAbs.pow n : Int)

/-- Powers of a complex number by repeated squaring: `p` is the base to a power of two. -/
def complexSquarings : Nat → Nat → Float × Float → Float × Float → Float × Float
  | 0, _, r, _ => r
  | fuel + 1, n, r, p =>
    if n = 0 then r
    else complexSquarings fuel (n / 2) (if n % 2 = 1 then complexMul r p else r) (complexMul p p)

/-- The power of complex numbers. Small whole exponents are done by multiplication. -/
def complexPower (z w : Float × Float) : Except Failure Numeric :=
  let (a, b) := z
  let (c, d) := w
  let result : Option (Float × Float) :=
    if d == 0.0 && c.abs ≤ 100.0 && c == c.floor then
      let n := (Number.Binary.ofFloat c).truncate
      let p := complexSquarings 8 n.natAbs (1.0, 0.0) z
      if 0 < n then some p else complexDiv? (1.0, 0.0) p
    else if c == 0.0 && d == 0.0 then some (1.0, 0.0)
    else if a == 0.0 && b == 0.0 then if !(d == 0.0) || c < 0.0 then none else some (0.0, 0.0)
    else
      let size := Number.hypotenuse a b
      let length := size.pow c
      let angle := Float.atan2 b a
      let phase := angle * c
      let (length, phase) :=
        if d == 0.0 then (length, phase)
        else (length / (angle * d).exp, phase + d * size.log)
      some (length * phase.cos, length * phase.sin)
  match result with
  | none => .error (.zeroDivision .complexPower)
  | some (re, im) =>
    if re.isInf || im.isInf then .error (.overflow .complexPower) else .ok (.complex re im)

/-- The power of floats. A negative base with a broken exponent has a complex power. -/
def floatPower (x y : Float) : Except Failure Numeric :=
  if y == 0.0 then .ok (.float 1.0)
  else if x.isNaN then .ok (.float x)
  else if y.isNaN then .ok (.float (if x == 1.0 then 1.0 else y))
  else if y.isInf then
    let x := x.abs
    if x == 1.0 then .ok (.float 1.0)
    else if (y > 0.0) == (x > 1.0) then .ok (.float y.abs)
    else .ok (.float 0.0)
  else if x.isInf then
    let odd := Number.isOddInteger y
    if y > 0.0 then .ok (.float (if odd then x else x.abs))
    else .ok (.float (if odd then Number.copySign 0.0 x else 0.0))
  else if x == 0.0 then
    if y < 0.0 then .error (.zeroDivision .negativePower)
    else .ok (.float (if Number.isOddInteger y then x else 0.0))
  else if x < 0.0 && !Number.isInteger y then complexPower (x, 0.0) (y, 0.0)
  else
    let negative := x < 0.0 && Number.isOddInteger y
    let x := x.abs
    if x == 1.0 then .ok (.float (if negative then -1.0 else 1.0))
    else
      let p := x.pow y
      if p.isInf then .error (.overflow .floatPower)
      else .ok (.float (if negative then -p else p))

/-- The power of two integers: a float if the exponent is negative. -/
def intPow (a b : Int) : Except Failure Numeric :=
  if 0 ≤ b then .ok (.int (intPower a b.toNat))
  else do
    let x ← floatOfInt a
    let y ← floatOfInt b
    floatPower x y

def pow : Numeric → Numeric → Except Failure Numeric := combine intPow floatPower complexPower

def neg : Numeric → Numeric
  | .int i => .int (-i)
  | .float x => .float (-x)
  | .complex re im => .complex (-re) (-im)

end Numeric

/-! ## Bits -/

/-- The bits of negative integers go on with ones: `i` is what the complement of this number is. -/
def complement (i : Int) : Nat := (-i - 1).toNat

/-- The integer whose bits are those of both. -/
def intAnd (a b : Int) : Int :=
  if 0 ≤ a then
    if 0 ≤ b then ((a.toNat &&& b.toNat : Nat) : Int)
    else ((a.toNat ^^^ (a.toNat &&& complement b) : Nat) : Int)
  else if 0 ≤ b then ((b.toNat ^^^ (b.toNat &&& complement a) : Nat) : Int)
  else -((complement a ||| complement b : Nat) : Int) - 1

/-- The integer whose bits are those of either. -/
def intOr (a b : Int) : Int :=
  if 0 ≤ a then
    if 0 ≤ b then ((a.toNat ||| b.toNat : Nat) : Int)
    else -((complement b ^^^ (complement b &&& a.toNat) : Nat) : Int) - 1
  else if 0 ≤ b then -((complement a ^^^ (complement a &&& b.toNat) : Nat) : Int) - 1
  else -((complement a &&& complement b : Nat) : Int) - 1

/-- The integer whose bits are those of one and not of the other. -/
def intXor (a b : Int) : Int :=
  if 0 ≤ a then
    if 0 ≤ b then ((a.toNat ^^^ b.toNat : Nat) : Int)
    else -((a.toNat ^^^ complement b : Nat) : Int) - 1
  else if 0 ≤ b then -((b.toNat ^^^ complement a : Nat) : Int) - 1
  else ((complement a ^^^ complement b : Nat) : Int)

namespace Value

/-- An operation that numbers alone have. -/
def numerically (f : Numeric → Numeric → Except Failure Numeric) (a b : Value) :
    Except Failure Value :=
  match a.numeric?, b.numeric? with
  | some x, some y => (f x y).map ofNumeric
  | _, _ => .error .typeMismatch

/-- The sum of two numbers, or one text or list after the other. -/
def add (a b : Value) : Except Failure Value :=
  let tooLong : Bool :=
    match a.size?, b.size? with
    | some m, some n => lengthLimit < m + n
    | _, _ => false
  if tooLong then .error (.tooLong .concatenation)
  else
    match a, b with
    | .text s, .text t => .ok (.text (s ++ t))
    | .bytes s, .bytes t => .ok (.bytes (s ++ t))
    | .list xs, .list ys => .ok (.list (xs ++ ys))
    | _, _ => numerically Numeric.add a b

/-- Refuses `times` repetitions of something of `size` items if that is too long. What is no real
number is no number of repetitions. -/
def checkRepetition (size : Nat) (times : Value) : Except Failure Unit :=
  match times.numeric? with
  | some (.int n) =>
    if (lengthLimit : Int) < n * size then .error (.tooLong .repetition) else .ok ()
  | some (.float x) => do
    let s ← floatOfInt size
    if Number.compareInt lengthLimit (x * s) == some .lt then .error (.tooLong .repetition)
    else .ok ()
  | _ => .error .typeMismatch

/-- Repeats items `n` times; a negative number counts as zero. -/
def repeated {α : Type} (n : Int) (items : List α) : Except Failure (List α) :=
  if (repetitionLimit : Int) ≤ n || n < -(repetitionLimit : Int) then
    .error (.overflow .repetitions)
  else if items.isEmpty || n ≤ 0 then .ok []
  else if (repetitionLimit : Int) ≤ n * items.length then .error (.overflow .repeatedLength)
  else .ok (List.replicate n.toNat items).flatten

def repeatedValue (v : Value) (n : Int) : Except Failure Value :=
  match v with
  | .text s => (repeated n s).map .text
  | .bytes s => (repeated n s).map .bytes
  | .list items => (repeated n items).map .list
  | _ => .error .typeMismatch

/-- The product of two numbers, or a text or list repeated. -/
def mul (a b : Value) : Except Failure Value := do
  if let some size := a.size? then checkRepetition size b
  if let some size := b.size? then checkRepetition size a
  match a.size?, a.int?, b.size?, b.int? with
  | some _, _, _, some n => repeatedValue a n
  | _, some n, some _, _ => repeatedValue b n
  | _, _, _, _ => numerically Numeric.mul a b

/-- Whether the absolute value of a number is greater than `limit`; other values have none. -/
def exceeds (limit : Nat) (v : Value) : Except Failure Bool :=
  match v.numeric? with
  | some x => x.exceeds limit
  | _ => .error .typeMismatch

/-- Refuses operands that are too great. -/
def refuseHigh (symbol : String) (a b : Value) : Except Failure Value := do
  let left ← a.display
  let right ← b.display
  .error (.tooHigh symbol left right)

/-- The power of two numbers that are not too great. -/
def pow (a b : Value) : Except Failure Value := do
  if (← exceeds powerLimit a) then refuseHigh "**" a b
  else if (← exceeds powerLimit b) then refuseHigh "**" a b
  else numerically Numeric.pow a b

/-- A shift of an integer by a distance that is not too great. -/
def shift (symbol : String) (f : Int → Nat → Int) (a b : Value) : Except Failure Value := do
  if (← exceeds shiftLimit b) then refuseHigh symbol a b
  else if (← exceeds shiftBaseLimit a) then refuseHigh symbol a b
  else
    match a.int?, b.int? with
    | some i, some n => if n < 0 then .error (.value .negativeShift) else .ok (.int (f i n.toNat))
    | _, _ => .error .typeMismatch

/-- An operation on bits; of two truth values it gives one. -/
def bitwise (bools : Bool → Bool → Bool) (ints : Int → Int → Int) (a b : Value) :
    Except Failure Value :=
  match a, b with
  | .bool x, .bool y => .ok (.bool (bools x y))
  | _, _ =>
    match a.int?, b.int? with
    | some i, some j => .ok (.int (ints i j))
    | _, _ => .error .typeMismatch

/-- The entries of one table, and those of another under the keys that it has and the first has
not. -/
def mergeTables (keys : List Text) (values : List Value) (newKeys : List Text)
    (newValues : List Value) : Value :=
  let kept := (keys.zip values).map fun (k, v) => (lookup? k newKeys newValues).getD v
  let added := (newKeys.zip newValues).filter fun (k, _) => k ∉ keys
  .dict (keys ++ added.map (·.1)) (kept ++ added.map (·.2))

/-- Either of two bit patterns, or two tables in one. -/
def bitOr (a b : Value) : Except Failure Value :=
  match a, b with
  | .dict ks vs, .dict ls ws => .ok (mergeTables ks vs ls ws)
  | _, _ => bitwise (· || ·) intOr a b

def binary : BinaryOp → Value → Value → Except Failure Value
  | .add => add
  | .sub => numerically Numeric.sub
  | .mul => mul
  | .matMul => fun _ _ => .error .unknownOperator
  | .div => numerically Numeric.div
  | .floorDiv => numerically Numeric.floorDiv
  | .mod => numerically Numeric.mod
  | .pow => pow
  | .shiftLeft => shift "<<" fun i n => i * Nat.pow 2 n
  | .shiftRight => shift ">>" fun i n => i.fdiv (Nat.pow 2 n)
  | .bitAnd => bitwise (· && ·) intAnd
  | .bitOr => bitOr
  | .bitXor => bitwise (· ^^ ·) intXor

def unary : UnaryOp → Value → Except Failure Value
  | .not, v => .ok (.bool (!v.truth))
  | .minus, v =>
    match v.numeric? with
    | some x => .ok (ofNumeric x.neg)
    | _ => .error .typeMismatch
  | .plus, v =>
    match v.numeric? with
    | some x => .ok (ofNumeric x)
    | _ => .error .typeMismatch
  | .invert, v =>
    match v.int? with
    | some i => .ok (.int (-i - 1))
    | _ => .error .typeMismatch

end Value

end LSystem.Expr
