import LSystem.Text.Class
import LSystem.Number.Binary

/-! # Decimal texts of numbers

Integers are written in decimal and read back in any script's digits, with single underscores
between digits. Texts of more than `digitLimit` digits are refused both ways. Floats are read to the
nearest float. -/

namespace LSystem.Number

/-- The greatest number of decimal digits of an integer that is written or read. -/
def digitLimit : Nat := 4300

/-- The decimal digits of an integer, after a minus sign if it is negative. -/
def intText (i : Int) : Text :=
  if i < 0 then '-' :: Nat.toDigits 10 i.natAbs else Nat.toDigits 10 i.natAbs

/-- Whether an integer has at most `digitLimit` digits. -/
def fitsDigitLimit (i : Int) : Bool := i.natAbs < Nat.pow 10 digitLimit

/-- The value of a character as a digit: decimal digits of ASCII, then letters. -/
def digitValue? (c : Char) : Option Nat :=
  if c.isDigit then some (c.toNat - 48)
  else if c.isLower then some (c.toNat - 87)
  else if c.isUpper then some (c.toNat - 55)
  else none

/-- The number with the given digits, most significant first. -/
def ofDigits (base : Nat) (digits : List Nat) : Nat :=
  digits.foldl (fun n d => n * base + d) 0

inductive ReadError where
  /-- It is no numeral. -/
  | malformed
  /-- It has too many digits: their number. -/
  | tooLong (digits : Nat)
  deriving DecidableEq, Repr

/-- The white space that may stand around a numeral. -/
def isNumeralBlank (c : Char) : Bool :=
  if c.toNat < 128 then (9 ≤ c.toNat && c.toNat ≤ 13) || c.toNat = 32 else Text.isBlank c

/-- A numeral in ASCII digits: the decimal digits of other scripts are replaced by those with the
same value. -/
def asciiDigits (s : Text) : Text :=
  s.map fun c =>
    if c.toNat < 128 then c else
      match Text.decimalValue? c with
      | some d => Char.ofNat (48 + d)
      | none => c

/-- The longest start of a text that consists of digits below `base` and underscores, without two
underscores in a row, as the values of its digits, and what follows; `last` is the character before.
There is none if two underscores meet. -/
def takeDigits (base : Nat) : (last : Char) → Text → List Nat → Option (List Nat × Text)
  | last, [], ds => if last = '_' then none else some (ds.reverse, [])
  | last, c :: s, ds =>
    if c = '_' then if last = '_' then none else takeDigits base '_' s ds
    else
      match (digitValue? c).filter (· < base) with
      | some d => takeDigits base c s (d :: ds)
      | none => if last = '_' then none else some (ds.reverse, c :: s)

/-- What stands before the digits in a numeral that names its base, and the base. -/
def basePrefix? : Text → Option (Nat × Text)
  | '0' :: x :: s =>
    if x = 'x' || x = 'X' then some (16, s)
    else if x = 'o' || x = 'O' then some (8, s)
    else if x = 'b' || x = 'B' then some (2, s)
    else none
  | _ => none

/-- The digits of a numeral without sign that is read in the given base, and the base. Base zero
stands for the base that the numeral names, else ten, and then a number other than zero does not
start with the digit zero. A numeral may name the base in which it is read anyway. -/
def readDigits (base : Nat) (s : Text) : Except ReadError (Nat × List Nat) := do
  let named := (basePrefix? s).filter fun (b, _) => base = 0 || base = b
  let b := match named with
    | some (b, _) => b
    | none => if base = 0 then 10 else base
  let body := match named with
    | some (_, '_' :: rest) => rest
    | some (_, rest) => rest
    | none => s
  if body.head? = some '_' then throw .malformed
  match takeDigits b ' ' body [] with
  | none => throw .malformed
  | some (digits, rest) =>
    if b &&& (b - 1) ≠ 0 && digitLimit < digits.length then throw (.tooLong digits.length)
    if digits.isEmpty || !rest.all isNumeralBlank then throw .malformed
    if base = 0 && named.isNone && digits.head? = some 0 && digits.any (· ≠ 0) then throw .malformed
    return (b, digits)

/-- Reads an integer in the given base: white space, a sign, digits, white space. -/
def readInt (base : Nat) (s : Text) : Except ReadError Int := do
  let s := (asciiDigits s).dropWhile isNumeralBlank
  let (negative, s) := match s with
    | '-' :: rest => (true, rest)
    | '+' :: rest => (false, rest)
    | _ => (false, s)
  let (b, digits) ← readDigits base s
  let n := ofDigits b digits
  return if negative then -n else n

/-- Takes single underscores out from between digits; there is no result if one stands elsewhere. -/
def dropUnderscores : (last : Char) → Text → Text → Option Text
  | last, [], done => if last = '_' then none else some done.reverse
  | last, c :: s, done =>
    if c = '_' then if last.isDigit then dropUnderscores '_' s done else none
    else if last = '_' && !c.isDigit then none
    else dropUnderscores c s (c :: done)

/-- The values of the leading decimal digits, and what follows. -/
def spanDigits (s : Text) : List Nat × Text :=
  ((s.takeWhile Char.isDigit).map fun c => c.toNat - 48, s.dropWhile Char.isDigit)

/-- The exponent that a text starts with, and what follows. A mark without digits is no exponent. -/
def exponent? (s : Text) : Option (Int × Text) :=
  match s with
  | c :: rest =>
    if c = 'e' || c = 'E' then
      let (negative, body) := match rest with
        | '-' :: body => (true, body)
        | '+' :: body => (false, body)
        | _ => (false, rest)
      match spanDigits body with
      | ([], _) => none
      | (ds, after) => some (if negative then -(ofDigits 10 ds : Int) else ofDigits 10 ds, after)
    else none
  | [] => none

/-- Reads a decimal numeral without sign: digits, a point and digits, an exponent. At least one
digit stands before the exponent. -/
def readDecimal? (s : Text) : Option (Float × Text) :=
  let (whole, s) := spanDigits s
  let (fraction, s) := match s with
    | '.' :: rest => spanDigits rest
    | _ => ([], s)
  if whole.isEmpty && fraction.isEmpty then none
  else
    let (exponent, s) := (exponent? s).getD (0, s)
    some (ofDecimal (ofDigits 10 (whole ++ fraction)) (exponent - fraction.length), s)

/-- Reads a float: white space, a sign, a decimal numeral or a word for an infinite or undefined
value, white space. -/
def readFloat? (s : Text) : Option Float := do
  let s := Text.trimWhile isNumeralBlank (asciiDigits s)
  let s ← dropUnderscores ' ' s []
  let (negative, s) := match s with
    | '-' :: rest => (true, rest)
    | '+' :: rest => (false, rest)
    | _ => (false, s)
  let word := s.map Char.toLower
  if word = ['i', 'n', 'f'] || word = "infinity".toList then some (withSign negative infinity)
  else if word = ['n', 'a', 'n'] then some undefined
  else
    match readDecimal? s with
    | some (x, []) => some (withSign negative x)
    | _ => none

end LSystem.Number
