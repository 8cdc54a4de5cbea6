import LSystem.Expr.Syntax
import LSystem.Number.Decimal

/-! # Numerals in expressions

Decimal integers, integers with a base mark, floats and imaginary numbers. Single underscores may
stand between digits. A numeral may be followed at once by a keyword that can follow a number, but
by no other letter. -/

namespace LSystem.Expr.Numeral

/-- Whether a character can belong to a name, as far as its surroundings are concerned. -/
def isNameLike (c : Char) : Bool := c.isAlphanum || c = '_' || 128 ≤ c.toNat

/-- Whether a numeral may end before `s`. -/
def endsBefore (s : Text) : Bool :=
  match s with
  | 'a' :: 'n' :: 'd' :: _ => true
  | 'e' :: 'l' :: 's' :: 'e' :: _ => true
  | 'f' :: 'o' :: 'r' :: _ => true
  | 'i' :: 'f' :: _ => true
  | 'i' :: 'n' :: _ => true
  | 'i' :: 's' :: _ => true
  | 'n' :: 'o' :: 't' :: _ => true
  | 'o' :: 'r' :: _ => true
  | c :: _ => !isNameLike c
  | [] => true

/-- The digits below `base` at the start of a text, with single underscores between them, and what
follows. There is none if an underscore has no digit after it. -/
def digits (base : Nat) : Text → List Nat → Option (List Nat × Text)
  | [], ds => some (ds.reverse, [])
  | c :: s, ds =>
    match (Number.digitValue? c).filter (· < base) with
    | some d => digits base s (d :: ds)
    | none =>
      if c = '_' then
        match s with
        | d :: s =>
          match (Number.digitValue? d).filter (· < base) with
          | some v => digits base s (v :: ds)
          | none => none
        | [] => none
      else some (ds.reverse, c :: s)

/-- Digits after a point; there need not be any. -/
def fraction (s : Text) : Option (List Nat × Text) :=
  match s with
  | c :: _ => if c.isDigit then digits 10 s [] else some ([], s)
  | [] => some ([], [])

/-- An exponent, if there is one. A mark with a sign needs digits; a mark without digits may be the
start of a keyword. -/
def exponent (s : Text) : Option (Option Int × Text) :=
  match s with
  | c :: rest =>
    if c = 'e' || c = 'E' then
      match rest with
      | '+' :: d :: _ =>
        if d.isDigit then
          (digits 10 (rest.drop 1) []).map fun (ds, s) => (some (Number.ofDigits 10 ds : Int), s)
        else none
      | '-' :: d :: _ =>
        if d.isDigit then
          (digits 10 (rest.drop 1) []).map fun (ds, s) => (some (-(Number.ofDigits 10 ds : Int)), s)
        else none
      | d :: _ =>
        if d.isDigit then
          (digits 10 rest []).map fun (ds, s) => (some (Number.ofDigits 10 ds : Int), s)
        else some (none, s)
      | [] => some (none, s)
    else some (none, s)
  | [] => some (none, [])

/-- The numeral that starts a text, and what follows. -/
def scan (s : Text) : Option (Literal × Text) := do
  match Number.basePrefix? s with
  | some (base, body) =>
    let body := match body with
      | '_' :: rest => rest
      | _ => body
    let (ds, rest) ← digits base body []
    if ds.isEmpty || !endsBefore rest then none
    else some (.int (Number.ofDigits base ds), rest)
  | none =>
    let (whole, s) ← fraction s
    let (point, part, s) ← match s with
      | '.' :: rest => (fraction rest).map fun (ds, s) => (true, ds, s)
      | _ => some (false, [], s)
    let (power, s) ← exponent s
    let value : Unit → Float := fun _ =>
      Number.ofDecimal (Number.ofDigits 10 (whole ++ part)) (power.getD 0 - part.length)
    match s with
    | c :: rest =>
      if c = 'j' || c = 'J' then
        if endsBefore rest then some (.imaginary (value ()), rest) else none
      else finish s whole point power value
    | [] => finish s whole point power value
where
  /-- A numeral without imaginary mark. An integer other than zero starts with no zero, and has no
  more digits than can be read. -/
  finish (s : Text) (whole : List Nat) (point : Bool) (power : Option Int) (value : Unit → Float) :
      Option (Literal × Text) :=
    if !endsBefore s then none
    else if point || power.isSome then some (.float (value ()), s)
    else if whole.head? = some 0 && whole.any (· ≠ 0) then none
    else if Number.digitLimit < whole.length then none
    else some (.int (Number.ofDigits 10 whole), s)

end LSystem.Expr.Numeral
