import LSystem.Json.Basic
import LSystem.Text.Surrogate
import LSystem.Number.Decimal

/-! # Reading JSON

A document is read strictly, with two liberties: the words `NaN` and `Infinity` are numbers, and a
number may be of any size. A fault is reported with the place where it shows, which is what is left
of the document from there on. -/

namespace LSystem.Json

inductive Fault where
  | value
  | propertyName
  | colon
  | comma
  | extraData
  | unterminatedText
  | controlCharacter
  | escape
  | unicodeEscape
  | byteOrderMark
  deriving DecidableEq, Repr

def Fault.message : Fault → String
  | .value => "Expecting value"
  | .propertyName => "Expecting property name enclosed in double quotes"
  | .colon => "Expecting ':' delimiter"
  | .comma => "Expecting ',' delimiter"
  | .extraData => "Extra data"
  | .unterminatedText => "Unterminated string starting at"
  | .controlCharacter => "Invalid control character at"
  | .escape => "Invalid \\escape"
  | .unicodeEscape => "Invalid \\uXXXX escape"
  | .byteOrderMark => "Unexpected UTF-8 BOM (decode using utf-8-sig)"

inductive ReadError where
  /-- A fault `left` characters before the end. -/
  | fault (fault : Fault) (left : Nat)
  /-- An integer has too many digits: their number. -/
  | tooLong (digits : Nat)
  deriving DecidableEq, Repr

/-- A reader of something at the start of a text: what was read, and what is left. -/
abbrev Read (α : Type) := Except ReadError (α × Text)

/-- Fails with a fault at the start of `s`. -/
def faultAt {α : Type} (fault : Fault) (s : Text) : Read α := .error (.fault fault s.length)

/-- Whether a character may stand between the parts of a document. -/
def isSpace (c : Char) : Bool := c = ' ' || c = '\t' || c = '\n' || c = '\r'

/-- What follows the white space at the start of a text. -/
def skipSpace (s : Text) : Text := s.dropWhile isSpace

/-- The number that four hexadecimal digits stand for. -/
def hex4? (s : Text) : Option Nat := do
  let ds ← (s.take 4).mapM fun c => (Number.digitValue? c).filter (· < 16)
  if ds.length = 4 then some (Number.ofDigits 16 ds) else none

/-- The character that one letter after a backslash stands for. -/
def letterEscape? (c : Char) : Option Char :=
  if c = '"' || c = '\\' || c = '/' then some c
  else if c = 'b' then some (Char.ofNat 8)
  else if c = 'f' then some (Char.ofNat 12)
  else if c = 'n' then some '\n'
  else if c = 'r' then some '\r'
  else if c = 't' then some '\t'
  else none

/-- The character that a code unit in hexadecimal digits stands for, given what follows the letter
`u`, and what is left. Two units that belong together stand for one character; half of such a pair
is a lone surrogate. At least one character has to follow. -/
def unitEscape (s : Text) : Read Char :=
  match hex4? s with
  | none => .error (.fault .unicodeEscape (s.length + 1))
  | some unit =>
    let rest := s.drop 4
    if rest.isEmpty then .error (.fault .unicodeEscape (s.length + 1))
    else if 0xD800 ≤ unit && unit < 0xDC00 then
      match rest with
      | '\\' :: 'u' :: low =>
        if (low.take 5).length < 5 then .ok (Text.ofCodePoint unit, rest)
        else
          match hex4? low with
          | none => .error (.fault .unicodeEscape (low.length + 1))
          | some unit' =>
            if 0xDC00 ≤ unit' && unit' < 0xE000 then
              .ok (Char.ofNat (0x10000 + (unit - 0xD800) * 0x400 + (unit' - 0xDC00)), low.drop 4)
            else .ok (Text.ofCodePoint unit, rest)
      | _ => .ok (Text.ofCodePoint unit, rest)
    else .ok (Text.ofCodePoint unit, rest)

/-- The rest of a text after its opening quote, at most `fuel` characters and escapes. The whole
text starts at `start`. -/
def readText (start : Text) : Nat → Text → Text → Read Text
  | 0, _, _ => faultAt .unterminatedText start
  | _ + 1, [], _ => faultAt .unterminatedText start
  | fuel + 1, c :: s, done =>
    if c = '"' then .ok (done.reverse, s)
    else if c = '\\' then
      match s with
      | [] => faultAt .unterminatedText start
      | d :: rest =>
        if d = 'u' then
          match unitEscape rest with
          | .ok (x, rest) => readText start fuel rest (x :: done)
          | .error e => .error e
        else
          match letterEscape? d with
          | some x => readText start fuel rest (x :: done)
          | none => faultAt .escape (c :: s)
    else if c.toNat < 32 then faultAt .controlCharacter (c :: s)
    else readText start fuel s (c :: done)

/-- The fraction at the start of a text: its digits, and what is left. -/
def readFraction (s : Text) : Option (List Nat × Text) :=
  match s with
  | '.' :: d :: rest => if d.isDigit then some (Number.spanDigits (d :: rest)) else none
  | _ => none

/-- A number without sign. An integer has no leading zero, so a zero ends it. -/
def readNumber (negative : Bool) (start s : Text) : Read Json :=
  let whole : Option (List Nat × Text) :=
    match s with
    | '0' :: rest => some ([0], rest)
    | c :: _ => if c.isDigit then some (Number.spanDigits s) else none
    | [] => none
  match whole with
  | none => faultAt .value start
  | some (ds, rest) =>
    let fraction := readFraction rest
    let (part, rest) := fraction.getD ([], rest)
    let exponent := Number.exponent? rest
    if fraction.isSome || exponent.isSome then
      let (power, rest) := exponent.getD (0, rest)
      let x := Number.ofDecimal (Number.ofDigits 10 (ds ++ part)) (power - part.length)
      .ok (.float (Number.withSign negative x), rest)
    else if Number.digitLimit < ds.length then .error (.tooLong ds.length)
    else
      let n : Int := Number.ofDigits 10 ds
      .ok (.int (if negative then -n else n), rest)

def words : List (String × Json) :=
  [("null", .null), ("true", .bool true), ("false", .bool false), ("NaN", .float Number.undefined),
    ("Infinity", .float Number.infinity), ("-Infinity", .float (-Number.infinity))]

def readWord? (s : Text) : Option (Json × Text) :=
  words.findSome? fun (word, value) => (word.toList.isPrefixOf? s).map fun rest => (value, rest)

mutual

/-- The value at the start of a text. One unit of `fuel` is used for every value and every item, so
twice as many as there are characters suffice. -/
def readValue : Nat → Text → Read Json
  | 0, s => faultAt .value s
  | _ + 1, [] => faultAt .value []
  | fuel + 1, c :: s =>
    if c = '"' then
      match readText (c :: s) fuel s [] with
      | .ok (t, rest) => .ok (.text t, rest)
      | .error e => .error e
    else if c = '{' then
      match skipSpace s with
      | '}' :: rest => .ok (.object [], rest)
      | s => readEntries fuel s []
    else if c = '[' then
      match skipSpace s with
      | ']' :: rest => .ok (.array [], rest)
      | s => readItems fuel s []
    else
      match readWord? (c :: s) with
      | some result => .ok result
      | none => if c = '-' then readNumber true (c :: s) s else readNumber false (c :: s) (c :: s)

/-- The entries of an object up to its closing brace, after those in `done`. -/
def readEntries : Nat → Text → List (Text × Json) → Read Json
  | 0, s, _ => faultAt .propertyName s
  | fuel + 1, s, done =>
    match s with
    | '"' :: rest =>
      match readText s fuel rest [] with
      | .error e => .error e
      | .ok (key, rest) =>
        match skipSpace rest with
        | ':' :: rest =>
          match readValue fuel (skipSpace rest) with
          | .error e => .error e
          | .ok (value, rest) =>
            let done := putEntry key value done
            match skipSpace rest with
            | '}' :: rest => .ok (.object done, rest)
            | ',' :: rest => readEntries fuel (skipSpace rest) done
            | rest => faultAt .comma rest
        | rest => faultAt .colon rest
    | _ => faultAt .propertyName s

/-- The items of an array up to its closing bracket, after those in `done`, last first. -/
def readItems : Nat → Text → List Json → Read Json
  | 0, s, _ => faultAt .value s
  | fuel + 1, s, done =>
    match readValue fuel s with
    | .error e => .error e
    | .ok (value, rest) =>
      match skipSpace rest with
      | ']' :: rest => .ok (.array (value :: done).reverse, rest)
      | ',' :: rest => readItems fuel (skipSpace rest) (value :: done)
      | rest => faultAt .comma rest

end

def read (document : Text) : Except ReadError Json :=
  if document.head? = some (Char.ofNat 0xFEFF) then
    .error (.fault .byteOrderMark document.length)
  else
    match readValue (2 * document.length + 2) (skipSpace document) with
    | .error e => .error e
    | .ok (value, rest) =>
      let rest := skipSpace rest
      if rest.isEmpty then .ok value else .error (.fault .extraData rest.length)

/-- The place of a fault `left` characters before the end of a document: its line and column, both
from one on, and the number of characters before it. -/
def place (document : Text) (left : Nat) : Nat × Nat × Nat :=
  let position := document.length - left
  let before := document.take position
  (before.count '\n' + 1, (before.reverse.takeWhile (· ≠ '\n')).length + 1, position)

end LSystem.Json
