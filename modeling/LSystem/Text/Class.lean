import LSystem.Text.Basic
import LSystem.Text.WordSpans
import LSystem.Text.PrintableSpans
import LSystem.Text.NameSpans

/-! # Classes of characters

The character classes of commands and expressions, by the character database of Unicode 14. Each
class answers for ASCII directly and looks up a table of spans for all else. -/

namespace LSystem.Text

/-- Whether a code point lies in one of the spans, which ascend. -/
def inSpans (n : Nat) : List (Nat × Nat) → Bool
  | [] => false
  | (lo, hi) :: spans => if n < lo then false else n ≤ hi || inSpans n spans

/-- The characters of atom names: letters, digits and other numerics of any script, and the
underscore. -/
def isWord (c : Char) : Bool :=
  if c.toNat < 128 then c.isAlphanum || c = '_' else inSpans c.toNat wordSpans

/-- White space: the separators of Unicode and the control characters that move the position. -/
def isBlank (c : Char) : Bool :=
  let n := c.toNat
  (9 ≤ n && n ≤ 13) || (28 ≤ n && n ≤ 32) || n = 133 || n = 160 || n = 5760 ||
    (8192 ≤ n && n ≤ 8202) || n = 8232 || n = 8233 || n = 8239 || n = 8287 || n = 12288

/-- The characters that are shown as they are in a quoted text. -/
def isPrintable (c : Char) : Bool :=
  let n := c.toNat
  if n < 128 then 32 ≤ n && n ≤ 126 else inSpans n printableSpans

/-- The characters that may start a name in an expression. -/
def isNameStart (c : Char) : Bool :=
  if c.toNat < 128 then c.isAlpha || c = '_' else inSpans c.toNat nameStartSpans

/-- The characters that a name in an expression may go on with. -/
def isNameContinue (c : Char) : Bool :=
  if c.toNat < 128 then c.isAlphanum || c = '_' else inSpans c.toNat nameContinueSpans

/-- The value of a decimal digit of any script. -/
def decimalValue? (c : Char) : Option Nat :=
  if c.toNat < 128 then if c.isDigit then some (c.toNat - 48) else none
  else (decimalZeros.find? fun z => z ≤ c.toNat && c.toNat < z + 10).map (c.toNat - ·)

/-- The text without white space at its ends. -/
def trim (s : Text) : Text := trimWhile isBlank s

end LSystem.Text
