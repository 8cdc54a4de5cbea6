import LSystem.Text.Class
import LSystem.Text.Surrogate

/-! # Quoted texts

How messages show a text: between quotes, with what cannot be shown written as an escape. The quote
is single, unless the text has a single quote and no double one. -/

namespace LSystem.Text

/-- The last `width` hexadecimal digits of a number, in lower case. -/
def hexDigits (width n : Nat) : Text :=
  let digits := Nat.toDigits 16 n
  List.replicate (width - digits.length) '0' ++ digits

/-- A character as the hexadecimal digits of its code point. -/
def escaped (c : Char) : Text :=
  let n := codePoint c
  if n < 256 then '\\' :: 'x' :: hexDigits 2 n
  else if n < 65536 then '\\' :: 'u' :: hexDigits 4 n
  else '\\' :: 'U' :: hexDigits 8 n

/-- One character between the quotes `quote`. -/
def quoteChar (quote c : Char) : Text :=
  if c = quote || c = '\\' then ['\\', c]
  else if c = '\n' then ['\\', 'n']
  else if c = '\r' then ['\\', 'r']
  else if c = '\t' then ['\\', 't']
  else if isPrintable c then [c]
  else escaped c

def quoted (s : Text) : Text :=
  let quote := if '\'' ∈ s ∧ '"' ∉ s then '"' else '\''
  quote :: s.flatMap (quoteChar quote) ++ [quote]

/-- The list of quoted texts, between brackets and with a comma and a blank between any two. -/
def quotedList (texts : List Text) : Text :=
  '[' :: join [',', ' '] (texts.map quoted) ++ [']']

end LSystem.Text
