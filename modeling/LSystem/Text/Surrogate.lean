import LSystem.Text.Basic

/-! # Lone surrogates

A text can hold half of a surrogate pair: a code point from D800 to DFFF, which is no character. A
`Char` has no such value, so the 2048 code points from D0000 on, to which no character has been
assigned, stand for these. A text in which one of those occurs itself is taken for one with a lone
surrogate. -/

namespace LSystem.Text

/-- Whether a character stands for a lone surrogate. -/
def isLone (c : Char) : Bool := 0xD0000 ≤ c.toNat && c.toNat < 0xD0800

def isSurrogate (n : Nat) : Bool := 0xD800 ≤ n && n < 0xE000

/-- The character for a code point. -/
def ofCodePoint (n : Nat) : Char :=
  if isSurrogate n then Char.ofNat (0xD0000 + (n - 0xD800)) else Char.ofNat n

/-- The code point that a character stands for. -/
def codePoint (c : Char) : Nat := if isLone c then 0xD800 + (c.toNat - 0xD0000) else c.toNat

/-- The order of texts by the code points of their characters. -/
def order : Text → Text → Ordering
  | [], [] => .eq
  | [], _ :: _ => .lt
  | _ :: _, [] => .gt
  | c :: s, d :: t => if c = d then order s t else if codePoint c < codePoint d then .lt else .gt

end LSystem.Text
