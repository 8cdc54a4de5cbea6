import LSystem.Text.Class
import LSystem.Text.CaseSpans

/-! # Upper and lower case

Texts in upper and lower case, by the full case mappings of Unicode 14: one character may become
several, and a capital sigma becomes the final small sigma at the end of a word. -/

namespace LSystem.Text

/-- The code point that a run maps `n` to; the runs ascend. -/
def imageIn (n : Nat) : List (Nat × Nat × Nat × Nat) → Option Nat
  | [] => none
  | (lo, hi, stride, image) :: runs =>
    if n < lo then none
    else if n ≤ hi && (n - lo) % stride = 0 then some (image + (n - lo))
    else imageIn n runs

/-- A character under a case mapping, given by its expansions and its runs. -/
def mapCase (expansions : List (Nat × List Nat)) (runs : List (Nat × Nat × Nat × Nat))
    (c : Char) : Text :=
  match expansions.find? fun (n, _) => n = c.toNat with
  | some (_, ns) => ns.map Char.ofNat
  | none =>
    match imageIn c.toNat runs with
    | some n => [Char.ofNat n]
    | none => [c]

def upperChar (c : Char) : Text :=
  if c.toNat < 128 then [c.toUpper] else mapCase upperExpansions upperRuns c

def lowerChar (c : Char) : Text :=
  if c.toNat < 128 then [c.toLower] else mapCase lowerExpansions lowerRuns c

def isCased (c : Char) : Bool :=
  if c.toNat < 128 then c.isAlpha else inSpans c.toNat casedSpans

/-- Whether a character may stand inside of a word without being a letter of it. -/
def isCaseIgnorable (c : Char) : Bool :=
  if c.toNat < 128 then ['\'', '.', ':', '^', '\x60'].contains c
  else inSpans c.toNat caseIgnorableSpans

/-- Whether the first letter of a text, after what may stand inside of a word, has a case. -/
def startsCased (s : Text) : Bool := ((s.dropWhile isCaseIgnorable).head?).any isCased

def upper (s : Text) : Text := s.flatMap upperChar

/-- A text in lower case, after the characters `before`, last one first. -/
def lowerAfter : (before : Text) → Text → Text
  | _, [] => []
  | before, c :: s =>
    (if c = 'Σ' then if startsCased before && !startsCased s then ['ς'] else ['σ']
      else lowerChar c) ++ lowerAfter (c :: before) s

def lower (s : Text) : Text := lowerAfter [] s

end LSystem.Text
