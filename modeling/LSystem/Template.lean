import LSystem.Evaluator
import LSystem.Token

/-! # Passes over templates

After its parameters are substituted, a template goes through two passes: `evaluateArguments` gives
values to what stands between angle brackets, and `unrollBlocks` writes out repeat blocks. Neither
looks at the result of the other: the first one knows nothing of tokens, and the second copies the
content of blocks as it stands. -/

namespace LSystem

/-- A part of a text, as the argument pass sees it. -/
inductive Segment where
  | plain (c : Char)
  /-- An argument list between angle brackets. -/
  | region (arguments : Text)
  deriving DecidableEq, Repr

namespace Segment

/-- The segments of a text, after skipping `skip` characters, which belong to the last region found.
A region starts at any `<` and ends at the first `>` on the same line. The segments found so far are
in `found`, last first. -/
def scan : (skip : Nat) → Text → List Segment → List Segment
  | _, [], found => found.reverse
  | skip + 1, _ :: s, found => scan skip s found
  | 0, c :: s, found =>
    if c = '<' then
      match Token.splitAngle s [] with
      | some (arguments, _) => scan (arguments.length + 1) s (.region arguments :: found)
      | none => scan 0 s (.plain c :: found)
    else scan 0 s (.plain c :: found)

def evaluate (ev : Evaluator) : Segment → Except Error Text
  | .plain c => .ok [c]
  | .region arguments => do
    let values ← (splitArguments arguments).mapM ev.render
    .ok ('<' :: Text.join [','] values ++ ['>'])

end Segment

/-- The segments of a text, from left to right. -/
def segments (s : Text) : List Segment := Segment.scan 0 s []

/-- A text with every argument list evaluated, piece by piece. -/
def evaluateArguments (ev : Evaluator) (s : Text) : Except Error Text := do
  let parts ← (segments s).mapM (Segment.evaluate ev)
  .ok parts.flatten

/-- `n` copies of a text. The number of copies and the length of the result are bounded by what can
be counted. -/
def repeatText (n : Nat) (s : Text) : Except Error Text :=
  if Expr.repetitionLimit ≤ n then .error .repetitions
  else if s = [] || n = 0 then .ok []
  else if Expr.repetitionLimit ≤ n * s.length then .error .repeatedLength
  else .ok (List.replicate n s).flatten

/-- A token written out: a repeat block as copies of its content. -/
def Token.unroll (ev : Evaluator) : Token → Except Error Text
  | .block content count => do
    let n ← ev.count count
    repeatText n content
  | t => .ok t.text

/-- A text with its repeat blocks written out. What belongs to no token is dropped. -/
def unrollBlocks (ev : Evaluator) (s : Text) : Except Error Text := do
  let parts ← (tokenize s).mapM (Token.unroll ev)
  .ok parts.flatten

end LSystem
