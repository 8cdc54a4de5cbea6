import LSystem.Error
import LSystem.Expr.Eval

/-! # Evaluators

An evaluator gives values to the expressions in commands: conditions of branches, counts of repeat
blocks, and arguments of calls. A failure inside an expression becomes an error that names the
expression and words the failure. What a caller's function raises is passed on as it is, if its
class is not one of those that are converted; and if a key is missing that cannot be shown, then the
wording fails in its turn. -/

namespace LSystem

open LSystem.Expr (Value Function)

/-- An evaluator: a caller's names and functions, which hide standard ones of the same name, and
what is drawn at random while an expression is evaluated. -/
structure Evaluator where
  names : List (String × Value) := []
  functions : List (String × Function) := []
  draw : Text → Expr.Sample := fun _ => .middle

namespace Evaluator

def pi : Float := Float.ofBits 0x400921FB54442D18

/-- The base of natural logarithms. -/
def e : Float := Float.ofBits 0x4005BF0A8B145769

def standardNames : List (String × Value) :=
  [("true", .bool true), ("false", .bool false), ("pi", .float pi), ("e", .float e)]

/-- What names and functions mean in an expression. -/
def scope (ev : Evaluator) (source : Text) : Expr.Scope where
  names := ev.names ++ standardNames
  functions := ev.functions ++ Function.standard (ev.draw source)
  source := source

def evaluate (ev : Evaluator) (source : Text) : Except Error Value :=
  if Text.trim source = [] then .error .emptyExpression
  else
    match (ev.scope source).run with
    | .ok v => .ok v
    | .error (.aborted raised) => .error (.aborted raised)
    | .error .unshownKey => .error .writtenDigits
    | .error failure => .error (.evaluation source failure)

/-- The text of a value, outside of any expression. -/
def written (text : Except Expr.Failure Text) : Except Error Text :=
  match text with
  | .ok s => .ok s
  | .error _ => .error .writtenDigits

def condition (ev : Evaluator) (source : Text) : Except Error Bool := do
  match (← ev.evaluate source) with
  | .bool b => .ok b
  | v => do
    let shown ← written v.shown
    .error (.notBoolean source shown)

/-- A repeat count: fractions are cut off, and negative numbers count as zero. -/
def count (ev : Evaluator) (source : Text) : Except Error Nat := do
  match (← ev.evaluate source) with
  | .int i => .ok i.toNat
  | .float x =>
    if x.isNaN then .error (.notFinite source true)
    else if x.isInf then .error (.notFinite source false)
    else .ok (Number.Binary.ofFloat x).truncate.toNat
  | v => do
    let shown ← written v.shown
    .error (.notNumber source shown)

/-- The value of an argument, as it is written back into commands. -/
def render (ev : Evaluator) (source : Text) : Except Error Text := do
  let v ← ev.evaluate source
  written v.command

end Evaluator

end LSystem
