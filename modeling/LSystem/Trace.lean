import LSystem.Consumer

/-! # Traces

A trace writes a line for every event and keeps count of pushes and calls. It refuses a pop when
nothing is pushed. -/

namespace LSystem

structure Trace where
  lines : Array Text := #[]
  /-- How many pushes have no pop yet. -/
  depth : Nat := 0
  maxDepth : Nat := 0
  calls : Nat := 0
  deriving DecidableEq, Repr

namespace Trace

def line (t : Trace) (s : Text) : Trace := { t with lines := t.lines.push s }

def push (t : Trace) : Trace :=
  { t.line "push".toList with depth := t.depth + 1, maxDepth := max t.maxDepth (t.depth + 1) }

/-- Records a pop, unless nothing is pushed. -/
def pop (t : Trace) : Except Error Trace :=
  if t.depth = 0 then .error (.config .emptyStack)
  else .ok { t.line "pop".toList with depth := t.depth - 1 }

def prepare (t : Trace) (atom : Text) : Trace := t.line ("prepare ".toList ++ atom)

def call (t : Trace) (atom : Text) (args : List Text) : Trace :=
  { t.line ("call ".toList ++ atom ++ '<' :: Text.join [','] args ++ ['>']) with
    calls := t.calls + 1 }

def consumer : Consumer Trace where
  push t := .ok t.push
  pop := pop
  prepare atom t := .ok (t.prepare atom)
  call atom args t := .ok (t.call atom args)

end Trace

end LSystem
