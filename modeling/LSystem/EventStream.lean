import LSystem.Grammar

/-! # Event streams

Executing a command yields a stream of events: pushes, pops and calls with evaluated arguments. The
stream is lazy, so that an error, an unknown atom or a great repeat count that is not reached does
no harm. The content of a repeat block is expanded once and then replayed. -/

namespace LSystem

inductive Event where
  | push
  | pop
  | call (rule : Rule) (args : List Text)
  deriving DecidableEq, Repr

/-- Events one after the other, each computed when it is asked for, up to a normal end or an
error. -/
inductive EventStream where
  | done
  | fail (e : Error)
  | next (ev : Event) (rest : Unit → EventStream)

namespace EventStream

/-- The events of one stream and then those of another, unless the first one fails. -/
def append : EventStream → (Unit → EventStream) → EventStream
  | done, after => after ()
  | fail e, _ => fail e
  | next ev rest, after => next ev fun _ => append (rest ()) after

/-- The events of a stream `n` times, and then those of another. Nothing replayed often is
nothing. -/
def replay : Nat → EventStream → (Unit → EventStream) → EventStream
  | 0, _, after => after ()
  | n + 1, body, after =>
    match body with
    | done => after ()
    | body => append body fun _ => replay n body after

/-- The first `n` events of a stream. What comes after the last of them is not looked at. -/
def take : Nat → EventStream → EventStream
  | 0, _ => done
  | n + 1, s =>
    match s with
    | done => done
    | fail e => fail e
    | next ev rest => next ev fun _ => if n = 0 then done else take n (rest ())

/-- The events of a stream, and the error at its end if there is one. -/
def collect : EventStream → List Event → List Event × Option Error
  | done, found => (found.reverse, none)
  | fail e, found => (found.reverse, some e)
  | next ev rest, found => collect (rest ()) (ev :: found)

def events (s : EventStream) : List Event := (s.collect []).1

/-- The error at the end of a stream, if there is one. -/
def error? (s : EventStream) : Option Error := (s.collect []).2

end EventStream

/-- How deep repeat blocks may come out of the expansion of repeat blocks. The limit stands for the
depth at which an interpreter runs out of stack. -/
def nestingLimit : Nat := 1000

namespace Grammar

/-- The stream of a call: its arguments are evaluated, and then their number is checked. -/
def invoke (g : Grammar) (atom arguments : Text) : Except Error Event := do
  let r ← g.table.get atom
  let args ← (splitArguments arguments).mapM g.evaluator.render
  r.checkArity args
  .ok (.call r args)

/-- The stream of some tokens, given the stream of the expanded content of a repeat block. -/
def streamOf (g : Grammar) (replayed : Text → EventStream) : List Token → EventStream
  | [] => .done
  | .push :: ts => .next .push fun _ => streamOf g replayed ts
  | .pop :: ts => .next .pop fun _ => streamOf g replayed ts
  | .block content count :: ts =>
    match g.evaluator.count count with
    | .error e => .fail e
    | .ok 0 => streamOf g replayed ts
    | .ok n =>
      match g.expandOnce content with
      | .error e => .fail e
      | .ok s => (replayed s).replay n fun _ => streamOf g replayed ts
  | .call atom arguments :: ts =>
    match g.invoke atom arguments with
    | .error e => .fail e
    | .ok ev => .next ev fun _ => streamOf g replayed ts

/-- The stream of a command in which repeat blocks come out of repeat blocks at most `depth`
deep. -/
def streamWithin (g : Grammar) : (depth : Nat) → Text → EventStream
  | 0, _ => .fail .endlessNesting
  | depth + 1, command => streamOf g (streamWithin g depth) (tokenize command)

def stream (g : Grammar) (command : Text) : EventStream := g.streamWithin nestingLimit command

end Grammar

end LSystem
