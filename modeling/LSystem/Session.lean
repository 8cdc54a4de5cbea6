import LSystem.Consumer

/-! # Sessions

A session is one grammar with a consumer, on which operations are carried out one after the other:
rules are added, changed through their handles, removed and looked up, and commands are expanded
and executed in between. An operation that fails has an error for its answer, and the session goes
on. -/

namespace LSystem

inductive Operation where
  | add (key : Text) (hasAction : Bool)
  | withBranch (rule : Handle) (condition template : Text)
  | withFallback (rule : Handle) (template : Text)
  | remove (atom : Text)
  /-- Looks up the rule for an atom, if there is one. -/
  | find (atom : Text)
  /-- Looks up the rule for an atom, which must be there. -/
  | get (atom : Text)
  | contains (atom : Text)
  | atoms
  | rules
  | size
  | expandOnce (command : Text)
  | expand (command : Text) (iterations : Int)
  /-- Looks at the first events of a command. -/
  | events (command : Text) (limit : Nat)
  | dispatch (event : Event)
  | execute (command : Text)
  | expandThenExecute (command : Text) (iterations : Int)
  deriving DecidableEq, Repr

/-- What an operation gives back. A rule is given back by its handle. -/
inductive Answer where
  | rule (h : Handle)
  | found (h : Option Handle)
  | truth (b : Bool)
  | number (n : Nat)
  | texts (ss : List Text)
  | rules (hs : List Handle)
  | text (s : Text)
  /-- Some events, and the error that came after them if there was one. -/
  | events (evs : List Event) (error? : Option Error)
  | done
  | failed (e : Error)
  deriving DecidableEq, Repr

structure Session (σ : Type) where
  grammar : Grammar := {}
  consumer : Consumer σ
  state : σ

namespace Session

variable {σ : Type}

/-- A session whose table is empty. -/
def start (evaluator : Evaluator) (consumer : Consumer σ) (state : σ) : Session σ :=
  { grammar := { evaluator }, consumer, state }

abbrev table (s : Session σ) : RuleTable := s.grammar.table

/-- The session with another table. -/
def withTable (s : Session σ) (t : RuleTable) : Session σ :=
  { s with grammar := { s.grammar with table := t } }

/-- The answer that a result is, if it is none of a failure. -/
def answer {α : Type} (encode : α → Answer) : Except Error α → Answer
  | .ok a => encode a
  | .error e => .failed e

/-- The session after its consumer has been told of something, and the answer. -/
def told (s : Session σ) (state : σ) : Option Error → Session σ × Answer
  | none => ({ s with state }, .done)
  | some e => ({ s with state }, .failed e)

/-- Carries out one operation. -/
def step (s : Session σ) (op : Operation) : Session σ × Answer :=
  let t := s.table
  match op with
  | .add key hasAction =>
    match t.add key hasAction with
    | .ok (h, t) => (s.withTable t, .rule h)
    | .error e => (s, .failed e)
  | .withBranch h condition template => (s.withTable (t.withBranch h condition template), .rule h)
  | .withFallback h template => (s.withTable (t.withFallback h template), .rule h)
  | .remove atom =>
    match t.remove atom with
    | .ok (_, t') => (s.withTable t', .found (t.handle? atom))
    | .error e => (s, .failed e)
  | .find atom => (s, .found (t.handle? atom))
  | .get atom => (s, answer (fun _ => .found (t.handle? atom)) (t.get atom))
  | .contains atom => (s, .truth (t.contains atom))
  | .atoms => (s, .texts t.atoms)
  | .rules => (s, .rules t.held)
  | .size => (s, .number t.size)
  | .expandOnce command => (s, answer .text (s.grammar.expandOnce command))
  | .expand command iterations => (s, answer .text (s.grammar.expand command iterations))
  | .events command limit =>
    let (evs, error?) := ((s.grammar.stream command).take limit).collect []
    (s, .events evs error?)
  | .dispatch event =>
    let (state, error?) := s.consumer.dispatch s.state event
    s.told state error?
  | .execute command =>
    let run := s.grammar.execute s.consumer s.state command
    s.told run.state run.error?
  | .expandThenExecute command iterations =>
    let run := s.grammar.expandThenExecute s.consumer s.state command iterations
    s.told run.state run.error?

/-- Carries out operations one after the other. -/
def run (s : Session σ) : List Operation → Session σ
  | [] => s
  | op :: ops => (s.step op).1.run ops

end Session

end LSystem
