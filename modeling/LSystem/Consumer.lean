import LSystem.EventStream

/-! # Consumers

A consumer has a state that events change, by four hooks: for a push, for a pop, before a call, and
for the call itself. A hook that fails leaves the state as it was and stops the execution. -/

namespace LSystem

/-- The hooks of a consumer with states in `σ`. -/
structure Consumer (σ : Type) where
  push : σ → Except Error σ := .ok
  pop : σ → Except Error σ := .ok
  prepare : Text → σ → Except Error σ := fun _ => .ok
  call : Text → List Text → σ → Except Error σ := fun _ _ => .ok

namespace Consumer

variable {σ : Type}

/-- The state after a hook, and the error if it fails. -/
def settle (st : σ) : Except Error σ → σ × Option Error
  | .ok st => (st, none)
  | .error e => (st, some e)

/-- The state after an event, and the error if a hook fails. A call is prepared in any case, and
made if the rule has an action. -/
def dispatch (c : Consumer σ) (st : σ) : Event → σ × Option Error
  | .push => settle st (c.push st)
  | .pop => settle st (c.pop st)
  | .call rule args =>
    match c.prepare rule.atom st with
    | .error e => (st, some e)
    | .ok st => if rule.hasAction then settle st (c.call rule.atom args st) else (st, none)

/-- How the execution of a stream ended: the state, how many events were consumed without failure,
and the error if there was one. -/
structure Run (σ : Type) where
  state : σ
  consumed : Nat
  error? : Option Error

/-- Executes a stream, after `consumed` events that led to the state `st`. -/
def runFrom (c : Consumer σ) : (consumed : Nat) → σ → EventStream → Run σ
  | consumed, st, .done => ⟨st, consumed, none⟩
  | consumed, st, .fail e => ⟨st, consumed, some e⟩
  | consumed, st, .next ev rest =>
    match c.dispatch st ev with
    | (st, none) => runFrom c (consumed + 1) st (rest ())
    | (st, some e) => ⟨st, consumed, some e⟩

def run (c : Consumer σ) (st : σ) (s : EventStream) : Run σ := c.runFrom 0 st s

end Consumer

namespace Grammar

variable {σ : Type}

def execute (g : Grammar) (c : Consumer σ) (st : σ) (command : Text) : Consumer.Run σ :=
  c.run st (g.stream command)

/-- Expands a command for a number of rounds and executes the result. Nothing is executed unless all
rounds succeed. -/
def expandThenExecute (g : Grammar) (c : Consumer σ) (st : σ) (command : Text) (iterations : Int) :
    Consumer.Run σ :=
  match g.expand command iterations with
  | .error e => ⟨st, 0, some e⟩
  | .ok command => g.execute c st command

end Grammar

end LSystem
