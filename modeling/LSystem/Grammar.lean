import LSystem.RuleTable

/-! # Expansion

A grammar expands a command by its rules: `expandOnce` replaces every call once, and `expand` does
so for a number of rounds. Brackets stay as they are, and a repeat block becomes copies of its
content, expanded once. The first token that cannot be expanded is the one whose error counts. -/

namespace LSystem

/-- A grammar: rules, and the evaluator of the expressions in them. -/
structure Grammar where
  table : RuleTable := {}
  evaluator : Evaluator := {}

namespace Grammar

/-- A command with every call in it replaced once. -/
def expandOnce (g : Grammar) (command : Text) : Except Error Text := do
  let parts ← (tokenize command).attach.mapM fun ⟨t, h⟩ =>
    match t, h with
    | .push, _ => .ok ['[']
    | .pop, _ => .ok [']']
    | .block content count, _ => do
      let n ← g.evaluator.count count
      if n = 0 then .ok []
      else
        let s ← g.expandOnce content
        repeatText n s
    | .call atom arguments, _ => do
      let r ← g.table.get atom
      r.instantiate g.evaluator (splitArguments arguments)
  .ok parts.flatten
termination_by command.length
decreasing_by exact Token.content_length_lt (by assumption)

/-- Expands a command for a number of rounds. -/
def rounds (g : Grammar) : Nat → Text → Except Error Text
  | 0, command => .ok command
  | n + 1, command => do
    let command ← g.expandOnce command
    g.rounds n command

/-- Expands a command for a number of rounds, which must not be negative. -/
def expand (g : Grammar) (command : Text) (iterations : Int) : Except Error Text :=
  if iterations < 0 then .error .negativeRounds else g.rounds iterations.toNat command

end Grammar

end LSystem
