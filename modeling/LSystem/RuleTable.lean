import LSystem.Rule

/-! # Tables of rules

A table holds at most one rule for an atom, in the order in which they were added. Every rule that
was ever added stays known by its handle, also after it was removed, and can still be changed
through it. -/

namespace LSystem

/-- Stands for one rule of a table: its place among all rules ever added. -/
abbrev Handle := Nat

structure RuleTable where
  /-- All rules ever added, in order. -/
  made : List Rule := []
  /-- The rules that the table holds, in order. -/
  held : List Handle := []

namespace RuleTable

/-- The rule that a handle stands for. -/
def rule? (t : RuleTable) (h : Handle) : Option Rule := t.made[h]?

def rules (t : RuleTable) : List Rule := t.held.filterMap t.rule?

/-- The atoms of the rules that the table holds. -/
def atoms (t : RuleTable) : List Text := t.rules.map Rule.atom

/-- The number of rules that the table holds. -/
def size (t : RuleTable) : Nat := t.held.length

/-- Whether a handle stands for a rule of an atom. -/
def isOf (t : RuleTable) (atom : Text) (h : Handle) : Bool :=
  (t.rule? h).any fun r => r.atom = atom

/-- The handle of the rule that the table holds for an atom. -/
def handle? (t : RuleTable) (atom : Text) : Option Handle := t.held.find? (t.isOf atom)

/-- The rule that the table holds for an atom. -/
def find? (t : RuleTable) (atom : Text) : Option Rule := (t.handle? atom).bind t.rule?

/-- Whether the table holds a rule for an atom. -/
def contains (t : RuleTable) (atom : Text) : Bool := (t.handle? atom).isSome

/-- The rule for an atom that the table must hold. -/
def get (t : RuleTable) (atom : Text) : Except Error Rule :=
  match t.find? atom with
  | some r => .ok r
  | none => .error (.unknownAtom atom)

/-- The table with the rule that a key declares, and the handle of that rule. -/
def add (t : RuleTable) (key : Text) (hasAction : Bool) : Except Error (Handle × RuleTable) := do
  let r ← Rule.ofKey key hasAction
  if t.contains r.atom then .error (.duplicateAtom r.atom)
  else
    let h := t.made.length
    .ok (h, { made := t.made ++ [r], held := t.held ++ [h] })

/-- The table without the rule for an atom, and that rule. -/
def remove (t : RuleTable) (atom : Text) : Except Error (Rule × RuleTable) :=
  match t.find? atom with
  | some r => .ok (r, { t with held := t.held.filter fun h => !t.isOf atom h })
  | none => .error (.unknownAtom atom)

/-- The table with the rule of a handle changed. -/
def modify (t : RuleTable) (h : Handle) (f : Rule → Rule) : RuleTable :=
  { t with made := t.made.modify h f }

/-- The table with one more branch of the rule of a handle. -/
def withBranch (t : RuleTable) (h : Handle) (condition template : Text) : RuleTable :=
  t.modify h (·.withBranch condition template)

/-- The table with another fallback of the rule of a handle. -/
def withFallback (t : RuleTable) (h : Handle) (template : Text) : RuleTable :=
  t.modify h (·.withFallback template)

end RuleTable

end LSystem
