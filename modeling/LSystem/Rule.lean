import LSystem.Template

/-! # Rules

A rule says what a call of its atom expands to. Its declaration `name<param1,param2>` names the
parameters; of its branches the first one whose condition holds gives the template, and the fallback
does if none holds. -/

namespace LSystem

/-- The atom and the parameters that a rule is declared with. -/
structure Declaration where
  atom : Text
  parameters : List Text
  deriving DecidableEq, Repr

namespace Declaration

def text (d : Declaration) : Text := d.atom ++ '<' :: Text.join [','] d.parameters ++ ['>']

/-- The names in a parameter list: its pieces between commas, trimmed, without empty ones. -/
def splitParameters (s : Text) : List Text :=
  ((s.splitOn ',').map Text.trim).filter (· ≠ [])

/-- What stands between the angle brackets of a declaration, given what follows the first one. There
are no other angle brackets. -/
def inner? (s : Text) : Option Text :=
  match s.reverse with
  | '>' :: rest =>
    if rest.any (fun c => c = '<' || c = '>') then none else some rest.reverse
  | _ => none

/-- The declaration that a key stands for; white space around it does not count. -/
def parse? (key : Text) : Option Declaration :=
  let key := Text.trim key
  match key.takeWhile Text.isWord, key.dropWhile Text.isWord with
  | [], _ => none
  | atom, '<' :: rest => (inner? rest).map fun s => ⟨atom, splitParameters s⟩
  | _, _ => none

def parse (key : Text) : Except Error Declaration :=
  match parse? key with
  | some d => .ok d
  | none => .error (.malformedDeclaration key)

end Declaration

/-- A template and the condition under which it is used. -/
structure Branch where
  condition : Text
  template : Text
  deriving DecidableEq, Repr

structure Rule where
  atom : Text
  parameters : List Text
  branches : List Branch := []
  fallback : Text
  /-- Whether a consumer is told about calls, and not only to prepare for them. -/
  hasAction : Bool := false
  deriving DecidableEq, Repr

namespace Rule

/-- The rule that a key declares. Until it is configured otherwise it expands to its own
declaration. -/
def ofKey (key : Text) (hasAction : Bool) : Except Error Rule := do
  let d ← Declaration.parse key
  .ok { atom := d.atom, parameters := d.parameters, fallback := Text.trim key, hasAction }

def declaration (r : Rule) : Text := (Declaration.mk r.atom r.parameters).text

/-- The rule with one more branch, which is tried last. -/
def withBranch (r : Rule) (condition template : Text) : Rule :=
  { r with branches := r.branches ++ [⟨condition, template⟩] }

def withFallback (r : Rule) (template : Text) : Rule := { r with fallback := template }

/-- Refuses another number of arguments than there are parameters. -/
def checkArity (r : Rule) (args : List Text) : Except Error Unit :=
  if args.length = r.parameters.length then .ok ()
  else .error (.arity r.declaration r.parameters.length args)

/-- A text with parameters replaced by arguments, one parameter after the other in the order of the
declaration, wherever the name of the parameter stands. -/
def substitute (r : Rule) (s : Text) (args : List Text) : Text :=
  (r.parameters.zip args).foldl (fun s (name, value) => Text.replaceAll name value s) s

/-- The template of the first branch whose condition holds, else the fallback. -/
def selectFrom (r : Rule) (ev : Evaluator) (args : List Text) : List Branch → Except Error Text
  | [] => .ok r.fallback
  | b :: branches => do
    if (← ev.condition (r.substitute b.condition args)) then .ok b.template
    else selectFrom r ev args branches

/-- The template for a call with some arguments. -/
def select (r : Rule) (ev : Evaluator) (args : List Text) : Except Error Text := do
  r.checkArity args
  r.selectFrom ev args r.branches

/-- What a call with some arguments expands to. -/
def instantiate (r : Rule) (ev : Evaluator) (args : List Text) : Except Error Text := do
  let template ← r.select ev args
  let s ← evaluateArguments ev (r.substitute template args)
  unrollBlocks ev s

end Rule

end LSystem
