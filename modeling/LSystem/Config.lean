import LSystem.Json.Reader
import LSystem.RuleTable
import LSystem.Grammar

/-! # Configurations

A configuration is a JSON object with a name, an axiom, a number of rounds and rules. `Config.parse`
checks all of it, so that `Config.build` cannot fail on the result. -/

namespace LSystem

structure RuleSpec where
  key : Text
  branches : List Branch
  /-- Without a fallback the rule expands to its own declaration. -/
  fallback : Option Text
  deriving DecidableEq, Repr

structure Config where
  name : Text
  start : Text
  iterations : Nat
  rules : List RuleSpec
  deriving DecidableEq, Repr

namespace Config

def refuse {α : Type} (fault : ConfigFault) : Except Error α := .error (.config fault)

def asText (value : Option Json) (path : Text) : Except Error Text :=
  match value with
  | some (.text s) => .ok s
  | _ => refuse (.shape path .text)

def asInt (value : Json) (path : Text) : Except Error Int :=
  match value with
  | .int i => .ok i
  | _ => refuse (.shape path .integer)

def asArray (value : Json) (path : Text) : Except Error (List Json) :=
  match value with
  | .array items => .ok items
  | _ => refuse (.shape path .array)

def asObject (value : Json) (path : Text) : Except Error (List (Text × Json)) :=
  match value with
  | .object entries => .ok entries
  | _ => refuse (.shape path .object)

def rulePath (key : Text) : Text := "rules['".toList ++ key ++ ['\'', ']']

def branchPath (rule : Text) (i : Nat) : Text :=
  rule ++ ".branches[".toList ++ Nat.toDigits 10 i ++ [']']

def parseBranch (path : Text) (value : Json) : Except Error Branch := do
  let entries ← asObject value path
  let condition ← asText (Json.field? "if".toList entries) (path ++ ".if".toList)
  let template ← asText (Json.field? "then".toList entries) (path ++ ".then".toList)
  .ok ⟨condition, template⟩

/-- The branches of a rule, from the `i`-th on. -/
def parseBranches (rule : Text) : Nat → List Json → Except Error (List Branch)
  | _, [] => .ok []
  | i, value :: values => do
    let b ← parseBranch (branchPath rule i) value
    let bs ← parseBranches rule (i + 1) values
    .ok (b :: bs)

/-- The fallback of a rule, which may be missing or null. -/
def parseFallback (rule : Text) (value : Option Json) : Except Error (Option Text) :=
  match value with
  | none => .ok none
  | some .null => .ok none
  | some value => (asText (some value) (rule ++ ".fallback".toList)).map some

def parseRule (key : Text) (value : Json) : Except Error RuleSpec := do
  let path := rulePath key
  let entries ← asObject value path
  let items ← asArray ((Json.field? "branches".toList entries).getD (.array []))
    (path ++ ".branches".toList)
  let branches ← parseBranches path 0 items
  let fallback ← parseFallback path (Json.field? "fallback".toList entries)
  .ok ⟨key, branches, fallback⟩

/-- Rules one after the other, none of which may have an atom of those in `seen` or of an earlier
one. -/
def parseRules (seen : List Text) : List (Text × Json) → Except Error (List RuleSpec)
  | [] => .ok []
  | (key, value) :: entries => do
    match Declaration.parse? key with
    | none => refuse (.ruleKey key)
    | some d =>
      if d.atom ∈ seen then refuse (.repeatedAtom d.atom)
      else
        let r ← parseRule key value
        let rs ← parseRules (d.atom :: seen) entries
        .ok (r :: rs)

/-- The configuration that a JSON value holds. -/
def parse (value : Json) : Except Error Config := do
  let entries ← asObject value "root".toList
  let field (key : String) (default : Json) : Json := (Json.field? key.toList entries).getD default
  let name ← asText (some (field "name" (.text "L-System".toList))) "name".toList
  let start ← asText (some (field "axiom" (.text []))) "axiom".toList
  if start.isEmpty then refuse .emptyAxiom
  let iterations ← asInt (field "iterations" (.int 0)) "iterations".toList
  if iterations < 0 then refuse .negativeIterations
  let ruleEntries ← asObject (field "rules" (.object [])) "rules".toList
  let rules ← parseRules [] ruleEntries
  .ok ⟨name, start, iterations.toNat, rules⟩

def addRule (hasAction : Bool) (t : RuleTable) (spec : RuleSpec) : Except Error RuleTable := do
  let (h, t) ← t.add spec.key hasAction
  let t := spec.branches.foldl (fun t b => t.withBranch h b.condition b.template) t
  .ok (match spec.fallback with
    | some template => t.withFallback h template
    | none => t)

/-- The grammar of a configuration, with an evaluator. All rules have an action, or none has. -/
def build (config : Config) (hasAction : Bool) (evaluator : Evaluator := {}) :
    Except Error Grammar := do
  let table ← config.rules.foldlM (addRule hasAction) {}
  .ok { table, evaluator }

/-- The JSON value of a document, which was read from a path. Places in it count one character for
each line end. -/
def readDocument (path document : Text) : Except Error Json :=
  let document := Text.unifyLineEnds document
  match Json.read document with
  | .ok value => .ok value
  | .error (.tooLong digits) => .error (.readDigits digits)
  | .error (.fault fault left) =>
    let (line, column, position) := Json.place document left
    .error (.config (.document path fault line column position))

end Config

end LSystem
