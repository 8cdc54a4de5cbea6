import LSystem.Expr.Attribute
import LSystem.Expr.Program

/-! # Evaluation

The value of an expression in a scope. Operands are evaluated from left to right; `and`, `or`,
conditionals and chains of comparisons stop at the operand that decides. A program has the value of
its first statement. -/

namespace LSystem.Expr

/-- What names and functions mean, and the text that messages quote. -/
structure Scope where
  names : List (String × Value)
  functions : List (String × Function)
  source : Text

namespace Scope

def function? (sc : Scope) (name : String) : Option Function :=
  (sc.functions.find? fun (n, _) => n = name).map (·.2)

/-- The value of a name. A function can be named without calling it. -/
def lookup (sc : Scope) (name : String) : Except Failure Value :=
  match sc.names.find? fun (n, _) => n = name with
  | some (_, v) => .ok v
  | none =>
    if (sc.function? name).isSome then .ok (.function name)
    else .error (.unknownName name sc.source)

/-- Applies a value to one argument. Given only one argument, no function applies its arguments. -/
def apply (sc : Scope) (f v : Value) : Except Failure Value :=
  match f with
  | .function name =>
    match sc.function? name with
    | some f => f (fun _ _ => .error .typeMismatch) ⟨[v], []⟩
    | none => .error .typeMismatch
  | .method receiver name => receiver.callMethod name ⟨[v], []⟩
  | _ => .error .typeMismatch

def call (sc : Scope) (f : Value) (args : Arguments) : Except Failure Value :=
  match f with
  | .function name =>
    match sc.function? name with
    | some f => f sc.apply args
    | none => .error .typeMismatch
  | .method receiver name => receiver.callMethod name args
  | _ => .error .typeMismatch

end Scope

/-- The value of a literal. A text may not be too long. -/
def Literal.value : Literal → Except Failure Value
  | .none => .ok .none
  | .bool b => .ok (.bool b)
  | .int i => .ok (.int i)
  | .float x => .ok (.float x)
  | .imaginary x => .ok (.complex 0.0 x)
  | .text s =>
    if lengthLimit < s.length then .error (.tooLong (.literal s.length)) else .ok (.text s)
  | .bytes s =>
    if lengthLimit < s.length then .error (.tooLong (.literal s.length)) else .ok (.bytes s)
  | .ellipsis => .ok .ellipsis

/-- The arguments that are given by name. The last one of a name counts, at the place of the
first. -/
def namedArguments : List (Option String) → List Value → Except Failure (List (String × Value))
  | names, values => go (names.zip values) []
where
  /-- Goes through the names, after those in `done`. -/
  go : List (Option String × Value) → List (String × Value) →
      Except Failure (List (String × Value))
    | [], done => .ok done
    | (none, _) :: _, _ => .error .typeMismatch
    | (some n, v) :: rest, done =>
      go rest
        (if done.any fun (m, _) => m = n then
          done.map fun (m, w) => if m = n then (m, v) else (m, w)
        else done ++ [(n, v)])

/-- The methods that are never reached. -/
def refusedMethods : List String :=
  ["format", "format_map", "mro", "tb_frame", "gi_frame", "ag_frame", "cr_frame", "exec"]

/-- Refuses the attributes that are never reached. -/
def checkAttribute (name : String) : Except Failure Unit :=
  if "_".toList.isPrefixOf name.toList || "func_".toList.isPrefixOf name.toList then
    .error (.unavailable (.hiddenAttribute name))
  else if refusedMethods.contains name then .error (.unavailable (.method name))
  else .ok ()

/-- The attribute of a value, or its entry under that key. -/
def reach (sc : Scope) (v : Value) (name : String) : Except Failure Value :=
  match v.attribute? name with
  | some w => .ok w
  | none =>
    match v with
    | .dict keys values =>
      match Value.lookup? name.toList keys values with
      | some w => .ok w
      | none => .error (.unknownAttribute name sc.source)
    | _ => .error (.unknownAttribute name sc.source)

mutual

def eval (sc : Scope) : Term → Except Failure Value
  | .literal l => l.value
  | .name id => sc.lookup id
  | .unary op e => do
    let v ← eval sc e
    Value.unary op v
  | .binary .matMul _ _ => .error .unknownOperator
  | .binary op l r => do
    let a ← eval sc l
    let b ← eval sc r
    Value.binary op a b
  | .logical op es => evalLogical sc op es
  | .compare first ops rest => do
    let a ← eval sc first
    evalChain sc true a ops rest
  | .conditional test yes no => do
    let v ← eval sc test
    if v.truth then eval sc yes else eval sc no
  | .call (.attribute object name) positional names named => do
    let f ← eval sc (.attribute object name)
    let positional ← evalAll sc positional
    let named ← evalAll sc named
    let named ← namedArguments names named
    sc.call f ⟨positional, named⟩
  | .call (.name id) positional names named =>
    match sc.function? id with
    | none => .error (.unknownFunction id sc.source)
    | some f => do
      let positional ← evalAll sc positional
      let named ← evalAll sc named
      let named ← namedArguments names named
      f sc.apply ⟨positional, named⟩
  | .call .. => .error (.unavailable .computedCallee)
  | .attribute object name => do
    checkAttribute name
    let v ← eval sc object
    reach sc v name
  | .subscript container index => do
    let v ← eval sc container
    let k ← eval sc index
    v.subscript k
  | .slice lower upper step => do
    let a ← eval sc lower
    let b ← eval sc upper
    let c ← eval sc step
    .ok (.slice a b c)
  | .interpolation parts => do
    let s ← evalParts sc 0 [] parts
    .ok (.text s)
  | .interpolated value none => eval sc value
  | .interpolated value (some layout) => do
    let l ← eval sc layout
    let v ← eval sc value
    match l with
    | .text [] => do
      let s ← v.display
      .ok (.text s)
    | _ => .error (.leftAside "a layout")
  | .display kind _ => .error (.unavailable (.node kind.node))
  | .starred _ => .error (.unavailable (.node "Starred"))
  | .other node => .error (.unavailable (.node node))

/-- The values of expressions, from left to right. -/
def evalAll (sc : Scope) : List Term → Except Failure (List Value)
  | [] => .ok []
  | e :: es => do
    let v ← eval sc e
    let vs ← evalAll sc es
    .ok (v :: vs)

/-- The first operand that decides, or the last one. -/
def evalLogical (sc : Scope) (op : LogicalOp) : List Term → Except Failure Value
  | [] => .ok (.bool (op = .and))
  | [e] => eval sc e
  | e :: es => do
    let v ← eval sc e
    if v.truth = (op = .or) then .ok v else evalLogical sc op es

/-- The value of a chain of comparisons that goes on after the value `left`, when the comparisons so
far gave `result`. -/
def evalChain (sc : Scope) (result : Bool) (left : Value) :
    List CompareOp → List Term → Except Failure Value
  | op :: ops, e :: es =>
    if result then do
      let right ← eval sc e
      let result ← Value.compare op left right
      evalChain sc result right ops es
    else .ok (.bool result)
  | _, _ => .ok (.bool result)

/-- The texts of interpolated parts one after the other, after the first `length` characters in
`done`, which holds the last character first. -/
def evalParts (sc : Scope) (length : Nat) (done : Text) : List Term → Except Failure Text
  | [] => .ok done.reverse
  | e :: es => do
    let v ← eval sc e
    let s ← v.display
    let total := length + s.length
    if lengthLimit < total then .error (.tooLong .interpolation)
    else evalParts sc total (s.reverse ++ done) es

end

/-- The value of a statement. An assignment has the value that it assigns, and assigns nothing. -/
def Statement.eval (sc : Scope) : Statement → Except Failure Value
  | .expression e => LSystem.Expr.eval sc e
  | .assign e => LSystem.Expr.eval sc e
  | .importing => .error (.unavailable .importing)
  | .other node => .error (.unavailable (.node node))

/-- The value of a text that is read as a program. -/
def Scope.run (sc : Scope) : Except Failure Value :=
  let program := Text.trim sc.source
  match Encoding.utf8.fault? program with
  | some fault => .error (.value (.unencodable fault))
  | none =>
    if Char.ofNat 0 ∈ program then .error (.value .nullCharacter)
    else
      match Program.parse program with
      | none => .error .malformed
      | some [] => .error .noStatement
      | some (statement :: _) => statement.eval sc

end LSystem.Expr
