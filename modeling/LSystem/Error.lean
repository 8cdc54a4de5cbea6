import LSystem.Expr.Failure
import LSystem.Json.Reader

/-! # Errors

Everything that can go wrong in the library, by cause, and the wording of each cause. Causes that
concern a configuration are kept apart from those that concern rules and expressions. -/

namespace LSystem

/-- The shape that a part of a configuration must have. -/
inductive Shape where
  | integer
  | text
  | array
  | object
  deriving DecidableEq, Repr

/-- Why a configuration, or its execution as one, is refused. -/
inductive ConfigFault where
  /-- A file is no JSON document: the fault, its line, column and position. -/
  | document (path : Text) (fault : Json.Fault) (line column position : Nat)
  /-- The part at a path has another shape. -/
  | shape (path : Text) (expected : Shape)
  | emptyAxiom
  | negativeIterations
  /-- The number of rounds given on the command line is negative. -/
  | negativeOption
  | ruleKey (key : Text)
  | repeatedAtom (atom : Text)
  | emptyStack
  /-- Pushes without a pop: their number. -/
  | unmatchedPushes (count : Nat)
  deriving DecidableEq, Repr

inductive Error where
  | config (fault : ConfigFault)
  | malformedDeclaration (key : Text)
  | duplicateAtom (atom : Text)
  | unknownAtom (atom : Text)
  /-- A call has another number of arguments than the rule has parameters. -/
  | arity (declaration : Text) (parameters : Nat) (args : List Text)
  | emptyExpression
  | evaluation (source : Text) (failure : Expr.Failure)
  /-- A condition has the value shown, which is no truth value. -/
  | notBoolean (source shown : Text)
  /-- A repeat count has the value shown, which is no number. -/
  | notNumber (source shown : Text)
  | notFinite (source : Text) (isUndefined : Bool)
  | negativeRounds
  /-- An integer has too many digits to be written. -/
  | writtenDigits
  /-- An integer in a document has too many digits to be read: their number. -/
  | readDigits (digits : Nat)
  /-- A text is repeated more often than can be counted. -/
  | repetitions
  /-- A repeated text is longer than can be counted. -/
  | repeatedLength
  /-- A caller's function gives up. -/
  | aborted (raised : Expr.Uncaught)
  /-- Repeat blocks expand to repeat blocks without end. -/
  | endlessNesting
  /-- The path of a file holds the null character. -/
  | nullPath
  /-- A text that is written has a character that cannot be encoded. -/
  | unencodable (fault : EncodingFault)
  /-- The bytes of a file are no text, in the words of the decoder. -/
  | undecodable (words : String)
  deriving DecidableEq, Repr

/-- The classes of errors, as far as they are handled apart: `value` has subclasses, and `runtime`
stands for every class that a caller's function may raise and evaluation does not convert. -/
inductive ErrorKind where
  | config
  | malformedDeclaration
  | duplicateAtom
  | unknownAtom
  | evaluation
  | arity
  | value
  | overflow
  | runtime
  deriving DecidableEq, Repr

def Error.kind : Error → ErrorKind
  | .config _ => .config
  | .malformedDeclaration _ => .malformedDeclaration
  | .duplicateAtom _ => .duplicateAtom
  | .unknownAtom _ => .unknownAtom
  | .arity .. => .arity
  | .emptyExpression => .evaluation
  | .evaluation .. => .evaluation
  | .notBoolean .. => .evaluation
  | .notNumber .. => .evaluation
  | .notFinite .. => .evaluation
  | .negativeRounds => .value
  | .writtenDigits => .value
  | .readDigits _ => .value
  | .repetitions => .overflow
  | .repeatedLength => .overflow
  | .aborted _ => .runtime
  | .endlessNesting => .runtime
  | .nullPath => .value
  | .unencodable _ => .value
  | .undecodable _ => .value

def Shape.phrase : Shape → String
  | .integer => "an integer"
  | .text => "a string"
  | .array => "an array"
  | .object => "an object"

/-- A text between quotes, in a message. -/
def quotedString (s : Text) : String := String.ofList (Text.quoted s)

/-- The wording for a key that is no declaration. -/
def malformedMessage (key : Text) : String :=
  s!"rule declaration {quotedString key} must look like name<param1,param2,...>"

def ConfigFault.message : ConfigFault → String
  | .document path fault line column position =>
    s!"Invalid JSON in {String.ofList path}: " ++ fault.message ++
      s!": line {line} column {column} (char {position})"
  | .shape path expected => s!"{String.ofList path} must be {expected.phrase}"
  | .emptyAxiom => "axiom must be non-empty"
  | .negativeIterations => "iterations must be >= 0"
  | .negativeOption => "--iterations must be >= 0"
  | .ruleKey key => s!"rules key {quotedString key}: {malformedMessage key}"
  | .repeatedAtom atom => s!"rules declare atom '{String.ofList atom}' more than once"
  | .emptyStack => "pop encountered with empty stack"
  | .unmatchedPushes count => s!"{count} push(es) left without a matching pop"

def Error.message : Error → String
  | .config fault => fault.message
  | .malformedDeclaration key => malformedMessage key
  | .duplicateAtom atom => s!"atom '{String.ofList atom}' is already registered"
  | .unknownAtom atom => s!"unknown atom '{String.ofList atom}'"
  | .arity declaration parameters args =>
    s!"{String.ofList declaration} takes {parameters} argument(s), got {args.length}: " ++
      String.ofList (Text.quotedList args)
  | .emptyExpression => "cannot evaluate an empty expression"
  | .evaluation source failure => s!"cannot evaluate {quotedString source}: " ++ failure.message
  | .notBoolean source shown =>
    s!"condition {quotedString source} evaluated to {String.ofList shown}, not a boolean"
  | .notNumber source shown =>
    s!"repeat count {quotedString source} evaluated to {String.ofList shown}, not a number"
  | .notFinite source _ => s!"repeat count {quotedString source} is not finite"
  | .negativeRounds => "iterations must be >= 0"
  | .writtenDigits => (Expr.ValueFault.writtenDigits).message
  | .readDigits digits => (Expr.ValueFault.readDigits digits).message
  | .repetitions => (Expr.Overflow.repetitions).message
  | .repeatedLength => (Expr.Overflow.repeatedLength).message
  | .aborted raised => raised.message
  | .endlessNesting => "repeat blocks are nested too deeply"
  | .nullPath => "embedded null byte"
  | .unencodable fault => fault.message
  | .undecodable words => words

end LSystem
