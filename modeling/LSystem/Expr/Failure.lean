import LSystem.Number.Layout
import LSystem.Text.Encoding

/-! # Why an expression has no value

`Failure` lists the causes, with what their messages mention. `Failure.kind` sorts them into the
classes that a consumer tells apart, and `Failure.message` words them. -/

namespace LSystem.Expr

/-- What was divided by zero, or raised to a power that divides by zero. -/
inductive ZeroDivision where
  | integer
  | float
  | complex
  | integerFloor
  | floatFloor
  | integerRemainder
  | floatRemainder
  | negativePower
  | complexPower
  deriving DecidableEq, Repr

inductive Overflow where
  | floatPower
  | complexPower
  | integerAsFloat
  /-- A quotient of integers that no float is near to. -/
  | quotient
  | infinityAsInteger
  /-- A float rounded up past the greatest one. -/
  | rounded
  | modulus
  /-- A number of repetitions past the greatest text length. -/
  | repetitions
  | repeatedLength
  deriving DecidableEq, Repr

/-- Which value an operation does not accept. -/
inductive ValueFault where
  | undefinedAsInteger
  | domain
  | negativeShift
  | zeroStep
  | numeral (base : Nat) (text : Text)
  | floatNumeral (text : Text)
  | numeralBase
  /-- An integer has too many digits to be written. -/
  | writtenDigits
  /-- A numeral has too many digits to be read: their number. -/
  | readDigits (digits : Nat)
  /-- The least or greatest of nothing. -/
  | noItems (function : String)
  | nullCharacter
  /-- The text of an expression cannot be encoded. -/
  | unencodable (fault : EncodingFault)
  | subtext
  | notInList
  /-- What a caller's function reports. -/
  | reported (message : String)
  deriving DecidableEq, Repr

inductive IndexFault where
  | text
  | list
  /-- The index is past the greatest length. -/
  | tooGreat
  /-- What a caller's function reports. -/
  | reported (message : String)
  deriving DecidableEq, Repr

inductive Excess where
  | repetition
  | concatenation
  | literal (length : Nat)
  | interpolation
  deriving DecidableEq, Repr

inductive Feature where
  | importing
  /-- A form that has no value here, by the name of its syntax node. -/
  | node (name : String)
  | hiddenAttribute (name : String)
  | method (name : String)
  /-- Calling what is neither a name nor an attribute. -/
  | computedCallee
  deriving DecidableEq, Repr

/-- An exception of a class that evaluation passes on as it is. -/
structure Uncaught where
  className : String := "RuntimeError"
  message : String
  deriving DecidableEq, Repr

instance : Coe String Uncaught := ⟨fun message => { message }⟩

inductive Failure where
  /-- The text is no program. -/
  | malformed
  /-- The text holds no statement. -/
  | noStatement
  | unavailable (feature : Feature)
  | unknownName (name : String) (source : Text)
  | unknownFunction (name : String) (source : Text)
  | unknownAttribute (name : String) (source : Text)
  | unknownOperator
  /-- The operands of a power or shift are too great to try. -/
  | tooHigh (symbol : String) (left right : Text)
  | tooLong (what : Excess)
  /-- An operation is not defined for the types of its operands, or a function not for that number
  of arguments. -/
  | typeMismatch
  | zeroDivision (what : ZeroDivision)
  | overflow (what : Overflow)
  | value (fault : ValueFault)
  | index (fault : IndexFault)
  /-- A key that a dictionary does not have, as it is shown. -/
  | key (shown : Text)
  /-- A key that a dictionary does not have, with an integer in it that has too many digits to be
  shown. -/
  | unshownKey
  /-- A caller's function gives up in a way that is no matter of the expression. -/
  | aborted (raised : Uncaught)
  /-- What is asked for has a value, or fails in a way of its own, but not here. -/
  | leftAside (what : String)
  deriving DecidableEq, Repr

inductive FailureKind where
  | malformed
  | invalid
  | unavailable
  | unknownName
  | unknownFunction
  | unknownAttribute
  | unknownOperator
  | tooHigh
  | tooLong
  | typeMismatch
  | zeroDivision
  | overflow
  | value
  | index
  | key
  | aborted
  deriving DecidableEq, Repr

/-- The class of a failure. What is left aside is sorted with what the types do not allow. -/
def Failure.kind : Failure → FailureKind
  | .malformed => .malformed
  | .noStatement => .invalid
  | .unavailable _ => .unavailable
  | .unknownName .. => .unknownName
  | .unknownFunction .. => .unknownFunction
  | .unknownAttribute .. => .unknownAttribute
  | .unknownOperator => .unknownOperator
  | .tooHigh .. => .tooHigh
  | .tooLong _ => .tooLong
  | .typeMismatch => .typeMismatch
  | .zeroDivision _ => .zeroDivision
  | .overflow _ => .overflow
  | .value _ => .value
  | .index _ => .index
  | .key _ => .key
  | .unshownKey => .key
  | .aborted _ => .aborted
  | .leftAside _ => .typeMismatch

def ZeroDivision.message : ZeroDivision → String
  | .integer => "division by zero"
  | .float => "float division by zero"
  | .complex => "complex division by zero"
  | .integerFloor => "integer division or modulo by zero"
  | .floatFloor => "float floor division by zero"
  | .integerRemainder => "integer modulo by zero"
  | .floatRemainder => "float modulo"
  | .negativePower => "0.0 cannot be raised to a negative power"
  | .complexPower => "0.0 to a negative or complex power"

def Overflow.message : Overflow → String
  | .floatPower => "(34, 'Numerical result out of range')"
  | .complexPower => "complex exponentiation"
  | .integerAsFloat => "int too large to convert to float"
  | .quotient => "integer division result too large for a float"
  | .infinityAsInteger => "cannot convert float infinity to integer"
  | .rounded => "rounded value too large to represent"
  | .modulus => "absolute value too large"
  | .repetitions => "cannot fit 'int' into an index-sized integer"
  | .repeatedLength => "repeated string is too long"

/-- The wording for an integer with too many digits. -/
def digitLimitMessage (of : String) : String :=
  "Exceeds the limit (4300 digits) for integer string conversion" ++ of ++
    "; use sys.set_int_max_str_digits() to increase the limit"

/-- The wording of a value that is not accepted. -/
def ValueFault.message : ValueFault → String
  | .undefinedAsInteger => "cannot convert float NaN to integer"
  | .domain => "math domain error"
  | .negativeShift => "negative shift count"
  | .zeroStep => "slice step cannot be zero"
  | .numeral base text =>
    s!"invalid literal for int() with base {base}: " ++ String.ofList ((Text.quoted text).take 200)
  | .floatNumeral text => "could not convert string to float: " ++ String.ofList (Text.quoted text)
  | .numeralBase => "int() base must be >= 2 and <= 36, or 0"
  | .writtenDigits => digitLimitMessage ""
  | .readDigits n => digitLimitMessage s!": value has {n} digits"
  | .noItems function => s!"{function}() arg is an empty sequence"
  | .nullCharacter => "source code string cannot contain null bytes"
  | .unencodable fault => fault.message
  | .subtext => "substring not found"
  | .notInList => "value is not in list"
  | .reported message => message

/-- The wording of an index that is out of range. -/
def IndexFault.message : IndexFault → String
  | .text => "string index out of range"
  | .list => "list index out of range"
  | .tooGreat => "cannot fit 'int' into an index-sized integer"
  | .reported message => message

def Excess.message : Excess → String
  | .repetition => "Sorry, I will not evaluate something that long."
  | .concatenation => "Sorry, adding those two together would make something too long."
  | .literal n => s!"Literal in statement is too long! ({n}, when 100000 is max)"
  | .interpolation => "Sorry, I will not evaluate something this long."

/-- The wording of a feature that may not be used. -/
def Feature.message : Feature → String
  | .importing => "Sorry, 'import' is not allowed."
  | .node name => s!"Sorry, {name} is not available in this evaluator"
  | .hiddenAttribute name =>
    s!"Sorry, access to __attributes  or func_ attributes is not available. ({name})"
  | .method name => s!"Sorry, this method is not available. ({name})"
  | .computedCallee => "Lambda Functions not implemented"

def Failure.message : Failure → String
  | .malformed => "invalid syntax"
  | .noStatement => "Sorry, cannot evaluate empty string"
  | .unavailable feature => feature.message
  | .unknownName name source => s!"'{name}' is not defined for expression '{String.ofList source}'"
  | .unknownFunction name source =>
    s!"Function '{name}' not defined, for expression '{String.ofList source}'."
  | .unknownAttribute name source =>
    s!"Attribute '{name}' does not exist in expression '{String.ofList source}'"
  | .unknownOperator => "unknown operator"
  | .tooHigh symbol left right =>
    s!"Sorry! I don't want to evaluate {String.ofList left} {symbol} {String.ofList right}"
  | .tooLong what => what.message
  | .typeMismatch => "unsupported types"
  | .zeroDivision what => what.message
  | .overflow what => what.message
  | .value fault => fault.message
  | .index fault => fault.message
  | .key shown => String.ofList shown
  | .unshownKey => digitLimitMessage ""
  | .aborted raised => raised.message
  | .leftAside what => what ++ " is left aside"

end LSystem.Expr
