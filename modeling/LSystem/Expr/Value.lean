import LSystem.Expr.Failure
import LSystem.Expr.Syntax

/-! # Values of expressions

A value can be shown in two ways: as an expression would write it (`shown`), and as a text that it
stands for (`display`), which differ for texts only. An integer with too many digits cannot be
shown. -/

namespace LSystem.Expr

inductive Value where
  | none
  | bool (b : Bool)
  | int (i : Int)
  | float (x : Float)
  | complex (re im : Float)
  | text (s : Text)
  | bytes (s : Text)
  | list (items : List Value)
  /-- A table from texts to values, in order of insertion. -/
  | dict (keys : List Text) (values : List Value)
  | function (name : String)
  | method (receiver : Value) (name : String)
  | slice (lower upper step : Value)
  | ellipsis
  deriving Inhabited

inductive Numeric where
  | int (i : Int)
  | float (x : Float)
  | complex (re im : Float)
  deriving DecidableEq

namespace Value

/-- The number that a value is; a truth value is one or zero. -/
def numeric? : Value → Option Numeric
  | .bool b => some (.int (if b then 1 else 0))
  | .int i => some (.int i)
  | .float x => some (.float x)
  | .complex re im => some (.complex re im)
  | _ => Option.none

def int? : Value → Option Int
  | .bool b => some (if b then 1 else 0)
  | .int i => some i
  | _ => Option.none

def ofNumeric : Numeric → Value
  | .int i => .int i
  | .float x => .float x
  | .complex re im => .complex re im

/-- The number of items of a value that has items. -/
def size? : Value → Option Nat
  | .text s => some s.length
  | .bytes s => some s.length
  | .list items => some items.length
  | .dict keys _ => some keys.length
  | _ => Option.none

/-- The items of a value that has items, as values. -/
def items? : Value → Option (List Value)
  | .text s => some (s.map fun c => .text [c])
  | .bytes s => some (s.map fun c => .int c.toNat)
  | .list items => some items
  | .dict keys _ => some (keys.map .text)
  | _ => Option.none

def truth : Value → Bool
  | .none => false
  | .bool b => b
  | .int i => i ≠ 0
  | .float x => !(x == 0.0)
  | .complex re im => !(re == 0.0 && im == 0.0)
  | .text s => !s.isEmpty
  | .bytes s => !s.isEmpty
  | .list items => !items.isEmpty
  | .dict keys _ => !keys.isEmpty
  | _ => true

def lookup? (key : Text) (keys : List Text) (values : List Value) : Option Value :=
  ((keys.zip values).find? fun (k, _) => k = key).map (·.2)

end Value

/-- Parts of complex numbers: as they stand below `10 ^ 16`, and integral ones without a point. -/
def partLayout : Number.Layout := ⟨-4, 16, false⟩

def partText (x : Float) : Text := partLayout.writeFloat Number.Scientific.shortest x

/-- A complex number. Without a real part only the imaginary one is shown. -/
def complexText (re im : Float) : Text :=
  if re.toBits = 0 then partText im ++ ['j']
  else
    let im := partText im
    '(' :: partText re ++ (if im.head? = some '-' then [] else ['+']) ++ im ++ ['j', ')']

/-- An integer, if it has not too many digits. -/
def shownInt (i : Int) : Except Failure Text :=
  if Number.fitsDigitLimit i then .ok (Number.intText i) else .error (.value .writtenDigits)

/-- One byte between the quotes `quote`. -/
def quoteByte (quote c : Char) : Text :=
  if c.toNat < 128 then Text.quoteChar quote c else '\\' :: 'x' :: Text.hexDigits 2 c.toNat

def bytesText (s : Text) : Text :=
  let quote := if '\'' ∈ s ∧ '"' ∉ s then '"' else '\''
  'b' :: quote :: s.flatMap (quoteByte quote) ++ [quote]

/-- A function; the constructors of types are called classes. -/
def functionText (name : String) : Text :=
  if name = "int" || name = "float" || name = "str" then s!"<class '{name}'>".toList
  else s!"<built-in function {name}>".toList

namespace Value

mutual

/-- A value as an expression would write it. -/
def shown : Value → Except Failure Text
  | .none => .ok ['N', 'o', 'n', 'e']
  | .bool b => .ok (if b then ['T', 'r', 'u', 'e'] else ['F', 'a', 'l', 's', 'e'])
  | .int i => shownInt i
  | .float x => .ok (Number.floatText x)
  | .complex re im => .ok (complexText re im)
  | .text s => .ok (Text.quoted s)
  | .bytes s => .ok (bytesText s)
  | .list items => do
    let items ← shownAll items
    .ok ('[' :: Text.join [',', ' '] items ++ [']'])
  | .dict keys values => do
    let values ← shownAll values
    let entries := keys.zipWith (fun k v => Text.quoted k ++ ':' :: ' ' :: v) values
    .ok ('\x7b' :: Text.join [',', ' '] entries ++ ['\x7d'])
  | .function name => .ok (functionText name)
  | .method _ name => .ok s!"<built-in method {name}>".toList
  | .slice lower upper step => do
    let lower ← shown lower
    let upper ← shown upper
    let step ← shown step
    .ok ("slice(".toList ++ Text.join [',', ' '] [lower, upper, step] ++ [')'])
  | .ellipsis => .ok "Ellipsis".toList

/-- Values as an expression would write them. -/
def shownAll : List Value → Except Failure (List Text)
  | [] => .ok []
  | v :: vs => do
    let v ← shown v
    let vs ← shownAll vs
    .ok (v :: vs)

end

/-- The text that a value stands for. -/
def display : Value → Except Failure Text
  | .text s => .ok s
  | v => v.shown

/-- A value as it is written back into commands: floats are rounded to fifteen digits. -/
def command : Value → Except Failure Text
  | .float x => .ok (Number.commandText x)
  | v => v.display

end Value

end LSystem.Expr
