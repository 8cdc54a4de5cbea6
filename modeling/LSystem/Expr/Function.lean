import LSystem.Expr.Comparison

/-! # Functions

The functions that every expression can call. A function gets its arguments evaluated, some by
position and some by name; `min` and `max` can also be given a function that says what to compare
by. -/

namespace LSystem.Expr

structure Arguments where
  positional : List Value
  named : List (String × Value)

/-- A function: it gets a way to apply a value that is a function to one argument, and its own
arguments. -/
abbrev Function := (Value → Value → Except Failure Value) → Arguments → Except Failure Value

/-- A number drawn at random, from zero to one, as a multiple of `2 ^ (-53)`. -/
abbrev Sample := Fin (Nat.pow 2 53)

/-- One half. -/
def Sample.middle : Sample := ⟨Nat.pow 2 52, by decide⟩

namespace Arguments

def named? (args : Arguments) (name : String) : Option Value :=
  (args.named.find? fun (n, _) => n = name).map (·.2)

/-- Whether all names are among the given ones. -/
def onlyNamed (args : Arguments) (names : List String) : Bool :=
  args.named.all fun (n, _) => names.contains n

/-- The arguments for parameters that can be given by position or by name, in the order of the
parameters. No parameter may be given twice. -/
def assign (args : Arguments) (parameters : List String) : Except Failure (List (Option Value)) :=
  let given := args.positional.length
  if parameters.length < given || !args.onlyNamed (parameters.drop given) then
    .error .typeMismatch
  else .ok (args.positional.map some ++ (parameters.drop given).map args.named?)

/-- The one argument of a function that takes one by position. -/
def only (args : Arguments) : Except Failure Value :=
  match args.positional, args.named with
  | [v], [] => .ok v
  | _, _ => .error .typeMismatch

end Arguments

namespace Function

/-- The integer that a finite float is turned into. -/
def integerOf (toInt : Number.Binary → Int) (x : Float) : Except Failure Value :=
  if x.isNaN then .error (.value .undefinedAsInteger)
  else if x.isInf then .error (.overflow .infinityAsInteger)
  else .ok (.int (toInt (Number.Binary.ofFloat x)))

def realOf (v : Value) : Except Failure Float :=
  match v.numeric? with
  | some x => x.toFloat
  | none => .error .typeMismatch

def abs : Function := fun _ args => do
  let v ← args.only
  match v.numeric? with
  | some (.int i) => .ok (.int i.natAbs)
  | some (.float x) => .ok (.float x.abs)
  | some (.complex re im) => do
    let x ← Numeric.modulus re im
    .ok (.float x)
  | none => .error .typeMismatch

/-- The first of the items that none of the later ones beats; `best` and `bestKey` are the item
chosen so far and what it is compared by. -/
def choose (op : CompareOp) (key : Value → Except Failure Value) :
    (best bestKey : Value) → List Value → Except Failure Value
  | best, _, [] => .ok best
  | best, bestKey, v :: vs => do
    let k ← key v
    if (← Value.ordered op k bestKey) then choose op key v k vs else choose op key best bestKey vs

/-- The least or greatest of several arguments, or of the items of one. -/
def extreme (name : String) (op : CompareOp) : Function := fun apply args => do
  if !args.onlyNamed ["key", "default"] then .error .typeMismatch
  let default := args.named? "default"
  let items ← match args.positional with
    | [] => .error .typeMismatch
    | [v] =>
      match v.items? with
      | some items => .ok items
      | none => .error .typeMismatch
    | vs => if default.isSome then .error .typeMismatch else .ok vs
  let key : Value → Except Failure Value := match args.named? "key" with
    | none => .ok
    | some .none => .ok
    | some f => apply f
  match items with
  | [] =>
    match default with
    | some v => .ok v
    | none => .error (.value (.noItems name))
  | v :: vs => do
    let k ← key v
    choose op key v k vs

/-- A number rounded to the nearest integer, or to a number of decimal places. -/
def round : Function := fun _ args => do
  match (← args.assign ["number", "ndigits"]) with
  | [some v, places] =>
    let places ← match places with
      | none => .ok none
      | some .none => .ok none
      | some p =>
        match p.int? with
        | some n => .ok (some n)
        | none => .error .typeMismatch
    match v.numeric?, places with
    | some (.int i), none => .ok (.int i)
    | some (.int i), some n => .ok (.int (Number.roundIntPlaces i n))
    | some (.float x), none =>
      integerOf (fun b => Number.roundHalfEven b.numerator b.denominator) x
    | some (.float x), some n =>
      if x.isNaN || x.isInf then .ok (.float x)
      else
        match Number.roundPlaces? x n with
        | some y => .ok (.float y)
        | none => .error (.overflow .rounded)
    | _, _ => .error .typeMismatch
  | _ => .error .typeMismatch

/-- A number rounded to an integer in one direction. -/
def toward (toInt : Number.Binary → Int) : Function := fun _ args => do
  let v ← args.only
  match v.numeric? with
  | some (.int i) => .ok (.int i)
  | some (.float x) => integerOf toInt x
  | _ => .error .typeMismatch

/-- The square root of a number that is not negative. -/
def sqrt : Function := fun _ args => do
  let x ← realOf (← args.only)
  if x < 0.0 then .error (.value .domain) else .ok (.float x.sqrt)

/-- A function of an angle, which is finite. -/
def ofAngle (f : Float → Float) : Function := fun _ args => do
  let x ← realOf (← args.only)
  if x.isInf then .error (.value .domain) else .ok (.float (f x))

/-- The integer that a numeral stands for, read in a base. -/
def readInt (base : Nat) (s : Text) : Except Failure Value :=
  match Number.readInt base s with
  | .ok i => .ok (.int i)
  | .error .malformed => .error (.value (.numeral base s))
  | .error (.tooLong n) => .error (.value (.readDigits n))

/-- A number without its fraction, or the integer that a numeral stands for. -/
def int : Function := fun _ args => do
  if !args.onlyNamed ["base"] then .error .typeMismatch
  let (v, base) ← match args.positional, args.named? "base" with
    | [], none => .ok (Value.int 0, none)
    | [v], base => .ok (v, base)
    | [v, base], none => .ok (v, some base)
    | _, _ => .error .typeMismatch
  match base with
  | none =>
    match v with
    | .text s => readInt 10 s
    | v =>
      match v.numeric? with
      | some (.int i) => .ok (.int i)
      | some (.float x) => integerOf Number.Binary.truncate x
      | _ => .error .typeMismatch
  | some base =>
    match base.int? with
    | none => .error .typeMismatch
    | some b =>
      if b = 0 || (2 ≤ b && b ≤ 36) then
        match v with
        | .text s => readInt b.toNat s
        | _ => .error .typeMismatch
      else .error (.value .numeralBase)

/-- A number as a float, or the float that a numeral stands for. -/
def float : Function := fun _ args => do
  match args.positional, args.named with
  | [], [] => .ok (.float 0.0)
  | [.text s], [] =>
    match Number.readFloat? s with
    | some x => .ok (.float x)
    | none => .error (.value (.floatNumeral s))
  | [v], [] => do
    let x ← realOf v
    .ok (.float x)
  | _, _ => .error .typeMismatch

def str : Function := fun _ args => do
  match (← args.assign ["object"]) with
  | [some v] => do
    let s ← v.display
    .ok (.text s)
  | _ => .ok (.text [])

/-- A sample as a float. -/
def sampled (sample : Sample) : Float :=
  (Number.nearest? sample.val (Nat.pow 2 53)).getD 0.0

/-- The sample. -/
def rand (sample : Sample) : Function := fun _ args =>
  match args.positional, args.named with
  | [], [] => .ok (.float (sampled sample))
  | _, _ => .error .typeMismatch

/-- The integer from zero to a bound, the bound left out, that the sample picks. -/
def randint (sample : Sample) : Function := fun _ args => do
  match (← args.assign ["top"]) with
  | [some v] => do
    let x ← realOf v
    integerOf Number.Binary.truncate (sampled sample * x)
  | _ => .error .typeMismatch

/-- The functions that every expression can call. Two of them return what a sample picks. -/
def standard (sample : Sample) : List (String × Function) :=
  [("abs", abs), ("min", extreme "min" .lt), ("max", extreme "max" .gt), ("round", round),
    ("floor", toward Number.Binary.floor), ("ceil", toward Number.Binary.ceil), ("sqrt", sqrt),
    ("sin", ofAngle Float.sin), ("cos", ofAngle Float.cos), ("int", int), ("float", float),
    ("str", str), ("rand", rand sample), ("randint", randint sample)]

end Function

end LSystem.Expr
