import LSystem.Expr.Function
import LSystem.Text.Case

/-! # Attributes, methods and subscripts

What can be reached from a value: parts of numbers, methods of texts and numbers, items of texts and
lists, entries of tables. -/

namespace LSystem.Expr

namespace Value

def methodNames : Value → List String
  | .text _ =>
    ["capitalize", "casefold", "center", "count", "encode", "endswith", "expandtabs", "find",
      "index", "isalnum", "isalpha", "isascii", "isdecimal", "isdigit", "isidentifier", "islower",
      "isnumeric", "isprintable", "isspace", "istitle", "isupper", "join", "ljust", "lower",
      "lstrip", "maketrans", "partition", "removeprefix", "removesuffix", "replace", "rfind",
      "rindex", "rjust", "rpartition", "rsplit", "rstrip", "split", "splitlines", "startswith",
      "strip", "swapcase", "title", "translate", "upper", "zfill"]
  | .bool _ | .int _ =>
    ["as_integer_ratio", "bit_count", "bit_length", "conjugate", "from_bytes", "to_bytes"]
  | .float _ => ["as_integer_ratio", "conjugate", "fromhex", "hex", "is_integer"]
  | .complex .. => ["conjugate"]
  | .list _ =>
    ["append", "clear", "copy", "count", "extend", "index", "insert", "pop", "remove", "reverse",
      "sort"]
  | .dict .. =>
    ["clear", "copy", "fromkeys", "get", "items", "keys", "pop", "popitem", "setdefault", "update",
      "values"]
  | _ => []

def attribute? (v : Value) (name : String) : Option Value :=
  if v.methodNames.contains name then some (.method v name)
  else
    match v.numeric?, name with
    | some (.int i), "real" => some (.int i)
    | some (.int _), "imag" => some (.int 0)
    | some (.int i), "numerator" => some (.int i)
    | some (.int _), "denominator" => some (.int 1)
    | some (.float x), "real" => some (.float x)
    | some (.float _), "imag" => some (.float 0.0)
    | some (.complex re _), "real" => some (.float re)
    | some (.complex _ im), "imag" => some (.float im)
    | _, _ => Option.none

/-- Where an index counted from the start, or from the end if it is negative, points to in something
of `size` items. -/
def position? (size : Nat) (i : Int) : Option Nat :=
  if 0 ≤ i then if i < size then some i.toNat else Option.none
  else if 0 ≤ i + size then some (i + size).toNat
  else Option.none

/-- A bound of a slice as a position from `least` to `greatest`. -/
def clamp (size : Nat) (least greatest i : Int) : Int :=
  let i := if i < 0 then i + size else i
  max least (min greatest i)

def bound (v : Value) : Except Failure (Option Int) :=
  match v with
  | .none => .ok Option.none
  | v =>
    match v.int? with
    | some i => .ok (some i)
    | Option.none => .error .typeMismatch

/-- Every `step`-th item from a position on, as long as it is before the position `stop`, or after
it for a negative step. -/
def stepped {α : Type} (items : Array α) (step stop : Int) : Nat → Int → List α → List α
  | 0, _, done => done.reverse
  | fuel + 1, i, done =>
    if (0 < step && stop ≤ i) || (step < 0 && i ≤ stop) then done.reverse
    else
      match items[i.toNat]? with
      | some x => stepped items step stop fuel (i + step) (x :: done)
      | _ => done.reverse

def sliced {α : Type} (items : List α) (lower upper step : Value) : Except Failure (List α) := do
  let step := (← bound step).getD 1
  if step = 0 then .error (.value .zeroStep)
  let size := items.length
  let lower ← bound lower
  let upper ← bound upper
  if 0 < step then
    let start := (lower.map (clamp size 0 size)).getD 0
    let stop := (upper.map (clamp size 0 size)).getD size
    .ok (stepped items.toArray step stop size start [])
  else
    let start := (lower.map (clamp size (-1) (size - 1))).getD (size - 1)
    let stop := (upper.map (clamp size (-1) (size - 1))).getD (-1)
    .ok (stepped items.toArray step stop size start [])

def item {α : Type} (items : List α) (i : Int) (fault : IndexFault) : Except Failure α :=
  if (repetitionLimit : Int) ≤ i || i < -(repetitionLimit : Int) then .error (.index .tooGreat)
  else
    match position? items.length i with
    | some n =>
      match items[n]? with
      | some x => .ok x
      | _ => .error (.index fault)
    | _ => .error (.index fault)

def isKey : Value → Bool
  | .list _ => false
  | .dict .. => false
  | .slice .. => false
  | _ => true

/-- The part of a value that a subscript names. -/
def subscript (v key : Value) : Except Failure Value :=
  match v, key with
  | .text s, .slice a b c => (sliced s a b c).map .text
  | .bytes s, .slice a b c => (sliced s a b c).map .bytes
  | .list items, .slice a b c => (sliced items a b c).map .list
  | .dict keys values, .text k =>
    match lookup? k keys values with
    | some v => .ok v
    | Option.none => .error (.key (Text.quoted k))
  | .dict .., key =>
    if key.isKey then
      match key.shown with
      | .ok shown => .error (.key shown)
      | .error _ => .error .unshownKey
    else .error .typeMismatch
  | v, key =>
    match v, key.int? with
    | .text s, some i => (item s i .text).map fun c => .text [c]
    | .bytes s, some i => (item s i (.reported "index out of range")).map fun c => .int c.toNat
    | .list items, some i => item items i .list
    | _, _ => .error .typeMismatch

/-- The start and the end that a method looks between, from its optional arguments. -/
def window (size : Nat) (start stop : Option Value) : Except Failure (Int × Int) := do
  let start ← bound (start.getD .none)
  let stop ← bound (stop.getD .none)
  let fromStart (i : Int) : Int := if i < 0 then max 0 (i + size) else i
  .ok ((start.map fromStart).getD 0, min size ((stop.map fromStart).getD size))

/-- The part of a text between two positions. -/
def between (s : Text) (start stop : Int) : Text := (s.take stop.toNat).drop start.toNat

/-- The position of the first occurrence of a word in a text. -/
def findWord (word : Text) : Text → Nat → Option Nat
  | [], n => if word.isEmpty then some n else Option.none
  | c :: s, n => if word.isPrefixOf (c :: s) then some n else findWord word s (n + 1)

/-- A method that looks for a word in a text, perhaps between two positions. -/
def searching (s : Text) (args : Arguments) (found : Text → Int → Int → Except Failure Value) :
    Except Failure Value :=
  match args.positional, args.named with
  | .text word :: rest, [] =>
    match rest with
    | [] => found word 0 s.length
    | [start] => do
      let (start, stop) ← window s.length (some start) Option.none
      found word start stop
    | [start, stop] => do
      let (start, stop) ← window s.length (some start) (some stop)
      found word start stop
    | _ => .error .typeMismatch
  | _, _ => .error .typeMismatch

/-- A method that takes characters away from the ends of a text: blanks, or those of an argument. -/
def stripping (s : Text) (args : Arguments) (strip : (Char → Bool) → Text → Text) :
    Except Failure Value :=
  match args.positional, args.named with
  | [], [] => .ok (.text (strip Text.isBlank s))
  | [.none], [] => .ok (.text (strip Text.isBlank s))
  | [.text cs], [] => .ok (.text (strip (cs.contains ·) s))
  | _, _ => .error .typeMismatch

def plain (args : Arguments) (v : Value) : Except Failure Value :=
  match args.positional, args.named with
  | [], [] => .ok v
  | _, _ => .error .typeMismatch

def callTextMethod (s : Text) (name : String) (args : Arguments) : Except Failure Value :=
  match name with
  | "upper" => plain args (.text (Text.upper s))
  | "lower" => plain args (.text (Text.lower s))
  | "strip" => stripping s args Text.trimWhile
  | "lstrip" => stripping s args List.dropWhile
  | "rstrip" => stripping s args fun p s => (s.reverse.dropWhile p).reverse
  | "count" => searching s args fun word start stop =>
    .ok (.int (if stop < start then 0 else Text.countWord word (between s start stop)))
  | "startswith" => searching s args fun word start stop =>
    .ok (.bool (start ≤ stop && word.isPrefixOf (between s start stop)))
  | "endswith" => searching s args fun word start stop =>
    .ok (.bool (start ≤ stop && word.isSuffixOf (between s start stop)))
  | "find" => searching s args fun word start stop =>
    .ok (.int (if stop < start then -1 else
      match findWord word (between s start stop) start.toNat with
      | some n => n
      | Option.none => -1))
  | "index" => searching s args fun word start stop =>
    match
      if stop < start then Option.none else findWord word (between s start stop) start.toNat
    with
    | some n => .ok (.int n)
    | Option.none => .error (.value .subtext)
  | "replace" =>
    match args.positional, args.named with
    | [.text word, .text new], [] => .ok (.text (Text.replaceAll word new s))
    | _, _ => .error .typeMismatch
  | name => .error (.leftAside name)

/-- The number of binary digits of an integer. -/
def bitLength (i : Int) : Nat := if i = 0 then 0 else i.natAbs.log2 + 1

def callListMethod (items : List Value) (name : String) (args : Arguments) :
    Except Failure Value :=
  match name with
  | "count" => do
    let x ← args.only
    .ok (.int (items.countP fun item => equal item x))
  | "index" =>
    match args.positional, args.named with
    | [x], [] =>
      match items.findIdx? fun item => equal item x with
      | some n => .ok (.int n)
      | Option.none => .error (.value .notInList)
    | _, _ => .error (.leftAside name)
  | "copy" => plain args (.list items)
  | name => .error (.leftAside name)

/-- The value under a key of a table, or another one. -/
def entryOr (keys : List Text) (values : List Value) (key other : Value) : Except Failure Value :=
  match key with
  | .text k => .ok ((lookup? k keys values).getD other)
  | key => if key.isKey then .ok other else .error .typeMismatch

def callTableMethod (keys : List Text) (values : List Value) (name : String) (args : Arguments) :
    Except Failure Value :=
  match name with
  | "get" =>
    match args.positional, args.named with
    | [k], [] => entryOr keys values k .none
    | [k, other], [] => entryOr keys values k other
    | _, _ => .error .typeMismatch
  | "copy" => plain args (.dict keys values)
  | name => .error (.leftAside name)

/-- The value of a call of a method. Methods without a body here are left aside. -/
def callMethod (v : Value) (name : String) (args : Arguments) : Except Failure Value :=
  match v with
  | .text s => callTextMethod s name args
  | .list items => callListMethod items name args
  | .dict keys values => callTableMethod keys values name args
  | v =>
    match v.numeric?, name with
    | some (.int i), "bit_length" => plain args (.int (bitLength i))
    | some (.int i), "bit_count" =>
      plain args (.int ((Nat.toDigits 2 i.natAbs).countP (· = '1')))
    | some (.int i), "conjugate" => plain args (.int i)
    | some (.float x), "is_integer" =>
      plain args (.bool (!x.isNaN && !x.isInf && Number.isInteger x))
    | some (.float x), "conjugate" => plain args (.float x)
    | some (.complex re im), "conjugate" => plain args (.complex re (-im))
    | _, name => .error (.leftAside name)

end Value

end LSystem.Expr
