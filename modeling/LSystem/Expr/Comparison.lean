import LSystem.Expr.Arithmetic

/-! # Comparison of values

Numbers are compared exactly, an integer with a float too; an undefined float is equal to nothing
and in no order. Texts are in the order of their code points, and lists in the order of their first
items that differ. -/

namespace LSystem.Expr

/-- The order of two real numbers, if they are in one. -/
def Numeric.order : Numeric → Numeric → Option Ordering
  | .int a, .int b => some (compare a b)
  | .int a, .float y => Number.compareInt a y
  | .float x, .int b => (Number.compareInt b x).map Ordering.swap
  | .float x, .float y => Number.compareFloat x y
  | _, _ => none

def Numeric.equal : Numeric → Numeric → Bool
  | .complex a b, .complex c d => a == c && b == d
  | .complex a b, y => b == 0.0 && (Numeric.float a).order y == some .eq
  | x, .complex c d => d == 0.0 && x.order (.float c) == some .eq
  | x, y => x.order y == some .eq

namespace Value

mutual

def equal : Value → Value → Bool
  | .none, .none => true
  | .text s, .text t => s = t
  | .bytes s, .bytes t => s = t
  | .list xs, .list ys => equalAll xs ys
  | .dict ks vs, .dict ls ws => ks.length = ls.length && equalUnder ks vs ls ws
  | .function f, .function g => f = g
  | .method v f, .method w g => f = g && equal v w
  | .slice a b c, .slice d e f => equal a d && equal b e && equal c f
  | .ellipsis, .ellipsis => true
  | v, w =>
    match v.numeric?, w.numeric? with
    | some x, some y => x.equal y
    | _, _ => false

/-- Whether the items of two lists are equal or the same undefined float. -/
def equalAll : List Value → List Value → Bool
  | [], [] => true
  | x :: xs, y :: ys =>
    (match x, y with
      | .float a, .float b => a == b || a.toBits = b.toBits
      | x, y => equal x y) && equalAll xs ys
  | _, _ => false

/-- Whether the values under all keys of a table equal those of another table. -/
def equalUnder : List Text → List Value → List Text → List Value → Bool
  | k :: ks, v :: vs, ls, ws =>
    (match lookup? k ls ws with
      | some w => equal v w
      | _ => false) && equalUnder ks vs ls ws
  | _, _, _, _ => true

end

/-- Whether a comparison in order holds of the way two things are ordered. -/
def holds : CompareOp → Ordering → Bool
  | .lt, o => o.isLT
  | .le, o => o.isLE
  | .gt, o => o.isGT
  | .ge, o => o.isGE
  | .eq, o => o.isEq
  | _, o => o.isNe

mutual

def ordered (op : CompareOp) : Value → Value → Except Failure Bool
  | .text s, .text t => .ok (holds op (Text.order s t))
  | .bytes s, .bytes t => .ok (holds op (Text.order s t))
  | .list xs, .list ys => orderedAll op xs ys
  | v, w =>
    match v.numeric?, w.numeric? with
    | some x, some y =>
      if x.isComplex || y.isComplex then .error .typeMismatch
      else .ok ((x.order y).any (holds op))
    | _, _ => .error .typeMismatch

def orderedAll (op : CompareOp) : List Value → List Value → Except Failure Bool
  | [], [] => .ok (holds op .eq)
  | [], _ :: _ => .ok (holds op .lt)
  | _ :: _, [] => .ok (holds op .gt)
  | x :: xs, y :: ys => if equal x y then orderedAll op xs ys else ordered op x y

end

/-- Whether a value is one of the items of another. A text is in a text that it occurs in, a key in
its table. -/
def isIn (v container : Value) : Except Failure Bool :=
  match container with
  | .list items => .ok (items.any fun item => equal item v)
  | .text t =>
    match v with
    | .text s => .ok (Text.occurs s t)
    | _ => .error .typeMismatch
  | .bytes t =>
    match v with
    | .bytes s => .ok (Text.occurs s t)
    | .bool b => .ok (t.any fun c => c.toNat = if b then 1 else 0)
    | .int i =>
      if 0 ≤ i && i < 256 then .ok (t.any fun c => (c.toNat : Int) = i)
      else .error (.value (.reported "byte must be in range(0, 256)"))
    | _ => .error .typeMismatch
  | .dict keys _ =>
    match v with
    | .text s => .ok (keys.contains s)
    | .list _ => .error .typeMismatch
    | .dict .. => .error .typeMismatch
    | .slice .. => .error .typeMismatch
    | _ => .ok false
  | _ => .error .typeMismatch

/-- Whether two values are one and the same, as far as that can be told by their type. -/
def same : Value → Value → Bool
  | .none, .none => true
  | .bool a, .bool b => a = b
  | .int a, .int b => a = b
  | .function f, .function g => f = g
  | .ellipsis, .ellipsis => true
  | .text s, .text t => s = t
  | _, _ => false

def compare (op : CompareOp) (a b : Value) : Except Failure Bool :=
  match op with
  | .eq => .ok (equal a b)
  | .ne => .ok (!equal a b)
  | .same => .ok (same a b)
  | .notSame => .ok (!same a b)
  | .member => isIn a b
  | .notMember => (isIn a b).map not
  | op => ordered op a b

end Value

end LSystem.Expr
