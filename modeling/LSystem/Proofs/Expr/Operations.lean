import LSystem.Expr.Attribute
import LSystem.Proofs.Result

/-! # How operations on values fail

Most failures become an error of the expression. Two do not: that a caller's function gives up, and
that a key is missing which cannot be shown. No operation on values, no comparison and no method
fails in one of these ways, and a subscript only for a key (`subscript_eq_unshownKey_iff`). There is
one lemma for each operation, and none looks into another one. -/

namespace LSystem.Expr

/-- A failure that can be worded, so that it becomes an error of the expression. -/
@[simp]
abbrev Failure.Ordinary (f : Failure) : Prop := f ≠ .unshownKey ∧ ∀ raised, f ≠ .aborted raised

/-- Every failure can be worded. -/
abbrev Contained {α : Type} (x : Except Failure α) : Prop := FailsOnly Failure.Ordinary x

variable {α : Type}

/-! ## Arguments -/

@[simp] theorem Arguments.assign_contained (args : Arguments) (parameters : List String) :
    Contained (args.assign parameters) := by
  simp [assign]

@[simp] theorem Arguments.only_contained (args : Arguments) : Contained args.only := by
  unfold only
  split <;> simp

/-! ## Numbers -/

@[simp] theorem floatOfInt_contained (i : Int) : Contained (floatOfInt i) := by
  unfold floatOfInt
  split <;> simp

namespace Numeric

@[simp] theorem toFloat_contained (x : Numeric) : Contained x.toFloat := by
  cases x <;> simp [toFloat]

@[simp] theorem toComplex_contained (x : Numeric) : Contained x.toComplex := by
  cases x <;> simp [toComplex]

@[simp] theorem modulus_contained (re im : Float) : Contained (modulus re im) := by
  simp [modulus]

@[simp] theorem exceeds_contained (limit : Nat) (x : Numeric) : Contained (x.exceeds limit) := by
  cases x <;> simp [exceeds]

theorem combine_contained {ints : Int → Int → Except Failure Numeric}
    {floats : Float → Float → Except Failure Numeric}
    {complexes : Float × Float → Float × Float → Except Failure Numeric}
    (hi : ∀ a b, Contained (ints a b)) (hf : ∀ x y, Contained (floats x y))
    (hc : ∀ z w, Contained (complexes z w)) (x y : Numeric) :
    Contained (combine ints floats complexes x y) := by
  unfold combine
  split
  · exact hi _ _
  · simp [hf, hc]

theorem intDiv_contained (a b : Int) : Contained (intDiv a b) := by
  unfold intDiv
  split
  · simp
  · split <;> simp

/-- Whatever the power is, only its absence and its size are looked at. -/
theorem complexPower_contained (z w : Float × Float) : Contained (complexPower z w) := by
  obtain ⟨a, b⟩ := z
  obtain ⟨c, d⟩ := w
  unfold complexPower
  dsimp -zeta only
  extract_lets n p size length angle phase result
  clear_value result
  cases result <;> simp

theorem floatPower_contained (x y : Float) : Contained (floatPower x y) := by
  simp [floatPower, complexPower_contained]

theorem intPow_contained (a b : Int) : Contained (intPow a b) := by
  simp [intPow, floatPower_contained]

@[simp] theorem add_contained (x y : Numeric) : Contained (x.add y) :=
  combine_contained (by simp) (by simp) (by simp) x y

@[simp] theorem sub_contained (x y : Numeric) : Contained (x.sub y) :=
  combine_contained (by simp) (by simp) (by simp) x y

@[simp] theorem mul_contained (x y : Numeric) : Contained (x.mul y) :=
  combine_contained (by simp) (by simp) (by simp) x y

@[simp] theorem div_contained (x y : Numeric) : Contained (x.div y) := by
  refine combine_contained intDiv_contained (by simp) (fun z w => ?_) x y
  split <;> simp

@[simp] theorem floorDiv_contained (x y : Numeric) : Contained (x.floorDiv y) :=
  combine_contained (by simp) (by simp) (by simp) x y

@[simp] theorem mod_contained (x y : Numeric) : Contained (x.mod y) :=
  combine_contained (by simp) (by simp) (by simp) x y

@[simp] theorem pow_contained (x y : Numeric) : Contained (x.pow y) :=
  combine_contained intPow_contained floatPower_contained complexPower_contained x y

end Numeric

namespace Value

/-! ## Texts of values -/

mutual

theorem shown_contained (v : Value) : Contained v.shown := by
  cases v with
  | int i => simp [shown, shownInt]
  | list items => simp [shown, shownAll_contained items]
  | dict keys values => simp [shown, shownAll_contained values]
  | slice a b c => simp [shown, shown_contained a, shown_contained b, shown_contained c]
  | _ => simp [shown]

theorem shownAll_contained (vs : List Value) : Contained (shownAll vs) := by
  cases vs with
  | nil => simp [shownAll]
  | cons v vs => simp [shownAll, shown_contained v, shownAll_contained vs]

end

attribute [simp] shown_contained

@[simp] theorem display_contained (v : Value) : Contained v.display := by
  unfold display
  split <;> simp

/-! ## Operators -/

theorem numerically_contained {f : Numeric → Numeric → Except Failure Numeric}
    (hf : ∀ x y, Contained (f x y)) (a b : Value) : Contained (numerically f a b) := by
  unfold numerically
  split <;> simp [hf]

theorem add_contained (a b : Value) : Contained (add a b) := by
  unfold add
  extract_lets tooLong
  split
  · simp
  · split <;> simp [numerically_contained]

@[simp] theorem checkRepetition_contained (size : Nat) (times : Value) :
    Contained (checkRepetition size times) := by
  unfold checkRepetition
  split <;> simp

@[simp] theorem repeated_contained (n : Int) (items : List α) : Contained (repeated n items) := by
  simp [repeated]

@[simp] theorem repeatedValue_contained (v : Value) (n : Int) : Contained (repeatedValue v n) := by
  unfold repeatedValue
  split <;> simp

theorem mul_contained (a b : Value) : Contained (mul a b) := by
  unfold mul
  extract_lets product checked
  have hp (u : Unit) : Contained (product u) := by
    unfold product
    split <;> simp [numerically_contained]
  have hc (u : Unit) : Contained (checked u) := by
    unfold checked
    split <;> simp [hp]
  split <;> simp [hc]

@[simp] theorem exceeds_contained (limit : Nat) (v : Value) : Contained (exceeds limit v) := by
  unfold exceeds
  split <;> simp

@[simp] theorem refuseHigh_contained (symbol : String) (a b : Value) :
    Contained (refuseHigh symbol a b) := by
  simp [refuseHigh]

theorem pow_contained (a b : Value) : Contained (pow a b) := by
  simp [pow, numerically_contained]

theorem shift_contained (symbol : String) (f : Int → Nat → Int) (a b : Value) :
    Contained (shift symbol f a b) := by
  simp only [shift, failsOnly_bind, failsOnly_ite, exceeds_contained, refuseHigh_contained,
    implies_true, true_and]
  intros
  split <;> simp

theorem bitwise_contained (bools : Bool → Bool → Bool) (ints : Int → Int → Int) (a b : Value) :
    Contained (bitwise bools ints a b) := by
  unfold bitwise
  split
  · simp
  · split <;> simp

theorem bitOr_contained (a b : Value) : Contained (bitOr a b) := by
  unfold bitOr
  split <;> simp [bitwise_contained]

theorem binary_contained (op : BinaryOp) (a b : Value) : Contained (binary op a b) := by
  cases op with
  | add => exact add_contained a b
  | mul => exact mul_contained a b
  | matMul => simp [binary]
  | pow => exact pow_contained a b
  | shiftLeft | shiftRight => simp only [binary, shift_contained]
  | bitAnd | bitXor => exact bitwise_contained _ _ a b
  | bitOr => exact bitOr_contained a b
  | _ => exact numerically_contained (by simp) a b

theorem unary_contained (op : UnaryOp) (v : Value) : Contained (unary op v) := by
  cases op with
  | not => simp [unary]
  | _ =>
    simp only [unary]
    split <;> simp

/-! ## Comparison -/

mutual

theorem ordered_contained (op : CompareOp) (v w : Value) : Contained (ordered op v w) := by
  rw [ordered.eq_def]
  split
  · simp
  · simp
  · exact orderedAll_contained op _ _
  · split <;> simp

theorem orderedAll_contained (op : CompareOp) (vs ws : List Value) :
    Contained (orderedAll op vs ws) := by
  cases vs with
  | nil => cases ws <;> simp [orderedAll]
  | cons v vs =>
    cases ws with
    | nil => simp [orderedAll]
    | cons w ws => simp [orderedAll, orderedAll_contained op vs ws, ordered_contained op v w]

end

theorem isIn_contained (v container : Value) : Contained (isIn v container) := by
  unfold isIn
  split
  · simp
  · split <;> simp
  · split <;> simp
  · split <;> simp
  · simp

theorem compare_contained (op : CompareOp) (a b : Value) : Contained (compare op a b) := by
  unfold compare
  split <;> simp [ordered_contained, isIn_contained]

/-! ## Parts of values -/

@[simp] theorem bound_contained (v : Value) : Contained v.bound := by
  unfold bound
  split
  · simp
  · split <;> simp

@[simp] theorem sliced_contained (items : List α) (lower upper step : Value) :
    Contained (sliced items lower upper step) := by
  simp [sliced]

@[simp] theorem item_contained (items : List α) (i : Int) (fault : IndexFault) :
    Contained (item items i fault) := by
  unfold item
  split
  · simp
  · split
    · split <;> simp
    · simp

/-- A table lacks a key that has too many digits to be shown. -/
def Lacks (v key : Value) : Prop :=
  ∃ keys values failure, v = .dict keys values ∧ key.isKey ∧ key.shown = .error failure

/-- A subscript fails in an ordinary way, unless it is a key that a table lacks. -/
theorem subscript_fails (v key : Value) :
    FailsOnly (fun f => f.Ordinary ∨ f = .unshownKey ∧ Lacks v key) (v.subscript key) := by
  unfold subscript
  split
  · exact failsOnly_map.2 ((sliced_contained _ _ _ _).mono fun _ => .inl)
  · exact failsOnly_map.2 ((sliced_contained _ _ _ _).mono fun _ => .inl)
  · exact failsOnly_map.2 ((sliced_contained _ _ _ _).mono fun _ => .inl)
  · split <;> simp
  · next key keys values _ =>
    split
    · next hkey =>
      split
      · simp
      · next failure hshown =>
        exact failsOnly_error.2 (.inr ⟨rfl, keys, values, failure, rfl, hkey, hshown⟩)
    · simp
  · split
    · exact failsOnly_map.2 ((item_contained _ _ _).mono fun _ => .inl)
    · exact failsOnly_map.2 ((item_contained _ _ _).mono fun _ => .inl)
    · exact (item_contained _ _ _).mono fun _ => .inl
    · simp

theorem subscript_eq_unshownKey_iff {v key : Value} :
    v.subscript key = .error .unshownKey ↔ Lacks v key := by
  constructor
  · intro h
    obtain hf | ⟨-, hf⟩ := subscript_fails v key _ h
    · exact absurd rfl hf.1
    · exact hf
  · rintro ⟨keys, values, failure, rfl, hkey, hshown⟩
    cases key with
    | text k => simp [shown] at hshown
    | _ => simp [subscript, hkey, hshown]

@[simp] theorem window_contained (size : Nat) (start stop : Option Value) :
    Contained (window size start stop) := by
  simp [window]

theorem searching_contained {s : Text} {args : Arguments}
    {found : Text → Int → Int → Except Failure Value} (hf : ∀ w i j, Contained (found w i j)) :
    Contained (searching s args found) := by
  unfold searching
  split
  · split <;> simp [hf]
  · simp

theorem stripping_contained (s : Text) (args : Arguments) (strip : (Char → Bool) → Text → Text) :
    Contained (stripping s args strip) := by
  unfold stripping
  split <;> simp

@[simp] theorem plain_contained (args : Arguments) (v : Value) : Contained (plain args v) := by
  unfold plain
  split <;> simp

theorem callTextMethod_contained (s : Text) (name : String) (args : Arguments) :
    Contained (callTextMethod s name args) := by
  unfold callTextMethod
  split
  · simp
  · simp
  · exact stripping_contained _ _ _
  · exact stripping_contained _ _ _
  · exact stripping_contained _ _ _
  · exact searching_contained (by simp)
  · exact searching_contained (by simp)
  · exact searching_contained (by simp)
  · exact searching_contained (by simp)
  · refine searching_contained fun w i j => ?_
    split <;> simp
  · split <;> simp
  · simp

theorem callListMethod_contained (items : List Value) (name : String) (args : Arguments) :
    Contained (callListMethod items name args) := by
  unfold callListMethod
  split
  · simp
  · split
    · split <;> simp
    · simp
  · simp
  · simp

@[simp] theorem entryOr_contained (keys : List Text) (values : List Value) (key other : Value) :
    Contained (entryOr keys values key other) := by
  unfold entryOr
  split
  · simp
  · split <;> simp

theorem callTableMethod_contained (keys : List Text) (values : List Value) (name : String)
    (args : Arguments) : Contained (callTableMethod keys values name args) := by
  unfold callTableMethod
  split
  · split <;> simp
  · simp
  · simp

theorem callMethod_contained (v : Value) (name : String) (args : Arguments) :
    Contained (v.callMethod name args) := by
  unfold callMethod
  split
  · exact callTextMethod_contained _ _ _
  · exact callListMethod_contained _ _ _
  · exact callTableMethod_contained _ _ _ _
  · split <;> simp

end Value

end LSystem.Expr
