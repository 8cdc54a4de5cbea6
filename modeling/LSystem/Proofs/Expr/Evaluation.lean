import LSystem.Evaluator
import LSystem.Proofs.Expr.Operations

/-! # How evaluation fails

An expression fails as its operations do, or as a caller's function does that it calls. So failures
that bound those of the operations and of the functions, `Scope.Bounds`, bound those of every
expression (`Scope.run_fails`). The standard functions keep every bound, since they give up only
where the function gives up that says what to compare by. -/

namespace LSystem.Expr

variable {P : Failure → Prop}

/-! ## Functions -/

namespace Function

/-- A function fails only in ways that satisfy `P`, if the functions that it applies do. -/
def Keeps (P : Failure → Prop) (f : Function) : Prop :=
  ∀ apply args, (∀ g v, FailsOnly P (apply g v)) → FailsOnly P (f apply args)

@[simp] theorem integerOf_contained (toInt : Number.Binary → Int) (x : Float) :
    Contained (integerOf toInt x) := by
  simp [integerOf]

@[simp] theorem realOf_contained (v : Value) : Contained (realOf v) := by
  unfold realOf
  split <;> simp

@[simp] theorem readInt_contained (base : Nat) (s : Text) : Contained (readInt base s) := by
  unfold readInt
  split <;> simp

section
variable (apply : Value → Value → Except Failure Value) (args : Arguments)

theorem abs_contained : Contained (abs apply args) := by
  simp only [abs, failsOnly_bind, Arguments.only_contained, true_and]
  intro v _
  split <;> simp

theorem round_contained : Contained (round apply args) := by
  unfold round
  rw [Contained, failsOnly_bind]
  refine ⟨Arguments.assign_contained args _, fun vs _ => ?_⟩
  split
  · extract_lets rounded
    have hr (places : Option Int) : Contained (rounded places) := by
      unfold rounded
      split
      · simp
      · simp
      · exact integerOf_contained _ _
      · split
        · simp
        · split <;> simp
      · simp
    split
    · simpa using hr none
    · simpa using hr none
    · split <;> simp [hr]
  · simp

theorem toward_contained (toInt : Number.Binary → Int) : Contained (toward toInt apply args) := by
  simp only [toward, failsOnly_bind, Arguments.only_contained, true_and]
  intro v _
  split <;> simp

theorem sqrt_contained : Contained (sqrt apply args) := by
  simp [sqrt]

theorem ofAngle_contained (f : Float → Float) : Contained (ofAngle f apply args) := by
  simp [ofAngle]

theorem int_contained : Contained (int apply args) := by
  unfold int
  extract_lets convert checked
  have hc (given : Value × Option Value) : Contained (convert given) := by
    obtain ⟨v, base⟩ := given
    cases base with
    | none =>
      simp only [convert]
      split
      · simp
      · split <;> simp
    | some base =>
      simp only [convert]
      split
      · simp
      · split
        · split <;> simp
        · simp
  have hd (u : Unit) : Contained (checked u) := by
    unfold checked
    split <;> simp [hc]
  split <;> simp [hd]

theorem float_contained : Contained (float apply args) := by
  unfold float
  split
  · simp
  · split <;> simp
  · simp
  · simp

theorem str_contained : Contained (str apply args) := by
  simp only [str, failsOnly_bind, Arguments.assign_contained, true_and]
  intro vs _
  split <;> simp

theorem rand_contained (sample : Sample) : Contained (rand sample apply args) := by
  unfold rand
  split <;> simp

theorem randint_contained (sample : Sample) : Contained (randint sample apply args) := by
  simp only [randint, failsOnly_bind, Arguments.assign_contained, true_and]
  intro vs _
  split <;> simp

end

/-- Of the standard functions, only `min` and `max` apply a function. -/
theorem contained_or_extreme (sample : Sample) : ∀ f ∈ standard sample,
    (∀ apply args, Contained (f.2 apply args)) ∨ ∃ name op, f.2 = extreme name op := by
  simp only [standard, List.forall_mem_cons]
  exact ⟨.inl abs_contained, .inr ⟨_, _, rfl⟩, .inr ⟨_, _, rfl⟩, .inl round_contained,
    .inl fun _ _ => toward_contained _ _ _, .inl fun _ _ => toward_contained _ _ _,
    .inl sqrt_contained, .inl fun _ _ => ofAngle_contained _ _ _,
    .inl fun _ _ => ofAngle_contained _ _ _, .inl int_contained, .inl float_contained,
    .inl str_contained, .inl fun _ _ => rand_contained _ _ sample,
    .inl fun _ _ => randint_contained _ _ sample, nofun⟩

section
variable (hP : ∀ f, Failure.Ordinary f → P f)
include hP

theorem choose_fails {op : CompareOp} {key : Value → Except Failure Value}
    (hk : ∀ v, FailsOnly P (key v)) (best bestKey : Value) (vs : List Value) :
    FailsOnly P (choose op key best bestKey vs) := by
  induction vs generalizing best bestKey with
  | nil => simp [choose]
  | cons v vs ih => simp [choose, hk, ih, (Value.ordered_contained op _ _).mono hP]

/-- The function that says what to compare by is the only one that `min` and `max` apply. -/
theorem extreme_keeps (name : String) (op : CompareOp) : Keeps P (extreme name op) := by
  intro apply args ha
  unfold extreme
  extract_lets default key chosen checked
  have hk (v : Value) : FailsOnly P (key v) := by
    simp only [key]
    cases args.named? "key" with
    | none => simp
    | some f => cases f <;> first | exact failsOnly_ok v | exact ha _ v
  have hc (items : List Value) : FailsOnly P (chosen items) := by
    cases items with
    | nil =>
      simp only [chosen]
      cases default <;> simp [hP]
    | cons v vs => simp [chosen, hk, choose_fails hP hk]
  have hd (u : Unit) : FailsOnly P (checked u) := by
    unfold checked
    split
    · simp [hP]
    · split <;> simp [hc, hP]
    · split <;> simp [hc, hP]
  split <;> simp [hd, hP]

theorem standard_keeps (sample : Sample) : ∀ f ∈ standard sample, Keeps P f.2 := by
  intro f hf
  obtain h | ⟨name, op, h⟩ := contained_or_extreme sample f hf
  · exact fun apply args _ => (h apply args).mono hP
  · exact h ▸ extreme_keeps hP name op

end

end Function

/-! ## Expressions -/

theorem Literal.value_contained (l : Literal) : Contained l.value := by
  cases l <;> simp [value]

@[simp] theorem namedArguments_contained (names : List (Option String)) (values : List Value) :
    Contained (namedArguments names values) := by
  have go (pairs : List (Option String × Value)) (done : List (String × Value)) :
      Contained (namedArguments.go pairs done) := by
    induction pairs generalizing done with
    | nil => simp [namedArguments.go]
    | cons p pairs ih =>
      obtain ⟨_ | n, v⟩ := p
      · simp [namedArguments.go]
      · simpa [namedArguments.go] using ih _
  exact go _ []

@[simp] theorem checkAttribute_contained (name : String) : Contained (checkAttribute name) := by
  simp [checkAttribute]

variable {sc : Scope}

@[simp] theorem reach_contained (v : Value) (name : String) : Contained (reach sc v name) := by
  unfold reach
  split
  · simp
  · split
    · split <;> simp
    · simp

@[simp] theorem Scope.lookup_contained (sc : Scope) (name : String) :
    Contained (sc.lookup name) := by
  unfold Scope.lookup
  split
  · simp
  · split <;> simp

/-- The functions of a scope fail only in ways that satisfy `P`, as all operations do. -/
structure Scope.Bounds (P : Failure → Prop) (sc : Scope) : Prop where
  ordinary : ∀ f, Failure.Ordinary f → P f
  unshownKey : P .unshownKey
  functions : ∀ f ∈ sc.functions, f.2.Keeps P

namespace Scope.Bounds

theorem function_keeps (h : sc.Bounds P) {name : String} {f : Function}
    (hf : sc.function? name = some f) : f.Keeps P := by
  obtain ⟨p, hp, rfl⟩ := Option.map_eq_some_iff.1 hf
  exact h.functions p (List.mem_of_find?_eq_some hp)

theorem apply_fails (h : sc.Bounds P) (f v : Value) : FailsOnly P (sc.apply f v) := by
  unfold Scope.apply
  split
  · split
    · next hf => exact h.function_keeps hf _ _ fun _ _ => by simp [h.ordinary]
    · simp [h.ordinary]
  · exact (Value.callMethod_contained _ _ _).mono h.ordinary
  · simp [h.ordinary]

theorem call_fails (h : sc.Bounds P) (f : Value) (args : Arguments) :
    FailsOnly P (sc.call f args) := by
  unfold Scope.call
  split
  · split
    · next hf => exact h.function_keeps hf _ _ h.apply_fails
    · simp [h.ordinary]
  · exact (Value.callMethod_contained _ _ _).mono h.ordinary
  · simp [h.ordinary]

theorem subscript_fails (h : sc.Bounds P) (v key : Value) : FailsOnly P (v.subscript key) := by
  refine (Value.subscript_fails v key).mono fun f hf => ?_
  obtain hf | ⟨rfl, -⟩ := hf
  · exact h.ordinary f hf
  · exact h.unshownKey

mutual

theorem eval_fails (h : sc.Bounds P) (e : Term) : FailsOnly P (eval sc e) := by
  match e with
  | .literal l =>
    rw [eval]
    exact l.value_contained.mono h.ordinary
  | .name id =>
    rw [eval]
    exact (sc.lookup_contained id).mono h.ordinary
  | .unary op e => simp [eval, h.eval_fails e, (Value.unary_contained op _).mono h.ordinary]
  | .binary op l r =>
    have hb (a b : Value) : FailsOnly P (Value.binary op a b) :=
      (Value.binary_contained op a b).mono h.ordinary
    cases op <;> simp [eval, h.eval_fails l, h.eval_fails r, hb, h.ordinary]
  | .logical op es => simp [eval, h.evalLogical_fails op es]
  | .compare first ops rest =>
    simp [eval, h.eval_fails first, fun a => h.evalChain_fails true a ops rest]
  | .conditional test yes no => simp [eval, h.eval_fails test, h.eval_fails yes, h.eval_fails no]
  | .call callee positional names named =>
    have hn (values : List Value) : FailsOnly P (namedArguments names values) :=
      (namedArguments_contained names values).mono h.ordinary
    match callee with
    | .attribute object name =>
      rw [eval, failsOnly_bind]
      refine ⟨h.eval_fails (.attribute object name), fun f _ => ?_⟩
      simp [h.evalAll_fails positional, h.evalAll_fails named, hn, h.call_fails]
    | .name id =>
      rw [eval]
      split
      · simp [h.ordinary]
      · next f hf =>
        have hc (args : Arguments) : FailsOnly P (f sc.apply args) :=
          h.function_keeps hf _ _ h.apply_fails
        simp [h.evalAll_fails positional, h.evalAll_fails named, hn, hc]
    | .literal _ | .unary .. | .binary .. | .logical .. | .compare .. | .conditional .. | .call ..
    | .subscript .. | .slice .. | .interpolation _ | .interpolated .. | .display .. | .starred _
    | .other _ => simp [eval, h.ordinary]
  | .attribute object name =>
    simp [eval, (checkAttribute_contained name).mono h.ordinary, h.eval_fails object,
      (reach_contained _ name).mono h.ordinary]
  | .subscript container index =>
    simp [eval, h.eval_fails container, h.eval_fails index, h.subscript_fails]
  | .slice lower upper step =>
    simp [eval, h.eval_fails lower, h.eval_fails upper, h.eval_fails step]
  | .interpolation parts => simp [eval, h.evalParts_fails 0 [] parts]
  | .interpolated value none =>
    rw [eval]
    exact h.eval_fails value
  | .interpolated value (some layout) =>
    simp only [eval, failsOnly_bind]
    refine ⟨h.eval_fails layout, fun l _ => ⟨h.eval_fails value, fun v _ => ?_⟩⟩
    split
    · simp [(Value.display_contained v).mono h.ordinary]
    · simp [h.ordinary]
  | .display .. | .starred _ | .other _ => simp [eval, h.ordinary]

theorem evalAll_fails (h : sc.Bounds P) (es : List Term) : FailsOnly P (evalAll sc es) := by
  cases es with
  | nil => simp [evalAll]
  | cons e es => simp [evalAll, h.eval_fails e, h.evalAll_fails es]

theorem evalLogical_fails (h : sc.Bounds P) (op : LogicalOp) (es : List Term) :
    FailsOnly P (evalLogical sc op es) := by
  cases es with
  | nil => simp [evalLogical]
  | cons e es =>
    cases es with
    | nil => simp [evalLogical, h.eval_fails e]
    | cons e' es => simp [evalLogical, h.eval_fails e, h.evalLogical_fails op (e' :: es)]

theorem evalChain_fails (h : sc.Bounds P) (result : Bool) (left : Value) (ops : List CompareOp)
    (es : List Term) : FailsOnly P (evalChain sc result left ops es) := by
  cases ops with
  | nil => simp [evalChain]
  | cons op ops =>
    cases es with
    | nil => simp [evalChain]
    | cons e es =>
      have hc (v : Value) : FailsOnly P (Value.compare op left v) :=
        (Value.compare_contained op left v).mono h.ordinary
      simp [evalChain, h.eval_fails e, hc, fun r v => h.evalChain_fails r v ops es]

theorem evalParts_fails (h : sc.Bounds P) (length : Nat) (done : Text) (es : List Term) :
    FailsOnly P (evalParts sc length done es) := by
  cases es with
  | nil => simp [evalParts]
  | cons e es =>
    simp [evalParts, h.eval_fails e, (Value.display_contained _).mono h.ordinary, h.ordinary,
      fun n s => h.evalParts_fails n s es]

end

theorem statement_fails (h : sc.Bounds P) (statement : Statement) :
    FailsOnly P (statement.eval sc) := by
  cases statement with
  | expression e => exact h.eval_fails e
  | assign e => exact h.eval_fails e
  | importing => simp [Statement.eval, h.ordinary]
  | other node => simp [Statement.eval, h.ordinary]

/-- A program fails as the operations do, or as a function of its scope does. -/
theorem run_fails (h : sc.Bounds P) : FailsOnly P sc.run := by
  unfold Scope.run
  extract_lets program
  split
  · simp [h.ordinary]
  · split
    · simp [h.ordinary]
    · split
      · simp [h.ordinary]
      · simp [h.ordinary]
      · exact h.statement_fails _

end Scope.Bounds

end LSystem.Expr

namespace LSystem.Evaluator

open LSystem.Expr (Failure Function Scope Uncaught)

/-- No function of the caller gives up, unless a function does that it applies. -/
def Quiet (ev : Evaluator) : Prop :=
  ∀ f ∈ ev.functions, f.2.Keeps fun failure => ∀ raised, failure ≠ .aborted raised

/-- Without functions that give up, an evaluation does not. -/
theorem Quiet.evaluate_ne_aborted {ev : Evaluator} (h : ev.Quiet) (source : Text)
    (raised : Uncaught) : ev.evaluate source ≠ .error (.aborted raised) := by
  have hb : (ev.scope source).Bounds fun failure => ∀ raised, failure ≠ .aborted raised :=
    { ordinary := fun f hf => hf.2
      unshownKey := nofun
      functions := List.forall_mem_append.2 ⟨h, Function.standard_keeps (fun _ hf => hf.2) _⟩ }
  intro he
  unfold evaluate at he
  split at he
  · cases he
  · split at he
    · cases he
    · next m hr => exact hb.run_fails _ hr m rfl
    · cases he
    · cases he

end LSystem.Evaluator
