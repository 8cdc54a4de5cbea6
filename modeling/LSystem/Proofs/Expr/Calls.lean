import LSystem.Proofs.Expr.Evaluation

/-! # Calls that evaluation comes to

Evaluation goes from an expression to its operands one after the other, as long as those before have
values and none of them decides (`Operand`). So it comes to the calls of functions in the expression
(`Calls`), and `min` and `max` come to calls of the function that says what to compare by
(`Performs`). If such a call fails, then evaluation fails in the same way (`Performs.error`). A
failure that is not ordinary is always that of a call of a caller's function that was performed, or
that of a subscript whose table lacks the key (`Misses`); so these are what lets through anything
else than an error of evaluation (`Evaluator.evaluate_wraps`). -/

namespace LSystem.Expr

variable {sc : Scope} {e e' : Term} {es before after : List Term} {failure : Failure}
  {vs : List Value} {v left : Value}

/-! ## Operands -/

/-- What the callee of a call stands for. -/
inductive Callee (sc : Scope) : Term → Value → Prop where
  | name {id : String} {f : Function} : sc.function? id = some f →
    Callee sc (.name id) (.function id)
  | reached {object : Term} {name : String} {f : Value} :
    eval sc (.attribute object name) = .ok f → Callee sc (.attribute object name) f

/-- Evaluating an expression comes to its operand: what is evaluated before it has values. -/
inductive Operand (sc : Scope) : Term → Term → Prop where
  | unary {op : UnaryOp} {e : Term} : Operand sc (.unary op e) e
  | left {op : BinaryOp} {l r : Term} : op ≠ .matMul → Operand sc (.binary op l r) l
  | right {op : BinaryOp} {l r : Term} {a : Value} : op ≠ .matMul → eval sc l = .ok a →
    Operand sc (.binary op l r) r
  /-- No operand before decides. -/
  | logical {op : LogicalOp} {before after : List Term} {e : Term} :
    (∀ b ∈ before, ∃ v, eval sc b = .ok v ∧ ¬ (v.truth = (op = .or))) →
    Operand sc (.logical op (before ++ e :: after)) e
  | first {first : Term} {ops : List CompareOp} {rest : List Term} :
    Operand sc (.compare first ops rest) first
  /-- All comparisons before hold. -/
  | compared {first e : Term} {op : CompareOp} {ops ops' : List CompareOp}
    {before after : List Term} {a : Value} : eval sc first = .ok a →
    ops.length = before.length → evalChain sc true a ops before = .ok (.bool true) →
    Operand sc (.compare first (ops ++ op :: ops') (before ++ e :: after)) e
  | test {test yes no : Term} : Operand sc (.conditional test yes no) test
  | yes {test yes no : Term} {v : Value} : eval sc test = .ok v → v.truth →
    Operand sc (.conditional test yes no) yes
  | no {test yes no : Term} {v : Value} : eval sc test = .ok v → v.truth = false →
    Operand sc (.conditional test yes no) no
  | callee {object : Term} {name : String} {positional named : List Term}
    {names : List (Option String)} :
    Operand sc (.call (.attribute object name) positional names named) (.attribute object name)
  | positional {callee e : Term} {f : Value} {before after named : List Term}
    {names : List (Option String)} {vs : List Value} : Callee sc callee f →
    evalAll sc before = .ok vs → Operand sc (.call callee (before ++ e :: after) names named) e
  | named {callee e : Term} {f : Value} {positional before after : List Term}
    {names : List (Option String)} {vs ws : List Value} : Callee sc callee f →
    evalAll sc positional = .ok vs → evalAll sc before = .ok ws →
    Operand sc (.call callee positional names (before ++ e :: after)) e
  | object {object : Term} {name : String} : checkAttribute name = .ok () →
    Operand sc (.attribute object name) object
  | container {container index : Term} : Operand sc (.subscript container index) container
  | index {container index : Term} {v : Value} : eval sc container = .ok v →
    Operand sc (.subscript container index) index
  | lower {lower upper step : Term} : Operand sc (.slice lower upper step) lower
  | upper {lower upper step : Term} {a : Value} : eval sc lower = .ok a →
    Operand sc (.slice lower upper step) upper
  | step {lower upper step : Term} {a b : Value} : eval sc lower = .ok a → eval sc upper = .ok b →
    Operand sc (.slice lower upper step) step
  | part {before after : List Term} {e : Term} {s : Text} : evalParts sc 0 [] before = .ok s →
    Operand sc (.interpolation (before ++ e :: after)) e
  | interpolated {value : Term} : Operand sc (.interpolated value none) value
  | layout {value layout : Term} : Operand sc (.interpolated value (some layout)) layout
  | value {value layout : Term} {l : Value} : eval sc layout = .ok l →
    Operand sc (.interpolated value (some layout)) value

theorem evalAll_append (h : evalAll sc before = .ok vs) (he : eval sc e = .error failure) :
    evalAll sc (before ++ e :: after) = .error failure := by
  induction before generalizing vs with
  | nil => rw [List.nil_append, evalAll, bind_of_error he]
  | cons b before ih =>
    rw [evalAll] at h
    obtain ⟨v, hv, h⟩ := bind_eq_ok_iff.1 h
    obtain ⟨ws, hws, -⟩ := bind_eq_ok_iff.1 h
    rw [List.cons_append, evalAll, bind_of_ok hv, bind_of_error (ih hws)]

theorem evalLogical_append {op : LogicalOp}
    (h : ∀ b ∈ before, ∃ v, eval sc b = .ok v ∧ ¬ (v.truth = (op = .or)))
    (he : eval sc e = .error failure) :
    evalLogical sc op (before ++ e :: after) = .error failure := by
  induction before with
  | nil =>
    cases after with
    | nil => exact he
    | cons =>
      rw [List.nil_append, evalLogical, bind_of_error he]
      nofun
  | cons b before ih =>
    obtain ⟨⟨v, hv, ht⟩, h⟩ := List.forall_mem_cons.1 h
    rw [List.cons_append, evalLogical, bind_of_ok hv, if_neg ht, ih h]
    exact fun hn => List.append_ne_nil_of_right_ne_nil _ (List.cons_ne_nil _ _) hn

@[simp] theorem evalChain_false (ops : List CompareOp) (es : List Term) :
    evalChain sc false left ops es = .ok (.bool false) := by
  cases ops <;> cases es <;> simp [evalChain]

theorem evalChain_append {op : CompareOp} {ops ops' : List CompareOp}
    (hl : ops.length = before.length) (h : evalChain sc true left ops before = .ok (.bool true))
    (he : eval sc e = .error failure) :
    evalChain sc true left (ops ++ op :: ops') (before ++ e :: after) = .error failure := by
  induction before generalizing left ops with
  | nil =>
    cases List.eq_nil_of_length_eq_zero hl
    rw [List.nil_append, List.nil_append, evalChain, if_pos rfl, bind_of_error he]
  | cons b before ih =>
    obtain _ | ⟨o, ops⟩ := ops
    · cases hl
    · rw [evalChain, if_pos rfl] at h
      obtain ⟨v, hv, h⟩ := bind_eq_ok_iff.1 h
      obtain ⟨r, hr, h⟩ := bind_eq_ok_iff.1 h
      obtain rfl : r = true := by
        cases r with
        | false => simp at h
        | true => rfl
      rw [List.cons_append, List.cons_append, evalChain, if_pos rfl, bind_of_ok hv, bind_of_ok hr,
        ih (Nat.succ.inj hl) h]

theorem evalParts_append {length : Nat} {done s : Text}
    (h : evalParts sc length done before = .ok s) (he : eval sc e = .error failure) :
    evalParts sc length done (before ++ e :: after) = .error failure := by
  induction before generalizing length done with
  | nil => rw [List.nil_append, evalParts, bind_of_error he]
  | cons b before ih =>
    rw [evalParts] at h
    obtain ⟨v, hv, h⟩ := bind_eq_ok_iff.1 h
    obtain ⟨t, ht, h⟩ := bind_eq_ok_iff.1 h
    rw [List.cons_append, evalParts, bind_of_ok hv, bind_of_ok ht]
    extract_lets at h ⊢
    split at h
    · cases h
    · next hn => rw [if_neg hn, ih h]

/-! ## Calls -/

theorem eval_call {callee : Term} {f : Value} {positional named : List Term}
    {names : List (Option String)} (h : Callee sc callee f) :
    eval sc (.call callee positional names named) = (do
      let positional ← evalAll sc positional
      let named ← evalAll sc named
      let named ← namedArguments names named
      sc.call f ⟨positional, named⟩) := by
  cases h with
  | name h => simp [eval, Scope.call, h]
  | reached h => rw [eval, bind_of_ok h]

/-- Evaluating the expression comes to a call of the function, with arguments that have values. -/
inductive Calls (sc : Scope) : Term → String → Arguments → Prop where
  | here {callee : Term} {name : String} {positional named : List Term}
    {names : List (Option String)} {vs ws : List Value} {given : List (String × Value)} :
    Callee sc callee (.function name) → evalAll sc positional = .ok vs →
    evalAll sc named = .ok ws → namedArguments names ws = .ok given →
    Calls sc (.call callee positional names named) name ⟨vs, given⟩
  | operand {e e' : Term} {name : String} {args : Arguments} : Operand sc e e' →
    Calls sc e' name args → Calls sc e name args

/-- If an operand fails, so does the expression. -/
theorem Operand.error (h : Operand sc e e') (he : eval sc e' = .error failure) :
    eval sc e = .error failure := by
  cases h with
  | unary | first | test | container | lower | callee | layout => rw [eval, bind_of_error he]
  | left hop => rw [eval, bind_of_error he]; exact hop
  | right hop hl => rw [eval, bind_of_ok hl, bind_of_error he]; exact hop
  | logical hb => rw [eval, evalLogical_append hb he]
  | compared hf hl hb => rw [eval, bind_of_ok hf, evalChain_append hl hb he]
  | yes ht hv => rw [eval, bind_of_ok ht, if_pos hv, he]
  | no ht hv => rw [eval, bind_of_ok ht, hv, if_neg Bool.false_ne_true, he]
  | positional hc hb => rw [eval_call hc, bind_of_error (evalAll_append hb he)]
  | named hc hp hb => rw [eval_call hc, bind_of_ok hp, bind_of_error (evalAll_append hb he)]
  | object hn => rw [eval, bind_of_ok hn, bind_of_error he]
  | index hc | upper hc | value hc => rw [eval, bind_of_ok hc, bind_of_error he]
  | step hl hu => rw [eval, bind_of_ok hl, bind_of_ok hu, bind_of_error he]
  | part hb => rw [eval, bind_of_error (evalParts_append hb he)]
  | interpolated => rw [eval, he]

section
variable {name : String} {args : Arguments} {f : Function}

/-- How the call of a function fails, the expression does. -/
theorem Calls.error (h : Calls sc e name args) (hf : sc.function? name = some f)
    (he : f sc.apply args = .error failure) : eval sc e = .error failure := by
  induction h with
  | here hc hp hn hg =>
    rw [eval_call hc, bind_of_ok hp, bind_of_ok hn, bind_of_ok hg, Scope.call, hf]
    exact he
  | operand ho _ ih => exact ho.error (ih hf he)

end

/-- Evaluating the expression comes to a subscript with a key that a table lacks. -/
inductive Misses (sc : Scope) : Term → Prop where
  | here {container index : Term} {v key : Value} : eval sc container = .ok v →
    eval sc index = .ok key → v.Lacks key → Misses sc (.subscript container index)
  | operand {e e' : Term} : Operand sc e e' → Misses sc e' → Misses sc e

theorem Misses.error (h : Misses sc e) : eval sc e = .error .unshownKey := by
  induction h with
  | here hc hi hl =>
    rw [eval, bind_of_ok hc, bind_of_ok hi]
    exact Value.subscript_eq_unshownKey_iff.2 hl
  | operand ho _ ih => exact ho.error ih

/-! ## Where evaluation breaks off

Most operations on values fail in ordinary ways only, so an expression that fails in another way has
an operand that does, unless it is a call or a subscript. -/

section
variable {ops : List CompareOp} {length : Nat} {done : Text} {f : Value} {args : Arguments}

end

section
variable {callee : Term} {positional named : List Term} {names : List (Option String)}

end

namespace Arguments

/-- What `min` and `max` compare: several arguments, or the items of one. -/
def compared? (args : Arguments) : Option (List Value) :=
  if !args.onlyNamed ["key", "default"] then none
  else
    match args.positional with
    | [] => none
    | [v] => v.items?
    | vs => if (args.named? "default").isSome then none else some vs

/-- What items are compared by. -/
def key (args : Arguments) (apply : Value → Value → Except Failure Value) :
    Value → Except Failure Value :=
  match args.named? "key" with
  | none => .ok
  | some .none => .ok
  | some f => apply f

end Arguments

namespace Function

variable {op : CompareOp} {label : String} {apply : Value → Value → Except Failure Value}
  {args : Arguments} {key : Value → Except Failure Value} {best bestKey : Value}

/-- The items can be compared: one of them is chosen. -/
def Comparable (op : CompareOp) (key : Value → Except Failure Value) : List Value → Prop
  | [] => True
  | v :: vs => ∃ k best, key v = .ok k ∧ choose op key v k vs = .ok best

theorem extreme_eq : extreme label op apply args =
    (match args.compared? with
    | none => .error .typeMismatch
    | some [] =>
      match args.named? "default" with
      | some v => .ok v
      | none => .error (.value (.noItems label))
    | some (v :: vs) => do
      let k ← args.key apply v
      choose op (args.key apply) v k vs) := by
  unfold extreme Arguments.compared?
  extract_lets default key chosen checked
  have hchosen (items : List Value) : chosen items = (match items with
      | [] =>
        match default with
        | some v => .ok v
        | none => .error (.value (.noItems label))
      | v :: vs => do
        let k ← args.key apply v
        choose op (args.key apply) v k vs) := rfl
  clear_value chosen
  split
  · rfl
  · unfold checked
    generalize args.positional = positional
    match positional with
    | [] => rfl
    | [v] =>
      simp only
      cases v.items? with
      | none => rfl
      | some items => cases items <;> exact hchosen _
    | v :: w :: vs =>
      simp only
      cases default.isSome with
      | true => rfl
      | false => exact hchosen (v :: w :: vs)

theorem choose_cons (v : Value) (vs : List Value) :
    choose op key best bestKey (v :: vs) = (do
      let k ← key v
      let beats ← Value.ordered op k bestKey
      choose op key (if beats then v else best) (if beats then k else bestKey) vs) := by
  rw [choose]
  refine congrArg (key v >>= ·) (funext fun k => congrArg (_ >>= ·) (funext fun beats => ?_))
  cases beats <;> rfl

theorem choose_append {vs : List Value} {v b : Value} {after : List Value} {failure : Failure}
    (h : choose op key best bestKey vs = .ok b) (hv : key v = .error failure) :
    choose op key best bestKey (vs ++ v :: after) = .error failure := by
  induction vs generalizing best bestKey with
  | nil => rw [List.nil_append, choose, bind_of_error hv]
  | cons w vs ih =>
    rw [choose_cons] at h
    obtain ⟨k, hk, h⟩ := bind_eq_ok_iff.1 h
    obtain ⟨beats, hr, h⟩ := bind_eq_ok_iff.1 h
    rw [List.cons_append, choose_cons, bind_of_ok hk, bind_of_ok hr, ih h]

theorem extreme_error {before after : List Value} {v : Value} {failure : Failure}
    (hi : args.compared? = some (before ++ v :: after))
    (hb : Comparable op (args.key apply) before) (hv : args.key apply v = .error failure) :
    extreme label op apply args = .error failure := by
  rw [extreme_eq, hi]
  cases before with
  | nil => exact bind_of_error hv _
  | cons w before =>
    obtain ⟨k, best, hk, hbest⟩ := hb
    exact (bind_of_ok hk _).trans (choose_append hbest hv)

end Function

/-! ## Calls that are performed -/

namespace Arguments

variable {args : Arguments} {name : String}

theorem key_eq {apply : Value → Value → Except Failure Value}
    (h : args.named? "key" = some (.function name)) : args.key apply = apply (.function name) := by
  simp [key, h]

end Arguments

/-- Evaluating the expression calls a function, with arguments that have values, and the call gives
`result`. -/
inductive Performs (sc : Scope) (e : Term) : String → Arguments → Except Failure Value → Prop where
  | call {name : String} {args : Arguments} {f : Function} : Calls sc e name args →
    sc.function? name = some f → Performs sc e name args (f sc.apply args)
  /-- A function says what to compare by, and those before `v` can be compared. -/
  | key {compares name label : String} {args : Arguments} {op : CompareOp}
    {before after : List Value} {v : Value} : Calls sc e compares args →
    sc.function? compares = some (Function.extreme label op) →
    args.named? "key" = some (.function name) → args.compared? = some (before ++ v :: after) →
    Function.Comparable op (sc.apply (.function name)) before →
    Performs sc e name ⟨[v], []⟩ (sc.apply (.function name) v)

/-- If a call fails that is performed, so does the expression. -/
theorem Performs.error {name : String} {args : Arguments} {result : Except Failure Value}
    (h : Performs sc e name args result) (hr : result = .error failure) :
    eval sc e = .error failure := by
  cases h with
  | call hc hf => exact hc.error hf hr
  | key hc hf hk hi hb =>
    refine hc.error hf (Function.extreme_error hi ?_ ?_)
    · rwa [Arguments.key_eq hk]
    · rwa [Arguments.key_eq hk]

/-- The first statement of a program has the value of the expression. -/
def Program.Opens (source : Text) (e : Term) : Prop :=
  Encoding.utf8.fault? (Text.trim source) = none ∧ Char.ofNat 0 ∉ Text.trim source ∧
    ∃ more, parse (Text.trim source) = some (.expression e :: more) ∨
      parse (Text.trim source) = some (.assign e :: more)

end LSystem.Expr

namespace LSystem.Evaluator

open LSystem.Expr

variable {ev : Evaluator} {source : Text} {failure : Failure}

end LSystem.Evaluator
