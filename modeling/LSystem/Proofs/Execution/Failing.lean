import LSystem.Proofs.Execution.Events
import LSystem.Proofs.Expansion.Pieces
import LSystem.Proofs.Expr.Evaluation

/-! # How expansion and execution fail

Commands fail in few ways: by their atoms, the numbers of their arguments, their expressions, and
what is too great to be written or counted. `Evaluator.Raises` collects these errors; there is a
lemma for each pass over a command, up to `expand_raises` and `streamWithin_raises`. Configurations
have errors of their own, and none of these comes up here. Nesting without end is an error of
streams only, which is why the passes over templates are bounded by `Evaluator.Throws`. -/

namespace LSystem

/-- The errors of expanding and executing commands, but for a caller's function that gives up. -/
@[simp]
def Error.OfCommand : Error → Prop
  | .unknownAtom _ | .arity .. | .emptyExpression | .evaluation .. | .notBoolean .. | .notNumber ..
  | .notFinite .. | .writtenDigits | .repetitions | .repeatedLength | .endlessNesting => True
  | .config _ | .malformedDeclaration _ | .duplicateAtom _ | .negativeRounds | .readDigits _
  | .aborted _ | .nullPath | .unencodable _ | .undecodable _ => False

namespace Evaluator

/-- The errors in which commands can end. A caller's function gives up in an evaluation only. -/
@[simp]
def Raises (ev : Evaluator) (e : Error) : Prop :=
  e.OfCommand ∨ ∃ source raised, e = .aborted raised ∧ ev.evaluate source = .error e

/-- The errors in which expansions can end: those of commands without the one of endless nesting. -/
@[simp]
def Throws (ev : Evaluator) (e : Error) : Prop := ev.Raises e ∧ e ≠ .endlessNesting

theorem Quiet.ofCommand {ev : Evaluator} (h : ev.Quiet) {e : Error} (he : ev.Raises e) :
    e.OfCommand := by
  rcases he with he | ⟨source, raised, rfl, he⟩
  · exact he
  · exact absurd he (h.evaluate_ne_aborted source raised)

theorem Raises.ne_config {ev : Evaluator} {e : Error} (he : ev.Raises e) (fault : ConfigFault) :
    e ≠ .config fault := by
  rintro rfl
  simp at he

variable (ev : Evaluator)

@[simp] theorem evaluate_throws (source : Text) : FailsOnly ev.Throws (ev.evaluate source) := by
  intro e he
  by_cases h : ∃ raised, e = .aborted raised
  · obtain ⟨raised, rfl⟩ := h
    exact ⟨.inr ⟨source, raised, rfl, he⟩, nofun⟩
  · unfold evaluate at he
    split at he
    · cases he
      simp
    · split at he
      · cases he
      · next raised _ =>
        cases he
        exact absurd ⟨raised, rfl⟩ h
      · cases he
        simp
      · cases he
        simp

@[simp] theorem written_throws (text : Except Expr.Failure Text) :
    FailsOnly ev.Throws (written text) := by
  cases text <;> simp [written]

@[simp] theorem condition_throws (source : Text) : FailsOnly ev.Throws (ev.condition source) := by
  simp only [condition, failsOnly_bind, evaluate_throws, true_and]
  intro v _
  split <;> simp

@[simp] theorem count_throws (source : Text) : FailsOnly ev.Throws (ev.count source) := by
  simp only [count, failsOnly_bind, evaluate_throws, true_and]
  intro v _
  split <;> simp

@[simp] theorem render_throws (source : Text) : FailsOnly ev.Throws (ev.render source) := by
  simp [render]

end Evaluator

variable {ev : Evaluator}

/-! ## Templates -/

@[simp] theorem repeatText_throws (n : Nat) (s : Text) :
    FailsOnly ev.Throws (repeatText n s) := by
  simp [repeatText]

theorem Segment.evaluate_throws (segment : Segment) :
    FailsOnly ev.Throws (segment.evaluate ev) := by
  cases segment with
  | plain c => simp [evaluate]
  | region arguments => simp [evaluate, FailsOnly.mapM fun s _ => ev.render_throws s]

@[simp] theorem evaluateArguments_throws (s : Text) :
    FailsOnly ev.Throws (evaluateArguments ev s) := by
  simp [evaluateArguments, FailsOnly.mapM fun t _ => Segment.evaluate_throws t]

theorem Token.unroll_throws (t : Token) : FailsOnly ev.Throws (t.unroll ev) := by
  cases t <;> simp [unroll]

@[simp] theorem unrollBlocks_throws (s : Text) : FailsOnly ev.Throws (unrollBlocks ev s) := by
  simp [unrollBlocks, FailsOnly.mapM fun t _ => Token.unroll_throws t]

namespace Rule

variable (r : Rule) (args : List Text)

@[simp] theorem checkArity_throws : FailsOnly ev.Throws (r.checkArity args) := by
  simp [checkArity]

@[simp] theorem selectFrom_throws (branches : List Branch) :
    FailsOnly ev.Throws (r.selectFrom ev args branches) := by
  induction branches with
  | nil => simp [selectFrom]
  | cons b branches ih => simp [selectFrom, ih]

@[simp] theorem instantiate_throws : FailsOnly ev.Throws (r.instantiate ev args) := by
  simp [instantiate, select]

end Rule

@[simp] theorem RuleTable.get_throws (t : RuleTable) (atom : Text) :
    FailsOnly ev.Throws (t.get atom) := by
  unfold get
  split <;> simp

namespace Grammar

variable (g : Grammar)

/-! ## Expansion -/

theorem expandToken_throws {command : Text} {t : Token} (ht : t ∈ tokenize command)
    (ih : ∀ content count, .block content count ∈ tokenize command →
      FailsOnly g.evaluator.Throws (g.expandOnce content)) :
    FailsOnly g.evaluator.Throws (g.expandToken t) := by
  cases t with
  | push => simp [expandToken]
  | pop => simp [expandToken]
  | block content count => simp [expandToken, ih content count ht]
  | call atom arguments => simp [expandToken]

@[simp] theorem expandOnce_throws (command : Text) :
    FailsOnly g.evaluator.Throws (g.expandOnce command) := by
  induction command using Token.content_induction with
  | h command ih =>
    rw [expandOnce_eq, expandTokens_eq_mapM, failsOnly_bind]
    exact ⟨.mapM fun t ht => g.expandToken_throws ht ih, fun _ _ => failsOnly_ok _⟩

theorem rounds_throws (n : Nat) (command : Text) :
    FailsOnly g.evaluator.Throws (g.rounds n command) := by
  induction n generalizing command with
  | zero => simp [rounds]
  | succ n ih =>
    rw [rounds, failsOnly_bind]
    exact ⟨g.expandOnce_throws command, fun s _ => ih s⟩

theorem expand_raises (n : Nat) (command : Text) :
    FailsOnly g.evaluator.Raises (g.expand command n) := by
  rw [expand_eq_rounds]
  exact (g.rounds_throws n command).mono fun _ he => he.1

/-! ## Execution -/

@[simp] theorem invoke_throws (atom arguments : Text) :
    FailsOnly g.evaluator.Throws (g.invoke atom arguments) := by
  rw [invoke, failsOnly_bind]
  refine ⟨g.table.get_throws atom, fun r _ => failsOnly_bind.2 ⟨?_, fun args _ => ?_⟩⟩
  · exact .mapM fun s _ => g.evaluator.render_throws s
  · rw [failsOnly_bind]
    exact ⟨r.checkArity_throws args, fun _ _ => failsOnly_ok _⟩

variable {P : Error → Prop} {g}

/-- A stream fails by its own tokens or in what it replays. -/
theorem streamOf_failsOnly (hP : ∀ e, g.evaluator.Throws e → P e) {replayed : Text → EventStream}
    {ts : List Token} (h : ∀ content count s, .block content count ∈ ts →
      g.expandOnce content = .ok s → (replayed s).FailsOnly P) :
    (g.streamOf replayed ts).FailsOnly P := by
  induction ts with
  | nil => exact EventStream.failsOnly_done
  | cons t ts ih =>
    replace ih := ih fun content count s hm => h content count s (List.mem_cons_of_mem _ hm)
    cases t with
    | push => exact EventStream.failsOnly_next.2 ih
    | pop => exact EventStream.failsOnly_next.2 ih
    | block content count =>
      simp only [streamOf]
      split
      · next he => exact EventStream.failsOnly_fail.2 (hP _ (g.evaluator.count_throws count _ he))
      · exact ih
      · split
        · next he => exact EventStream.failsOnly_fail.2 (hP _ (g.expandOnce_throws content _ he))
        · next s hs => exact (h content count s List.mem_cons_self hs).replay ih _
    | call atom arguments =>
      simp only [streamOf]
      split
      · next he => exact EventStream.failsOnly_fail.2 (hP _ (g.invoke_throws atom arguments _ he))
      · exact EventStream.failsOnly_next.2 ih

theorem streamWithin_raises (g : Grammar) (depth : Nat) (command : Text) :
    (g.streamWithin depth command).FailsOnly g.evaluator.Raises := by
  induction depth generalizing command with
  | zero => simp [streamWithin]
  | succ depth ih => exact streamOf_failsOnly (fun _ he => he.1) fun _ _ s _ _ => ih s

end Grammar

end LSystem
