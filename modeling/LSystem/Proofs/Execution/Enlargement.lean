import LSystem.Proofs.Execution.HookLog
import LSystem.Proofs.Expansion.Pieces
import LSystem.Proofs.RuleTable.Enlargement

/-! # Grammars with one more rule

Rules are only ever looked up by the atom of a call. So with one more rule, for an atom `a`,
everything goes as without it up to the first call of `a`, where the grammar without the rule stops
for want of it. `Unless` says so of results, `EventStream.Upto` of streams and `Consumer.Resumes` of
runs; each follows the recursion of what it is about, and `InStep` has what comes of it. -/

namespace LSystem

namespace EventStream.Upto

variable {e : Error} {s s' : EventStream}

/-- A stream is as another one before the error that stops it. -/
theorem eq_or_isPrefix (hs : Upto e s s') :
    s' = s ∨ s.error? = some e ∧ s.events <+: s'.events := by
  induction hs with
  | done => exact .inl rfl
  | fail => exact .inl rfl
  | cut => exact .inr ⟨rfl, List.nil_prefix⟩
  | @next ev f f' _ ih =>
    obtain h | ⟨he, hp⟩ := ih
    · refine .inl ?_
      congr 1
      funext _
      exact h
    · refine .inr ⟨by rwa [error?_next], ?_⟩
      rw [events_next, events_next]
      exact List.cons_prefix_cons.2 ⟨rfl, hp⟩

end EventStream.Upto

open EventStream (Upto)

namespace Consumer

variable {σ : Type} {c : Consumer σ} {e : Error} {s s' : EventStream}

/-- The second run is the first one, which goes on where it was if it was stopped by the error
`e`. -/
def Resumes (c : Consumer σ) (e : Error) (run run' : Run σ) : Prop :=
  run' = run ∨ run.error? = some e ∧ ∃ rest, run' = c.runFrom run.consumed run.state rest

theorem resumes_of_upto (hs : Upto e s s') (n : Nat) (st : σ) :
    c.Resumes e (c.runFrom n st s) (c.runFrom n st s') := by
  induction hs generalizing n st with
  | done => exact .inl rfl
  | fail => exact .inl rfl
  | @cut s => exact .inr ⟨rfl, s, rfl⟩
  | next _ ih =>
    rw [runFrom, runFrom]
    split
    · exact ih _ _
    · exact .inl rfl

/-- A run that goes on adds to the log of hooks. -/
theorem Resumes.log {run run' : Run (σ × List Hook)} (h : c.logged.Resumes e run run') :
    run.state.2 <+: run'.state.2 := by
  obtain rfl | ⟨-, rest, rfl⟩ := h
  · exact List.prefix_rfl
  · obtain ⟨part, hr, -⟩ := c.runFrom_logged run.consumed run.state.1 run.state.2 rest
    rw [hr]
    exact List.prefix_append _ part

end Consumer

namespace Grammar

variable {g g' : Grammar} {a : Text}

/-- The grammar `g'` is `g` with one more rule, for the atom `a`. -/
structure Enlarges (a : Text) (g g' : Grammar) : Prop where
  table : g.table.Enlarges a g'.table
  evaluator : g'.evaluator = g.evaluator

namespace Enlarges

/-! ## Expansion -/

theorem expandToken (hg : Enlarges a g g') {t : Token}
    (ih : ∀ content count, t = .block content count →
      Unless (.unknownAtom a) (g.expandOnce content) (g'.expandOnce content)) :
    Unless (.unknownAtom a) (g.expandToken t) (g'.expandToken t) := by
  cases t with
  | push => exact .refl _ _
  | pop => exact .refl _ _
  | block content count =>
    rw [Grammar.expandToken, Grammar.expandToken, hg.evaluator]
    refine .bind (.refl _ _) fun n => ?_
    split
    · exact .refl _ _
    · exact .bind (ih content count rfl) fun _ => .refl _ _
  | call atom arguments =>
    rw [Grammar.expandToken, Grammar.expandToken, hg.evaluator]
    exact .bind (hg.table.get atom) fun _ => .refl _ _

theorem expandTokens_of_forall {ts : List Token}
    (h : ∀ t ∈ ts, Unless (.unknownAtom a) (g.expandToken t) (g'.expandToken t)) :
    Unless (.unknownAtom a) (g.expandTokens ts) (g'.expandTokens ts) := by
  induction ts with
  | nil => exact .refl _ _
  | cons t ts ih =>
    obtain ⟨ht, h⟩ := List.forall_mem_cons.1 h
    exact .bind ht fun _ => .bind (ih h) fun _ => .refl _ _

theorem expandOnce (hg : Enlarges a g g') (command : Text) :
    Unless (.unknownAtom a) (g.expandOnce command) (g'.expandOnce command) := by
  induction command using Token.content_induction with
  | h command ih =>
    rw [expandOnce_eq, expandOnce_eq]
    refine expandTokens_of_forall fun t ht => hg.expandToken ?_
    rintro content count rfl
    exact ih content count ht

theorem expandTokens (hg : Enlarges a g g') (ts : List Token) :
    Unless (.unknownAtom a) (g.expandTokens ts) (g'.expandTokens ts) :=
  expandTokens_of_forall fun _ _ => hg.expandToken fun content _ _ => hg.expandOnce content

theorem rounds (hg : Enlarges a g g') (n : Nat) (command : Text) :
    Unless (.unknownAtom a) (g.rounds n command) (g'.rounds n command) := by
  induction n generalizing command with
  | zero => exact .refl _ _
  | succ n ih => exact .bind (hg.expandOnce command) fun command => ih command

theorem expand (hg : Enlarges a g g') (command : Text) (iterations : Int) :
    Unless (.unknownAtom a) (g.expand command iterations) (g'.expand command iterations) := by
  rw [Grammar.expand, Grammar.expand]
  split
  · exact .refl _ _
  · exact hg.rounds _ command

/-! ## Execution -/

theorem invoke (hg : Enlarges a g g') (atom arguments : Text) :
    Unless (.unknownAtom a) (g.invoke atom arguments) (g'.invoke atom arguments) := by
  rw [Grammar.invoke, Grammar.invoke, hg.evaluator]
  exact .bind (hg.table.get atom) fun _ => .refl _ _

theorem streamWithin (hg : Enlarges a g g') (depth : Nat) (command : Text) :
    Upto (.unknownAtom a) (g.streamWithin depth command) (g'.streamWithin depth command) := by
  induction depth generalizing command with
  | zero => exact .refl _
  | succ depth ih => exact streamOf_upto hg.evaluator hg.expandOnce hg.invoke ih _

variable {σ : Type}

theorem execute (hg : Enlarges a g g') (c : Consumer σ) (st : σ) (command : Text) :
    c.Resumes (.unknownAtom a) (g.execute c st command) (g'.execute c st command) :=
  Consumer.resumes_of_upto (hg.streamWithin nestingLimit command) 0 st

theorem expandThenExecute (hg : Enlarges a g g') (c : Consumer σ) (st : σ) (command : Text)
    (iterations : Int) :
    c.Resumes (.unknownAtom a) (g.expandThenExecute c st command iterations)
      (g'.expandThenExecute c st command iterations) := by
  rw [Grammar.expandThenExecute, Grammar.expandThenExecute]
  obtain he | he := hg.expand command iterations
  · rw [he]
    refine .inr ⟨rfl, ?_⟩
    -- Nothing was executed, so all that is executed with the new rule goes on from there.
    cases g'.expand command iterations with
    | error e => exact ⟨.fail e, rfl⟩
    | ok expanded => exact ⟨g'.stream expanded, rfl⟩
  · rw [he]
    cases g.expand command iterations with
    | error e => exact .inl rfl
    | ok expanded => exact hg.execute c st expanded

end Enlarges

/-- Whatever is done with the grammar `g'` comes out as with `g`, results, events, logs of hooks and
errors, unless with `g` it is stopped for want of a rule for `a`; and then it comes out the same up
to there. -/
structure InStep (a : Text) (g g' : Grammar) : Prop where
  expand : ∀ command iterations,
    Unless (.unknownAtom a) (g.expand command iterations) (g'.expand command iterations)
  /-- In a round, this holds of any of the tokens that come first. -/
  tokens : ∀ ts, Unless (.unknownAtom a) (g.expandTokens ts) (g'.expandTokens ts)
  events : ∀ command limit,
    (g'.stream command).take limit = (g.stream command).take limit ∨
      ((g.stream command).take limit).error? = some (.unknownAtom a) ∧
      ((g.stream command).take limit).events <+: ((g'.stream command).take limit).events
  execute : ∀ {σ : Type} (c : Consumer σ) st command,
    c.Resumes (.unknownAtom a) (g.execute c st command) (g'.execute c st command)
  expandThenExecute : ∀ {σ : Type} (c : Consumer σ) st command iterations,
    c.Resumes (.unknownAtom a) (g.expandThenExecute c st command iterations)
      (g'.expandThenExecute c st command iterations)
  executeLog : ∀ {σ : Type} (c : Consumer σ) st command,
    (g.execute c.logged (st, []) command).state.2 <+:
      (g'.execute c.logged (st, []) command).state.2
  expandThenExecuteLog : ∀ {σ : Type} (c : Consumer σ) st command iterations,
    (g.expandThenExecute c.logged (st, []) command iterations).state.2 <+:
      (g'.expandThenExecute c.logged (st, []) command iterations).state.2

theorem Enlarges.inStep (hg : Enlarges a g g') : InStep a g g' where
  expand := hg.expand
  tokens := hg.expandTokens
  events command limit := ((hg.streamWithin nestingLimit command).take limit).eq_or_isPrefix
  execute := hg.execute
  expandThenExecute := hg.expandThenExecute
  executeLog c st command := (hg.execute c.logged (st, []) command).log
  expandThenExecuteLog c st command iterations :=
    (hg.expandThenExecute c.logged (st, []) command iterations).log

end Grammar

namespace Session

variable {σ : Type} {h : Handle}

/-- **Adding a rule never disturbs what went through without it.** If a rule can be added to a
session, then its atom `a` has no rule before. After the rule is added and configured in any way
through its handle, every command expands and executes as it did before, with the same results,
events, logs of hooks and errors, unless it was stopped before by the error that there is no rule
for `a`; and then it expands and executes as it did before up to there. -/
theorem add_inStep (s : Session σ) (key : Text) (hasAction : Bool) (ops : List Operation)
    (hs : (s.step (.add key hasAction)).2 = .rule h) (ho : ∀ op ∈ ops, op.target? = some h) :
    let s' := (s.step (.add key hasAction)).1.run ops
    ∃ d, Declaration.parse? key = some d ∧ d.atom ∉ s.table.atoms ∧
      (∀ b, b ∈ s'.table.atoms ↔ b ∈ s.table.atoms ∨ b = d.atom) ∧
      Grammar.InStep d.atom s.grammar s'.grammar := by
  intro s'
  obtain ⟨d, hd, hn, ha⟩ := step_add_appended hs
  have ht := (run_appended ha ho).enlarges hn
  have hv : s'.grammar.evaluator = s.grammar.evaluator :=
    (run_evaluator _ ops).trans (step_evaluator s _)
  exact ⟨d, hd, hn, ht.mem_atoms, (Grammar.Enlarges.mk ht hv).inStep⟩

/-- A call that a template leaves behind is unknown at first. -/
theorem add_inStep_trailing :
    let s := (start {} ({} : Consumer Unit) ()).run
      [.add "A<x>".toList false, .withFallback 0 "A<x+1>F<x>".toList]
    let s' := (s.step (.add "F<y>".toList true)).1.run
      [.withBranch 1 "y>1".toList [], .withFallback 1 "F<y*2>".toList]
    s.grammar.expand "A<1>".toList 1 = .ok "A<2>F<1>".toList ∧
      s'.grammar.expand "A<1>".toList 1 = .ok "A<2>F<1>".toList ∧
      s.grammar.expand "A<1>".toList 2 = .error (.unknownAtom ['F']) ∧
      s'.grammar.expand "A<1>".toList 2 = .ok "A<3>F<2>F<2>".toList := by
  intro s s'
  have he : s.grammar.expand "A<1>".toList 1 = .ok "A<2>F<1>".toList := by decide +kernel
  obtain ⟨d, -, -, -, h⟩ := add_inStep s "F<y>".toList true
    [.withBranch 1 "y>1".toList [], .withFallback 1 "F<y*2>".toList]
    (by decide +kernel : (s.step (.add "F<y>".toList true)).2 = .rule 1) (by decide)
  exact ⟨he, (h.expand _ 1).ok he, by decide +kernel, by decide +kernel⟩

end Session

end LSystem
