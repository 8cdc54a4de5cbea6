import LSystem.Proofs.Execution.HookLog
import LSystem.Proofs.Execution.Replay
import LSystem.Proofs.RuleTable.Held
import LSystem.Trace

/-! # Tokens that stop an execution

A token that cannot be executed stops the command that it stands in (`Grammar.Stops`). All that
comes before it has been executed by then, with its hooks and no others: there is no hook of the
token itself, be it a block in which only a later part fails, and what follows it makes no
difference. An execution that comes after some rounds of expansion calls no hook unless all rounds
have succeeded (`execute_stopped`). -/

namespace LSystem

namespace Consumer

variable {σ : Type} {c : Consumer σ} {st : σ} {n : Nat} {s : EventStream}

/-- After a stream that was executed without an error, the run goes on with the next one. -/
theorem runFrom_append (h : (c.runFrom n st s).error? = none) (f : Unit → EventStream) :
    c.runFrom n st (s.append f) =
      c.runFrom (c.runFrom n st s).consumed (c.runFrom n st s).state (f ()) := by
  induction s generalizing n st with
  | done => rfl
  | fail e => cases h
  | next ev rest ih =>
    rw [EventStream.append, runFrom, runFrom]
    rw [runFrom] at h
    split
    · next st' hd =>
      simp only [hd] at h
      exact ih () h
    · next st' e hd =>
      simp only [hd] at h
      cases h

theorem consumed_of_error? (h : (c.runFrom n st s).error? = none) :
    (c.runFrom n st s).consumed = n + s.events.length := by
  induction s generalizing n st with
  | done => rfl
  | fail e => cases h
  | next ev rest ih =>
    rw [runFrom] at h ⊢
    split at h
    · next st' hd =>
      simp only [ih () h, EventStream.events_next, List.length_cons]
      omega
    · cases h

/-- A run without an error calls the hooks of all events. -/
theorem run_logged_of_error? (h : (c.run st s).error? = none) :
    c.logged.run (st, []) s =
      ⟨((c.run st s).state, s.events.flatMap Event.hooks), (c.run st s).consumed, none⟩ := by
  obtain ⟨log, hr, part, rfl, hpart⟩ := c.run_logged st s
  have hn : (c.run st s).consumed = s.events.length :=
    (consumed_of_error? h).trans (Nat.zero_add _)
  rw [hn, List.getElem?_eq_none (Nat.le_refl _)] at hpart
  rw [hr, h, hn, hpart, List.take_length, List.append_nil]

end Consumer

namespace Grammar

open Text (Tight)

variable {g : Grammar} {command p : Text} {t : Token} {e : Error}

/-! ## Rounds that fail -/

theorem rounds_eq_error {n : Nat} (h : g.rounds n command = .error e) :
    ∃ i < n, ∃ s, g.rounds i command = .ok s ∧ g.expandOnce s = .error e := by
  induction n generalizing command with
  | zero => cases h
  | succ n ih =>
    rw [rounds] at h
    cases hc : g.expandOnce command with
    | error e' =>
      rw [hc] at h
      cases h
      exact ⟨0, Nat.succ_pos n, command, rfl, hc⟩
    | ok a =>
      rw [hc] at h
      obtain ⟨i, hi, s, hs, he⟩ := ih h
      refine ⟨i + 1, Nat.succ_lt_succ hi, s, ?_, he⟩
      rw [rounds, hc]
      exact hs

/-- An expansion fails in the first round that fails. -/
theorem expand_eq_error {n : Int} (h : g.expand command n = .error e) :
    n < 0 ∧ e = .negativeRounds ∨ ∃ i, 0 ≤ i ∧ i < n ∧ ∃ s, g.expand command i = .ok s ∧
      g.expandOnce s = .error e := by
  cases n with
  | negSucc n =>
    have hn : Int.negSucc n < 0 := Int.negSucc_lt_zero n
    rw [expand, if_pos hn] at h
    cases h
    exact .inl ⟨hn, rfl⟩
  | ofNat n =>
    rw [Int.ofNat_eq_natCast, expand_eq_rounds] at h
    obtain ⟨i, hi, s, hs, he⟩ := rounds_eq_error h
    exact .inr ⟨i, Int.natCast_nonneg i, Int.ofNat_lt.2 hi, s, by rwa [expand_eq_rounds], he⟩

/-! ## Tokens that fail -/

/-- A token cannot be executed, for this error: a call of an unknown atom, with an argument that has
no value, or with the wrong number of arguments; or a block whose count has no value, or is positive
with a content that cannot be expanded. -/
inductive Stops (g : Grammar) : Token → Error → Prop
  | atom {atom arguments : Text} : atom ∉ g.table.atoms →
    Stops g (.call atom arguments) (.unknownAtom atom)
  | argument {atom arguments piece : Text} {r : Rule} {before after : List Text} {e : Error} :
    g.table.get atom = .ok r → splitArguments arguments = before ++ piece :: after →
    (∀ p ∈ before, ∃ s, g.evaluator.render p = .ok s) → g.evaluator.render piece = .error e →
    Stops g (.call atom arguments) e
  | arity {atom arguments : Text} {r : Rule} {args : List Text} :
    g.table.get atom = .ok r → (splitArguments arguments).mapM g.evaluator.render = .ok args →
    args.length ≠ r.parameters.length →
    Stops g (.call atom arguments) (.arity r.declaration r.parameters.length args)
  | count {content count : Text} {e : Error} : g.evaluator.count count = .error e →
    Stops g (.block content count) e
  | content {content count : Text} {n : Nat} {e : Error} : g.evaluator.count count = .ok n →
    n ≠ 0 → g.expandOnce content = .error e → Stops g (.block content count) e

theorem get_of_mem {atom : Text} (h : atom ∈ g.table.atoms) : ∃ r, g.table.get atom = .ok r := by
  obtain ⟨r, hr⟩ := Option.ne_none_iff_exists'.1 (mt RuleTable.find?_eq_none_iff.1 (not_not.2 h))
  exact ⟨r, RuleTable.get_eq_ok_iff.2 hr⟩

theorem get_of_not_mem {atom : Text} (h : atom ∉ g.table.atoms) :
    g.table.get atom = .error (.unknownAtom atom) := by
  rw [RuleTable.get, RuleTable.find?_eq_none_iff.2 h]

/-- The calls that cannot be executed are those that give no event. -/
theorem invoke_eq_error_iff {atom arguments : Text} :
    g.invoke atom arguments = .error e ↔ g.Stops (.call atom arguments) e := by
  constructor
  · intro h
    by_cases ha : atom ∈ g.table.atoms
    · obtain ⟨r, hr⟩ := get_of_mem ha
      rw [invoke, hr] at h
      cases hm : (splitArguments arguments).mapM g.evaluator.render with
      | error e' =>
        simp only [hm, bind, Except.bind] at h
        cases h
        obtain ⟨before, piece, after, hargs, hb, hp⟩ := mapM_eq_error_iff.1 hm
        exact .argument hr hargs hb hp
      | ok args =>
        simp only [hm, bind, Except.bind, Rule.checkArity] at h
        by_cases hn : args.length = r.parameters.length
        · rw [if_pos hn] at h
          cases h
        · rw [if_neg hn] at h
          cases h
          exact .arity hr hm hn
    · rw [invoke, get_of_not_mem ha] at h
      cases h
      exact .atom ha
  · intro h
    cases h with
    | atom ha => simp only [invoke, get_of_not_mem ha, bind, Except.bind]
    | argument hr hargs hb hp =>
      have hm := mapM_eq_error_iff.2 ⟨_, _, _, hargs, hb, hp⟩
      simp only [invoke, hr, hm, bind, Except.bind]
    | @arity atom arguments r args hr hargs hn =>
      have hc : r.checkArity args = .error (.arity r.declaration r.parameters.length args) :=
        if_neg hn
      simp only [invoke, hr, hargs, hc, bind, Except.bind]

/-- A stream fails at such a token without any event of it. -/
theorem Stops.streamOf (h : g.Stops t e) (replayed : Text → EventStream) (ts : List Token) :
    g.streamOf replayed (t :: ts) = .fail e := by
  cases t with
  | push => cases h
  | pop => cases h
  | block content count =>
    cases h with
    | count hc => simp only [Grammar.streamOf, hc]
    | @content _ _ n _ hc hn he =>
      simp only [Grammar.streamOf, hc]
      cases n with
      | zero => exact absurd rfl hn
      | succ n => simp only [he]
  | call atom arguments => simp only [Grammar.streamOf, invoke_eq_error_iff.2 h]

theorem Stops.stream_append (hp : Tight p) (ht : t.Formed) (h : g.Stops t e) (q : Text) :
    g.stream (p ++ t.text ++ q) = (g.stream p).append fun _ => .fail e := by
  have hq : g.stream (t.text ++ q) = .fail e := by
    rw [stream, nestingLimit, streamWithin, tokenize_text_append ht]
    exact h.streamOf _ _
  rw [← hq, List.append_assoc]
  exact streamWithin_append hp _

theorem execute_of_stops {σ : Type} {c : Consumer σ} {st : σ} (hp : Tight p)
    (hrun : (g.execute c st p).error? = none) (ht : t.Formed) (hs : g.Stops t e) (q : Text) :
    g.execute c st (p ++ t.text ++ q) = { g.execute c st p with error? := some e } := by
  rw [execute, hs.stream_append hp ht, Consumer.run, Consumer.runFrom_append hrun]
  rfl

/-- A token that cannot be executed stops the execution where it stands, with its own error. The
consumer has been told of what comes before it, and no more, whatever follows. If the command comes
from an expansion, nothing is told at all unless every round succeeds; otherwise the error is the
one of the round that failed. -/
theorem execute_stopped {σ : Type} {c : Consumer σ} {st : σ} (hp : Tight p)
    (hrun : (g.execute c st p).error? = none) (ht : t.Formed) (hs : g.Stops t e) (q : Text) :
    g.execute c st (p ++ t.text ++ q) = { g.execute c st p with error? := some e } ∧
    (g.execute c.logged (st, []) (p ++ t.text ++ q)).state = (g.execute c.logged (st, []) p).state ∧
    (g.execute c.logged (st, []) p).state.2 = (g.stream p).events.flatMap Event.hooks ∧
    ∀ command n,
      (∃ s, g.expand command n = .ok s ∧
        g.expandThenExecute c.logged (st, []) command n = g.execute c.logged (st, []) s) ∨
      ∃ e, g.expandThenExecute c.logged (st, []) command n = ⟨(st, []), 0, some e⟩ ∧
        (n < 0 ∧ e = .negativeRounds ∨ ∃ i, 0 ≤ i ∧ i < n ∧ ∃ s, g.expand command i = .ok s ∧
          g.expandOnce s = .error e) := by
  have hlog : g.execute c.logged (st, []) p = ⟨((g.execute c st p).state,
      (g.stream p).events.flatMap Event.hooks), (g.execute c st p).consumed, none⟩ :=
    Consumer.run_logged_of_error? hrun
  have hrun' : (g.execute c.logged (st, []) p).error? = none := by rw [hlog]
  refine ⟨execute_of_stops hp hrun ht hs q, ?_, by rw [hlog], fun command n => ?_⟩
  · rw [execute_of_stops hp hrun' ht hs q]
  · rw [expandThenExecute]
    cases h : g.expand command n with
    | ok s => exact .inl ⟨s, rfl, rfl⟩
    | error e => exact .inr ⟨e, rfl, expand_eq_error h⟩

/-- The block would start with a push and a call, but there is no rule for its last call. -/
theorem execute_stopped_sprouting :
    let t : Token := .block "[A<1>Z<>".toList "1+1".toList
    let run := sprouting.execute Trace.consumer {} ("[A<1>".toList ++ t.text ++ "]\x7b".toList)
    sprouting.Stops t (.unknownAtom ['Z']) ∧ run.error? = some (.unknownAtom ['Z']) ∧
      run.state.lines = #["push".toList, "prepare A".toList] := by
  intro t run
  have hp : Tight "[A<1>".toList := by decide
  have ht : t.Formed := formed_of_mem_tokenize (s := "{[A<1>Z<>}(1+1)".toList) (by decide)
  have hs : sprouting.Stops t (.unknownAtom ['Z']) :=
    .content (n := 2) (by decide +kernel) (by decide) (by decide +kernel)
  have hv : (sprouting.execute Trace.consumer {} "[A<1>".toList).error? = none ∧
      (sprouting.execute Trace.consumer {} "[A<1>".toList).state.lines =
        #["push".toList, "prepare A".toList] := by decide +kernel
  have hrun : run = { sprouting.execute Trace.consumer {} "[A<1>".toList with
      error? := some (.unknownAtom ['Z']) } := (execute_stopped hp hv.1 ht hs _).1
  rw [hrun]
  exact ⟨hs, rfl, hv.2⟩

end Grammar

end LSystem
