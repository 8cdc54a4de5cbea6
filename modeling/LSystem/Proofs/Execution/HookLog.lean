import LSystem.Consumer
import LSystem.Proofs.Execution.Events
import Mathlib.Data.List.Infix

/-! # Logs of hooks

What a consumer is told are calls of its hooks. `Consumer.logged` is the same consumer with a log of
the hooks that went through, beside its own state; the log does not change what the consumer does
(`runFrom_logged`). It holds the hooks of the events that were consumed, and of the event that
stopped the execution those hooks before the one that failed (`LogOf`). -/

namespace LSystem

/-- A call of a hook. -/
inductive Hook where
  | push
  | pop
  | prepare (atom : Text)
  | call (atom : Text) (args : List Text)
  deriving DecidableEq, Repr

/-- The hooks that are called for an event, in this order. -/
def Event.hooks : Event → List Hook
  | .push => [.push]
  | .pop => [.pop]
  | .call rule args =>
    .prepare rule.atom :: if rule.hasAction then [.call rule.atom args] else []

/-- The log of an execution of some events of which `n` were consumed: the hooks of these, and those
of the next one that went through, which are not all. -/
def LogOf (evs : List Event) (n : Nat) (log : List Hook) : Prop :=
  ∃ part, log = (evs.take n).flatMap Event.hooks ++ part ∧
    match evs[n]? with
    | none => part = []
    | some ev => part <+: ev.hooks ∧ part ≠ ev.hooks

namespace Consumer

variable {σ : Type} {c : Consumer σ} {st : σ}

/-- What a consumer does when a hook is called. -/
def perform (c : Consumer σ) : Hook → σ → Except Error σ
  | .push => c.push
  | .pop => c.pop
  | .prepare atom => c.prepare atom
  | .call atom args => c.call atom args

/-- Calls a hook, and writes it to a log if it goes through. -/
def record (c : Consumer σ) (hook : Hook) (st : σ × List Hook) : Except Error (σ × List Hook) :=
  (c.perform hook st.1).map fun s => (s, st.2 ++ [hook])

/-- The consumer with a log of the hooks that went through. -/
def logged (c : Consumer σ) : Consumer (σ × List Hook) where
  push := c.record .push
  pop := c.record .pop
  prepare atom := c.record (.prepare atom)
  call atom args := c.record (.call atom args)

theorem settle_record (c : Consumer σ) (st : σ) (log : List Hook) (hook : Hook) : ∃ part,
    settle (st, log) (c.record hook (st, log)) =
      (((settle st (c.perform hook st)).1, log ++ part), (settle st (c.perform hook st)).2) ∧
    part <+: [hook] ∧ (part = [hook] ↔ (settle st (c.perform hook st)).2 = none) := by
  rw [record]
  cases c.perform hook st with
  | ok s => exact ⟨[hook], rfl, List.prefix_rfl, by simp [settle]⟩
  | error e => exact ⟨[], by simp [settle, Except.map], List.nil_prefix, by simp [settle]⟩

/-! ## One event -/

/-- The hooks of an event that go through are all of them if the event is consumed, and not all if
one fails. -/
theorem dispatch_logged (c : Consumer σ) (st : σ) (log : List Hook) (ev : Event) : ∃ part,
    c.logged.dispatch (st, log) ev =
      (((c.dispatch st ev).1, log ++ part), (c.dispatch st ev).2) ∧
    part <+: ev.hooks ∧ (part = ev.hooks ↔ (c.dispatch st ev).2 = none) := by
  cases ev with
  | push => exact c.settle_record st log .push
  | pop => exact c.settle_record st log .pop
  | call rule args =>
    simp only [dispatch, logged, Event.hooks]
    have hp : c.record (.prepare rule.atom) (st, log) =
        (c.prepare rule.atom st).map fun s => (s, log ++ [.prepare rule.atom]) := rfl
    rw [hp]
    cases c.prepare rule.atom st with
    | error e => exact ⟨[], by simp [Except.map], List.nil_prefix, by simp⟩
    | ok s =>
      simp only [Except.map]
      by_cases ha : rule.hasAction
      · simp only [if_pos ha]
        obtain ⟨part, hs, hpart, hn⟩ :=
          c.settle_record s (log ++ [.prepare rule.atom]) (.call rule.atom args)
        refine ⟨.prepare rule.atom :: part, ?_, ?_, ?_⟩
        · rw [hs, List.append_assoc]
          rfl
        · exact List.cons_prefix_cons.2 ⟨rfl, hpart⟩
        · rw [List.cons_inj_right]
          exact hn
      · simp only [if_neg ha]
        exact ⟨[.prepare rule.atom], rfl, List.prefix_rfl, by simp⟩

/-! ## Whole streams -/

theorem le_consumed_runFrom (c : Consumer σ) (n : Nat) (st : σ) (s : EventStream) :
    n ≤ (c.runFrom n st s).consumed := by
  induction s generalizing n st with
  | done => exact Nat.le_refl n
  | fail e => exact Nat.le_refl n
  | next ev rest ih =>
    rw [runFrom]
    split
    · exact Nat.le_of_succ_le (ih () (n + 1) _)
    · exact Nat.le_refl n

/-- The log of what has happened before is continued, and the consumer takes no notice of it. -/
theorem runFrom_logged (c : Consumer σ) (n : Nat) (st : σ) (log : List Hook) (s : EventStream) :
    ∃ part,
    c.logged.runFrom n (st, log) s = ⟨((c.runFrom n st s).state, log ++ part),
      (c.runFrom n st s).consumed, (c.runFrom n st s).error?⟩ ∧
    LogOf s.events ((c.runFrom n st s).consumed - n) part := by
  induction s generalizing n st log with
  | done => exact ⟨[], by simp [runFrom], [], by simp [runFrom], rfl⟩
  | fail e => exact ⟨[], by simp [runFrom], [], by simp [runFrom], rfl⟩
  | next ev rest ih =>
    obtain ⟨part, hd, hpart, hn⟩ := c.dispatch_logged st log ev
    rw [runFrom, runFrom, hd]
    cases h : c.dispatch st ev with
    | mk st' failed =>
      rw [h] at hn
      cases failed with
      | some e =>
        refine ⟨part, rfl, part, by simp, ?_⟩
        simp only [EventStream.events_next, Nat.sub_self, List.getElem?_cons_zero]
        exact ⟨hpart, fun hp => by cases hn.1 hp⟩
      | none =>
        obtain rfl := hn.2 rfl
        obtain ⟨later, hr, last, hl, hlast⟩ := ih () (n + 1) st' (log ++ ev.hooks)
        have hle := le_consumed_runFrom c (n + 1) st' (rest ())
        have hsub : (c.runFrom (n + 1) st' (rest ())).consumed - n =
            (c.runFrom (n + 1) st' (rest ())).consumed - (n + 1) + 1 := by omega
        refine ⟨ev.hooks ++ later, ?_, last, ?_, ?_⟩
        · rw [← List.append_assoc]
          exact hr
        · rw [hsub, EventStream.events_next, List.take_succ_cons, List.flatMap_cons, hl,
            List.append_assoc]
        · rw [hsub, EventStream.events_next, List.getElem?_cons_succ]
          exact hlast

/-- A run leaves the hooks of its events in the log, and does to the consumer what it does without
one. -/
theorem run_logged (c : Consumer σ) (st : σ) (s : EventStream) : ∃ part,
    c.logged.run (st, []) s = ⟨((c.run st s).state, part), (c.run st s).consumed,
      (c.run st s).error?⟩ ∧
    LogOf s.events (c.run st s).consumed part :=
  c.runFrom_logged 0 st [] s

/-- A run that consumes enough events does not see where the stream is cut; a run that is cut stops
there without an error. -/
theorem runFrom_take (c : Consumer σ) (n : Nat) (st : σ) (s : EventStream) (limit : Nat) :
    ((c.runFrom n st s).consumed < n + limit → c.runFrom n st (s.take limit) = c.runFrom n st s) ∧
    (n + limit ≤ (c.runFrom n st s).consumed →
      (c.runFrom n st (s.take limit)).consumed = n + limit ∧
        (c.runFrom n st (s.take limit)).error? = none) := by
  induction s generalizing n st limit with
  | done =>
    cases limit with
    | zero => exact ⟨fun _ => rfl, fun _ => ⟨rfl, rfl⟩⟩
    | succ limit => exact ⟨fun _ => rfl, fun h => absurd h (by simp [runFrom])⟩
  | fail e =>
    cases limit with
    | zero => exact ⟨fun h => absurd h (by simp [runFrom]), fun _ => ⟨rfl, rfl⟩⟩
    | succ limit => exact ⟨fun _ => rfl, fun h => absurd h (by simp [runFrom])⟩
  | next ev rest ih =>
    cases limit with
    | zero =>
      have hle := le_consumed_runFrom c n st (.next ev rest)
      exact ⟨fun h => absurd h (by omega), fun _ => ⟨rfl, rfl⟩⟩
    | succ limit =>
      rw [EventStream.take_succ_next, runFrom, runFrom]
      cases h : c.dispatch st ev with
      | mk st' failed =>
        cases failed with
        | some e => exact ⟨fun _ => rfl, fun h => absurd h (by simp)⟩
        | none =>
          have := ih () (n + 1) st' limit
          rwa [Nat.add_right_comm, Nat.add_assoc] at this

/-- A run whose stream is cut before it ends leaves the hooks of all events up to there in the
log. -/
theorem run_take_logged_of_le {s : EventStream} {limit : Nat}
    (h : limit ≤ (c.run st s).consumed) :
    c.logged.run (st, []) (s.take limit) = ⟨((c.run st (s.take limit)).state,
      (s.events.take limit).flatMap Event.hooks), limit, none⟩ := by
  obtain ⟨hn, he⟩ := (c.runFrom_take 0 st s limit).2 (by rwa [Nat.zero_add])
  rw [Nat.zero_add] at hn
  obtain ⟨log, hr, part, rfl, hpart⟩ := c.run_logged st (s.take limit)
  rw [run, hn, EventStream.events_take, List.getElem?_eq_none (List.length_take_le ..)] at hpart
  rw [hr, hpart, run, hn, he, EventStream.events_take, List.take_take, Nat.min_self,
    List.append_nil]

/-- The log of a run whose stream is cut is the log of the whole run, up to there. -/
theorem run_take_logged (c : Consumer σ) (st : σ) (s : EventStream) (limit : Nat) :
    ((c.run st s).consumed < limit →
      c.logged.run (st, []) (s.take limit) = c.logged.run (st, []) s) ∧
    (limit ≤ (c.run st s).consumed →
      (c.logged.run (st, []) (s.take limit)).error? = none ∧
      (c.logged.run (st, []) (s.take limit)).state.2 =
        (s.events.take limit).flatMap Event.hooks ∧
      (c.logged.run (st, []) (s.take limit)).state.2 <+: (c.logged.run (st, []) s).state.2) := by
  obtain ⟨log, hr, part, rfl, -⟩ := c.run_logged st s
  constructor
  · intro h
    refine (c.logged.runFrom_take 0 (st, []) s limit).1 ?_
    rwa [← run, hr, Nat.zero_add]
  · intro h
    rw [run_take_logged_of_le h, hr]
    refine ⟨rfl, rfl, List.IsPrefix.trans ?_ (List.prefix_append _ part)⟩
    exact (List.take_prefix_take_left h).flatMap Event.hooks

end Consumer

end LSystem
