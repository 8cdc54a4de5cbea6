import LSystem.Proofs.Execution.Events
import LSystem.Proofs.Execution.Summary
import LSystem.Proofs.Nested

/-! # Traces of streams

A trace follows the pushes and pops of a stream: its depth is the number of levels that they leave
open. It goes on to the end of the stream unless a pop comes when nothing is pushed. -/

namespace LSystem

theorem Event.push_ne_pop : Event.push ≠ .pop := nofun

theorem Event.levels_call {d : Nat} {rule : Rule} {args : List Text} {evs : List Event} :
    levels Event.push .pop d (.call rule args :: evs) = levels .push .pop d evs :=
  levels_of_ne nofun nofun

namespace Trace

variable {t : Trace} {ev : Event} {s : EventStream} {d : Nat}

theorem levels_cons (d : Nat) (ev : Event) (evs : List Event) :
    levels Event.push .pop d (ev :: evs) =
      (levels Event.push .pop d [ev]).bind fun d' => levels Event.push .pop d' evs :=
  levels_append _ _ d [ev] evs

/-! ## One event -/

theorem dispatch_of_levels (h : levels Event.push .pop t.depth [ev] = some d) :
    ∃ t', consumer.dispatch t ev = (t', none) ∧ t'.depth = d := by
  cases ev with
  | push =>
    cases h
    exact ⟨t.push, rfl, rfl⟩
  | pop =>
    obtain ⟨k, ht, h⟩ := (levels_down_eq_some Event.push_ne_pop).1 h
    cases h
    exact ⟨_, dispatch_pop_of_ne_zero (by omega), by simp [ht]⟩
  | call rule args =>
    cases h
    refine ⟨_, dispatch_call t rule args, ?_⟩
    split <;> rfl

theorem dispatch_of_levels_none (h : levels Event.push .pop t.depth [ev] = none) :
    consumer.dispatch t ev = (t, some (.config .emptyStack)) := by
  cases ev with
  | push => cases h
  | pop =>
    cases ht : t.depth with
    | zero => exact dispatch_pop_of_eq_zero ht
    | succ n =>
      rw [ht, levels_down_succ Event.push_ne_pop] at h
      cases h
  | call rule args => cases h

/-! ## Whole streams -/

/-- As long as no pop is in excess, all events are recorded, and the error is the one of the
stream. -/
theorem runFrom_of_levels (h : levels Event.push .pop t.depth s.events = some d) (n : Nat) :
    ∃ t', consumer.runFrom n t s = ⟨t', n + s.events.length, s.error?⟩ ∧ t'.depth = d := by
  induction s generalizing t n with
  | done =>
    cases h
    exact ⟨t, rfl, rfl⟩
  | fail e =>
    cases h
    exact ⟨t, rfl, rfl⟩
  | next ev rest ih =>
    rw [EventStream.events_next, levels_cons, Option.bind_eq_some_iff] at h
    obtain ⟨d', hd, h⟩ := h
    obtain ⟨t₁, ht, rfl⟩ := dispatch_of_levels hd
    obtain ⟨t₂, h2, hd2⟩ := ih () h (n + 1)
    refine ⟨t₂, ?_, hd2⟩
    rw [Consumer.runFrom, ht]
    simp only [h2, EventStream.events_next, EventStream.error?_next, List.length_cons]
    congr 1
    omega

/-- A pop in excess stops the trace. -/
theorem runFrom_of_levels_none (h : levels Event.push .pop t.depth s.events = none) (n : Nat) :
    ∃ t' m, consumer.runFrom n t s = ⟨t', m, some (.config .emptyStack)⟩ ∧
      m < n + s.events.length := by
  induction s generalizing t n with
  | done => cases h
  | fail e => cases h
  | next ev rest ih =>
    rw [EventStream.events_next, levels_cons] at h
    cases hd : levels Event.push .pop t.depth [ev] with
    | none =>
      refine ⟨t, n, ?_, by simp⟩
      rw [Consumer.runFrom, dispatch_of_levels_none hd]
    | some d =>
      rw [hd] at h
      obtain ⟨t₁, ht, rfl⟩ := dispatch_of_levels hd
      obtain ⟨t₂, m, h2, hm⟩ := ih () h (n + 1)
      refine ⟨t₂, m, ?_, ?_⟩
      · rw [Consumer.runFrom, ht]
        exact h2
      · simp only [EventStream.events_next, List.length_cons]
        omega

/-- A trace of a stream ends as the stream does, or at a pop in excess. -/
theorem error?_run {e : Error} (h : (consumer.run t s).error? = some e) :
    s.error? = some e ∨ e = .config .emptyStack := by
  unfold Consumer.run at h
  cases hl : levels Event.push .pop t.depth s.events with
  | none =>
    obtain ⟨t', n, hr, -⟩ := runFrom_of_levels_none hl 0
    rw [hr] at h
    cases h
    exact .inr rfl
  | some d =>
    obtain ⟨t', hr, -⟩ := runFrom_of_levels hl 0
    rw [hr] at h
    exact .inl h

end Trace

end LSystem
