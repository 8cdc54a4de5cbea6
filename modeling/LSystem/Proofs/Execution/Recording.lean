import LSystem.Proofs.Execution.Summary

/-! # What a trace records of events

Events can be dispatched to a consumer one after the other, whatever fails on the way. A trace then
holds the lines of all of them, in order, but of the pops that came when nothing was pushed
(`Event.heeded`), and its numbers sum up these lines. Nothing else fails, and what fails changes
nothing (`summary_of_events`). -/

namespace LSystem

/-- The state after some events, each of which is dispatched also if one before it has failed. -/
def Consumer.dispatchAll {σ : Type} (c : Consumer σ) (st : σ) (evs : List Event) : σ :=
  evs.foldl (fun st ev => (c.dispatch st ev).1) st

namespace Event

/-- The lines that stand for an event. -/
def lines : Event → List Text
  | .push => ["push".toList]
  | .pop => ["pop".toList]
  | .call rule args =>
    ("prepare ".toList ++ rule.atom) ::
      if rule.hasAction then ["call ".toList ++ rule.atom ++ '<' :: Text.join [','] args ++ ['>']]
      else []

/-- Some events without the pops that come when nothing is pushed, after `depth` pushes that are
still open. -/
def heeded : (depth : Nat) → List Event → List Event
  | _, [] => []
  | depth, .push :: evs => .push :: heeded (depth + 1) evs
  | 0, .pop :: evs => heeded 0 evs
  | depth + 1, .pop :: evs => .pop :: heeded depth evs
  | depth, .call rule args :: evs => .call rule args :: heeded depth evs

end Event

namespace Trace

variable {t : Trace}

/-! ## One event -/

/-- An event fails only if it is a pop when nothing is pushed. -/
theorem dispatch_fails_iff (t : Trace) (ev : Event) :
    (consumer.dispatch t ev).2.isSome ↔ ev = .pop ∧ t.depth = 0 := by
  cases ev with
  | push => simp [dispatch_push]
  | pop =>
    by_cases h : t.depth = 0
    · simp [dispatch_pop_of_eq_zero h, h]
    · simp [dispatch_pop_of_ne_zero h, h]
  | call rule args => simp [dispatch_call]

/-- An event that does not fail is written down after what was there. -/
theorem lines_dispatch {ev : Event} (h : ¬(ev = .pop ∧ t.depth = 0)) :
    (consumer.dispatch t ev).1.lines.toList = t.lines.toList ++ ev.lines := by
  cases ev with
  | push => simp [dispatch_push, push, line, Event.lines]
  | pop =>
    have h : t.depth ≠ 0 := fun h0 => h ⟨rfl, h0⟩
    simp [dispatch_pop_of_ne_zero h, line, Event.lines]
  | call rule args =>
    rw [dispatch_call, Event.lines]
    split <;> simp [prepare, call, line]

/-! ## Events one after the other -/

theorem dispatchAll_cons (t : Trace) (ev : Event) (evs : List Event) :
    consumer.dispatchAll t (ev :: evs) =
      consumer.dispatchAll (consumer.dispatch t ev).1 evs := rfl

theorem lines_dispatchAll (t : Trace) (evs : List Event) :
    (consumer.dispatchAll t evs).lines.toList =
      t.lines.toList ++ (Event.heeded t.depth evs).flatMap Event.lines := by
  induction evs generalizing t with
  | nil => simp [Consumer.dispatchAll, Event.heeded]
  | cons ev evs ih =>
    rw [dispatchAll_cons, ih]
    cases ev with
    | push =>
      rw [lines_dispatch (by simp), Event.heeded, List.flatMap_cons, List.append_assoc]
      rfl
    | pop =>
      cases hd : t.depth with
      | zero => rw [dispatch_pop_of_eq_zero hd, hd, Event.heeded]
      | succ d =>
        have h : t.depth ≠ 0 := hd ▸ Nat.succ_ne_zero d
        rw [lines_dispatch fun h0 => h h0.2, Event.heeded, List.flatMap_cons, List.append_assoc,
          dispatch_pop_of_ne_zero h]
        simp only [hd, Nat.add_sub_cancel]
    | call rule args =>
      have hdepth : (consumer.dispatch t (.call rule args)).1.depth = t.depth := by
        rw [dispatch_call]
        split <;> rfl
      rw [lines_dispatch (by simp), hdepth, Event.heeded, List.flatMap_cons, List.append_assoc]

theorem Sums.dispatchAll (h : t.Sums) (evs : List Event) : (consumer.dispatchAll t evs).Sums := by
  induction evs generalizing t with
  | nil => exact h
  | cons ev evs ih => exact ih (h.dispatch ev)

/-- **A trace sums up its events.** After any events it holds the lines of those that it has heeded,
in order; its depth is the number of pushes without that of pops, its greatest depth the greatest
such number up to any line, and its calls are the lines of calls. The next event fails exactly if it
is a pop and the depth is zero, and then the trace stays as it is. -/
theorem summary_of_events (evs : List Event) :
    let t := consumer.dispatchAll {} evs
    t.lines.toList = (Event.heeded 0 evs).flatMap Event.lines ∧
    (t.depth : Int) = t.lines.toList.count "push".toList - t.lines.toList.count "pop".toList ∧
    IsGreatest (excess '' {lines | lines <+: t.lines.toList}) t.maxDepth ∧
    t.calls = t.lines.toList.countP isCall ∧
    ∀ ev, ((consumer.dispatch t ev).2.isSome ↔ ev = .pop ∧ t.depth = 0) ∧
      (consumer.dispatch t ev = (t, some (.config .emptyStack)) ↔ ev = .pop ∧ t.depth = 0) := by
  intro t
  have hsums : t.Sums := sums_empty.dispatchAll evs
  refine ⟨lines_dispatchAll {} evs, hsums.depth.symm, hsums.maxDepth, hsums.calls.symm,
    fun ev => ⟨dispatch_fails_iff t ev, fun h => ?_, ?_⟩⟩
  · rw [← dispatch_fails_iff t ev, h]
    rfl
  · rintro ⟨rfl, hd⟩
    exact dispatch_pop_of_eq_zero hd

-- The first and the last pop have no push.
example : consumer.dispatchAll {} [.pop, .push, .push, .pop, .pop, .pop] =
    { lines := #["push".toList, "push".toList, "pop".toList, "pop".toList], maxDepth := 2 } := by
  decide

end Trace

end LSystem
