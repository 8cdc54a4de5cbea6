import LSystem.Proofs.Execution.Nesting

/-! # The events of streams

What `append`, `replay` and `take` do to the events of a stream and to the error at its end. A
stream that fails hides what would come after it. -/

namespace LSystem.EventStream

variable {s : EventStream} {f : Unit → EventStream} {n : Nat}

@[simp] theorem events_done : done.events = [] := rfl

@[simp] theorem error?_done : done.error? = none := rfl

@[simp] theorem events_fail (e : Error) : (fail e).events = [] := rfl

@[simp] theorem error?_fail (e : Error) : (fail e).error? = some e := rfl

@[simp] theorem events_next (ev : Event) (rest : Unit → EventStream) :
    (next ev rest).events = ev :: (rest ()).events := by
  rw [events, collect, collect_eq]
  rfl

theorem error?_append (s : EventStream) (f : Unit → EventStream) :
    (s.append f).error? = s.error?.or (f ()).error? := by
  induction s with
  | done => rfl
  | fail e => rfl
  | next ev rest ih => rw [append, error?_next, error?_next, ih]

theorem events_append (h : s.error? = none) (f : Unit → EventStream) :
    (s.append f).events = s.events ++ (f ()).events := by
  induction s with
  | done => rfl
  | fail e => cases h
  | next ev rest ih =>
    rw [error?_next] at h
    rw [append, events_next, events_next, ih _ h, List.cons_append]

theorem events_append_of_error? {e : Error} (h : s.error? = some e) (f : Unit → EventStream) :
    (s.append f).events = s.events := by
  induction s with
  | done => cases h
  | fail e => rfl
  | next ev rest ih =>
    rw [error?_next] at h
    rw [append, events_next, events_next, ih _ h]

theorem error?_replay (h : s.error? = none) (n : Nat) (f : Unit → EventStream) :
    (s.replay n f).error? = (f ()).error? := by
  induction n with
  | zero => rfl
  | succ n ih => rw [replay_succ, error?_append, h, ih, Option.none_or]

theorem events_replay (h : s.error? = none) (n : Nat) (f : Unit → EventStream) :
    (s.replay n f).events = (List.replicate n s.events).flatten ++ (f ()).events := by
  induction n with
  | zero => rfl
  | succ n ih =>
    rw [replay_succ, events_append h, ih, List.replicate_succ, List.flatten_cons,
      List.append_assoc]

theorem events_take (s : EventStream) (n : Nat) : (s.take n).events = s.events.take n := by
  induction s generalizing n with
  | done => cases n <;> rfl
  | fail e => cases n <;> rfl
  | next ev rest ih =>
    cases n with
    | zero => rfl
    | succ n => rw [take_succ_next, events_next, events_next, List.take_succ_cons, ih]

/-- The error at the end is seen if there are fewer events before it than are looked at. -/
theorem error?_take (s : EventStream) (n : Nat) :
    (s.take n).error? = if s.events.length < n then s.error? else none := by
  induction s generalizing n with
  | done => cases n <;> simp [take]
  | fail e => cases n <;> simp [take]
  | next ev rest ih =>
    cases n with
    | zero => rfl
    | succ n => simp only [take_succ_next, error?_next, events_next, List.length_cons, ih,
        Nat.add_lt_add_iff_right]

/-! ## Errors at the end -/

/-- If there is an error at the end of a stream, it satisfies `P`. -/
def FailsOnly (P : Error → Prop) (s : EventStream) : Prop := ∀ e, s.error? = some e → P e

variable {P : Error → Prop}

@[simp] theorem failsOnly_done : done.FailsOnly P := nofun

@[simp] theorem failsOnly_fail {e : Error} : (fail e).FailsOnly P ↔ P e :=
  ⟨fun h => h e rfl, fun h _ he => Option.some.inj he ▸ h⟩

@[simp] theorem failsOnly_next {ev : Event} : (next ev f).FailsOnly P ↔ (f ()).FailsOnly P := by
  rw [FailsOnly, error?_next]
  rfl

theorem FailsOnly.append (hs : s.FailsOnly P) (hf : (f ()).FailsOnly P) :
    (s.append f).FailsOnly P := by
  intro e he
  rw [error?_append, Option.or_eq_some_iff] at he
  rcases he with he | ⟨-, he⟩
  · exact hs e he
  · exact hf e he

theorem FailsOnly.replay (hs : s.FailsOnly P) (hf : (f ()).FailsOnly P) (n : Nat) :
    (s.replay n f).FailsOnly P := by
  induction n with
  | zero => exact hf
  | succ n ih =>
    rw [replay_succ]
    exact hs.append ih

theorem FailsOnly.take (hs : s.FailsOnly P) (n : Nat) : (s.take n).FailsOnly P := by
  intro e he
  rw [error?_take] at he
  split at he
  · exact hs e he
  · cases he

end LSystem.EventStream
