import LSystem.Trace
import Mathlib.Data.Set.Image
import Mathlib.Order.Bounds.Basic

/-! # What a trace sums up

The numbers that a trace keeps are sums over its lines: its depth is the excess of pushes over pops,
its greatest depth is the greatest excess up to any line, and its calls are the lines of calls. This
is an invariant of every hook (`Sums`), so it holds after any events, also if some of them fail
(`Sums.runFrom`). Every event that is consumed writes one line that is not the one of a call. -/

namespace LSystem.Trace

/-- How many more pushes than pops are among some lines. -/
def excess (lines : List Text) : Int :=
  lines.count "push".toList - lines.count "pop".toList

/-- Whether a line is one with which the record of an event starts. -/
def startsEvent (line : Text) : Bool :=
  line == "push".toList || line == "pop".toList || "prepare ".toList.isPrefixOf line

/-- Whether a line is the one of a call. -/
def isCall (line : Text) : Bool := "call ".toList.isPrefixOf line

/-- The numbers of a trace are sums over its lines. -/
structure Sums (t : Trace) : Prop where
  depth : excess t.lines.toList = t.depth
  /-- The greatest excess up to any line, the place before the first one included. -/
  maxDepth : IsGreatest (excess '' {lines | lines <+: t.lines.toList}) t.maxDepth
  calls : t.lines.toList.countP isCall = t.calls

/-- The number of events that a trace has recorded. -/
def recorded (t : Trace) : Nat := t.lines.toList.countP startsEvent

variable {t t' : Trace} {line : Text}

theorem excess_append_singleton (lines : List Text) (line : Text) :
    excess (lines ++ [line]) = excess lines + excess [line] := by
  simp only [excess, List.count_append]
  omega

/-! ## One event -/

theorem dispatch_push (t : Trace) : consumer.dispatch t .push = (t.push, none) := rfl

theorem dispatch_pop_of_eq_zero (h : t.depth = 0) :
    consumer.dispatch t .pop = (t, some (.config .emptyStack)) := by
  have hp : t.pop = .error (.config .emptyStack) := by rw [pop, if_pos h]
  simp only [Consumer.dispatch, consumer, hp, Consumer.settle]

theorem dispatch_pop_of_ne_zero (h : t.depth ≠ 0) : consumer.dispatch t .pop =
    ({ t.line "pop".toList with depth := t.depth - 1 }, none) := by
  have hp : t.pop = .ok { t.line "pop".toList with depth := t.depth - 1 } := by rw [pop, if_neg h]
  simp only [Consumer.dispatch, consumer, hp, Consumer.settle]

theorem dispatch_call (t : Trace) (rule : Rule) (args : List Text) :
    consumer.dispatch t (.call rule args) =
      (if rule.hasAction then (t.prepare rule.atom).call rule.atom args else t.prepare rule.atom,
        none) := by
  simp only [Consumer.dispatch, consumer, Consumer.settle]
  split <;> rfl

/-! ## One line -/

theorem Sums.depth_le (h : t.Sums) : t.depth ≤ t.maxDepth := by
  have := h.maxDepth.2 ⟨t.lines.toList, List.prefix_rfl, h.depth⟩
  exact Int.ofNat_le.1 this

/-- A line is summed up if the depth follows its excess, and the greatest depth the depth. -/
theorem Sums.append (h : t.Sums) (hl : t'.lines = t.lines.push line)
    (hd : (t'.depth : Int) = t.depth + excess [line])
    (hm : t'.maxDepth = max t'.depth t.maxDepth)
    (hc : t'.calls = t.calls + [line].countP isCall) : t'.Sums := by
  have hlines : t'.lines.toList = t.lines.toList ++ [line] := by rw [hl, Array.toList_push]
  have hdepth : excess t'.lines.toList = t'.depth := by
    rw [hlines, excess_append_singleton, h.depth, hd]
  refine ⟨hdepth, ?_, ?_⟩
  · have hp : {lines | lines <+: t'.lines.toList} =
        insert t'.lines.toList {lines | lines <+: t.lines.toList} := by
      ext lines
      rw [hlines]
      exact List.prefix_concat_iff
    have hmax : (t'.maxDepth : Int) = max (t'.depth : Int) t.maxDepth := by omega
    rw [hp, Set.image_insert_eq, hdepth, hmax]
    exact h.maxDepth.insert _
  · rw [hlines, List.countP_append, h.calls, hc]

theorem recorded_append (hl : t'.lines = t.lines.push line) :
    t'.recorded = t.recorded + [line].countP startsEvent := by
  rw [recorded, hl, Array.toList_push, List.countP_append, recorded]

theorem sums_empty : Sums {} := by
  refine ⟨rfl, ⟨⟨[], List.prefix_rfl, rfl⟩, ?_⟩, rfl⟩
  rintro _ ⟨lines, hp, rfl⟩
  rw [List.prefix_nil.1 hp]
  rfl

/-! ## Hooks -/

theorem Sums.push (h : t.Sums) : t.push.Sums :=
  h.append rfl rfl (Nat.max_comm ..) rfl

theorem Sums.pop (h : t.Sums) (hd : t.depth ≠ 0) :
    Sums { t.line "pop".toList with depth := t.depth - 1 } := by
  have hle := h.depth_le
  refine h.append rfl ?_ (Nat.max_eq_right ?_).symm rfl
  · have : excess ["pop".toList] = -1 := rfl
    simp only [this]
    omega
  · exact Nat.le_trans (Nat.sub_le ..) hle

theorem Sums.prepare (h : t.Sums) (atom : Text) : (t.prepare atom).Sums :=
  h.append rfl (Int.add_zero _).symm (Nat.max_eq_right h.depth_le).symm rfl

theorem Sums.call (h : t.Sums) (atom : Text) (args : List Text) : (t.call atom args).Sums :=
  h.append rfl (Int.add_zero _).symm (Nat.max_eq_right h.depth_le).symm rfl

/-! ## Events -/

/-- After an event, also if it fails, the numbers are still sums over the lines. -/
theorem Sums.dispatch (h : t.Sums) (ev : Event) : (consumer.dispatch t ev).1.Sums := by
  cases ev with
  | push => exact h.push
  | pop =>
    by_cases hd : t.depth = 0
    · rw [dispatch_pop_of_eq_zero hd]
      exact h
    · rw [dispatch_pop_of_ne_zero hd]
      exact h.pop hd
  | call rule args =>
    rw [dispatch_call]
    split
    · exact (h.prepare rule.atom).call rule.atom args
    · exact h.prepare rule.atom

@[simp] theorem recorded_push (t : Trace) : t.push.recorded = t.recorded + 1 := by
  have h : t.push.lines = t.lines.push "push".toList := rfl
  exact recorded_append h

@[simp] theorem recorded_prepare (t : Trace) (atom : Text) :
    (t.prepare atom).recorded = t.recorded + 1 := by
  have h : (t.prepare atom).lines = t.lines.push ("prepare ".toList ++ atom) := rfl
  exact recorded_append h

@[simp] theorem recorded_call (t : Trace) (atom : Text) (args : List Text) :
    (t.call atom args).recorded = t.recorded := by
  have h : (t.call atom args).lines =
      t.lines.push ("call ".toList ++ atom ++ '<' :: Text.join [','] args ++ ['>']) := rfl
  exact recorded_append h

/-- An event that does not fail is recorded. -/
theorem recorded_dispatch {ev : Event} (h : consumer.dispatch t ev = (t', none)) :
    t'.recorded = t.recorded + 1 := by
  cases ev with
  | push =>
    cases h
    exact t.recorded_push
  | pop =>
    by_cases hd : t.depth = 0
    · rw [dispatch_pop_of_eq_zero hd] at h
      cases h
    · rw [dispatch_pop_of_ne_zero hd] at h
      cases h
      have hl : (t.line "pop".toList).lines = t.lines.push "pop".toList := rfl
      exact recorded_append hl
  | call rule args =>
    rw [dispatch_call] at h
    cases h
    split
    · exact (recorded_call ..).trans (t.recorded_prepare rule.atom)
    · exact t.recorded_prepare rule.atom

/-- An event that fails leaves the trace as it is. -/
theorem dispatch_of_error {ev : Event} {e : Error} (h : consumer.dispatch t ev = (t', some e)) :
    t' = t := by
  cases ev with
  | push => cases h
  | pop =>
    by_cases hd : t.depth = 0
    · rw [dispatch_pop_of_eq_zero hd] at h
      cases h
      rfl
    · rw [dispatch_pop_of_ne_zero hd] at h
      cases h
  | call rule args =>
    rw [dispatch_call] at h
    cases h

/-! ## Runs -/

/-- A run keeps the sums, and records the events that it consumes. -/
theorem Sums.runFrom (h : t.Sums) (n : Nat) (s : EventStream) :
    (consumer.runFrom n t s).state.Sums ∧
      (consumer.runFrom n t s).consumed + t.recorded =
        n + (consumer.runFrom n t s).state.recorded := by
  induction s generalizing t n with
  | done => exact ⟨h, rfl⟩
  | fail e => exact ⟨h, rfl⟩
  | next ev rest ih =>
    have hd := h.dispatch ev
    rw [Consumer.runFrom]
    cases h' : consumer.dispatch t ev with
    | mk t' failed =>
      rw [h'] at hd
      cases failed with
      | some e =>
        rw [dispatch_of_error h']
        exact ⟨h, rfl⟩
      | none =>
        obtain ⟨hs, hc⟩ := ih () hd (n + 1)
        have hr := recorded_dispatch h'
        exact ⟨hs, by simp only at hc ⊢; omega⟩

end LSystem.Trace
