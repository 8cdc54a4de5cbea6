import LSystem.Proofs.Execution.HookLog
import LSystem.Proofs.Execution.Replay
import LSystem.Trace

/-! # Streams that are cut

What is looked at of a stream can be limited, and the limit does not show in what is seen: the
events up to it, an error that comes before it, and what a consumer is told are those of any larger
limit (`limits_agree`). What stands past the limit is never reached, be it the rest of the command
(`take_streamWithin_append`) or further copies of a repeat block (`take_replay_of_le`). -/

namespace LSystem

namespace EventStream

variable {s : EventStream} {f f' : Unit → EventStream} {n n' limit : Nat}

theorem take_zero (s : EventStream) : s.take 0 = done := by
  cases s <;> rfl

theorem append_done (s : EventStream) : (s.append fun _ => done) = s := by
  induction s with
  | done => rfl
  | fail e => rfl
  | next ev rest ih =>
    rw [append]
    congr 1
    funext _
    exact ih ()

/-- What is left of the limit after the first stream is the limit of the second one. -/
theorem take_append (s : EventStream) (f : Unit → EventStream) (limit : Nat) :
    (s.append f).take limit =
      (s.take limit).append fun u => (f u).take (limit - s.events.length) := by
  induction s generalizing limit with
  | done => cases limit <;> rfl
  | fail e =>
    cases limit with
    | zero => simp only [take_zero, append, Nat.zero_sub]
    | succ limit => rfl
  | next ev rest ih =>
    cases limit with
    | zero => simp only [take_zero, append, Nat.zero_sub]
    | succ limit =>
      simp only [append, take_succ_next, events_next, List.length_cons, Nat.add_sub_add_right]
      congr 1
      funext _
      exact ih () limit

theorem take_append_of_le (h : limit ≤ s.events.length) (f : Unit → EventStream) :
    (s.append f).take limit = s.take limit := by
  rw [take_append, Nat.sub_eq_zero_of_le h]
  simp only [take_zero, append_done]

/-- Of copies that fill the limit it does not matter how many there are, nor what follows them. -/
theorem take_replay_of_le (h : limit ≤ n * s.events.length) (h' : limit ≤ n' * s.events.length)
    (f f' : Unit → EventStream) : (s.replay n f).take limit = (s.replay n' f').take limit := by
  induction n generalizing n' limit with
  | zero =>
    obtain rfl : limit = 0 := by omega
    rw [take_zero, take_zero]
  | succ n ih =>
    cases n' with
    | zero =>
      obtain rfl : limit = 0 := by omega
      rw [take_zero, take_zero]
    | succ n' =>
      rw [Nat.succ_mul] at h h'
      rw [replay_succ, replay_succ, take_append, take_append]
      congr 1
      funext _
      exact ih (by omega) (by omega)

end EventStream

namespace Grammar

open Text (Tight)

variable {g : Grammar} {p q q' content count count' e : Text} {n n' depth limit : Nat}

/-- A command without gaps hides what follows it, if it has enough events. -/
theorem take_streamWithin_append (hp : Tight p)
    (h : limit ≤ (g.streamWithin depth p).events.length) (q : Text) :
    (g.streamWithin depth (p ++ q)).take limit = (g.streamWithin depth p).take limit := by
  cases depth with
  | zero => rfl
  | succ depth => rw [streamWithin_append hp, EventStream.take_append_of_le h]

/-- Two repeat blocks with the same content are the same as far as the copies of both reach. -/
theorem take_streamWithin_block (hp : Tight p) (hb : (Token.block content count).Formed)
    (hb' : (Token.block content count').Formed) (hn : g.evaluator.count count = .ok n)
    (hn' : g.evaluator.count count' = .ok n') (he : g.expandOnce content = .ok e)
    (h : limit ≤ (g.streamWithin (depth + 1) p).events.length +
      n * (g.streamWithin depth e).events.length)
    (h' : limit ≤ (g.streamWithin (depth + 1) p).events.length +
      n' * (g.streamWithin depth e).events.length) (q q' : Text) :
    (g.streamWithin (depth + 1) (p ++ ((Token.block content count).text ++ q))).take limit =
      (g.streamWithin (depth + 1) (p ++ ((Token.block content count').text ++ q'))).take limit := by
  rw [streamWithin_append hp, streamWithin_append hp, streamWithin_block_append hb hn (.inr he),
    streamWithin_block_append hb' hn' (.inr he), EventStream.take_append, EventStream.take_append]
  congr 1
  funext _
  exact EventStream.take_replay_of_le (Nat.sub_le_iff_le_add'.2 h) (Nat.sub_le_iff_le_add'.2 h') _ _

/-- What a consumer is told of the first events of a command, against the execution of the
command. -/
structure ToldUpTo {σ : Type} (g : Grammar) (c : Consumer σ) (st : σ) (command : Text)
    (limit : Nat) : Prop where
  /-- The log holds the hooks of the events that are delivered, up to one that fails; it changes
  nothing of what the consumer does. -/
  log : ∃ log, c.logged.run (st, []) ((g.stream command).take limit) =
      ⟨((c.run st ((g.stream command).take limit)).state, log),
        (c.run st ((g.stream command).take limit)).consumed,
        (c.run st ((g.stream command).take limit)).error?⟩ ∧
    LogOf ((g.stream command).take limit).events
      (c.run st ((g.stream command).take limit)).consumed log
  /-- An execution that stops earlier is not affected. -/
  short : (g.execute c st command).consumed < limit →
    c.logged.run (st, []) ((g.stream command).take limit) = g.execute c.logged (st, []) command
  /-- One that goes on is stopped without an error, and its log is cut there. -/
  long : limit ≤ (g.execute c st command).consumed →
    (c.logged.run (st, []) ((g.stream command).take limit)).error? = none ∧
    (c.logged.run (st, []) ((g.stream command).take limit)).state.2 =
      ((g.stream command).events.take limit).flatMap Event.hooks ∧
    (c.logged.run (st, []) ((g.stream command).take limit)).state.2 <+:
      (g.execute c.logged (st, []) command).state.2

theorem toldUpTo {σ : Type} (g : Grammar) (c : Consumer σ) (st : σ) (command : Text)
    (limit : Nat) : g.ToldUpTo c st command limit := by
  obtain ⟨hshort, hlong⟩ := c.run_take_logged st (g.stream command) limit
  exact ⟨c.run_logged st _, hshort, hlong⟩

/-- A stream that is cut earlier has the first events of one that is cut later, and its error if
that comes before the limit; a consumer is told of these events only; and neither the rest of the
command nor copies of a repeat block matter that come after the limit, however many they are. -/
theorem limits_agree (g : Grammar) (limit limit' : Nat) (h : limit ≤ limit') :
    (∀ depth command,
      ((g.streamWithin depth command).take limit).events =
        ((g.streamWithin depth command).take limit').events.take limit ∧
      ∀ e, ((g.streamWithin depth command).take limit).error? = some e ↔
        ((g.streamWithin depth command).take limit').error? = some e ∧
        ((g.streamWithin depth command).take limit').events.length < limit) ∧
    (∀ (σ : Type) (c : Consumer σ) (st : σ) (command : Text), g.ToldUpTo c st command limit) ∧
    (∀ depth p q, Tight p → limit ≤ (g.streamWithin depth p).events.length →
      (g.streamWithin depth (p ++ q)).take limit = (g.streamWithin depth p).take limit ∧
      ((g.streamWithin depth p).take limit).error? = none) ∧
    (∀ depth p content count count' e n n' q q', Tight p →
      (Token.block content count).Formed → (Token.block content count').Formed →
      g.evaluator.count count = .ok n → g.evaluator.count count' = .ok n' →
      g.expandOnce content = .ok e →
      limit ≤ (g.streamWithin (depth + 1) p).events.length +
        n * (g.streamWithin depth e).events.length →
      limit ≤ (g.streamWithin (depth + 1) p).events.length +
        n' * (g.streamWithin depth e).events.length →
      (g.streamWithin (depth + 1) (p ++ ((Token.block content count).text ++ q))).take limit =
        (g.streamWithin (depth + 1) (p ++ ((Token.block content count').text ++ q'))).take
          limit) := by
  refine ⟨fun depth command => ⟨?_, fun e => ?_⟩,
    fun σ c st command => g.toldUpTo c st command limit,
    fun depth p q hp hl => ⟨take_streamWithin_append hp hl q, ?_⟩,
    fun depth p content count count' e n n' q q' hp hb hb' hn hn' he hl hl' =>
      take_streamWithin_block hp hb hb' hn hn' he hl hl' q q'⟩
  · rw [EventStream.events_take, EventStream.events_take, List.take_take, Nat.min_eq_left h]
  · rw [EventStream.error?_take, EventStream.error?_take, EventStream.events_take,
      List.length_take]
    constructor
    · intro he
      split at he
      · next hl =>
        rw [if_pos (Nat.lt_of_lt_of_le hl h)]
        exact ⟨he, Nat.lt_of_le_of_lt (Nat.min_le_right ..) hl⟩
      · cases he
    · rintro ⟨he, hl⟩
      split at he
      · next hl' =>
        rw [Nat.min_eq_right (Nat.le_of_lt hl')] at hl
        rw [if_pos hl, he]
      · cases he
  · rw [EventStream.error?_take, if_neg (Nat.not_lt.2 hl)]

/-- The copies are too many to be counted through, and what follows them cannot be executed. -/
theorem limits_agree_sprouting :
    ((sprouting.stream "[{A<1>}(10**12)Z<>".toList).take 2).events = [.push, .push] ∧
      sprouting.ToldUpTo Trace.consumer {} "[{A<1>}(10**12)Z<>".toList 2 ∧
      (sprouting.stream "[{A<1>}(10**12)Z<>".toList).take 2 =
        (sprouting.stream "[{A<1>}(1)".toList).take 2 := by
  have hv : ((sprouting.stream "[{A<1>}(10**12)Z<>".toList).take 4).events =
      [.push, .push, .call brancher [['0']], .pop] := by decide +kernel
  obtain ⟨hs, hc, -, hb⟩ := limits_agree sprouting 2 4 (by decide)
  refine ⟨?_, hc Trace Trace.consumer {} _, ?_⟩
  · rw [stream, (hs nestingLimit _).1, ← stream, hv]
    rfl
  · have hf (n : Text)
        (hn : Token.block "A<1>".toList n ∈ tokenize ("{A<1>}(".toList ++ n ++ [')'])) :=
      formed_of_mem_tokenize hn
    have he : sprouting.expandOnce "A<1>".toList = .ok "[A<0>]A<0>".toList := by decide +kernel
    have hp : (sprouting.streamWithin 1000 ['[']).events.length = 1 := by decide +kernel
    have hc : (sprouting.streamWithin 999 "[A<0>]A<0>".toList).events.length = 4 := by
      decide +kernel
    exact hb 999 ['['] "A<1>".toList "10**12".toList "1".toList _ (10 ^ 12) 1 "Z<>".toList []
      (by decide) (hf _ (by decide)) (hf _ (by decide)) (by decide +kernel) (by decide +kernel) he
      (by rw [hp, hc]; decide) (by rw [hp, hc]; decide)

end Grammar

end LSystem
