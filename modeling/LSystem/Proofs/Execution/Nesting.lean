import LSystem.EventStream
import LSystem.Proofs.Result

/-! # Streams and the bound on their nesting

The order `Upto e` continues a stream where it was stopped by the error `e`, and changes nothing
else. The stream of a command is computed for a bound on the nesting of repeat blocks, and a larger
bound continues it where a smaller one gave up (`streamWithin_upto`). What a command delivers with
enough nesting does not depend on the bound; `Delivers` says what that is, for a stream cut after
some number of events.

`append` is associative, and the stream of a list of tokens is the one of its parts
(`streamOf_append`). -/

namespace LSystem

namespace EventStream

variable {e : Error} {s s' t : EventStream} {f f' h : Unit → EventStream} {n : Nat}

/-! ## Appending and replaying -/

theorem append_assoc (s : EventStream) (f h : Unit → EventStream) :
    (s.append f).append h = s.append fun u => (f u).append h := by
  induction s with
  | done => rfl
  | fail e => rfl
  | next ev rest ih =>
    simp only [append]
    congr 1
    funext u
    exact ih u

theorem replay_done (n : Nat) (f : Unit → EventStream) : done.replay n f = f () := by
  cases n <;> rfl

theorem replay_succ (n : Nat) (s : EventStream) (f : Unit → EventStream) :
    s.replay (n + 1) f = s.append fun _ => s.replay n f := by
  cases s with
  | done => exact (replay_done n f).symm
  | fail e => rfl
  | next ev rest => rfl

theorem replay_append (n : Nat) (s : EventStream) (f h : Unit → EventStream) :
    (s.replay n f).append h = s.replay n fun u => (f u).append h := by
  induction n with
  | zero => rfl
  | succ n ih =>
    rw [replay_succ, replay_succ, append_assoc]
    congr 1
    funext _
    exact ih

theorem take_succ_next (n : Nat) (ev : Event) (rest : Unit → EventStream) :
    (next ev rest).take (n + 1) = next ev fun _ => (rest ()).take n := by
  cases n with
  | zero => simp [take]
  | succ n => simp [take]

theorem collect_eq (s : EventStream) (found : List Event) :
    s.collect found = (found.reverse ++ s.events, s.error?) := by
  induction s generalizing found with
  | done => simp [collect, events, error?]
  | fail e => simp [collect, events, error?]
  | next ev rest ih =>
    rw [events, error?, collect, collect, ih, ih () [ev]]
    simp

@[simp] theorem error?_next (ev : Event) (rest : Unit → EventStream) :
    (next ev rest).error? = (rest ()).error? := by
  rw [error?, collect, collect_eq]

/-! ## The order of streams -/

/-- The second stream is the first one, continued if that was stopped by the error `e`. -/
inductive Upto (e : Error) : EventStream → EventStream → Prop where
  | done : Upto e .done .done
  | fail {e' : Error} : Upto e (.fail e') (.fail e')
  | cut {s : EventStream} : Upto e (.fail e) s
  | next {ev : Event} {f f' : Unit → EventStream} : Upto e (f ()) (f' ()) →
    Upto e (.next ev f) (.next ev f')

namespace Upto

theorem refl (s : EventStream) : Upto e s s := by
  induction s with
  | done => exact .done
  | fail e => exact .fail
  | next ev rest ih => exact .next (ih ())

theorem trans (h : Upto e s s') (h' : Upto e s' t) : Upto e s t := by
  induction h generalizing t with
  | done => exact h'
  | fail => exact h'
  | cut => exact .cut
  | next _ ih =>
    cases h' with
    | next h' => exact .next (ih h')

theorem append (hs : Upto e s s') (hf : Upto e (f ()) (f' ())) :
    Upto e (s.append f) (s'.append f') := by
  induction hs with
  | done => exact hf
  | fail => exact .fail
  | cut => exact .cut
  | next _ ih => exact .next ih

theorem replay (hs : Upto e s s') (hf : Upto e (f ()) (f' ())) (n : Nat) :
    Upto e (s.replay n f) (s'.replay n f') := by
  induction n with
  | zero => exact hf
  | succ n ih =>
    rw [replay_succ, replay_succ]
    exact hs.append ih

theorem take (hs : Upto e s s') (n : Nat) : Upto e (s.take n) (s'.take n) := by
  induction hs generalizing n with
  | done => exact refl _
  | fail => exact refl _
  | cut =>
    cases n with
    | zero => exact .done
    | succ n => exact .cut
  | next _ ih =>
    cases n with
    | zero => exact .done
    | succ n =>
      rw [take_succ_next, take_succ_next]
      exact .next (ih n)

/-- A stream that was not stopped by the error is not changed. -/
theorem eq_of_error? (hs : Upto e s s') (h : s.error? ≠ some e) : s = s' := by
  induction hs with
  | done => rfl
  | fail => rfl
  | cut => exact absurd rfl h
  | next _ ih =>
    rw [error?_next] at h
    congr 1
    funext _
    exact ih h

end Upto

end EventStream

namespace Grammar

open EventStream (Upto)

variable {g : Grammar}

theorem streamOf_append (replayed : Text → EventStream) (ts us : List Token) :
    g.streamOf replayed (ts ++ us) =
      (g.streamOf replayed ts).append fun _ => g.streamOf replayed us := by
  induction ts with
  | nil => rfl
  | cons t ts ih =>
    cases t with
    | push => simp only [List.cons_append, streamOf, EventStream.append, ih]
    | pop => simp only [List.cons_append, streamOf, EventStream.append, ih]
    | block content count =>
      simp only [List.cons_append, streamOf]
      cases g.evaluator.count count with
      | error e => rfl
      | ok n =>
        cases n with
        | zero => exact ih
        | succ n =>
          simp only
          cases g.expandOnce content with
          | error e => rfl
          | ok s =>
            simp only [ih]
            exact (EventStream.replay_append ..).symm
    | call atom arguments =>
      simp only [List.cons_append, streamOf]
      cases g.invoke atom arguments with
      | error e => rfl
      | ok ev => simp only [EventStream.append, ih]

/-- Streams of the same tokens differ only by what their parts differ. -/
theorem streamOf_upto {e : Error} {g' : Grammar} {replayed replayed' : Text → EventStream}
    (hv : g'.evaluator = g.evaluator) (he : ∀ s, Unless e (g.expandOnce s) (g'.expandOnce s))
    (hi : ∀ atom arguments, Unless e (g.invoke atom arguments) (g'.invoke atom arguments))
    (h : ∀ s, Upto e (replayed s) (replayed' s)) (ts : List Token) :
    Upto e (g.streamOf replayed ts) (g'.streamOf replayed' ts) := by
  induction ts with
  | nil => exact .done
  | cons t ts ih =>
    cases t with
    | push => exact .next ih
    | pop => exact .next ih
    | block content count =>
      simp only [streamOf, hv]
      cases g.evaluator.count count with
      | error e => exact .fail
      | ok n =>
        cases n with
        | zero => exact ih
        | succ n =>
          simp only
          obtain he | he := he content
          · rw [he]
            exact .cut
          · rw [he]
            cases g.expandOnce content with
            | error e => exact .fail
            | ok s => exact (h s).replay ih _
    | call atom arguments =>
      simp only [streamOf]
      obtain hi | hi := hi atom arguments
      · rw [hi]
        exact .cut
      · rw [hi]
        cases g.invoke atom arguments with
        | error e => exact .fail
        | ok ev => exact .next ih

/-- One more level of nesting only continues a stream. -/
theorem streamWithin_upto (g : Grammar) (depth : Nat) (command : Text) :
    Upto .endlessNesting (g.streamWithin depth command) (g.streamWithin (depth + 1) command) := by
  induction depth generalizing command with
  | zero => exact .cut
  | succ depth ih => exact streamOf_upto rfl (fun _ => .refl _ _) (fun _ _ => .refl _ _) ih _

theorem streamWithin_upto_of_le (g : Grammar) (command : Text) {depth depth' : Nat}
    (h : depth ≤ depth') :
    Upto .endlessNesting (g.streamWithin depth command) (g.streamWithin depth' command) := by
  induction h with
  | refl => exact .refl _
  | step _ ih => exact ih.trans (streamWithin_upto g _ command)

/-- With enough nesting, the first `limit` events of a command are `events`, and `ending` is the
error that stops them. If there is none, the stream ends there or goes on behind the limit. -/
def Delivers (g : Grammar) (command : Text) (limit : Nat) (events : List Event)
    (ending : Option Error) : Prop :=
  ending ≠ some .endlessNesting ∧
    ∃ depth, ((g.streamWithin depth command).take limit).collect [] = (events, ending)

/-- A command delivers what another one does whose streams are continued by its own. -/
theorem Delivers.of_upto {command command' : Text} {limit : Nat} {events : List Event}
    {ending : Option Error} (h : g.Delivers command limit events ending)
    (hs : ∀ depth, ∃ depth', Upto .endlessNesting (g.streamWithin depth command)
      (g.streamWithin depth' command')) :
    g.Delivers command' limit events ending := by
  obtain ⟨hne, depth, h⟩ := h
  obtain ⟨depth', hd⟩ := hs depth
  refine ⟨hne, depth', ?_⟩
  rw [← h, (hd.take limit).eq_of_error?]
  rw [EventStream.collect_eq] at h
  cases h
  exact hne

/-- What a command delivers is determined by the limit. -/
theorem Delivers.unique {command : Text} {limit : Nat} {events events' : List Event}
    {ending ending' : Option Error} (h : g.Delivers command limit events ending)
    (h' : g.Delivers command limit events' ending') : events = events' ∧ ending = ending' := by
  obtain ⟨hne, depth, h⟩ := h
  obtain ⟨hne', depth', h'⟩ := h'
  have agree {d d' : Nat} {out out' : List Event × Option Error} (hd : d ≤ d')
      (ho : out.2 ≠ some .endlessNesting)
      (h : ((g.streamWithin d command).take limit).collect [] = out)
      (h' : ((g.streamWithin d' command).take limit).collect [] = out') : out = out' := by
    rw [← h, ← h', ((streamWithin_upto_of_le g command hd).take limit).eq_of_error?]
    rwa [← h, EventStream.collect_eq] at ho
  obtain hd | hd := Nat.le_total depth depth'
  · exact Prod.mk.inj (agree hd hne h h')
  · exact (Prod.mk.inj (agree hd hne' h' h)).imp Eq.symm Eq.symm

end Grammar

end LSystem
