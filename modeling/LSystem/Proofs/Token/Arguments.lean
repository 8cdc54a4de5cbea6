import Mathlib.Data.List.Basic
import LSystem.Proofs.Token.Tight

/-! # Argument lists with brackets

An argument list is cut at its commas before anything is known of brackets. So an expression is one
argument of a call if it has no comma, and otherwise it is cut inside of its brackets: the first
piece leaves one of them open, and the last piece closes one that it does not open
(`tokenize_call_bracketed`). -/

namespace LSystem

open Token (Balanced balanced_of_not_mem)

namespace Text

variable {e p q : Text}

/-- Brackets of one kind, round or square, are opened more often than they are closed. -/
def LeavesOpen (s : Text) : Prop := s.count ')' < s.count '(' ∨ s.count ']' < s.count '['

/-- Brackets of one kind, round or square, are closed more often than they are opened. -/
def ClosesMore (s : Text) : Prop := s.count '(' < s.count ')' ∨ s.count '[' < s.count ']'

/-- Round and square brackets are balanced, and all commas stand inside of them. -/
structure Bracketed (e : Text) : Prop where
  round : Balanced '(' ')' e
  square : Balanced '[' ']' e
  commas : ∀ p q, e = p ++ ',' :: q → LeavesOpen p

theorem LeavesOpen.ne_nil (h : LeavesOpen p) : p ≠ [] := by
  rintro rfl
  simp [LeavesOpen] at h

theorem ClosesMore.ne_nil (h : ClosesMore p) : p ≠ [] := by
  rintro rfl
  simp [ClosesMore] at h

/-- What is open at a comma is closed behind it. -/
theorem Bracketed.closesMore (h : Bracketed e) (he : e = p ++ ',' :: q) : ClosesMore q := by
  have hr := h.round.closed
  have hs := h.square.closed
  have hp := h.commas p q he
  subst he
  simp only [List.count_append, List.count_cons, Char.reduceBEq, Bool.false_eq_true, if_false,
    Nat.add_zero] at hr hs
  rcases hp with hp | hp
  · left
    omega
  · right
    omega

end Text

open Text (Bracketed LeavesOpen ClosesMore)

variable {atom e s t : Text}

theorem splitArguments_append_cons (s t : Text) :
    splitArguments (s ++ ',' :: t) = splitArguments s ++ splitArguments t := by
  simp only [splitArguments, Text.pieces, List.splitOn_append_cons_self, List.filter_append]

theorem splitArguments_of_not_mem (hne : e ≠ []) (h : ',' ∉ e) : splitArguments e = [e] := by
  simp [splitArguments, Text.pieces, List.splitOn_eq_singleton h, hne]

/-- The text in front of the first comma and the text behind the last one. -/
theorem ends_of_comma_mem (h : ',' ∈ e) :
    ∃ first last, ',' ∉ first ∧ ',' ∉ last ∧
      (e = first ++ ',' :: last ∨ ∃ mid, e = first ++ ',' :: (mid ++ ',' :: last)) := by
  obtain ⟨first, rest, rfl, hf⟩ := List.eq_append_cons_of_mem h
  by_cases hr : ',' ∈ rest
  · obtain ⟨back, front, hrev, hb⟩ := List.eq_append_cons_of_mem (List.mem_reverse.2 hr)
    have hrest : rest = front.reverse ++ ',' :: back.reverse := by
      rw [← List.reverse_reverse rest, hrev]
      simp
    refine ⟨first, back.reverse, hf, fun hm => hb (List.mem_reverse.1 hm), .inr ⟨front.reverse, ?_⟩⟩
    rw [hrest]
  · exact ⟨first, rest, hf, hr, .inl rfl⟩

/-- A bracketed text with a comma is cut inside of its brackets. -/
theorem Text.Bracketed.splitArguments (he : Bracketed e) (h : ',' ∈ e) :
    ∃ first others last, splitArguments e = first :: (others ++ [last]) ∧
      LeavesOpen first ∧ ClosesMore last := by
  obtain ⟨first, last, hf, hl, hcut⟩ := ends_of_comma_mem h
  have one {p : Text} (hne : p ≠ []) (hp : ',' ∉ p) : LSystem.splitArguments p = [p] :=
    splitArguments_of_not_mem hne hp
  obtain rfl | ⟨mid, rfl⟩ := hcut
  · have hopen : LeavesOpen first := he.commas first last rfl
    have hclose : ClosesMore last := he.closesMore rfl
    refine ⟨first, [], last, ?_, hopen, hclose⟩
    rw [splitArguments_append_cons, one hopen.ne_nil hf, one hclose.ne_nil hl]
    rfl
  · have hopen : LeavesOpen first := he.commas first _ rfl
    have hclose : ClosesMore last :=
      he.closesMore (p := first ++ ',' :: mid) (by rw [List.append_assoc, List.cons_append])
    refine ⟨first, LSystem.splitArguments mid, last, ?_, hopen, hclose⟩
    rw [splitArguments_append_cons, splitArguments_append_cons, one hopen.ne_nil hf,
      one hclose.ne_nil hl]
    rfl

/-- A word in front of an expression between angle brackets is a single call. The expression is its
only argument if it has no comma. Else the call has at least two arguments, of which the first one
leaves a bracket open and the last one closes a bracket that it does not open. -/
theorem tokenize_call_bracketed (hne : atom ≠ []) (hword : ∀ c ∈ atom, Text.isWord c)
    (hangle : '>' ∉ e) (hline : '\n' ∉ e) (hexpr : e ≠ []) (he : Bracketed e) :
    tokenize (atom ++ '<' :: (e ++ ['>'])) = [.call atom e] ∧
    (',' ∉ e → splitArguments e = [e]) ∧
    (',' ∈ e → ∃ first others last, splitArguments e = first :: (others ++ [last]) ∧
      LeavesOpen first ∧ ClosesMore last) := by
  have hf : (Token.call atom e).Formed := .call hne hword hangle hline
  have ht : tokenize (Token.call atom e).text = [.call atom e] := hf.tokenize
  refine ⟨?_, fun h => splitArguments_of_not_mem hexpr h, fun h => he.splitArguments h⟩
  simpa [Token.text] using ht

theorem bracketed_max : Bracketed "max(1,2)".toList := by
  have hround : Balanced '(' ')' ("max".toList ++ '(' :: ("1,2".toList ++ [')'])) := by
    have hin : Balanced '(' ')' "1,2".toList :=
      balanced_of_not_mem (by decide) (by decide) (by decide)
    have hout : Balanced '(' ')' "max".toList :=
      balanced_of_not_mem (by decide) (by decide) (by decide)
    exact hout.append (by decide) (hin.enclose (by decide))
  refine ⟨hround, balanced_of_not_mem (by decide) (by decide) (by decide), fun p q h => ?_⟩
  have h : "max(1".toList ++ ',' :: "2)".toList = p ++ ',' :: q := h
  obtain ⟨rfl, -, -⟩ := (List.append_cons_inj_of_notMem (by decide) (by decide)).1 h
  exact .inl (by decide)

theorem tokenize_call_bracketed_max :
    tokenize "A<max(1,2)>".toList = [.call ['A'] "max(1,2)".toList] ∧
      ∃ first others last, splitArguments "max(1,2)".toList = first :: (others ++ [last]) ∧
        LeavesOpen first ∧ ClosesMore last := by
  have hword : ∀ c ∈ ['A'], Text.isWord c := List.forall_mem_singleton.2 (by decide)
  have h := tokenize_call_bracketed (by decide) hword (by decide) (by decide) (by decide)
    bracketed_max
  exact ⟨h.1, h.2.2 (by decide)⟩

/-- The arguments of `max` are cut apart, although their comma stands between brackets. -/
theorem splitArguments_max :
    Bracketed "max(1,2)".toList ∧ '<' ∉ "max(1,2)".toList ∧ '>' ∉ "max(1,2)".toList ∧
      tokenize "A<max(1,2)>".toList = [.call ['A'] "max(1,2)".toList] ∧
      splitArguments "max(1,2)".toList = ["max(1".toList, "2)".toList] :=
  ⟨bracketed_max, by decide, by decide, by decide +kernel, by decide⟩

end LSystem
