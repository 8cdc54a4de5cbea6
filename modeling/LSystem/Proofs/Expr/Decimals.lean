import LSystem.Proofs.Expr.Binding
import LSystem.Proofs.Template.Rendering

/-! # Integers that are written back

The decimal text of an integer is an expression that has this integer for its value, whatever names
and functions there are (`Evaluator.evaluate_intText`). So a value that was written into a command
stays as it is when it is evaluated once more (`Evaluator.render_intText`).

The reading of decimals is a case of binding a name: the name alone has the integer that it is bound
to for its value, and so has the text that is put in its place. -/

namespace LSystem

open LSystem.Expr (Binding Infix IsName Part Scope Solid Value spell)

variable {v : Int} {source s : Text}

namespace Expr

/-- A scope in which nothing but `x` has a meaning. -/
def lone (v : Int) : Scope where
  names := [("x", .int v)]
  functions := []
  source := ['x']

theorem run_lone (v : Int) : (lone v).run = .ok (.int v) := by cbv

theorem spell_hole (w : Text) : spell w [([], .hole)] = w := List.append_nil w

/-- A text whose middle is that of an integer has this integer for its value. -/
theorem run_of_trim_eq_intText {sc : Scope} (hv : Number.fitsDigitLimit v)
    (hsc : Text.trim sc.source = Number.intText v) : sc.run = .ok (.int v) := by
  have hx : IsName ['x'] :=
    ⟨⟨'x', [], rfl, by decide⟩, List.forall_mem_singleton.2 (by decide), by decide⟩
  -- A lone hole is the name in one text, and the decimal in the other.
  have hps : Infix ['x'] 0 true [([], .hole)] := .hole nofun .nil
  let B : Binding :=
    { name := "x"
      value := v
      scope := lone v
      plain := sc
      keyword := by decide
      lookup := rfl }
  refine B.run hps (fun _ => by decide) hx.reads (reads_intText hv) (takes_intText v) ?_ ?_ ?_ ?_
    (run_lone v)
  · rw [spell_hole]
    exact hx.solid
  · rw [spell_hole]
    exact solid_intText v
  · rw [spell_hole]
    rfl
  · rw [spell_hole]
    exact hsc

theorem Solid.trim (h : Solid s) : Text.trim s = s := by
  obtain ⟨c, t, hc, hb, -⟩ := h.first
  have hends : Text.trimWhile Text.isBlank ([] ++ (s ++ [])) = s :=
    Text.trimWhile_append nofun nofun ⟨c, t, hc, hb⟩ h.last
  rwa [List.nil_append, List.append_nil] at hends

end Expr

namespace Evaluator

variable {ev : Evaluator}

/-- An integer that was written is read back, whatever names and functions there are. -/
theorem evaluate_intText (ev : Evaluator) (hv : Number.fitsDigitLimit v) :
    ev.evaluate (Number.intText v) = .ok (.int v) := by
  have hs := Expr.solid_intText v
  refine evaluate_eq_ok_iff.2 ⟨?_, Expr.run_of_trim_eq_intText hv hs.trim⟩
  obtain ⟨c, t, hc, -⟩ := hs.first
  rw [hs.trim, hc]
  exact List.cons_ne_nil c t

/-- An integer is written in decimal, unless it has too many digits. -/
theorem render_eq_ok_iff (h : ev.evaluate source = .ok (.int v)) :
    ev.render source = .ok s ↔ Number.fitsDigitLimit v ∧ s = Number.intText v := by
  have hshown : Value.command (.int v) = Expr.shownInt v := rfl
  rw [render_of_evaluate h, hshown, Expr.shownInt]
  by_cases hv : Number.fitsDigitLimit v
  · rw [if_pos hv]
    constructor
    · intro hs
      cases hs
      exact ⟨hv, rfl⟩
    · rintro ⟨-, rfl⟩
      rfl
  · rw [if_neg hv]
    exact ⟨nofun, fun hs => absurd hs.1 hv⟩

theorem render_intText (ev : Evaluator) (hv : Number.fitsDigitLimit v) :
    ev.render (Number.intText v) = .ok (Number.intText v) :=
  (render_eq_ok_iff (ev.evaluate_intText hv)).2 ⟨hv, rfl⟩

theorem count_of_evaluate (h : ev.evaluate source = .ok (.int v)) :
    ev.count source = .ok v.toNat := by
  rw [count, h]
  rfl

theorem fitsDigitLimit_iff : Number.fitsDigitLimit v ↔
    (Nat.toDigits 10 v.natAbs).length ≤ Number.digitLimit := by
  have hpos : 0 < Number.digitLimit := by decide
  unfold Number.fitsDigitLimit
  generalize Number.digitLimit = k at hpos ⊢
  rw [decide_eq_true_iff]
  exact (Nat.length_toDigits_le_iff (by decide) hpos).symm

/-- **Integers survive being written back.** An integer of at most 4300 digits has a text, which
every evaluator reads as this integer, as an argument and as a repeat count. So whatever has this
integer for its value is written as a text that is written once more as it stands. -/
theorem written_int_survives (v : Int) (hv : (Nat.toDigits 10 v.natAbs).length ≤ 4300) :
    ∃ s, Value.command (.int v) = .ok s ∧ ∀ ev : Evaluator,
      ev.evaluate s = .ok (.int v) ∧
      (∀ source, ev.evaluate source = .ok (.int v) →
        ev.render source = .ok s ∧ ev.render s = .ok s) ∧
      ∃ n : Nat, ev.count s = .ok n ∧ (n : Int) = max v 0 := by
  have hfits : Number.fitsDigitLimit v := fitsDigitLimit_iff.2 hv
  have hcommand : Value.command (.int v) = .ok (Number.intText v) := by
    have hshown : Value.command (.int v) = Expr.shownInt v := rfl
    rw [hshown, Expr.shownInt, if_pos hfits]
  refine ⟨Number.intText v, hcommand, fun ev => ?_⟩
  have hread : ev.evaluate (Number.intText v) = .ok (.int v) := ev.evaluate_intText hfits
  refine ⟨hread, fun source hs => ?_, v.toNat, count_of_evaluate hread, Int.toNat_eq_max v⟩
  exact ⟨(render_eq_ok_iff hs).2 ⟨hfits, rfl⟩, ev.render_intText hfits⟩

/-- The text of a negative integer, where names and functions are called like its digits. -/
theorem written_int_survives_negative :
    let ev : Evaluator :=
      { names := [("-120", .none), ("120", .bool true)]
        functions := [("120", fun _ _ => .error .typeMismatch)] }
    Value.command (.int (-120)) = .ok "-120".toList ∧
      ev.evaluate "-120".toList = .ok (.int (-120)) ∧
      ev.render "-4 * 30".toList = .ok "-120".toList ∧ ev.count "-120".toList = .ok 0 := by
  intro ev
  obtain ⟨s, hs, h⟩ := written_int_survives (-120) (by decide)
  have hcommand : Value.command (.int (-120)) = .ok "-120".toList := by decide +kernel
  rw [hcommand] at hs
  cases hs
  obtain ⟨hread, hrender, n, hn, hmax⟩ := h ev
  obtain rfl : n = 0 := by simpa using hmax
  exact ⟨hcommand, hread, (hrender _ (by decide +kernel)).1, hn⟩

end Evaluator

end LSystem
