import Mathlib.Data.List.Count
import Mathlib.Data.List.Infix

/-! # Well nested lists

A list in which `up` opens a level and `down` closes one is `Nested` if no level is closed before it
is opened, and all of them are closed at the end. `levels` runs through the list and says how many
levels are open afterwards; it is compositional, so that it serves for proofs by recursion, and
`nested_iff_levels` leads back to counting. -/

namespace LSystem

variable {α : Type} [DecidableEq α] {up down a : α} {l m : List α} {d d' k : Nat}

/-- All levels that are opened are closed, and none is closed earlier. -/
structure Nested (up down : α) (l : List α) : Prop where
  /-- Up to any place, at least as many levels are opened as are closed. -/
  opened : ∀ p, p <+: l → p.count down ≤ p.count up
  closed : l.count down = l.count up

/-- The number of open levels after a list, with `d` of them open before. There is none if a level
is closed that is not open. -/
def levels (up down : α) : (d : Nat) → List α → Option Nat
  | d, [] => some d
  | d, a :: l =>
    if a = up then levels up down (d + 1) l
    else if a = down then
      match d with
      | 0 => none
      | d + 1 => levels up down d l
    else levels up down d l

@[simp] theorem levels_nil : levels up down d [] = some d := rfl

@[simp] theorem levels_up : levels up down d (up :: l) = levels up down (d + 1) l := by
  simp [levels]

theorem levels_down_zero (h : up ≠ down) : levels up down 0 (down :: l) = none := by
  simp [levels, h.symm]

theorem levels_down_succ (h : up ≠ down) :
    levels up down (d + 1) (down :: l) = levels up down d l := by
  simp [levels, h.symm]

/-- Only an open level can be closed. -/
theorem levels_down_eq_some (h : up ≠ down) :
    levels up down d (down :: l) = some d' ↔ ∃ k, d = k + 1 ∧ levels up down k l = some d' := by
  cases d with
  | zero => simp [levels_down_zero h]
  | succ k => simp [levels_down_succ h]

theorem levels_of_ne (hu : a ≠ up) (hd : a ≠ down) :
    levels up down d (a :: l) = levels up down d l := by
  simp [levels, hu, hd]

theorem levels_append (up down : α) (d : Nat) (l m : List α) :
    levels up down d (l ++ m) = (levels up down d l).bind fun d' => levels up down d' m := by
  induction l generalizing d with
  | nil => rfl
  | cons a l ih =>
    simp only [List.cons_append, levels]
    split
    · exact ih _
    · split
      · cases d with
        | zero => rfl
        | succ d => exact ih d
      · exact ih d

/-- More levels open before are left open. -/
theorem levels_add (h : levels up down d l = some d') (k : Nat) :
    levels up down (d + k) l = some (d' + k) := by
  induction l generalizing d with
  | nil =>
    cases h
    rfl
  | cons a l ih =>
    simp only [levels] at h ⊢
    split at h
    · next ha =>
      rw [if_pos ha, Nat.add_right_comm]
      exact ih h
    · next ha =>
      rw [if_neg ha]
      split at h
      · next hb =>
        rw [if_pos hb]
        cases d with
        | zero => cases h
        | succ d =>
          rw [Nat.add_right_comm]
          exact ih h
      · next hb =>
        rw [if_neg hb]
        exact ih h

theorem levels_replicate_up (up down : α) (d n : Nat) :
    levels up down d (List.replicate n up) = some (d + n) := by
  induction n generalizing d with
  | zero => rfl
  | succ n ih => rw [List.replicate_succ, levels_up, ih, Nat.add_right_comm, Nat.add_assoc]

theorem count_of_levels (h : up ≠ down) (hl : levels up down d l = some d') :
    l.count down + d' = l.count up + d := by
  induction l generalizing d with
  | nil =>
    cases hl
    rfl
  | cons a l ih =>
    by_cases hu : a = up
    · subst hu
      rw [levels_up] at hl
      rw [List.count_cons_self, List.count_cons_of_ne h]
      have := ih hl
      omega
    by_cases hd : a = down
    · subst hd
      obtain ⟨k, rfl, hk⟩ := (levels_down_eq_some h).1 hl
      rw [List.count_cons_self, List.count_cons_of_ne (Ne.symm h)]
      have := ih hk
      omega
    · rw [levels_of_ne hu hd] at hl
      rw [List.count_cons_of_ne hu, List.count_cons_of_ne hd]
      exact ih hl

/-- No level is closed that is not open, if and only if the prefixes open enough levels. -/
theorem levels_isSome_iff (h : up ≠ down) :
    (levels up down d l).isSome ↔ ∀ p, p <+: l → p.count down ≤ p.count up + d := by
  constructor
  · rintro hl p ⟨s, rfl⟩
    rw [levels_append] at hl
    cases hp : levels up down d p with
    | none =>
      rw [hp] at hl
      cases hl
    | some d' =>
      have := count_of_levels h hp
      omega
  · intro H
    induction l using List.reverseRecOn with
    | nil => rfl
    | append_singleton l a ih =>
      obtain ⟨d', hl⟩ :=
        Option.isSome_iff_exists.1 (ih fun p hp => H p (hp.trans (l.prefix_append _)))
      rw [levels_append, hl, Option.bind_some]
      by_cases hd : a = down
      · subst hd
        have hc := count_of_levels h hl
        have := H _ List.prefix_rfl
        rw [List.count_append, List.count_append, List.count_singleton_self,
          List.count_singleton, beq_eq_false_iff_ne.2 (Ne.symm h)] at this
        cases d' with
        | zero => simp at this; omega
        | succ d' =>
          rw [levels_down_succ h]
          rfl
      · by_cases hu : a = up
        · subst hu
          rw [levels_up]
          rfl
        · rw [levels_of_ne hu hd]
          rfl

theorem nested_iff_levels (h : up ≠ down) : Nested up down l ↔ levels up down 0 l = some 0 := by
  constructor
  · rintro ⟨H, hc⟩
    obtain ⟨d, hd⟩ := Option.isSome_iff_exists.1 ((levels_isSome_iff h (d := 0)).2 H)
    have := count_of_levels h hd
    rw [hd]
    congr
    omega
  · intro hl
    refine ⟨(levels_isSome_iff h).1 (by rw [hl]; rfl), ?_⟩
    simpa using count_of_levels h hl

end LSystem
