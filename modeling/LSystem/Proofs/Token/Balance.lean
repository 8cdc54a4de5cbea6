import LSystem.Token

/-! # Balanced brackets

A text is `Balanced` if no bracket is closed before it is opened and all of them are closed at the
end. `Closes` says the same from some open brackets on, by recursion on the text, and `splitClose`
finds the longest text before which the brackets that are open do not close: the inner part closes
all of them but one (`splitClose_eq_some_iff`). -/

namespace LSystem.Token

variable {left right : Char} {depth : Nat} {s t : Text}

/-- Brackets are balanced in a text. -/
structure Balanced (left right : Char) (s : Text) : Prop where
  /-- Up to any place, at least as many brackets are opened as are closed. -/
  opened : ∀ p, p <+: s → p.count right ≤ p.count left
  closed : s.count right = s.count left

/-- Starting with `depth` open brackets, a text closes no more than are open, and all at its end. -/
def Closes (left right : Char) : (depth : Nat) → Text → Prop
  | depth, [] => depth = 0
  | depth, c :: s =>
    if c = left then Closes left right (depth + 1) s
    else if c = right then ∃ d, depth = d + 1 ∧ Closes left right d s
    else Closes left right depth s

theorem closes_cons_left :
    Closes left right depth (left :: s) ↔ Closes left right (depth + 1) s := by
  simp [Closes]

theorem closes_cons_right (h : left ≠ right) :
    Closes left right depth (right :: s) ↔ ∃ d, depth = d + 1 ∧ Closes left right d s := by
  simp [Closes, h.symm]

theorem closes_cons_of_ne {c : Char} (hl : c ≠ left) (hr : c ≠ right) :
    Closes left right depth (c :: s) ↔ Closes left right depth s := by
  simp [Closes, hl, hr]

/-- Open brackets by counting: the prefixes bound what is closed, the whole text closes all. -/
theorem closes_iff_count (h : left ≠ right) : Closes left right depth s ↔
    (∀ p, p <+: s → p.count right ≤ p.count left + depth) ∧
      s.count right = s.count left + depth := by
  induction s generalizing depth with
  | nil => simp [Closes, eq_comm]
  | cons c s ih =>
    have prefixes {P : Text → Prop} (h0 : P []) :
        (∀ p, p <+: c :: s → P p) ↔ ∀ p, p <+: s → P (c :: p) := by
      constructor
      · exact fun H p hp => H _ (List.cons_prefix_cons.2 ⟨rfl, hp⟩)
      · intro H p hp
        rcases List.prefix_cons_iff.1 hp with rfl | ⟨q, rfl, hq⟩
        · exact h0
        · exact H q hq
    rw [prefixes (by simp)]
    by_cases hl : c = left
    · subst hl
      rw [closes_cons_left, ih]
      simp only [List.count_cons, beq_self_eq_true, beq_iff_eq, if_neg h, if_true]
      constructor
      · rintro ⟨H, e⟩
        exact ⟨fun p hp => by have := H p hp; omega, by omega⟩
      · rintro ⟨H, e⟩
        exact ⟨fun p hp => by have := H p hp; omega, by omega⟩
    by_cases hr : c = right
    · subst hr
      rw [closes_cons_right h]
      simp only [ih, List.count_cons, beq_self_eq_true, beq_iff_eq, if_neg hl, if_true]
      constructor
      · rintro ⟨d, rfl, H, e⟩
        exact ⟨fun p hp => by have := H p hp; omega, by omega⟩
      · rintro ⟨H, e⟩
        have h0 := H [] (List.nil_prefix ..)
        simp only [List.count_nil] at h0
        exact ⟨depth - 1, by omega, fun p hp => by have := H p hp; omega, by omega⟩
    · rw [closes_cons_of_ne hl hr, ih]
      simp [hl, hr]

theorem balanced_iff_closes (h : left ≠ right) :
    Balanced left right s ↔ Closes left right 0 s := by
  rw [closes_iff_count h]
  exact ⟨fun H => ⟨H.opened, H.closed⟩, fun H => ⟨H.1, H.2⟩⟩

/-- A text that closes `depth` brackets leaves the others as they are. -/
theorem Closes.append_iff (h : left ≠ right) (hs : Closes left right depth s) {d : Nat} :
    Closes left right (depth + d) (s ++ t) ↔ Closes left right d t := by
  induction s generalizing depth with
  | nil => cases hs; simp
  | cons c s ih =>
    by_cases hl : c = left
    · subst hl
      rw [closes_cons_left] at hs
      rw [List.cons_append, closes_cons_left, ← ih hs, Nat.add_right_comm]
    by_cases hr : c = right
    · subst hr
      obtain ⟨e, rfl, hs'⟩ := (closes_cons_right h).1 hs
      rw [List.cons_append, closes_cons_right h, ← ih hs']
      constructor
      · rintro ⟨f, he, H⟩
        obtain rfl : e + d = f := by omega
        exact H
      · exact fun H => ⟨e + d, by omega, H⟩
    · rw [closes_cons_of_ne hl hr] at hs
      rw [List.cons_append, closes_cons_of_ne hl hr, ih hs]

theorem closes_of_not_mem (hl : left ∉ s) (hr : right ∉ s) : Closes left right 0 s := by
  induction s with
  | nil => rfl
  | cons c s ih =>
    rw [List.mem_cons, not_or] at hl hr
    exact (closes_cons_of_ne (Ne.symm hl.1) (Ne.symm hr.1)).2 (ih hl.2 hr.2)

theorem balanced_of_not_mem (h : left ≠ right) (hl : left ∉ s) (hr : right ∉ s) :
    Balanced left right s :=
  (balanced_iff_closes h).2 (closes_of_not_mem hl hr)

theorem Balanced.append (h : left ≠ right) (hs : Balanced left right s)
    (ht : Balanced left right t) : Balanced left right (s ++ t) := by
  rw [balanced_iff_closes h] at hs ht ⊢
  exact (hs.append_iff h (d := 0)).2 ht

/-- A balanced text between brackets is balanced. -/
theorem Balanced.enclose (h : left ≠ right) (hs : Balanced left right s) :
    Balanced left right (left :: (s ++ [right])) := by
  rw [balanced_iff_closes h] at hs ⊢
  refine closes_cons_left.2 ((hs.append_iff h (d := 1)).2 ?_)
  exact (closes_cons_right h).2 ⟨0, rfl, rfl⟩

/-- What is split off closes all brackets that were open but one, and what follows starts after the
bracket that closes this one. -/
theorem splitClose_eq_some_iff (h : left ≠ right) {done inner rest : Text} :
    splitClose left right depth s done = some (inner, rest) ↔
      ∃ mid, Closes left right depth mid ∧ inner = done.reverse ++ mid ∧
        s = mid ++ right :: rest := by
  induction s generalizing depth done with
  | nil => simp [splitClose]
  | cons c s ih =>
    -- The first character belongs to the inner part unless it closes the last bracket.
    have step {d : Nat} (hd : ∀ mid, Closes left right depth (c :: mid) ↔ Closes left right d mid)
        (hc : c = right → depth ≠ 0) :
        (∃ mid, Closes left right d mid ∧ inner = (c :: done).reverse ++ mid ∧
          s = mid ++ right :: rest) ↔
        ∃ mid, Closes left right depth mid ∧ inner = done.reverse ++ mid ∧
          c :: s = mid ++ right :: rest := by
      constructor
      · rintro ⟨mid, hm, rfl, rfl⟩
        exact ⟨c :: mid, (hd mid).2 hm, by simp, rfl⟩
      · rintro ⟨mid, hm, rfl, e⟩
        cases mid with
        | nil => cases e; exact absurd hm (hc rfl)
        | cons c' mid =>
          cases e
          exact ⟨mid, (hd mid).1 hm, by simp, rfl⟩
    rw [splitClose.eq_def]
    dsimp only
    split
    · next hc =>
      rw [ih, step fun mid => by rw [hc, closes_cons_left]]
      exact fun e => absurd (hc ▸ e) h
    split
    · next hl hc =>
      subst hc
      cases depth with
      | zero =>
        constructor
        · intro e
          cases e
          exact ⟨[], rfl, by simp, rfl⟩
        · rintro ⟨mid, hm, rfl, e⟩
          cases mid with
          | nil => cases e; simp
          | cons c' mid =>
            cases e
            obtain ⟨_, e, _⟩ := (closes_cons_right h).1 hm
            cases e
      | succ d =>
        rw [ih, step fun mid => by rw [closes_cons_right h]; simp]
        simp
    · next hl hr =>
      rw [ih, step fun mid => closes_cons_of_ne hl hr]
      exact fun e => absurd e hr

/-- What is split off in front of the bracket that closes the only open one is balanced. -/
theorem balanced_of_splitClose (h : left ≠ right) {inner rest : Text}
    (hs : splitClose left right 0 s [] = some (inner, rest)) :
    Balanced left right inner ∧ s = inner ++ right :: rest := by
  obtain ⟨_, hm, rfl, rfl⟩ := (splitClose_eq_some_iff h).1 hs
  exact ⟨(balanced_iff_closes h).2 hm, rfl⟩

theorem Balanced.splitClose (h : left ≠ right) (hs : Balanced left right s) (rest : Text) :
    splitClose left right 0 (s ++ right :: rest) [] = some (s, rest) :=
  (splitClose_eq_some_iff h).2 ⟨s, (balanced_iff_closes h).1 hs, rfl, rfl⟩

end LSystem.Token
