import Mathlib.Control.Monad.Basic

/-! # Results that may fail

Success of a sequence of steps read as success of each step, and bounds on the errors of a sequence
of steps from bounds on those of each step. Two sequences whose steps agree unless one of the first
fails with a certain error agree unless the first one does (`Unless.bind`). -/

namespace LSystem

universe u

variable {ε α β : Type u}

theorem bind_of_ok {x : Except ε α} {a : α} (h : x = .ok a) (f : α → Except ε β) :
    x >>= f = f a := by
  rw [h]
  rfl

theorem bind_of_error {x : Except ε α} {e : ε} (h : x = .error e) (f : α → Except ε β) :
    x >>= f = .error e := by
  rw [h]
  rfl

theorem bind_eq_ok_iff {x : Except ε α} {f : α → Except ε β} {b : β} :
    x >>= f = .ok b ↔ ∃ a, x = .ok a ∧ f a = .ok b := by
  cases x with
  | error e =>
    constructor
    · exact nofun
    · rintro ⟨_, h, _⟩
      cases h
  | ok a =>
    constructor
    · exact fun h => ⟨a, rfl, h⟩
    · rintro ⟨_, h, hf⟩
      cases h
      exact hf

theorem bind_eq_error_iff {x : Except ε α} {f : α → Except ε β} {e : ε} :
    x >>= f = .error e ↔ x = .error e ∨ ∃ a, x = .ok a ∧ f a = .error e := by
  cases x with
  | error e' =>
    constructor
    · intro h
      cases h
      exact .inl rfl
    · rintro (h | ⟨_, h, _⟩)
      · cases h
        rfl
      · cases h
  | ok a =>
    constructor
    · exact fun h => .inr ⟨a, rfl, h⟩
    · rintro (h | ⟨_, h, hf⟩)
      · cases h
      · cases h
        exact hf

theorem map_eq_ok_iff {x : Except ε α} {f : α → β} {b : β} :
    x.map f = .ok b ↔ ∃ a, x = .ok a ∧ f a = b := by
  cases x with
  | error e => simp [Except.map]
  | ok a => simp [Except.map]

theorem map_eq_error_iff {x : Except ε α} {f : α → β} {e : ε} :
    x.map f = .error e ↔ x = .error e := by
  cases x with
  | error e => simp [Except.map]
  | ok a => simp [Except.map]

theorem mapM_eq_ok_map {l : List α} {f : α → Except ε β} {v : α → β}
    (h : ∀ a ∈ l, f a = .ok (v a)) : l.mapM f = .ok (l.map v) := by
  induction l with
  | nil => rfl
  | cons a l ih =>
    rw [List.mapM_cons, h a List.mem_cons_self, ih fun b hb => h b (List.mem_cons_of_mem _ hb)]
    rfl

/-- Results that are joined can be joined one after the other. -/
theorem mapM_flatten_cons (f : α → Except ε (List β)) (a : α) (l : List α) :
    (do let parts ← (a :: l).mapM f; .ok parts.flatten) = (do
      let x ← f a
      let y ← (do let parts ← l.mapM f; .ok parts.flatten)
      .ok (x ++ y)) := by
  rw [List.mapM_cons]
  cases f a with
  | error e => rfl
  | ok x => cases l.mapM f <;> rfl

theorem mem_of_mapM_eq_ok {f : α → Except ε β} {l : List α} {bs : List β} (h : l.mapM f = .ok bs)
    {b : β} (hb : b ∈ bs) : ∃ a ∈ l, f a = .ok b := by
  induction l generalizing bs with
  | nil =>
    cases h
    cases hb
  | cons a l ih =>
    rw [List.mapM_cons] at h
    obtain ⟨c, ha, h⟩ := bind_eq_ok_iff.1 h
    obtain ⟨cs, hl, h⟩ := bind_eq_ok_iff.1 h
    cases h
    rcases List.mem_cons.1 hb with rfl | hb
    · exact ⟨a, List.mem_cons_self, ha⟩
    · obtain ⟨a', ha', h⟩ := ih hl hb
      exact ⟨a', List.mem_cons_of_mem _ ha', h⟩

theorem eq_map_of_mapM_eq_ok {f : α → Except ε β} {v : α → β} {l : List α} {bs : List β}
    (h : l.mapM f = .ok bs) (hv : ∀ a ∈ l, ∀ b, f a = .ok b → b = v a) : bs = l.map v := by
  induction l generalizing bs with
  | nil =>
    cases h
    rfl
  | cons a l ih =>
    rw [List.mapM_cons] at h
    obtain ⟨c, ha, h⟩ := bind_eq_ok_iff.1 h
    obtain ⟨cs, hl, h⟩ := bind_eq_ok_iff.1 h
    cases h
    rw [List.map_cons, ← hv a List.mem_cons_self c ha,
      ← ih hl fun b hb => hv b (List.mem_cons_of_mem _ hb)]

/-- The first element that fails gives the error. -/
theorem mapM_eq_error_iff {f : α → Except ε β} {l : List α} {e : ε} : l.mapM f = .error e ↔
    ∃ before a after, l = before ++ a :: after ∧ (∀ b ∈ before, ∃ c, f b = .ok c) ∧
      f a = .error e := by
  constructor
  · intro h
    induction l with
    | nil => cases h
    | cons a l ih =>
      rw [List.mapM_cons] at h
      cases ha : f a with
      | error e' =>
        rw [ha] at h
        cases h
        exact ⟨[], a, l, rfl, nofun, ha⟩
      | ok c =>
        rw [ha] at h
        cases hl : l.mapM f with
        | error e' =>
          rw [hl] at h
          cases h
          obtain ⟨before, b, after, rfl, hb, he⟩ := ih hl
          exact ⟨a :: before, b, after, rfl, List.forall_mem_cons.2 ⟨⟨c, ha⟩, hb⟩, he⟩
        | ok cs =>
          rw [hl] at h
          cases h
  · rintro ⟨before, a, after, rfl, hb, ha⟩
    induction before with
    | nil =>
      rw [List.nil_append, List.mapM_cons, ha]
      rfl
    | cons b before ih =>
      obtain ⟨⟨c, hc⟩, hb⟩ := List.forall_mem_cons.1 hb
      rw [List.cons_append, List.mapM_cons, hc, ih hb]
      rfl

/-! ## Errors -/

/-- If there is an error, it satisfies `P`. -/
def FailsOnly (P : ε → Prop) (x : Except ε α) : Prop := ∀ e, x = .error e → P e

section
variable {P Q : ε → Prop} {x : Except ε α}

@[simp] theorem failsOnly_ok (a : α) : FailsOnly P (.ok a : Except ε α) := nofun

@[simp] theorem failsOnly_error {e : ε} : FailsOnly P (.error e : Except ε α) ↔ P e :=
  ⟨fun h => h e rfl, fun h _ he => Except.error.inj he ▸ h⟩

theorem FailsOnly.mono (h : FailsOnly P x) (hPQ : ∀ e, P e → Q e) : FailsOnly Q x :=
  fun e he => hPQ e (h e he)

@[simp] theorem failsOnly_bind {f : α → Except ε β} :
    FailsOnly P (x >>= f) ↔ FailsOnly P x ∧ ∀ a, x = .ok a → FailsOnly P (f a) := by
  constructor
  · intro h
    refine ⟨fun e he => h e ?_, fun a ha e he => h e ?_⟩
    · rw [he]
      rfl
    · rw [ha]
      exact he
  · rintro ⟨hx, hf⟩ e he
    cases x with
    | error e' =>
      cases he
      exact hx e rfl
    | ok a => exact hf a rfl e he

@[simp] theorem failsOnly_map {f : α → β} : FailsOnly P (x.map f) ↔ FailsOnly P x := by
  cases x with
  | error e => exact failsOnly_error.trans failsOnly_error.symm
  | ok a => exact ⟨fun _ => failsOnly_ok a, fun _ => failsOnly_ok (f a)⟩

@[simp] theorem failsOnly_ite {c : Prop} [Decidable c] {y : Except ε α} :
    FailsOnly P (if c then x else y) ↔ (c → FailsOnly P x) ∧ (¬ c → FailsOnly P y) := by
  split <;> simp [*]

theorem FailsOnly.mapM {f : α → Except ε β} {l : List α} (h : ∀ a ∈ l, FailsOnly P (f a)) :
    FailsOnly P (l.mapM f) := by
  induction l with
  | nil => exact failsOnly_ok []
  | cons a l ih =>
    obtain ⟨ha, h⟩ := List.forall_mem_cons.1 h
    rw [List.mapM_cons, failsOnly_bind]
    refine ⟨ha, fun b _ => failsOnly_bind.2 ⟨ih h, fun bs _ => failsOnly_ok (b :: bs)⟩⟩

theorem FailsOnly.foldlM {f : β → α → Except ε β} {l : List α}
    (h : ∀ a ∈ l, ∀ b, FailsOnly P (f b a)) (b : β) : FailsOnly P (l.foldlM f b) := by
  induction l generalizing b with
  | nil => exact failsOnly_ok b
  | cons a l ih =>
    obtain ⟨ha, h⟩ := List.forall_mem_cons.1 h
    rw [List.foldlM_cons, failsOnly_bind]
    exact ⟨ha b, fun b' _ => ih h b'⟩

end

/-! ## Agreement unless there is an error -/

/-- The second result is the first one, unless that is the error `e`. -/
def Unless (e : ε) (x x' : Except ε α) : Prop := x = .error e ∨ x' = x

namespace Unless

variable {e : ε} {x x' : Except ε α} {f f' : α → Except ε β} {a : α}

theorem refl (e : ε) (x : Except ε α) : Unless e x x := .inr rfl

theorem bind (hx : Unless e x x') (hf : ∀ a, Unless e (f a) (f' a)) :
    Unless e (x >>= f) (x' >>= f') := by
  obtain rfl | rfl := hx
  · exact .inl rfl
  · cases x' with
    | error e' => exact .refl e _
    | ok a => exact hf a

theorem ok (hx : Unless e x x') (h : x = .ok a) : x' = .ok a := by
  obtain hx | hx := hx
  · cases h.symm.trans hx
  · exact hx.trans h

end Unless

end LSystem
