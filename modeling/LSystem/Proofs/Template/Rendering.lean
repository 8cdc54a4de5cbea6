import LSystem.Evaluator
import LSystem.Proofs.Result
import LSystem.Proofs.Token.Balance

/-! # Characters of written numbers

Numbers and truth values are written back into commands with letters, digits and a few other
characters, none of which has a meaning in commands (`Evaluator.RendersNumber.plain`). Only complex
numbers have brackets, and these are balanced (`Evaluator.RendersNumber.balanced`). -/

namespace LSystem

open Token (Balanced balanced_of_not_mem)

namespace Number

/-- The characters that integers and floats are written with. -/
def isRealChar (c : Char) : Bool := c.isAlphanum || c ∈ ['+', '-', '.']

/-- The characters that numbers and truth values are written with. -/
def isNumberChar (c : Char) : Bool := c.isAlphanum || c ∈ ['+', '-', '.', '(', ')']

/-- A text is written with the characters of integers and floats only. -/
def Bare (s : Text) : Prop := ∀ c ∈ s, isRealChar c

/-- A text is written with the characters of numbers only. -/
def Plain (s : Text) : Prop := ∀ c ∈ s, isNumberChar c

variable {s t : Text}

theorem bare_nil : Bare [] := nofun

theorem bare_of_all (h : s.all isRealChar) : Bare s := List.all_eq_true.1 h

@[simp] theorem bare_cons {c : Char} : Bare (c :: s) ↔ isRealChar c ∧ Bare s :=
  List.forall_mem_cons

@[simp] theorem bare_append : Bare (s ++ t) ↔ Bare s ∧ Bare t := List.forall_mem_append

theorem Bare.plain (h : Bare s) : Plain s := by
  intro c hc
  have := h c hc
  simp only [isRealChar, isNumberChar, List.mem_cons, List.not_mem_nil, Bool.or_eq_true,
    decide_eq_true_eq] at this ⊢
  grind

theorem Bare.balanced (h : Bare s) : Balanced '(' ')' s :=
  balanced_of_not_mem (by decide) (fun hm => absurd (h _ hm) (by decide))
    (fun hm => absurd (h _ hm) (by decide))

theorem Bare.sublist (h : Bare t) (hs : s.Sublist t) : Bare s := fun c hc => h c (hs.subset hc)

theorem bare_replicate (n : Nat) : Bare (List.replicate n '0') := by
  intro c hc
  rw [List.eq_of_mem_replicate hc]
  decide

theorem bare_toDigits (n : Nat) : Bare (Nat.toDigits 10 n) := by
  intro c hc
  have := Nat.isDigit_of_mem_toDigits (by decide) (by decide) hc
  simp [isRealChar, Char.isAlphanum, this]

theorem bare_intText (i : Int) : Bare (intText i) := by
  rw [intText]
  split
  · exact bare_cons.2 ⟨rfl, bare_toDigits _⟩
  · exact bare_toDigits _

/-! ## Floats -/

theorem bare_ofScaled (n : Nat) (scale : Int) : Bare (Scientific.ofScaled n scale).digits := by
  have h : Bare (Nat.toDigits 10 n).reverse := fun c hc =>
    bare_toDigits n c (List.mem_reverse.1 hc)
  intro c hc
  exact h.sublist (List.dropWhile_sublist _) c (List.mem_reverse.1 hc)

theorem bare_rounded (count num den : Nat) : Bare (Scientific.rounded count num den).digits :=
  bare_ofScaled _ _

theorem bare_neighbour? {x : Float} {num den count : Nat} {r : Scientific}
    (h : Scientific.neighbour? x num den count = some r) : Bare r.digits := by
  have choice {p q : Prop} [Decidable p] [Decidable q] {a b : Scientific}
      (h : (if p then some a else if q then some b else none) = some r) : r = a ∨ r = b := by
    grind
  rw [Scientific.neighbour?] at h
  obtain rfl | rfl := choice h <;> exact bare_ofScaled _ _

theorem bare_shortest (x : Float) : Bare (Scientific.shortest x).digits := by
  simp only [Scientific.shortest]
  cases h : List.findSome? _ _ with
  | none => exact bare_rounded _ _ _
  | some r =>
    obtain ⟨_, _, h⟩ := List.exists_of_findSome?_eq_some h
    exact bare_neighbour? h

theorem bare_exponentText (e : Int) : Bare (Layout.exponentText e) := by
  simp only [Layout.exponentText, bare_cons, bare_append]
  refine ⟨rfl, ?_, bare_replicate _, bare_toDigits _⟩
  split <;> rfl

theorem bare_write (layout : Layout) {r : Scientific} (h : Bare r.digits) :
    Bare (layout.write r) := by
  rw [Layout.write]
  split
  · split
    · simp only [bare_cons, bare_append]
      exact ⟨rfl, rfl, bare_replicate _, h⟩
    · simp only [bare_append]
      refine ⟨⟨h.sublist (List.take_sublist ..), bare_replicate _⟩, ?_⟩
      split
      · split <;> exact bare_of_all rfl
      · exact bare_cons.2 ⟨rfl, h.sublist (List.drop_sublist ..)⟩
  · split
    · next d e =>
      rw [e, bare_cons] at h
      exact bare_cons.2 ⟨h.1, bare_exponentText _⟩
    · next d rest _ e =>
      rw [e, bare_cons] at h
      simp only [bare_cons, bare_append]
      exact ⟨h.1, rfl, h.2, bare_exponentText _⟩
    · exact bare_nil

theorem bare_writeFloat (layout : Layout) {digits : Float → Scientific}
    (h : ∀ x, Bare (digits x).digits) (x : Float) : Bare (layout.writeFloat digits x) := by
  have hbody : Bare (if x.abs.isInf then ['i', 'n', 'f']
      else if x.abs == 0.0 then if layout.showsPoint then ['0', '.', '0'] else ['0']
      else layout.write (digits x.abs)) := by
    split
    · exact bare_of_all rfl
    split
    · split <;> exact bare_of_all rfl
    · exact bare_write layout (h _)
  simp only [Layout.writeFloat]
  split
  · exact bare_of_all rfl
  split
  · exact bare_cons.2 ⟨rfl, hbody⟩
  · exact hbody

theorem bare_commandText (x : Float) : Bare (commandText x) :=
  bare_writeFloat _ (fun _ => bare_rounded _ _ _) _

end Number

namespace Expr

open Number

theorem bare_partText (x : Float) : Bare (partText x) := bare_writeFloat _ bare_shortest _

/-- A complex number is written like a real one, or in round brackets. -/
theorem complexText_cases (re im : Float) : Bare (complexText re im) ∨
    ∃ s, Bare s ∧ complexText re im = '(' :: (s ++ [')']) := by
  rw [complexText]
  split
  · left
    simp only [bare_append]
    exact ⟨bare_partText _, bare_of_all rfl⟩
  · right
    refine ⟨partText re ++ (if (partText im).head? = some '-' then [] else ['+']) ++ partText im ++
      ['j'], ?_, by simp⟩
    simp only [bare_append]
    refine ⟨⟨⟨bare_partText _, ?_⟩, bare_partText _⟩, bare_of_all rfl⟩
    split <;> exact bare_of_all rfl

theorem Value.command_cases {v : Value} {s : Text} (hv : v.numeric?.isSome)
    (h : v.command = .ok s) : Bare s ∨ ∃ t, Bare t ∧ s = '(' :: (t ++ [')']) := by
  cases v with
  | bool b =>
    cases h
    left
    cases b <;> exact bare_of_all rfl
  | int i =>
    simp only [command, display, shown, shownInt] at h
    split at h
    · cases h
      exact .inl (bare_intText i)
    · cases h
  | float x => cases h; exact .inl (bare_commandText x)
  | complex re im => cases h; exact complexText_cases re im
  | _ => cases hv

/-- Numbers and truth values are written without characters that have a meaning in commands. -/
theorem Value.plain_command {v : Value} {s : Text} (hv : v.numeric?.isSome)
    (h : v.command = .ok s) : Plain s := by
  obtain hs | ⟨t, ht, rfl⟩ := command_cases hv h
  · exact hs.plain
  · intro c hc
    rcases List.mem_cons.1 hc with rfl | hc
    · decide
    rcases List.mem_append.1 hc with hc | hc
    · exact ht.plain c hc
    · rw [List.mem_singleton.1 hc]
      decide

/-- The round brackets of written numbers are balanced. -/
theorem Value.balanced_command {v : Value} {s : Text} (hv : v.numeric?.isSome)
    (h : v.command = .ok s) : Balanced '(' ')' s := by
  obtain hs | ⟨t, ht, rfl⟩ := command_cases hv h
  · exact hs.balanced
  · exact ht.balanced.enclose (by decide)

end Expr

namespace Evaluator

open LSystem.Expr (Value)

/-- An expression has a number or a truth value that can be written. -/
def RendersNumber (ev : Evaluator) (source : Text) : Prop :=
  ∃ v s, ev.evaluate source = .ok v ∧ v.numeric?.isSome ∧ ev.render source = .ok s

instance (ev : Evaluator) (source : Text) : Decidable (ev.RendersNumber source) :=
  decidable_of_iff
    ((match ev.evaluate source with
      | .ok v => v.numeric?.isSome && (written v.command).isOk
      | .error _ => false : Bool) = true) <| by
    rw [RendersNumber]
    cases h : ev.evaluate source with
    | error e => simp
    | ok v =>
      have hr : ev.render source = written v.command := by
        rw [render, h]
        rfl
      cases hw : written v.command <;> simp [hr, hw, Except.isOk, Except.toBool]

/-- The value of an expression as it is written back into commands, if it can be written. -/
def rendered (ev : Evaluator) (source : Text) : Text :=
  match ev.render source with
  | .ok s => s
  | .error _ => []

variable {ev : Evaluator} {source : Text}

theorem render_of_evaluate {v : Value} (h : ev.evaluate source = .ok v) :
    ev.render source = written v.command := by
  rw [render, h]
  rfl

theorem RendersNumber.render (h : ev.RendersNumber source) :
    ev.render source = .ok (ev.rendered source) := by
  obtain ⟨_, s, _, _, h⟩ := h
  rw [rendered, h]

theorem RendersNumber.command (h : ev.RendersNumber source) :
    ∃ v : Value, v.numeric?.isSome ∧ v.command = .ok (ev.rendered source) := by
  obtain ⟨v, s, hv, hn, hs⟩ := h
  refine ⟨v, hn, ?_⟩
  rw [rendered, hs]
  rw [render_of_evaluate hv] at hs
  cases hc : v.command with
  | error e =>
    rw [hc] at hs
    cases hs
  | ok s' =>
    rw [hc] at hs
    cases hs
    rfl

theorem RendersNumber.plain (h : ev.RendersNumber source) :
    Number.Plain (ev.rendered source) := by
  obtain ⟨v, hn, hc⟩ := h.command
  exact v.plain_command hn hc

theorem RendersNumber.balanced (h : ev.RendersNumber source) :
    Balanced '(' ')' (ev.rendered source) := by
  obtain ⟨v, hn, hc⟩ := h.command
  exact v.balanced_command hn hc

end Evaluator

end LSystem
