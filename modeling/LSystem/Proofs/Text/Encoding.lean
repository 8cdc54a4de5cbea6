import LSystem.Text.Encoding
import Mathlib.Data.List.TakeWhile

/-! # Texts that can be written

A text can be written if the encoding takes all of its characters; UTF-8 takes those that stand for
themselves. Of several texts, those before the first one that cannot be written are printed
(`print_cases`). -/

namespace LSystem.Encoding

variable {out : Encoding} {s t : Text} {texts : List Text} {fault : EncodingFault}

theorem takes_append : out.Takes (s ++ t) ↔ out.Takes s ∧ out.Takes t := List.forall_mem_append

theorem utf8_takes_iff : utf8.Takes s ↔ ∀ c ∈ s, Text.isLone c = false := by
  simp [Takes, utf8]

theorem utf8_takes_of_ascii (h : ∀ c ∈ s, c.toNat < 128) : utf8.Takes s := by
  refine utf8_takes_iff.2 fun c hc => ?_
  have := h c hc
  simp only [Text.isLone, Bool.and_eq_false_iff, decide_eq_false_iff_not]
  omega

theorem fault?_eq_none_iff : out.fault? s = none ↔ out.Takes s := by
  unfold fault? Takes
  split
  · next h => simpa using List.dropWhile_eq_nil_iff.1 h
  · next c rest h =>
    refine ⟨nofun, fun hs => ?_⟩
    rw [List.dropWhile_eq_nil_iff.2 hs] at h
    cases h

theorem encodes_of_fault? (h : out.fault? s = some fault) : out.encodes fault.char = false := by
  unfold fault? at h
  split at h
  · cases h
  · next c rest hs =>
    cases h
    have hc := List.dropWhile_get_zero_not out.encodes s (by simp [hs])
    simpa [hs] using hc

theorem isLone_of_fault? (h : utf8.fault? s = some fault) : Text.isLone fault.char := by
  simpa [utf8] using encodes_of_fault? h

/-- What is printed is what stands before the first text that cannot be written. -/
theorem print_cases (out : Encoding) (texts : List Text) :
    (∀ s ∈ texts, out.Takes s) ∧ out.print texts = (texts, none) ∨
      ∃ before s after fault, texts = before ++ s :: after ∧ (∀ t ∈ before, out.Takes t) ∧
        out.fault? s = some fault ∧ out.print texts = (before, some fault) := by
  induction texts with
  | nil => exact .inl ⟨nofun, rfl⟩
  | cons s texts ih =>
    rw [print]
    cases hs : out.fault? s with
    | some fault => exact .inr ⟨[], s, texts, fault, rfl, nofun, hs, rfl⟩
    | none =>
      have hs := fault?_eq_none_iff.1 hs
      obtain ⟨h, hp⟩ | ⟨before, t, after, fault, rfl, hb, hf, hp⟩ := ih
      · exact .inl ⟨List.forall_mem_cons.2 ⟨hs, h⟩, by rw [hp]⟩
      · exact .inr ⟨s :: before, t, after, fault, rfl, List.forall_mem_cons.2 ⟨hs, hb⟩, hf,
          by rw [hp]⟩

theorem print_of_takes (h : ∀ s ∈ texts, out.Takes s) : out.print texts = (texts, none) := by
  obtain ⟨-, hp⟩ | ⟨before, s, after, fault, rfl, -, hf, -⟩ := out.print_cases texts
  · exact hp
  · rw [fault?_eq_none_iff.2 (h s (by simp))] at hf
    cases hf

end LSystem.Encoding
