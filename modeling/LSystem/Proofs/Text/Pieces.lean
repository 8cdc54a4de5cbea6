import LSystem.Text.Basic

/-! # Pieces between separators

No piece of a text that is cut holds the separator, and the characters of texts that are joined are
the characters of these texts and of the separator. -/

namespace LSystem.Text

theorem not_mem_of_mem_splitOn {sep : Char} {s p : Text} (h : p ∈ s.splitOn sep) : sep ∉ p := by
  induction s generalizing p with
  | nil => simp_all
  | cons c s ih =>
    rw [List.splitOn_cons_eq_if_modifyHead] at h
    split at h
    · rcases List.mem_cons.1 h with rfl | h
      · exact List.not_mem_nil
      · exact ih h
    · next hc =>
      cases e : s.splitOn sep with
      | nil => simp [e] at h
      | cons q qs =>
        rw [e, List.modifyHead_cons] at h
        rcases List.mem_cons.1 h with rfl | h
        · have hq := ih (e ▸ List.mem_cons_self : q ∈ s.splitOn sep)
          rw [List.mem_cons, not_or]
          exact ⟨fun e => hc (by simp [e]), hq⟩
        · exact ih (e ▸ List.mem_cons_of_mem _ h)

theorem mem_join {c : Char} {parts : List Text} (h : c ∈ join [','] parts) :
    c = ',' ∨ ∃ part ∈ parts, c ∈ part := by
  unfold join at h
  induction parts with
  | nil => simp at h
  | cons part parts ih =>
    cases parts with
    | nil => exact .inr ⟨part, List.mem_cons_self, by simpa using h⟩
    | cons part' parts =>
      rw [List.intercalate_cons_cons, List.mem_append, List.mem_append, List.mem_singleton] at h
      rcases h with (h | h) | h
      · exact .inr ⟨part, List.mem_cons_self, h⟩
      · exact .inl h
      · exact (ih h).imp_right fun ⟨q, hq, hc⟩ => ⟨q, List.mem_cons_of_mem _ hq, hc⟩

theorem mem_join_of_mem {c : Char} {part : Text} {parts : List Text} (hp : part ∈ parts)
    (hc : c ∈ part) : c ∈ join [','] parts := by
  unfold join
  induction parts with
  | nil => cases hp
  | cons part' parts ih =>
    cases parts with
    | nil =>
      obtain rfl := List.mem_singleton.1 hp
      simpa using hc
    | cons part'' parts =>
      rw [List.intercalate_cons_cons, List.mem_append, List.mem_append]
      rcases List.mem_cons.1 hp with rfl | hp
      · exact .inl (.inl hc)
      · exact .inr (ih hp)

end LSystem.Text
