import LSystem.Text.Class
import Mathlib.Data.List.Infix

/-! # Trimming

What trimming leaves of a text is determined by how the text is made: of characters that are
trimmed, a middle that starts and ends with others, and again characters that are trimmed
(`exists_trimWhile`, `trimWhile_append`). No white space is a character of a word or goes on with a
name. -/

namespace LSystem.Text

variable {p : Char → Bool} {s : Text} {c : Char}

/-- A text is its trimmed middle between characters that are trimmed. The middle starts and ends
with others. -/
theorem exists_trimWhile (p : Char → Bool) (s : Text) :
    ∃ pre post, s = pre ++ (trimWhile p s ++ post) ∧ (∀ c ∈ pre, p c) ∧ (∀ c ∈ post, p c) ∧
      (∀ c t, trimWhile p s = c :: t → p c = false) ∧
      ∀ c t, trimWhile p s = t ++ [c] → p c = false := by
  have hmiddle :
      trimWhile p s ++ ((s.dropWhile p).reverse.takeWhile p).reverse = s.dropWhile p := by
    rw [trimWhile, ← List.reverse_append, List.takeWhile_append_dropWhile, List.reverse_reverse]
  have htake {s : Text} : ∀ c ∈ s.takeWhile p, p c := List.all_eq_true.1 List.all_takeWhile
  refine ⟨s.takeWhile p, ((s.dropWhile p).reverse.takeWhile p).reverse, ?_, htake,
    fun c hc => htake c (List.mem_reverse.1 hc), fun c t h => ?_, fun c t h => ?_⟩
  · rw [hmiddle, List.takeWhile_append_dropWhile]
  · have := List.head?_dropWhile_not p s
    rw [← hmiddle, h] at this
    exact this
  · have := List.head?_dropWhile_not p (s.dropWhile p).reverse
    rw [trimWhile, List.reverse_eq_iff] at h
    rw [h, List.reverse_append] at this
    exact this

theorem trimWhile_append {pre post : Text} (hpre : ∀ c ∈ pre, p c) (hpost : ∀ c ∈ post, p c)
    (hs : ∃ c t, s = c :: t ∧ p c = false) (ht : ∃ t c, s = t ++ [c] ∧ p c = false) :
    trimWhile p (pre ++ (s ++ post)) = s := by
  obtain ⟨c, u, hs, hc⟩ := hs
  obtain ⟨t, d, ht, hd⟩ := ht
  have hfront : (pre ++ (s ++ post)).dropWhile p = s ++ post := by
    rw [List.dropWhile_append_of_pos hpre, hs, List.cons_append,
      List.dropWhile_cons_of_neg (by simp [hc])]
  have hback : (s ++ post).reverse.dropWhile p = s.reverse := by
    rw [List.reverse_append,
      List.dropWhile_append_of_pos fun c hc => hpost c (List.mem_reverse.1 hc), ht,
      List.reverse_append, List.reverse_singleton,
      List.singleton_append, List.dropWhile_cons_of_neg (by simp [hd])]
  rw [trimWhile, hfront, hback, List.reverse_reverse]

theorem trim_eq_self (h : ∀ c ∈ s, isBlank c = false) : trim s = s := by
  have keep {s : Text} (h : ∀ c ∈ s, isBlank c = false) : s.dropWhile isBlank = s := by
    cases s with
    | nil => rfl
    | cons c s => exact List.dropWhile_cons_of_neg (by simp [h c List.mem_cons_self])
  rw [trim, trimWhile, keep h, keep fun c hc => h c (List.mem_reverse.1 hc), List.reverse_reverse]

/-! ## White space -/

/-- A text of white space, or an empty one. -/
def Blank (s : Text) : Prop := ∀ c ∈ s, isBlank c

theorem trim_eq_nil_iff : trim s = [] ↔ Blank s := by
  obtain ⟨pre, post, hs, hpre, hpost, hfirst, -⟩ := exists_trimWhile isBlank s
  constructor
  · intro h
    change trimWhile isBlank s = [] at h
    rw [h, List.nil_append] at hs
    rw [hs]
    exact List.forall_mem_append.2 ⟨hpre, hpost⟩
  · intro h
    cases ht : trim s with
    | nil => rfl
    | cons c t =>
      change trimWhile isBlank s = c :: t at ht
      have hm : c ∈ s := by
        rw [hs, ht]
        simp
      cases (h c hm).symm.trans (hfirst c t ht)

/-- The code points of white space. -/
def blanks : List Nat :=
  [9, 10, 11, 12, 13, 28, 29, 30, 31, 32, 133, 160, 5760, 8192, 8193, 8194, 8195, 8196, 8197, 8198,
    8199, 8200, 8201, 8202, 8232, 8233, 8239, 8287, 12288]

theorem mem_blanks (h : isBlank c) : c.toNat ∈ blanks := by
  simp only [isBlank, Bool.or_eq_true, Bool.and_eq_true, decide_eq_true_eq] at h
  simp only [blanks, List.mem_cons, List.not_mem_nil, or_false]
  omega

/-- No white space belongs to a class of characters to which none of its code points belongs. -/
theorem not_isBlank_of_class (hp : ∀ n ∈ blanks, p (Char.ofNat n) = false) (h : p c) :
    isBlank c = false := by
  rw [Bool.eq_false_iff]
  intro hb
  have := hp _ (mem_blanks hb)
  rw [Char.ofNat_toNat, h] at this
  cases this

/-- No white space goes on with a name. -/
theorem not_isBlank_of_nameContinue (h : isNameContinue c) : isBlank c = false :=
  not_isBlank_of_class (by decide +kernel) h

/-- No white space is a character of a word. -/
theorem not_isBlank_of_isWord (h : isWord c) : isBlank c = false :=
  not_isBlank_of_class (by decide +kernel) h

end LSystem.Text
