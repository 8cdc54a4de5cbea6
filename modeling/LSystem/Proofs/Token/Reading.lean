import LSystem.Proofs.Text.Pieces
import LSystem.Proofs.Token.Form

/-! # Readings

A reading takes a text apart into well-formed tokens, with gaps before, between and after them in
which no token starts. Every text has exactly one reading, and `tokenize` finds it
(`tokenize_eq_iff_reads`). -/

namespace LSystem

namespace Token

variable {gap s : Text} {t : Token} {ts : List Token}

/-- No token starts at a character of `gap`, when the text goes on with `rest`. -/
def Gap (gap rest : Text) : Prop :=
  ∀ s, s ≠ [] → s <:+ gap → ∀ t, Formed t → ¬ t.text <+: s ++ rest

/-- A text consists of some tokens in this order, with gaps around them. -/
inductive Reads : Text → List Token → Prop where
  | last {gap : Text} : Gap gap [] → Reads gap []
  | token {gap s : Text} {t : Token} {ts : List Token} : Gap gap (t.text ++ s) → t.Formed →
    Reads s ts → Reads (gap ++ (t.text ++ s)) (t :: ts)

theorem Gap.nil (rest : Text) : Gap [] rest := by
  intro s hne hs
  exact absurd (List.suffix_nil.1 hs) hne

theorem gap_cons_iff {c : Char} {rest : Text} :
    Gap (c :: gap) rest ↔ (∀ t, Formed t → ¬ t.text <+: c :: (gap ++ rest)) ∧ Gap gap rest := by
  constructor
  · intro h
    refine ⟨h (c :: gap) nofun List.suffix_rfl, fun s hne hs => h s hne ?_⟩
    exact hs.trans (List.suffix_cons ..)
  · rintro ⟨h0, h⟩ s hne hs
    rcases List.suffix_cons_iff.1 hs with rfl | hs
    · exact h0
    · exact h s hne hs

/-- A character at which no token starts belongs to the gap in front. -/
theorem Reads.skip {c : Char} (h0 : ∀ t, Formed t → ¬ t.text <+: c :: s) (h : Reads s ts) :
    Reads (c :: s) ts := by
  cases h with
  | last hg => exact .last (gap_cons_iff.2 ⟨by simpa using h0, hg⟩)
  | token hg ht h =>
    have := Reads.token (gap_cons_iff.2 ⟨h0, hg⟩) ht h
    exact this

theorem scan_eq (skip : Nat) (s : Text) (found : List Token) :
    scan skip s found = found.reverse ++ scan 0 (s.drop skip) [] := by
  induction s generalizing skip found with
  | nil => simp [scan]
  | cons c s ih =>
    cases skip with
    | succ skip => rw [scan, ih, List.drop_succ_cons]
    | zero =>
      simp only [scan, List.drop_zero]
      cases first? (c :: s) with
      | none => rw [ih, List.drop_zero]
      | some t =>
        simp only
        rw [ih, ih _ [t]]
        simp

end Token

open Token

variable {gap s : Text} {t : Token} {ts : List Token}

@[simp] theorem tokenize_nil : tokenize [] = [] := rfl

theorem tokenize_cons_of_not_first {c : Char} (h : first? (c :: s) = none) :
    tokenize (c :: s) = tokenize s := by
  rw [tokenize, scan, h]
  rfl

/-- A well-formed token in front is found, and the scan goes on behind it. -/
theorem tokenize_text_append (h : t.Formed) (s : Text) :
    tokenize (t.text ++ s) = t :: tokenize s := by
  have hf := h.first? s
  have hne := t.text_ne_nil
  rw [tokenize]
  cases e : t.text with
  | nil => exact absurd e hne
  | cons c u =>
    rw [e, List.cons_append] at hf
    rw [List.cons_append, scan, hf]
    simp only
    rw [scan_eq, e]
    simp [tokenize]

/-- What stands in a gap is skipped. -/
theorem tokenize_gap_append {rest : Text} (h : Gap gap rest) :
    tokenize (gap ++ rest) = tokenize rest := by
  induction gap with
  | nil => rfl
  | cons c gap ih =>
    obtain ⟨h0, h⟩ := gap_cons_iff.1 h
    rw [List.cons_append, tokenize_cons_of_not_first (first?_eq_none_iff.2 h0), ih h]

theorem tokenize_of_reads (h : Reads s ts) : tokenize s = ts := by
  induction h with
  | last hg => simpa using tokenize_gap_append hg
  | token hg ht _ ih => rw [tokenize_gap_append hg, tokenize_text_append ht, ih]

/-- The tokens that the scan finds are a reading of the text. The induction is on the length of the
text, since a token takes several characters at once. -/
theorem reads_tokenize (s : Text) : Reads s (tokenize s) := by
  induction n : s.length using Nat.strongRecOn generalizing s with
  | ind n ih =>
    subst n
    cases s with
    | nil => exact .last (.nil [])
    | cons c s =>
      cases h : first? (c :: s) with
      | none =>
        rw [tokenize_cons_of_not_first h]
        exact .skip (first?_eq_none_iff.1 h) (ih _ (by simp) s rfl)
      | some t =>
        obtain ⟨ht, rest, e⟩ := first?_eq_some_iff.1 h
        have hl := List.length_pos_iff.2 t.text_ne_nil
        have hlt : rest.length < (c :: s).length := by
          rw [← e, List.length_append]
          omega
        rw [← e, tokenize_text_append ht]
        have := Reads.token (.nil _) ht (ih _ hlt rest rfl)
        exact this

theorem formed_of_mem_tokenize (h : t ∈ tokenize s) : t.Formed := by
  have hr := reads_tokenize s
  generalize tokenize s = ts at h hr
  induction hr with
  | last => cases h
  | token _ ht _ ih =>
    rcases List.mem_cons.1 h with rfl | h
    · exact ht
    · exact ih h

/-! ## Pieces of argument lists -/

/-- The arguments are the pieces between commas that are not empty. -/
theorem splitArguments_eq_filter (arguments : Text) :
    ∃ parts, parts ≠ [] ∧ (∀ p ∈ parts, ',' ∉ p) ∧ arguments = Text.join [','] parts ∧
      splitArguments arguments = parts.filter (· ≠ []) :=
  ⟨arguments.splitOn ',', List.splitOn_ne_nil _ _, fun _ => Text.not_mem_of_mem_splitOn,
    (List.intercalate_splitOn ',').symm, rfl⟩

/-- Every text has exactly one reading, and `tokenize` finds its tokens; the arguments of a call are
the non-empty pieces of its argument list between commas; and no two blocks start at one place. -/
theorem tokenize_eq_iff_reads :
    (∀ s ts, tokenize s = ts ↔ Reads s ts) ∧
    (∀ arguments, ∃ parts, parts ≠ [] ∧ (∀ p ∈ parts, ',' ∉ p) ∧
      arguments = Text.join [','] parts ∧
      splitArguments arguments = parts.filter (· ≠ [])) ∧
    (∀ s content count content' count', Formed (.block content count) →
      Formed (.block content' count') → (Token.block content count).text <+: s →
      (Token.block content' count').text <+: s → content = content' ∧ count = count') := by
  refine ⟨fun s ts => ⟨?_, tokenize_of_reads⟩, splitArguments_eq_filter, ?_⟩
  · rintro rfl
    exact reads_tokenize s
  · intro s content count content' count' h h' hs hs'
    exact Token.block.inj (h.unique h' hs hs')

-- A block without a count is none, but what stands in it is read.
example : tokenize "{A<1>}(){B<y>}(2)".toList =
    [.call ['A'] ['1'], .block "B<y>".toList ['2']] := by decide +kernel

end LSystem
