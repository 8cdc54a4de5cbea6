import LSystem.Proofs.Token.Tight

/-! # Tokens between separators

Tokens that are written down are read back, with any separators around them. A separator is made of
characters with which no token starts (`Formed.starts`), so it is a gap whatever follows it, and a
token ends where it ends whatever follows that (`tokenize_text_append`). -/

namespace LSystem

open Token

variable {w : Text} {t : Token}

/-- Whether a token may start with a character. -/
def Token.Opens (c : Char) : Prop := Text.isWord c ∨ c = '[' ∨ c = ']' ∨ c = '{'

instance : DecidablePred Opens := fun _ => inferInstanceAs (Decidable (_ ∨ _))

/-- A text made of characters with which no token starts. They may well stand inside of tokens. -/
def Text.Separator (w : Text) : Prop := ∀ c ∈ w, ¬ Opens c

instance : DecidablePred Text.Separator := List.decidableBAll fun c => ¬ Opens c

/-- Tokens one after the other, each with a text behind it. -/
def Token.spaced : List (Token × Text) → Text
  | [] => []
  | (t, w) :: ts => t.text ++ (w ++ spaced ts)

theorem Token.Formed.starts (h : t.Formed) : ∃ c s, t.text = c :: s ∧ Opens c := by
  cases h with
  | push => exact ⟨'[', [], rfl, .inr (.inl rfl)⟩
  | pop => exact ⟨']', [], rfl, .inr (.inr (.inl rfl))⟩
  | block => exact ⟨'{', _, rfl, .inr (.inr (.inr rfl))⟩
  | @call atom arguments hne hw =>
    cases atom with
    | nil => exact absurd rfl hne
    | cons c atom => exact ⟨c, _, rfl, .inl (hw c List.mem_cons_self)⟩

theorem Text.Separator.gap (hw : w.Separator) (rest : Text) : Gap w rest := by
  induction w with
  | nil => exact .nil rest
  | cons c w ih =>
    obtain ⟨hc, hw⟩ := List.forall_mem_cons.1 hw
    refine gap_cons_iff.2 ⟨fun t ht hp => ?_, ih hw⟩
    obtain ⟨c', s, hs, hc'⟩ := ht.starts
    rw [hs, List.cons_prefix_cons] at hp
    obtain ⟨rfl, -⟩ := hp
    exact hc hc'

theorem Text.Separator.tokenize_append (hw : w.Separator) (rest : Text) :
    tokenize (w ++ rest) = tokenize rest :=
  tokenize_gap_append (hw.gap rest)

theorem tokenize_spaced {ts : List (Token × Text)} (hts : ∀ p ∈ ts, p.1.Formed ∧ p.2.Separator) :
    tokenize (spaced ts) = ts.map Prod.fst := by
  induction ts with
  | nil => rfl
  | cons p ts ih =>
    obtain ⟨t, w⟩ := p
    obtain ⟨⟨ht, hw⟩, hts⟩ := List.forall_mem_cons.1 hts
    rw [spaced, tokenize_text_append ht, hw.tokenize_append, ih hts, List.map_cons]

/-- Writing tokens down and reading them back is the identity, with separators in front, between and
behind. All tokens that are read can be written down so. -/
theorem tokenize_written :
    (∀ (w : Text) (ts : List (Token × Text)), w.Separator →
      (∀ p ∈ ts, p.1.Formed ∧ p.2.Separator) → tokenize (w ++ spaced ts) = ts.map Prod.fst) ∧
    (∀ s, ∀ t ∈ tokenize s, t.Formed) ∧
    (∀ s, tokenize (textOf (tokenize s)) = tokenize s) := by
  refine ⟨fun w ts hw hts => ?_, fun s t => formed_of_mem_tokenize, fun s => ?_⟩
  · rw [hw.tokenize_append, tokenize_spaced hts]
  · exact Text.tokenize_textOf fun t => formed_of_mem_tokenize

theorem tokenize_written_stray :
    tokenize "<)F<1,2><{[A<]}((n))\x7d\n>(]".toList =
      [.call ['F'] "1,2".toList, .block "[A<]".toList "(n)".toList, .pop] := by
  have h0 : Text.Separator ['<', ')'] := by decide +kernel
  have h1 : Text.Separator ['<'] := by decide +kernel
  have h2 : Text.Separator "\x7d\n>(".toList := by decide +kernel
  have hf : (Token.call ['F'] "1,2".toList).Formed :=
    .call (by decide) (List.forall_mem_singleton.2 (by decide)) (by decide) (by decide)
  have hb : (Token.block "[A<]".toList "(n)".toList).Formed :=
    .block (balanced_of_not_mem (by decide) (by decide) (by decide)) (by decide)
      (.enclose (s := ['n']) (by decide) (balanced_of_not_mem (by decide) (by decide) (by decide)))
  refine tokenize_written.1 ['<', ')'] [(.call ['F'] "1,2".toList, ['<']),
    (.block "[A<]".toList "(n)".toList, "\x7d\n>(".toList), (.pop, [])] h0 fun p hp => ?_
  obtain rfl | rfl | rfl : p = _ ∨ p = _ ∨ p = _ := by simpa only [List.mem_cons, List.not_mem_nil,
    or_false] using hp
  · exact ⟨hf, h1⟩
  · exact ⟨hb, h2⟩
  · exact ⟨.pop, nofun⟩

end LSystem
