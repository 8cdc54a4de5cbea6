import LSystem.Proofs.Token.Balance

/-! # The grammar of tokens

`Formed` says how tokens are written: balanced blocks, and calls of a word with an argument list
that ends on its line. The token found at the start of a text is the well-formed token whose text
starts there (`first?_eq_some_iff`), so at most one token can start at a place (`Formed.unique`). -/

namespace LSystem.Token

/-- The grammar of tokens. -/
inductive Formed : Token → Prop where
  | push : Formed .push
  | pop : Formed .pop
  | block {content count : Text} : Balanced '{' '}' content → count ≠ [] →
    Balanced '(' ')' count → Formed (.block content count)
  | call {atom arguments : Text} : atom ≠ [] → (∀ c ∈ atom, Text.isWord c) →
    '>' ∉ arguments → '\n' ∉ arguments → Formed (.call atom arguments)

theorem text_ne_nil (t : Token) : t.text ≠ [] := by cases t <;> simp [text]

@[simp] theorem textOf_nil : textOf [] = [] := rfl

@[simp] theorem textOf_cons (t : Token) (ts : List Token) :
    textOf (t :: ts) = t.text ++ textOf ts := rfl

@[simp] theorem textOf_append (ts us : List Token) : textOf (ts ++ us) = textOf ts ++ textOf us :=
  List.flatMap_append

theorem splitAngle_eq_some_iff {s done inner rest : Text} :
    splitAngle s done = some (inner, rest) ↔
      ∃ mid, '>' ∉ mid ∧ '\n' ∉ mid ∧ inner = done.reverse ++ mid ∧ s = mid ++ '>' :: rest := by
  induction s generalizing done with
  | nil => simp [splitAngle]
  | cons c s ih =>
    rw [splitAngle]
    split
    · next hc =>
      subst hc
      constructor
      · intro e
        cases e
        exact ⟨[], by simp⟩
      · rintro ⟨mid, hm, -, rfl, e⟩
        cases mid with
        | nil => cases e; simp
        | cons => cases e; simp at hm
    · next hc =>
      split
      · next hn =>
        subst hn
        constructor
        · intro e
          cases e
        · rintro ⟨mid, -, hm, -, e⟩
          cases mid <;> cases e
          simp at hm
      · next hn =>
        rw [ih]
        constructor
        · rintro ⟨mid, h1, h2, rfl, rfl⟩
          exact ⟨c :: mid, by simp [h1, Ne.symm hc], by simp [h2, Ne.symm hn], by simp, rfl⟩
        · rintro ⟨mid, h1, h2, rfl, e⟩
          cases mid with
          | nil => cases e; exact absurd rfl hc
          | cons c' mid =>
            cases e
            exact ⟨mid, (h1 <| .tail _ ·), (h2 <| .tail _ ·), by simp, rfl⟩

theorem block?_eq_some_iff {s : Text} {t : Token} : block? s = some t ↔
    ∃ content count, t = .block content count ∧ t.Formed ∧ t.text <+: '{' :: s := by
  rw [block?]
  constructor
  · intro h
    split at h
    · next content s' hs =>
      split at h
      · cases h
      · next count rest hne hs' =>
        cases h
        obtain ⟨hc, rfl⟩ := balanced_of_splitClose (by decide) hs
        obtain ⟨hk, rfl⟩ := balanced_of_splitClose (by decide) hs'
        refine ⟨_, _, rfl, .block hc ?_ hk, rest, by simp [text]⟩
        rintro rfl
        exact hne rfl
      · cases h
    · cases h
  · rintro ⟨content, count, rfl, hf, rest, e⟩
    cases hf with
    | block hc hne hk =>
    obtain rfl : s = content ++ '}' :: '(' :: (count ++ ')' :: rest) := by simpa [text] using e.symm
    simp only [hc.splitClose (by decide), hk.splitClose (by decide)]

theorem call?_eq_some_iff {s : Text} {t : Token} : call? s = some t ↔
    ∃ atom arguments, t = .call atom arguments ∧ t.Formed ∧ t.text <+: s := by
  rw [call?]
  constructor
  · intro h
    split at h
    · cases h
    · next hne =>
      split at h
      · next s' hs =>
        obtain ⟨⟨arguments, rest⟩, hr, rfl⟩ := Option.map_eq_some_iff.1 h
        obtain ⟨_, h1, h2, rfl, rfl⟩ := splitAngle_eq_some_iff.1 hr
        refine ⟨_, _, rfl, .call hne (fun c hc => ?_) h1 h2, rest, ?_⟩
        · exact List.all_eq_true.1 List.all_takeWhile c hc
        · conv => rhs; rw [← List.takeWhile_append_dropWhile (p := Text.isWord) (l := s), hs]
          simp [text]
      · cases h
  · rintro ⟨atom, arguments, rfl, hf, rest, rfl⟩
    cases hf with
    | call hne hw h1 h2 =>
    have hl : Text.isWord '<' = false := by decide
    have ht : (text (.call atom arguments) ++ rest).takeWhile Text.isWord = atom := by
      simp [text, List.takeWhile_append_of_pos hw, hl]
    have hd : (text (.call atom arguments) ++ rest).dropWhile Text.isWord =
        '<' :: (arguments ++ '>' :: rest) := by
      simp [text, List.dropWhile_append_of_pos hw, hl]
    have hr : splitAngle (arguments ++ '>' :: rest) [] = some (arguments, rest) :=
      splitAngle_eq_some_iff.2 ⟨arguments, h1, h2, rfl, rfl⟩
    rw [ht, hd, if_neg hne]
    simp [hr]

/-- The token that starts a text is the well-formed one whose text is there. -/
theorem first?_eq_some_iff {s : Text} {t : Token} :
    first? s = some t ↔ t.Formed ∧ t.text <+: s := by
  constructor
  · intro h
    refine ⟨?_, first?_text_isPrefix h⟩
    unfold first? at h
    split at h
    · cases h
    · cases h; exact .push
    · cases h; exact .pop
    · obtain ⟨_, _, _, hf, _⟩ := block?_eq_some_iff.1 h
      exact hf
    · obtain ⟨_, _, _, hf, _⟩ := call?_eq_some_iff.1 h
      exact hf
  · rintro ⟨hf, hp⟩
    cases hf with
    | push => obtain ⟨rest, rfl⟩ := hp; rfl
    | pop => obtain ⟨rest, rfl⟩ := hp; rfl
    | block hc hne hk =>
      obtain ⟨rest, rfl⟩ := hp
      exact block?_eq_some_iff.2 ⟨_, _, rfl, .block hc hne hk, rest, rfl⟩
    | @call atom arguments hne hw h1 h2 =>
      have h := call?_eq_some_iff.2 ⟨_, _, rfl, .call hne hw h1 h2, hp⟩
      obtain ⟨rest, rfl⟩ := hp
      -- A word starts with none of the characters that start other tokens.
      cases atom with
      | nil => exact absurd rfl hne
      | cons c atom =>
        have hc := hw c List.mem_cons_self
        rw [← h]
        simp only [text, List.cons_append]
        unfold first?
        split
        · next e => cases e
        · next e => cases e; exact absurd hc (by decide)
        · next e => cases e; exact absurd hc (by decide)
        · next e => cases e; exact absurd hc (by decide)
        · next e => cases e; rfl

theorem Formed.first? {t : Token} (h : t.Formed) (s : Text) : first? (t.text ++ s) = some t :=
  first?_eq_some_iff.2 ⟨h, s, rfl⟩

/-- At most one token starts at a place. -/
theorem Formed.unique {s : Text} {t u : Token} (ht : t.Formed) (hu : u.Formed)
    (hts : t.text <+: s) (hus : u.text <+: s) : t = u :=
  Option.some.inj <| (first?_eq_some_iff.2 ⟨ht, hts⟩).symm.trans (first?_eq_some_iff.2 ⟨hu, hus⟩)

theorem first?_eq_none_iff {s : Text} : first? s = none ↔ ∀ t, Formed t → ¬ t.text <+: s := by
  simp [Option.eq_none_iff_forall_ne_some, first?_eq_some_iff]

end LSystem.Token
