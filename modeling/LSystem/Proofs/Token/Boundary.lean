import LSystem.Proofs.Token.Reading

/-! # Where calls stand

The scan tries every character of a text, so it might find a call in the middle of a word, where it
failed to find one at its start. It never does (`tokenize_call_wholeWord`). The text in front of a
token is a text that ends where an earlier token ends, and then a gap (`Reads.exists_split`). No
token ends with a character of a word (`Formed.endsOutside`). Neither does a gap in front of a call,
because the call could start at this character as well (`Gap.endsOutside`). -/

namespace LSystem

namespace Text

variable {s t : Text}

/-- A text that does not end with a character of a word. -/
def EndsOutside (s : Text) : Prop := ∀ c ∈ s.getLast?, isWord c = false

theorem EndsOutside.nil : EndsOutside [] := nofun

theorem EndsOutside.concat {c : Char} (hc : isWord c = false) (s : Text) :
    EndsOutside (s ++ [c]) := by
  simpa [EndsOutside] using hc

theorem EndsOutside.append (hs : EndsOutside s) (ht : EndsOutside t) : EndsOutside (s ++ t) := by
  intro c hc
  rw [List.getLast?_append] at hc
  rcases Option.or_eq_some_iff.1 hc with hc | ⟨-, hc⟩
  · exact ht c hc
  · exact hs c hc

theorem EndsOutside.append_of_ne_nil (ht : EndsOutside t) (hne : t ≠ []) (s : Text) :
    EndsOutside (s ++ t) := by
  intro c hc
  rw [List.getLast?_append, List.getLast?_eq_some_getLast hne] at hc
  exact ht c ((List.getLast?_eq_some_getLast hne).trans hc)

/-- In the text `before ++ (word ++ after)`, `word` is a word, and the characters on either side of
it are no characters of words. -/
structure WholeWord (before word after : Text) : Prop where
  ne_nil : word ≠ []
  word : ∀ c ∈ word, isWord c
  left : EndsOutside before
  right : ∀ c ∈ after.head?, isWord c = false

end Text

open Text (EndsOutside WholeWord)

namespace Token

variable {gap rest more s : Text} {atom arguments : Text} {t : Token} {ts us : List Token}

/-- No token ends with a character of a word. -/
theorem Formed.endsOutside (h : t.Formed) : EndsOutside t.text := by
  cases h with
  | push => exact .concat (by decide) []
  | pop => exact .concat (by decide) []
  | @block content count =>
    have htext : (Token.block content count).text =
        ('{' :: content ++ '}' :: '(' :: count) ++ [')'] := by simp [text]
    rw [htext]
    exact .concat (by decide) _
  | call => exact .concat (by decide) _

/-- A gap in front of a text is a gap in front of its beginnings. -/
theorem Gap.of_append (h : Gap gap (rest ++ more)) : Gap gap rest := by
  intro s hne hs t ht hp
  refine h s hne hs t ht (hp.trans ?_)
  rw [← List.append_assoc]
  exact List.prefix_append _ more

/-- A gap in front of a call does not end with a character of a word, since with this character the
word of the call would be longer. -/
theorem Gap.endsOutside (h : Gap gap ((Token.call atom arguments).text ++ rest))
    (hf : (Token.call atom arguments).Formed) : EndsOutside gap := by
  intro c hc
  obtain ⟨front, rfl⟩ := List.getLast?_eq_some_iff.1 hc
  cases hf with
  | call hne hw h1 h2 =>
  rw [Bool.eq_false_iff]
  intro hword
  have hlonger : (Token.call (c :: atom) arguments).Formed :=
    .call (List.cons_ne_nil c atom) (List.forall_mem_cons.2 ⟨hword, hw⟩) h1 h2
  exact h [c] (List.cons_ne_nil c []) (List.suffix_append front [c]) _ hlonger
    (List.prefix_append (Token.call (c :: atom) arguments).text rest)

/-- A reading is split at one of its tokens. What stands in front of the token is read as the tokens
before it. It consists of a text that does not end with a character of a word, and of a gap. -/
theorem Reads.exists_split (h : Reads s (ts ++ t :: us)) :
    ∃ front gap after, s = (front ++ gap) ++ (t.text ++ after) ∧ Reads (front ++ gap) ts ∧
      Reads after us ∧ t.Formed ∧ EndsOutside front ∧ Gap gap (t.text ++ after) := by
  induction ts generalizing s with
  | nil =>
    cases h with
    | @token gap after _ _ hg ht h =>
      have hlast : Gap gap ([] ++ (t.text ++ after)) := hg
      exact ⟨[], gap, after, rfl, .last hlast.of_append, h, ht, .nil, hg⟩
  | cons u ts ih =>
    cases h with
    | @token gap' _ _ _ hg' hu h =>
      obtain ⟨front, gap, after, rfl, hfront, hafter, ht, hend, hg⟩ := ih h
      have hread : Reads (gap' ++ (u.text ++ (front ++ gap))) (u :: ts) := by
        have hfirst : Gap gap' ((u.text ++ (front ++ gap)) ++ (t.text ++ after)) := by
          simpa using hg'
        exact .token hfirst.of_append hu hfront
      have hend' : EndsOutside ((gap' ++ u.text) ++ front) :=
        (hu.endsOutside.append_of_ne_nil u.text_ne_nil gap').append hend
      refine ⟨(gap' ++ u.text) ++ front, gap, after, by simp, ?_, hafter, ht, hend', hg⟩
      simpa using hread

end Token

open Token

variable {s atom arguments : Text} {ts us : List Token}

/-- The atom of a call that is found is a whole word of the text, at the place where the call is
found: the tokens before the call are those of the text in front of it, and the tokens behind it
are those of the text that follows. -/
theorem tokenize_call_wholeWord (h : tokenize s = ts ++ .call atom arguments :: us) :
    ∃ before after, s = before ++ (atom ++ '<' :: (arguments ++ '>' :: after)) ∧
      tokenize before = ts ∧ tokenize after = us ∧
      WholeWord before atom ('<' :: (arguments ++ '>' :: after)) := by
  have hr := reads_tokenize s
  rw [h] at hr
  obtain ⟨front, gap, after, rfl, hfront, hafter, hf, hend, hg⟩ := hr.exists_split
  have hleft : EndsOutside (front ++ gap) := hend.append (hg.endsOutside hf)
  refine ⟨front ++ gap, after, by simp [text], tokenize_of_reads hfront,
    tokenize_of_reads hafter, ?_⟩
  cases hf with
  | call hne hw _ _ =>
  refine ⟨hne, hw, hleft, ?_⟩
  rintro c ⟨⟩
  decide

/-- Neither the brace that opens no block nor the lines on which no call ends make the scan start in
the middle of a word. -/
theorem tokenize_call_wholeWord_broken :
    tokenize "\x7b[ab<1\nF<2>ab<\nab<3>]".toList =
        [.push, .call ['F'] ['2']] ++ .call "ab".toList ['3'] :: [.pop] ∧
      ∃ before after, "\x7b[ab<1\nF<2>ab<\nab<3>]".toList =
          before ++ ("ab".toList ++ '<' :: (['3'] ++ '>' :: after)) ∧
        tokenize before = [.push, .call ['F'] ['2']] ∧ tokenize after = [.pop] ∧
        WholeWord before "ab".toList ('<' :: (['3'] ++ '>' :: after)) := by
  have h : tokenize "\x7b[ab<1\nF<2>ab<\nab<3>]".toList =
      [.push, .call ['F'] ['2']] ++ .call "ab".toList ['3'] :: [.pop] := by decide +kernel
  exact ⟨h, tokenize_call_wholeWord h⟩

end LSystem
