import LSystem.Proofs.Token.Reading

/-! # Texts that differ between angle brackets

A region is a text between a `<` and the next `>` on the line. Two texts are aligned if they are the
same but for what stands in their regions, and if braces and round brackets are balanced in each of
these. Then brackets are closed at the same places of both (`Aligned.split`), and a token starts at
a place of the one if one starts there in the other (`Aligned.first?_isSome`). -/

namespace LSystem

open Token

namespace Text

/-- No `>` follows on the first line of a text, so a `<` in front of it starts no region. -/
def Unclosed (s : Text) : Prop := ∀ a rest, s = a ++ '>' :: rest → '\n' ∈ a

/-- The brackets that delimit the contents and the counts of blocks. -/
inductive Brackets : Char → Char → Prop where
  | braces : Brackets '{' '}'
  | round : Brackets '(' ')'

/-- What may stand in a region without a change to the brackets around it. -/
structure Inert (a : Text) : Prop where
  angle : '>' ∉ a
  line : '\n' ∉ a
  balanced : ∀ {left right}, Brackets left right → Balanced left right a

/-- Two texts are the same but for what stands in their regions. -/
inductive Aligned : Text → Text → Prop where
  | nil : Aligned [] []
  | keep {c : Char} {s u : Text} : (c = '<' → Unclosed s) → Aligned s u → Aligned (c :: s) (c :: u)
  | region {a w s u : Text} : Inert a → Inert w → Aligned s u →
    Aligned ('<' :: (a ++ '>' :: s)) ('<' :: (w ++ '>' :: u))

variable {a p s t u mid rest : Text} {c left right : Char} {depth : Nat}

/-! ## Unclosed texts -/

theorem unclosed_nil : Unclosed [] := by
  intro a rest h
  cases a <;> cases h

@[simp] theorem unclosed_cons : Unclosed (c :: s) ↔ c ≠ '>' ∧ (c = '\n' ∨ Unclosed s) := by
  constructor
  · intro h
    refine ⟨?_, ?_⟩
    · rintro rfl
      cases h [] s rfl
    · by_cases hc : c = '\n'
      · exact .inl hc
      · refine .inr fun a rest e => ?_
        have := h (c :: a) rest (by rw [e, List.cons_append])
        exact (List.mem_cons.1 this).resolve_left (Ne.symm hc)
  · rintro ⟨hne, h⟩ a rest e
    cases a with
    | nil => cases e; exact absurd rfl hne
    | cons c' a =>
      cases e
      obtain rfl | h := h
      · exact List.mem_cons_self
      · exact List.mem_cons_of_mem _ (h a rest rfl)

instance decidableUnclosed : (s : Text) → Decidable s.Unclosed
  | [] => .isTrue unclosed_nil
  | _ :: s =>
    have := decidableUnclosed s
    decidable_of_iff _ unclosed_cons.symm

theorem Unclosed.of_isPrefix (h : Unclosed s) (hp : p <+: s) : Unclosed p := by
  obtain ⟨t, rfl⟩ := hp
  intro a rest e
  exact h a (rest ++ t) (by rw [e, List.append_assoc, List.cons_append])

theorem not_unclosed_append (h : '\n' ∉ a) : ¬ Unclosed (a ++ '>' :: s) := fun hu =>
  h (hu a s rfl)

theorem Unclosed.splitAngle (h : Unclosed s) : splitAngle s [] = none := by
  rw [Option.eq_none_iff_forall_ne_some]
  rintro ⟨inner, rest⟩ e
  obtain ⟨mid, -, hn, -, rfl⟩ := splitAngle_eq_some_iff.1 e
  exact not_unclosed_append hn h

/-- What stands before the first `>` is determined. -/
theorem eq_of_angle {b : Text} (ha : '>' ∉ a) (hb : '>' ∉ b) (e : a ++ '>' :: s = b ++ '>' :: u) :
    a = b ∧ s = u := by
  rcases List.append_eq_append_iff.1 e with ⟨m, rfl, em⟩ | ⟨m, rfl, em⟩
  · cases m with
    | nil => cases em; exact ⟨(List.append_nil a).symm, rfl⟩
    | cons => cases em; simp at hb
  · cases m with
    | nil => cases em; exact ⟨List.append_nil b, rfl⟩
    | cons => cases em; simp at ha

/-! ## Brackets around regions -/

theorem Brackets.ne (hb : Brackets left right) : left ≠ right := by cases hb <;> decide

/-- A bracket is no angle bracket. -/
theorem Brackets.angle (hb : Brackets left right) :
    ('<' ≠ left ∧ '<' ≠ right) ∧ '>' ≠ left ∧ '>' ≠ right := by cases hb <;> decide

theorem Brackets.comma (hb : Brackets left right) : Balanced left right [','] := by
  cases hb <;> exact balanced_of_not_mem (by decide) (by decide) (by decide)

theorem Inert.nil : Inert [] where
  angle := nofun
  line := nofun
  balanced hb := balanced_of_not_mem hb.ne nofun nofun

theorem Inert.append_comma (hp : Inert p) (hs : Inert s) : Inert (p ++ ',' :: s) where
  angle := by simp [hp.angle, hs.angle]
  line := by simp [hp.line, hs.line]
  balanced hb := (hp.balanced hb).append hb.ne (hb.comma.append hb.ne (hs.balanced hb))

theorem Inert.closes_region (ha : Inert a) (hb : Brackets left right) :
    Closes left right depth ('<' :: (a ++ '>' :: s)) ↔ Closes left right depth s := by
  obtain ⟨⟨hl, hr⟩, hl', hr'⟩ := hb.angle
  have h0 : Closes left right 0 a := (balanced_iff_closes hb.ne).1 (ha.balanced hb)
  have h := h0.append_iff (t := '>' :: s) hb.ne (d := depth)
  rw [Nat.zero_add] at h
  rw [closes_cons_of_ne hl hr, h, closes_cons_of_ne hl' hr']

/-- In a region no bracket is closed that stands before it. -/
theorem Inert.not_closes (ha : Inert (mid ++ right :: rest)) (hb : Brackets left right) :
    ¬ Closes left right depth mid := by
  intro hm
  have hcount := ((closes_iff_count hb.ne).1 hm).2
  have hopened := (ha.balanced hb).opened (mid ++ [right]) ⟨rest, by simp⟩
  rw [List.count_append, List.count_append, List.count_singleton_self,
    List.count_singleton, if_neg (by simpa using hb.ne.symm)] at hopened
  omega

namespace Aligned

/-- A `<` that starts no region in the one text starts none in the other. -/
theorem unclosed (h : Aligned s u) (hs : Unclosed s) : Unclosed u := by
  induction h with
  | nil => exact hs
  | keep _ _ ih =>
    obtain ⟨hne, hs⟩ := unclosed_cons.1 hs
    exact unclosed_cons.2 ⟨hne, hs.imp_right ih⟩
  | region ha =>
    have hs := (unclosed_cons.1 hs).2.resolve_left (by decide)
    exact absurd hs (not_unclosed_append ha.line)

theorem symm (h : Aligned s u) : Aligned u s := by
  induction h with
  | nil => exact .nil
  | keep hc h ih => exact .keep (fun e => h.unclosed (hc e)) ih
  | region ha hw _ ih => exact .region hw ha ih

theorem closes (h : Aligned s u) (hb : Brackets left right) (hs : Closes left right depth s) :
    Closes left right depth u := by
  induction h generalizing depth with
  | nil => exact hs
  | @keep c s u _ _ ih =>
    by_cases hl : c = left
    · subst hl
      exact closes_cons_left.2 (ih (closes_cons_left.1 hs))
    by_cases hr : c = right
    · subst hr
      obtain ⟨d, hd, hs⟩ := (closes_cons_right hb.ne).1 hs
      exact (closes_cons_right hb.ne).2 ⟨d, hd, ih hs⟩
    · exact (closes_cons_of_ne hl hr).2 (ih ((closes_cons_of_ne hl hr).1 hs))
  | region ha hw _ ih => exact (hw.closes_region hb).2 (ih ((ha.closes_region hb).1 hs))

theorem balanced (h : Aligned s u) (hb : Brackets left right) (hs : Balanced left right s) :
    Balanced left right u := by
  rw [balanced_iff_closes hb.ne] at hs ⊢
  exact h.closes hb hs

/-- What stands before the first `<` is the same. -/
theorem of_append (h : Aligned (p ++ s) t) (hp : '<' ∉ p) : ∃ u, t = p ++ u ∧ Aligned s u := by
  induction p generalizing t with
  | nil => exact ⟨t, rfl, h⟩
  | cons c p ih =>
    rw [List.mem_cons, not_or] at hp
    rw [List.cons_append] at h
    generalize e : p ++ s = q at h
    cases h with
    | keep _ h =>
      subst e
      obtain ⟨u, rfl, hu⟩ := ih h hp.2
      exact ⟨u, rfl, hu⟩
    | region => exact absurd rfl hp.1

theorem of_cons (h : Aligned (c :: s) t) (hc : c ≠ '<') : ∃ u, t = c :: u ∧ Aligned s u :=
  h.of_append (p := [c]) (by simpa using hc.symm)

/-- A region stands over against a region. -/
theorem of_region (h : Aligned ('<' :: (a ++ '>' :: s)) t) (h1 : '>' ∉ a) (h2 : '\n' ∉ a) :
    ∃ w u, t = '<' :: (w ++ '>' :: u) ∧ Inert w ∧ Aligned s u := by
  generalize e : a ++ '>' :: s = q at h
  cases h with
  | keep hc _ => exact absurd (e ▸ hc rfl) (not_unclosed_append h2)
  | @region a' w s' u ha hw h =>
    obtain ⟨-, rfl⟩ := eq_of_angle h1 ha.angle e
    exact ⟨w, u, rfl, hw, h⟩

/-- The bracket that closes an open one in the one text stands over against one that does so in the
other. The induction is on the alignment; the bracket is in no region, since the brackets there are
balanced. -/
theorem split (h : Aligned s u) (hb : Brackets left right) (hm : Closes left right depth mid)
    (e : s = mid ++ right :: rest) :
    ∃ mid' rest', u = mid' ++ right :: rest' ∧ Closes left right depth mid' ∧
      (mid' = [] → mid = []) ∧ Aligned rest rest' := by
  obtain ⟨⟨hl0, hr0⟩, hl1, hr1⟩ := hb.angle
  induction h generalizing depth mid with
  | nil => cases mid <;> cases e
  | @keep c s u hc h ih =>
    cases mid with
    | nil =>
      cases e
      exact ⟨[], u, rfl, hm, id, h⟩
    | cons c' mid =>
      cases e
      -- The first character opens a bracket, closes one, or does neither.
      have step {d : Nat} (hd : ∀ m, Closes left right depth (c :: m) ↔ Closes left right d m) :
          ∃ mid' rest', c :: u = mid' ++ right :: rest' ∧ Closes left right depth mid' ∧
            (mid' = [] → c :: mid = []) ∧ Aligned rest rest' := by
        obtain ⟨mid', rest', rfl, hm', -, hr⟩ := ih ((hd mid).1 hm) rfl
        exact ⟨c :: mid', rest', rfl, (hd mid').2 hm', nofun, hr⟩
      by_cases hl : c = left
      · subst hl
        exact step fun m => closes_cons_left
      by_cases hr : c = right
      · subst hr
        obtain ⟨d, rfl, -⟩ := (closes_cons_right hb.ne).1 hm
        exact step (d := d) fun m => by simp [closes_cons_right hb.ne]
      · exact step fun m => closes_cons_of_ne hl hr
  | @region a w s u ha hw h ih =>
    cases mid with
    | nil => cases e; exact absurd rfl hr0
    | cons c' mid =>
      rw [List.cons_append] at e
      obtain ⟨rfl, e'⟩ := List.cons.inj e
      rcases List.append_eq_append_iff.1 e' with ⟨m, rfl, em⟩ | ⟨m, rfl, em⟩
      · cases m with
        | nil => cases em; exact absurd rfl hr1
        | cons c' m =>
          cases em
          obtain ⟨mid', rest', rfl, hm', -, hr⟩ := ih ((ha.closes_region hb).1 hm) rfl
          exact ⟨'<' :: (w ++ '>' :: mid'), rest', by simp, (hw.closes_region hb).2 hm', nofun, hr⟩
      · cases m with
        | nil => cases em; exact absurd rfl hr1
        | cons c' m =>
          cases em
          exact absurd ((closes_cons_of_ne hl0 hr0).1 hm) (ha.not_closes hb)

/-- A token that starts a text has one over against it. -/
theorem first?_isSome (h : Aligned s u) (hs : (first? s).isSome) : (first? u).isSome := by
  obtain ⟨t, ht⟩ := Option.isSome_iff_exists.1 hs
  obtain ⟨hf, rest, rfl⟩ := first?_eq_some_iff.1 ht
  suffices H : ∃ t' : Token, t'.Formed ∧ t'.text <+: u by
    obtain ⟨t', hf', hp⟩ := H
    rw [first?_eq_some_iff.2 ⟨hf', hp⟩]
    rfl
  cases hf with
  | push =>
    obtain ⟨u', rfl, -⟩ := h.of_cons (by decide)
    exact ⟨.push, .push, u', rfl⟩
  | pop =>
    obtain ⟨u', rfl, -⟩ := h.of_cons (by decide)
    exact ⟨.pop, .pop, u', rfl⟩
  | @block content count hc hne hk =>
    rw [balanced_iff_closes (by decide)] at hc hk
    have e : text (.block content count) ++ rest =
        '{' :: (content ++ '}' :: '(' :: (count ++ ')' :: rest)) := by simp [text]
    rw [e] at h
    obtain ⟨_, rfl, hcontent⟩ := h.of_cons (by decide)
    obtain ⟨content', _, rfl, hc', -, hround⟩ := hcontent.split .braces hc rfl
    obtain ⟨_, rfl, hcount⟩ := hround.of_cons (by decide)
    obtain ⟨count', u', rfl, hk', hn, -⟩ := hcount.split .round hk rfl
    rw [← balanced_iff_closes (by decide)] at hc' hk'
    exact ⟨.block content' count', .block hc' (fun e => hne (hn e)) hk', u', by simp [text]⟩
  | @call atom arguments hne hw h1 h2 =>
    have e : text (.call atom arguments) ++ rest =
        atom ++ '<' :: (arguments ++ '>' :: rest) := by simp [text]
    rw [e] at h
    obtain ⟨_, rfl, hregion⟩ := h.of_append fun hm => absurd (hw _ hm) (by decide)
    obtain ⟨w, u', rfl, hw', -⟩ := hregion.of_region h1 h2
    exact ⟨.call atom w, .call hne hw hw'.angle hw'.line, u', by simp [text]⟩

/-- Where no token starts in the one text, none starts in the other. -/
theorem first?_eq_none (h : Aligned s u) (hs : first? s = none) : first? u = none := by
  cases hu : first? u with
  | none => rfl
  | some t =>
    have := h.symm.first?_isSome (by rw [hu]; rfl)
    rw [hs] at this
    cases this

end Aligned

end Text

end LSystem
