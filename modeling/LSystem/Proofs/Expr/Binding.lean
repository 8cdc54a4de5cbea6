import LSystem.Proofs.Expr.Following
import LSystem.Proofs.Template.Replacement
import LSystem.Proofs.Text.Encoding
import LSystem.Proofs.Text.Trimming
import LSystem.Rule
import Mathlib.Data.List.Infix

/-! # Replacing a parameter or binding it

A rule puts the text of an argument in the place of its parameter, wherever the name stands. In an
arithmetic text this means the same as to bind the name to the argument: the text with the argument
has the value that the text with the name has (`Rule.evaluate_substitute`). It is so for every
integer that is not negative. The sign of a negative one binds less than a power, so that a negative
base of a power would lose its sign (`Rule.evaluate_substitute_power`). -/

namespace LSystem

open LSystem.Expr (Value)

namespace Text

variable {word new s t : Text}

/-! ## Replacing -/

section
variable (hne : word ≠ [])
include hne

theorem replaceAll_cons_of_not_mem {c : Char} (hc : c ∉ word) (s : Text) :
    replaceAll word new (c :: s) = c :: replaceAll word new s := by
  simpa [replaceAll_nil hne] using replaceAll_append_cons hc [] s

/-- A text is kept whose characters are not in the word. -/
theorem replaceAll_append_of_foreign (hs : ∀ c ∈ s, c ∉ word) (t : Text) :
    replaceAll word new (s ++ t) = s ++ replaceAll word new t := by
  induction s with
  | nil => rfl
  | cons c s ih =>
    obtain ⟨hc, hs⟩ := List.forall_mem_cons.1 hs
    rw [List.cons_append, replaceAll_cons_of_not_mem hne hc, ih hs, List.cons_append]

/-- A character outside of the word keeps what stands before it apart. -/
theorem replaceAll_append (ht : ∀ c u, t = c :: u → c ∉ word) (s : Text) :
    replaceAll word new (s ++ t) = replaceAll word new s ++ replaceAll word new t := by
  cases t with
  | nil => simp [replaceAll_nil hne]
  | cons c t =>
    have hc := ht c t rfl
    rw [replaceAll_append_cons hc, replaceAll_cons_of_not_mem hne hc]

end

end Text

namespace Expr

open Numeral (isNameLike)

variable {x w b : Text} {ls : List Lexeme} {ps : List (Text × Part)} {depth : Nat} {operand : Bool}
  {s : String} {v : Int}

/-! ## Texts of integers -/

/-- The text of an integer is read as its absolute value, after a sign if it is negative. -/
theorem reads_intText (h : Number.fitsDigitLimit v) : Reads (Number.intText v) (signed v) := by
  obtain ⟨hlit, hvalue⟩ := isLiteral_toDigits h
  have hreads := hlit.reads
  rw [hvalue] at hreads
  unfold Number.intText signed
  split
  · have habs : (v.natAbs : Int) = -v := by omega
    rw [habs] at hreads
    exact hreads.minus
  · have habs : (v.natAbs : Int) = v := by omega
    rwa [habs] at hreads

/-! ## Texts that are trimmed -/

/-- A text that white space neither starts nor ends. -/
structure Solid (w : Text) : Prop where
  first : ∃ c t, w = c :: t ∧ Text.isBlank c = false ∧ ¬ Skips c
  last : ∃ t c, w = t ++ [c] ∧ Text.isBlank c = false

theorem solid_of_forall (hne : w ≠ []) (h : ∀ c ∈ w, Text.isBlank c = false ∧ ¬ Skips c) :
    Solid w where
  first := by
    cases w with
    | nil => exact absurd rfl hne
    | cons c t => exact ⟨c, t, rfl, h c List.mem_cons_self⟩
  last := ⟨w.dropLast, w.getLast hne, (List.dropLast_append_getLast hne).symm,
    (h _ (List.getLast_mem hne)).1⟩

theorem IsName.ne_nil (h : IsName x) : x ≠ [] := by
  obtain ⟨c, s, rfl, -⟩ := h.start
  exact List.cons_ne_nil c s

theorem IsName.solid (h : IsName x) : Solid x :=
  solid_of_forall h.ne_nil fun c hc =>
    ⟨Text.not_isBlank_of_nameContinue (h.continues c hc), (of_nameLike (h.nameLike c hc)).2.1⟩

/-- The characters of the texts of numbers. -/
def NumberChar (c : Char) : Prop := c.isDigit ∨ c ∈ ['.', 'e', '-', '+']

theorem NumberChar.toNat_lt {c : Char} (h : NumberChar c) : c.toNat < 128 := by
  obtain h | h := h
  · simp only [Char.isDigit, Bool.and_eq_true, decide_eq_true_eq] at h
    have : c.toNat ≤ 57 := h.2
    omega
  · simp only [List.mem_cons, List.not_mem_nil, or_false] at h
    rcases h with rfl | rfl | rfl | rfl <;> decide

theorem NumberChar.plain {c : Char} (h : NumberChar c) :
    Text.isBlank c = false ∧ ¬ Skips c ∧ ¬ Strange c := by
  have hlt := h.toNat_lt
  obtain h | h := h
  · obtain ⟨-, hskip, -, hstrange⟩ := of_nameLike (nameLike_of_isDigit h)
    refine ⟨Text.not_isBlank_of_nameContinue ?_, hskip, hstrange⟩
    simp [Text.isNameContinue, hlt, Char.isAlphanum, h]
  · simp only [List.mem_cons, List.not_mem_nil, or_false] at h
    rcases h with rfl | rfl | rfl | rfl <;> decide

theorem solid_of_numberChar (hne : w ≠ []) (h : ∀ c ∈ w, NumberChar c) : Solid w :=
  solid_of_forall hne fun c hc => ⟨(h c hc).plain.1, (h c hc).plain.2.1⟩

theorem takes_of_numberChar (h : ∀ c ∈ w, NumberChar c) : Encoding.utf8.Takes w :=
  Encoding.utf8_takes_of_ascii fun c hc => (h c hc).toNat_lt

theorem numberChar_intText (v : Int) : ∀ c ∈ Number.intText v, NumberChar c := by
  have hd : ∀ c ∈ Nat.toDigits 10 v.natAbs, NumberChar c :=
    fun c hc => .inl (Nat.isDigit_of_mem_toDigits (by decide) (by decide) hc)
  unfold Number.intText
  split
  · exact List.forall_mem_cons.2 ⟨.inr (by decide), hd⟩
  · exact hd

theorem takes_intText (v : Int) : Encoding.utf8.Takes (Number.intText v) :=
  takes_of_numberChar (numberChar_intText v)

theorem solid_intText (v : Int) : Solid (Number.intText v) := by
  refine solid_of_numberChar ?_ (numberChar_intText v)
  unfold Number.intText
  split
  · exact List.cons_ne_nil _ _
  · exact Nat.toDigits_ne_nil

/-- A part with white space in front, which is written with at least one character. -/
structure Spelled (q : Text × Part) : Prop where
  blank : ∀ c ∈ q.1, Text.isBlank c
  text : q.2 = .hole ∨ ∃ c t, ¬ Skips c ∧ ∀ w, q.2.text w = c :: t

theorem Blank.isBlank (h : Blank depth b) : ∀ c ∈ b, Text.isBlank c := by
  intro c hc
  rcases h c hc with rfl | rfl | rfl | ⟨rfl, -⟩ <;> decide

theorem Infix.spelled (h : Infix x depth operand ps) : ∀ q ∈ ps, Spelled q := by
  have mark {c : Char} (hc : c ∈ marks) : ¬ Skips c := (of_mem_marks hc).2.2.2
  induction h with
  | nil => exact nofun
  | hole hb _ ih => exact List.forall_mem_cons.2 ⟨⟨hb.isBlank, .inl rfl⟩, ih⟩
  | numeral hb hd _ _ ih =>
    obtain ⟨c, t, rfl, -⟩ := hd.digit
    have hc := (of_nameLike (hd.nameLike c List.mem_cons_self)).2.1
    exact List.forall_mem_cons.2 ⟨⟨hb.isBlank, .inr ⟨c, t, hc, fun _ => rfl⟩⟩, ih⟩
  | opening hb _ ih =>
    exact List.forall_mem_cons.2 ⟨⟨hb.isBlank, .inr ⟨_, [], by decide, fun _ => rfl⟩⟩, ih⟩
  | sign hb hs _ ih =>
    obtain ⟨c, t, e, hc, -⟩ := operator_head (mem_operators hs)
    exact List.forall_mem_cons.2 ⟨⟨hb.isBlank, .inr ⟨c, t, mark hc, fun _ => e⟩⟩, ih⟩
  | closing hb _ ih =>
    exact List.forall_mem_cons.2 ⟨⟨hb.isBlank, .inr ⟨_, [], by decide, fun _ => rfl⟩⟩, ih⟩
  | operator hb hs _ ih =>
    obtain ⟨c, t, e, hc, -⟩ := operator_head hs
    exact List.forall_mem_cons.2 ⟨⟨hb.isBlank, .inr ⟨c, t, mark hc, fun _ => e⟩⟩, ih⟩

/-- If a text is trimmed with a name in its holes, then so with another text. -/
theorem Infix.solid (h : Infix x 0 true ps) (hw : Solid w)
    (hfirst : ∀ c t, spell x ps = c :: t → Text.isBlank c = false)
    (hlast : ∀ c t, spell x ps = t ++ [c] → Text.isBlank c = false) : Solid (spell w ps) := by
  have hne : ps ≠ [] := by
    rintro rfl
    cases h
  have hspelled := h.spelled
  constructor
  · cases ps with
    | nil => exact absurd rfl hne
    | cons q ps =>
      obtain ⟨b, p⟩ := q
      obtain ⟨hblank, htext⟩ := hspelled _ List.mem_cons_self
      cases b with
      | cons c b =>
        have hc := hblank c List.mem_cons_self
        rw [hfirst c _ rfl] at hc
        cases hc
      | nil =>
        rw [spell_cons, List.nil_append] at hfirst ⊢
        obtain rfl | ⟨c, t, hc, e⟩ := htext
        · obtain ⟨c, t, rfl, hc⟩ := hw.first
          exact ⟨c, _, rfl, hc⟩
        · rw [e, List.cons_append] at hfirst ⊢
          exact ⟨c, _, rfl, hfirst c _ rfl, hc⟩
  · obtain ⟨qs, ⟨b, p⟩, rfl⟩ : ∃ qs q, ps = qs ++ [q] :=
      ⟨_, _, (List.dropLast_append_getLast hne).symm⟩
    obtain ⟨-, htext⟩ := hspelled (b, p) (by simp)
    have hspell (w : Text) : spell w (qs ++ [(b, p)]) = spell w qs ++ (b ++ p.text w) := by
      simp [spell]
    rw [hspell] at hlast ⊢
    obtain rfl | ⟨c, t, -, e⟩ := htext
    · obtain ⟨t, c, rfl, hc⟩ := hw.last
      exact ⟨spell (t ++ [c]) qs ++ (b ++ t), c, by simp [Part.text], hc⟩
    · obtain ⟨u, d, hu⟩ : ∃ u d, c :: t = u ++ [d] :=
        ⟨_, _, (List.dropLast_append_getLast (List.cons_ne_nil c t)).symm⟩
      rw [e, hu] at hlast ⊢
      exact ⟨spell w qs ++ (b ++ u), d, by simp, hlast d (spell x qs ++ (b ++ u)) (by simp)⟩

theorem length_lexemes_le (h : ∀ q ∈ ps, Spelled q) (hw : ls.length ≤ w.length) :
    (lexemes ls ps).length ≤ (spell w ps).length := by
  induction ps with
  | nil => exact Nat.le_refl _
  | cons q ps ih =>
    obtain ⟨b, p⟩ := q
    obtain ⟨hq, h⟩ := List.forall_mem_cons.1 h
    have ih := ih h
    have hp : (p.lexemes ls).length ≤ (p.text w).length := by
      obtain rfl | ⟨c, t, -, e⟩ := hq.text
      · exact hw
      · rw [e]
        cases p with
        | hole => exact absurd ((e []).trans (e ['a']).symm) (by simp [Part.text])
        | numeral => simp [Part.lexemes]
        | opening => simp [Part.lexemes]
        | closing => simp [Part.lexemes]
        | operator => simp [Part.lexemes]
    rw [lexemes_cons, spell_cons]
    simp only [List.length_append]
    omega

/-! ## Texts after a replacement -/

theorem IsName.not_mem (h : IsName x) {c : Char} (hc : isNameLike c = false) : c ∉ x := by
  intro hx
  rw [h.nameLike c hx] at hc
  cases hc

/-- No character of a text goes on with a name. -/
def Detached (s : Text) : Prop := ∀ c ∈ s, isNameLike c = false

instance : DecidablePred Detached := List.decidableBAll fun c => isNameLike c = false

theorem Blank.detached (h : Blank depth b) : Detached b := by
  intro c hc
  rcases h c hc with rfl | rfl | rfl | ⟨rfl, -⟩ <;> decide

theorem detached_operator (hs : s ∈ operators) : Detached s.toList := by
  have h : ∀ s ∈ operators, Detached s.toList := by decide
  exact h s hs

/-- To replace a name is to fill the holes with the replacement. -/
theorem Infix.replaceAll (h : Infix x depth operand ps) (hx : IsName x) (w : Text) :
    Text.replaceAll x w (spell x ps) = spell w ps := by
  have foreign {s : Text} (hs : Detached s) (t : Text) :
      Text.replaceAll x w (s ++ t) = s ++ Text.replaceAll x w t :=
    Text.replaceAll_append_of_foreign hx.ne_nil (fun c hc => hx.not_mem (hs c hc)) t
  induction h with
  | nil => exact Text.replaceAll_nil hx.ne_nil
  | hole hb _ ih =>
    rw [spell_cons, spell_cons, foreign hb.detached, Part.text, Part.text,
      Text.replaceAll_word_append hx.ne_nil, ih]
  | @numeral _ b d ps hb hd hi h ih =>
    have hends : ∀ c t, spell x ps = c :: t → c ∉ x := by
      intro c t e
      refine hx.not_mem (h.ends x c (t ++ ['\n']) ?_).1
      rw [e, List.cons_append]
    rw [spell_cons, spell_cons, foreign hb.detached, Part.text, Part.text,
      Text.replaceAll_append hx.ne_nil hends, Text.replaceAll_of_not_isInfix hi, ih]
  | opening hb _ ih =>
    rw [spell_cons, spell_cons, foreign hb.detached, Part.text, Part.text,
      foreign (by decide), ih]
  | sign hb hs _ ih =>
    rw [spell_cons, spell_cons, foreign hb.detached, Part.text, Part.text,
      foreign (detached_operator (mem_operators hs)), ih]
  | closing hb _ ih =>
    rw [spell_cons, spell_cons, foreign hb.detached, Part.text, Part.text,
      foreign (by decide), ih]
  | operator hb hs _ ih =>
    rw [spell_cons, spell_cons, foreign hb.detached, Part.text, Part.text,
      foreign (detached_operator hs), ih]

/-! ## Values -/

theorem line_map (hole : List Lexeme) (ps : List (Text × Part)) :
    line hole (ps.map Prod.snd) = lexemes hole ps ++ [.newline] := by
  rw [line, lexemes, List.flatMap_map]

theorem Infix.alternates {base : Prop} (h : Infix x depth operand ps)
    (hb : [.hole, .operator "**"] <:+: ps.map Prod.snd → base) :
    Alternates base operand (ps.map Prod.snd) := by
  have tail {p : Part} {ps : List Part} (h : [.hole, .operator "**"] <:+: p :: ps → base)
      (hi : [.hole, .operator "**"] <:+: ps) : base :=
    h (hi.trans (List.suffix_cons p ps).isInfix)
  induction h with
  | nil => exact .nil
  | @hole _ b ps _ _ ih =>
    refine .hole (fun hhead => hb ?_) (ih (tail hb))
    obtain ⟨qs, hqs⟩ := List.head?_eq_some_iff.1 hhead
    refine ⟨[], qs, ?_⟩
    rw [List.map_cons, hqs]
    rfl
  | numeral _ _ _ _ ih => exact .numeral (ih (tail hb))
  | opening _ _ ih => exact .opening (ih (tail hb))
  | sign _ hs _ ih => exact .sign hs (ih (tail hb))
  | closing _ _ ih => exact .closing (ih (tail hb))
  | operator _ hs _ ih => exact .operator hs (ih (tail hb))

/-- A text whose holes are filled is read as the line of its parts, if all brackets are closed. -/
theorem Infix.parse (h : Infix x 0 true ps) (hw : Reads w ls) (hs : Solid (spell w ps)) :
    Program.parse (spell w ps) =
      if nest 0 ps = some 0 then
        Program.readAll (20 * ((spell w ps).length + 4)) [] (line ls (ps.map Prod.snd))
      else none := by
  obtain ⟨c, t, e, -, hc⟩ := hs.first
  rw [Program.parse, h.scan hw e hc, line_map]
  by_cases hn : nest 0 ps = some 0
  · rw [if_pos hn, if_pos hn]
  · rw [if_neg hn, if_neg hn]

theorem Infix.run_eq_ok_iff {sc : Scope} {value : Value} (h : Infix x 0 true ps) (hw : Reads w ls)
    (hs : Text.trim sc.source = spell w ps) : sc.run = .ok value ↔
      Encoding.utf8.Takes (spell w ps) ∧
        ∃ st more, Program.parse (spell w ps) = some (st :: more) ∧ st.eval sc = .ok value := by
  have hnull : Char.ofNat 0 ∉ spell w ps := fun hc =>
    h.ordinary hw.ordinary _ (List.mem_append_left _ hc) (by decide)
  rw [Scope.run, hs, ← Encoding.fault?_eq_none_iff]
  cases Encoding.utf8.fault? (spell w ps) with
  | some fault => exact ⟨nofun, nofun⟩
  | none =>
    simp only [if_neg hnull, true_and]
    cases Program.parse (spell w ps) with
    | none => exact ⟨nofun, nofun⟩
    | some statements =>
      cases statements with
      | nil => exact ⟨nofun, nofun⟩
      | cons st more =>
        constructor
        · exact fun hv => ⟨st, more, rfl, hv⟩
        · rintro ⟨st, more, e, hv⟩
          cases e
          exact hv

/-- The characters of a text are those of its parts and of what fills its holes. -/
theorem takes_spell {out : Encoding} (hx : out.Takes (spell x ps)) (hw : out.Takes w) :
    out.Takes (spell w ps) := by
  induction ps with
  | nil => exact nofun
  | cons q ps ih =>
    obtain ⟨b, p⟩ := q
    rw [spell_cons, Encoding.takes_append, Encoding.takes_append] at hx ⊢
    refine ⟨hx.1, ?_, ih hx.2.2⟩
    cases p with
    | hole => exact hw
    | _ => exact hx.2.1

/-- If a text has a value with the name, then it has this value with the integer in its place. -/
theorem Binding.run (B : Binding) {value : Value} (h : Infix x 0 true ps)
    (hbase : B.value < 0 → ¬ [.hole, .operator "**"] <:+: ps.map Prod.snd)
    (hx : Reads x [.word B.name]) (hw : Reads w (signed B.value))
    (hwt : Encoding.utf8.Takes w) (hsx : Solid (spell x ps)) (hsw : Solid (spell w ps))
    (hscope : Text.trim B.scope.source = spell x ps)
    (hplain : Text.trim B.plain.source = spell w ps) (hr : B.scope.run = .ok value) :
    B.plain.run = .ok value := by
  have hfits : B.Fits true (ps.map Prod.snd) :=
    h.alternates fun hi => Int.not_lt.1 fun hv => hbase hv hi
  obtain ⟨hxt, st, more, hread, hst⟩ := (h.run_eq_ok_iff hx hscope).1 hr
  rw [h.parse hx hsx] at hread
  refine (h.run_eq_ok_iff hw hplain).2 ⟨takes_spell hxt hwt, ?_⟩
  rw [h.parse hw hsw]
  by_cases hn : nest 0 ps = some 0
  · rw [if_pos hn] at hread ⊢
    have hne : st ≠ .other "Match" := by
      rintro rfl
      cases hst
    obtain ⟨e, e', rfl, he, hm⟩ := B.program_follows hfits hread hne
    -- The readers have twenty steps for each character, which is enough for the lexemes.
    have hlen : (B.filled (ps.map Prod.snd)).length ≤ (spell w ps).length + 1 := by
      rw [filled, line_map, List.length_append]
      exact Nat.add_le_add_right (length_lexemes_le h.spelled hw.length) 1
    have hparse := hm (20 * ((spell w ps).length + 4)) (by omega)
    exact ⟨.expression e', [], hparse, he.eval.symm.trans hst⟩
  · rw [if_neg hn] at hread
    cases hread

end Expr

/-! ## Arguments of rules -/

open LSystem.Expr (Part IsName IsLiteral Infix Solid spell)

instance decidableEqBool (b : Bool) : (value : Value) → Decidable (value = .bool b)
  | .bool c => decidable_of_iff (c = b) (by simp)
  | .none | .int _ | .float _ | .complex .. | .text _ | .bytes _ | .list _ | .dict .. | .function _
  | .method .. | .slice .. | .ellipsis => isFalse nofun

instance decidableEqInt (i : Int) : (value : Value) → Decidable (value = .int i)
  | .int j => decidable_of_iff (j = i) (by simp)
  | .none | .bool _ | .float _ | .complex .. | .text _ | .bytes _ | .list _ | .dict .. | .function _
  | .method .. | .slice .. | .ellipsis => isFalse nofun

instance decidableEqOk (value : Value) [∀ w : Value, Decidable (w = value)] :
    (r : Except Error Value) → Decidable (r = .ok value)
  | .ok w => decidable_of_iff (w = value) (by simp)
  | .error _ => isFalse nofun

theorem Evaluator.evaluate_eq_ok_iff {ev : Evaluator} {source : Text} {value : Value} :
    ev.evaluate source = .ok value ↔ Text.trim source ≠ [] ∧ (ev.scope source).run = .ok value := by
  rw [Evaluator.evaluate]
  split
  · next h => simp [h]
  · next h =>
    refine Iff.trans ?_ (and_iff_right h).symm
    cases hr : (ev.scope source).run with
    | ok v => exact ⟨fun h => by cases h; rfl, fun h => by cases h; rfl⟩
    | error failure => cases failure <;> exact ⟨nofun, nofun⟩

namespace Rule

variable {r : Rule} {x e w : Text} {others : List Text} {ps : List (Text × Part)}

/-- A rule that puts a text in the place of its first parameter fills the holes of an arithmetic
text, and keeps the white space around it. -/
theorem trim_substitute (hr : r.parameters = x :: others) (hx : IsName x)
    (he : Text.trim e = spell x ps) (hps : Infix x 0 true ps) (hw : Solid w) :
    Solid (spell x ps) ∧ Solid (spell w ps) ∧ Text.trim (r.substitute e [w]) = spell w ps := by
  obtain ⟨pre, post, hsplit, hpre, hpost, hfirst, hlast⟩ := Text.exists_trimWhile Text.isBlank e
  have htrim : Text.trimWhile Text.isBlank e = spell x ps := he
  rw [htrim] at hsplit hfirst hlast
  have hsolid : Solid (spell w ps) := hps.solid hw hfirst hlast
  refine ⟨hps.solid hx.solid hfirst hlast, hsolid, ?_⟩
  have foreign {s : Text} (hs : ∀ c ∈ s, Text.isBlank c) : ∀ c ∈ s, c ∉ x := by
    intro c hc hcx
    have hb := Text.not_isBlank_of_nameContinue (hx.continues c hcx)
    rw [hs c hc] at hb
    cases hb
  have hend : Text.replaceAll x w post = post := by
    simpa [Text.replaceAll_nil hx.ne_nil] using
      Text.replaceAll_append_of_foreign hx.ne_nil (foreign hpost) []
  have hpost' : ∀ c u, post = c :: u → c ∉ x := by
    rintro c u rfl
    exact foreign hpost c List.mem_cons_self
  have hone : r.substitute e [w] = Text.replaceAll x w e := by simp [substitute, hr]
  rw [hone, hsplit, Text.replaceAll_append_of_foreign hx.ne_nil (foreign hpre),
    Text.replaceAll_append hx.ne_nil hpost', hps.replaceAll hx, hend]
  obtain ⟨c, t, hc, hb, -⟩ := hsolid.first
  exact Text.trimWhile_append hpre hpost ⟨c, t, hc, hb⟩ hsolid.last

/-- Replacing a parameter in an arithmetic text by the text of an integer means the same as binding
it to the integer: if the text has a value with the name bound, then it has this value after the
replacement. A negative integer must not be the base of a power. -/
theorem evaluate_substitute (ev : Evaluator) (r : Rule) {x e digits : Text} {others : List Text}
    {v : Int} {value : Value} {ps : List (Text × Part)} (hr : r.parameters = x :: others)
    (hx : IsName x) (hv : Value.command (.int v) = .ok digits) (he : Text.trim e = spell x ps)
    (hps : Infix x 0 true ps)
    (hbase : v < 0 → ¬ [.hole, .operator "**"] <:+: ps.map Prod.snd)
    (h : Evaluator.evaluate { ev with names := (String.ofList x, .int v) :: ev.names } e =
      .ok value) : ev.evaluate (r.substitute e [digits]) = .ok value := by
  obtain ⟨hfits, rfl⟩ : Number.fitsDigitLimit v ∧ Number.intText v = digits := by
    have hv : Expr.shownInt v = .ok digits := hv
    rw [Expr.shownInt] at hv
    split at hv
    · next hfits => exact ⟨hfits, Except.ok.inj hv⟩
    · cases hv
  obtain ⟨hsx, hsw, htrim⟩ := trim_substitute hr hx he hps (Expr.solid_intText v)
  obtain ⟨-, hrun⟩ := Evaluator.evaluate_eq_ok_iff.1 h
  rw [Evaluator.evaluate_eq_ok_iff]
  constructor
  · obtain ⟨c, t, hc, -⟩ := hsw.first
    rw [htrim, hc]
    exact List.cons_ne_nil c t
  · let B : Expr.Binding :=
      { name := String.ofList x
        value := v
        scope := Evaluator.scope { ev with names := (String.ofList x, .int v) :: ev.names } e
        plain := ev.scope (r.substitute e [Number.intText v])
        keyword := hx.keyword
        lookup := by simp [Expr.Scope.lookup, Evaluator.scope] }
    exact B.run hps hbase hx.reads (Expr.reads_intText hfits) (Expr.takes_intText v) hsx hsw he
      htrim hrun

/-- A comparison with a negative argument in brackets and behind operators. -/
theorem evaluate_substitute_comparison :
    let r : Rule := { atom := ['F'], parameters := [['x'], ['y']], fallback := [] }
    let e := "2*( x-1 )%5 <= 7 - x ".toList
    Evaluator.evaluate { names := [("x", .int (-3))] } e = .ok (.bool true) ∧
      Evaluator.evaluate {} (r.substitute e ["-3".toList]) = .ok (.bool true) := by
  have hx : IsName ['x'] :=
    ⟨⟨'x', [], rfl, by decide⟩, List.forall_mem_singleton.2 (by decide), by decide⟩
  have hbound : Evaluator.evaluate { names := [("x", .int (-3))] } "2*( x-1 )%5 <= 7 - x ".toList =
      .ok (.bool true) := by decide +kernel
  have literal {c : Char} (hc : c ∈ ['1', '2', '5', '7']) : IsLiteral [c] ∧ ¬ ['x'] <:+: [c] := by
    simp only [List.mem_cons, List.not_mem_nil, or_false] at hc
    rcases hc with rfl | rfl | rfl | rfl <;>
      exact ⟨⟨⟨_, [], rfl, by decide⟩, List.forall_mem_singleton.2 (by decide), _, rfl⟩, by decide⟩
  have none {depth : Nat} : Expr.Blank depth [] := nofun
  have space {depth : Nat} : Expr.Blank depth [' '] := fun _ hc => .inl (List.mem_singleton.1 hc)
  have digit {c : Char} {depth : Nat} {b : Text} {ps : List (Text × Part)}
      (hc : c ∈ ['1', '2', '5', '7']) (hb : Expr.Blank depth b) (h : Infix ['x'] depth false ps) :
      Infix ['x'] depth true ((b, .numeral [c]) :: ps) :=
    .numeral hb (literal hc).1 (literal hc).2 h
  have hps : Infix ['x'] 0 true
      [([], .numeral ['2']), ([], .operator "*"), ([], .opening), ([' '], .hole),
        ([], .operator "-"), ([], .numeral ['1']), ([' '], .closing), ([], .operator "%"),
        ([], .numeral ['5']), ([' '], .operator "<="), ([' '], .numeral ['7']),
        ([' '], .operator "-"), ([' '], .hole)] :=
    digit (by decide) none <| .operator none (by decide) <| .opening none <| .hole space <|
      .operator none (by decide) <| digit (by decide) none <| .closing space <|
      .operator none (by decide) <| digit (by decide) none <| .operator space (by decide) <|
      digit (by decide) space <| .operator space (by decide) <| .hole space .nil
  exact ⟨hbound,
    evaluate_substitute {} _ rfl hx (by decide +kernel) (by decide) hps (by decide) hbound⟩

/-- A negative base of a power loses its sign: it is bound less than the power. -/
theorem evaluate_substitute_power :
    let r : Rule := { atom := ['F'], parameters := [['x']], fallback := [] }
    let ps : List (Text × Part) := [([], .hole), ([], .operator "**"), ([], .numeral ['2'])]
    Infix ['x'] 0 true ps ∧ spell ['x'] ps = "x**2".toList ∧
      Evaluator.evaluate { names := [("x", .int (-2))] } "x**2".toList = .ok (.int 4) ∧
      Evaluator.evaluate {} (r.substitute "x**2".toList ["-2".toList]) = .ok (.int (-4)) := by
  refine ⟨.hole nofun (.operator nofun (by decide) (.numeral nofun ?_ (by decide) .nil)), rfl, ?_,
    ?_⟩
  · exact ⟨⟨'2', [], rfl, by decide⟩, List.forall_mem_singleton.2 (by decide), 2, rfl⟩
  · decide +kernel
  · decide +kernel

end Rule

end LSystem
