import Mathlib.Data.List.Forall2
import LSystem.Proofs.Token.Alignment
import LSystem.Proofs.Template.Passes

/-! # Regions and tokens

The argument pass evaluates every region of a text and knows nothing of tokens. On texts whose
regions stand where tokens allow it (`Text.Regions`) it keeps the repeat blocks and their counts,
and only an argument of a call makes it fail (`evaluateArguments_regions`). On others it does
neither: a comparison in a count may start a region (`evaluateArguments_count_changed`). -/

namespace LSystem

open Token (first? first?_eq_some_iff)
open Text (Aligned Inert Unclosed)

/-- No region starts in `p`, when the text goes on with `rest`. -/
def Text.Quiet (p rest : Text) : Prop := ∀ q r, p = q ++ '<' :: r → Unclosed (r ++ rest)

/-- A region starts in `s` only as the argument list of a call, which satisfies `call`, or between
tokens, where it satisfies `stray`. The text goes on with `after`, and a region that starts in `s`
may end there. -/
inductive Text.Regions (call stray : Text → Prop) : (s after : Text) → Prop where
  | nil {after : Text} : Regions call stray [] after
  | skip {c : Char} {s after : Text} : first? (c :: s) = none → Quiet [c] (s ++ after) →
    Regions call stray s after → Regions call stray (c :: s) after
  | stray {a s after : Text} : '>' ∉ a → '\n' ∉ a → stray a → Regions call stray s after →
    Regions call stray ('<' :: (a ++ '>' :: s)) after
  | push {s after : Text} : Regions call stray s after → Regions call stray ('[' :: s) after
  | pop {s after : Text} : Regions call stray s after → Regions call stray (']' :: s) after
  | call {atom a s after : Text} : (Token.call atom a).Formed → call a →
    Regions call stray s after → Regions call stray (atom ++ '<' :: (a ++ '>' :: s)) after
  | block {content count s after : Text} : (Token.block content count).Formed →
    Regions call stray content ('}' :: '(' :: (count ++ ')' :: (s ++ after))) →
    Quiet count (')' :: (s ++ after)) → Regions call stray s after →
    Regions call stray ('{' :: (content ++ '}' :: '(' :: (count ++ ')' :: s))) after

/-- A token is one of a text, or of the content of a block of it, and so on. -/
inductive Token.Within (t : Token) : Text → Prop where
  | top {s : Text} : t ∈ tokenize s → Within t s
  | inner {s content count : Text} : .block content count ∈ tokenize s → Within t content →
    Within t s

def Token.isBlock : Token → Bool
  | .block _ _ => true
  | _ => false

/-- The repeat blocks at the top of a text. -/
def blocks (s : Text) : List Token := (tokenize s).filter Token.isBlock

/-- A block with its content evaluated and the same count. -/
inductive Token.BlockEvaluated (ev : Evaluator) : Token → Token → Prop where
  | intro {content content' count : Text} : evaluateArguments ev content = .ok content' →
    BlockEvaluated ev (.block content count) (.block content' count)

/-- The brackets of an argument list are balanced, and its pieces have numbers as values. -/
structure Evaluator.RendersArguments (ev : Evaluator) (a : Text) : Prop where
  braces : Token.Balanced '{' '}' a
  round : Token.Balanced '(' ')' a
  numbers : ∀ piece ∈ splitArguments a, ev.RendersNumber piece

variable {ev : Evaluator} {a p s u s' u' after : Text} {c : Char} {call stray : Text → Prop}

/-! ## Blocks at the top -/

theorem blocks_cons_of_not_first (h : first? (c :: s) = none) : blocks (c :: s) = blocks s := by
  rw [blocks, tokenize_cons_of_not_first h, blocks]

theorem tokenize_push (s : Text) : tokenize ('[' :: s) = .push :: tokenize s :=
  tokenize_text_append .push s

theorem tokenize_pop (s : Text) : tokenize (']' :: s) = .pop :: tokenize s :=
  tokenize_text_append .pop s

theorem tokenize_call_append {atom : Text} (h : (Token.call atom a).Formed) (s : Text) :
    tokenize (atom ++ '<' :: (a ++ '>' :: s)) = .call atom a :: tokenize s := by
  have := tokenize_text_append h s
  simpa [Token.text] using this

theorem tokenize_block_append {content count : Text} (h : (Token.block content count).Formed)
    (s : Text) : tokenize ('{' :: (content ++ '}' :: '(' :: (count ++ ')' :: s))) =
      .block content count :: tokenize s := by
  have := tokenize_text_append h s
  simpa [Token.text] using this

theorem blocks_push (s : Text) : blocks ('[' :: s) = blocks s := by
  rw [blocks, tokenize_push]
  rfl

theorem blocks_pop (s : Text) : blocks (']' :: s) = blocks s := by
  rw [blocks, tokenize_pop]
  rfl

theorem blocks_call {atom : Text} (h : (Token.call atom a).Formed) (s : Text) :
    blocks (atom ++ '<' :: (a ++ '>' :: s)) = blocks s := by
  rw [blocks, tokenize_call_append h]
  rfl

theorem blocks_block {content count : Text} (h : (Token.block content count).Formed) (s : Text) :
    blocks ('{' :: (content ++ '}' :: '(' :: (count ++ ')' :: s))) =
      .block content count :: blocks s := by
  rw [blocks, tokenize_block_append h]
  rfl

/-- No block starts in a region without braces, and a call that starts there ends with it. -/
theorem blocks_append_angle (h1 : '>' ∉ a) (h2 : '{' ∉ a) (s : Text) :
    blocks (a ++ '>' :: s) = blocks s := by
  induction n : a.length using Nat.strongRecOn generalizing a with
  | ind n ih =>
    subst n
    cases a with
    | nil => exact blocks_cons_of_not_first rfl
    | cons c a =>
      rw [List.mem_cons, not_or] at h1 h2
      have later := ih a.length (by simp) h1.2 h2.2 rfl
      cases ht : first? (c :: (a ++ '>' :: s)) with
      | none => rw [List.cons_append, blocks_cons_of_not_first ht, later]
      | some t =>
        obtain ⟨hf, rest, e⟩ := first?_eq_some_iff.1 ht
        cases hf with
        | push => cases e; exact (blocks_push _).trans later
        | pop => cases e; exact (blocks_pop _).trans later
        | block =>
          rw [Token.text, List.cons_append, List.cons_append] at e
          exact absurd (List.cons.inj e).1 h2.1
        | @call atom arguments hne hw h3 h4 =>
          have ha : '>' ∉ atom ++ '<' :: arguments := by
            have : '>' ∉ atom := fun hm => absurd (hw _ hm) (by decide)
            simp [this, h3]
          have hca : '>' ∉ c :: a := by simp [h1.1, h1.2]
          have e' : (atom ++ '<' :: arguments) ++ '>' :: rest = (c :: a) ++ '>' :: s := by
            simpa [Token.text] using e
          obtain ⟨-, rfl⟩ := Text.eq_of_angle ha hca e'
          have hb := blocks_call (.call hne hw h3 h4) rest
          rwa [← List.cons_append, ← List.append_assoc, e'] at hb

theorem blocks_stray (h1 : '>' ∉ a) (h2 : '{' ∉ a) (s : Text) :
    blocks ('<' :: (a ++ '>' :: s)) = blocks s := by
  have h1' : '>' ∉ '<' :: a := by simp [h1]
  have h2' : '{' ∉ '<' :: a := by simp [h2]
  exact blocks_append_angle h1' h2' s

/-! ## Evaluated argument lists -/

namespace Evaluator

/-- An argument list with the values of its pieces. -/
def renderedArguments (ev : Evaluator) (a : Text) : Text :=
  Text.join [','] ((splitArguments a).map ev.rendered)

theorem join_induction {P : Text → Prop} {parts : List Text} (nil : P [])
    (append : ∀ p s, P p → P s → P (p ++ ',' :: s)) (h : ∀ p ∈ parts, P p) :
    P (Text.join [','] parts) := by
  unfold Text.join
  induction parts with
  | nil => simpa using nil
  | cons p parts ih =>
    obtain ⟨hp, h⟩ := List.forall_mem_cons.1 h
    cases parts with
    | nil => simpa using hp
    | cons q parts =>
      rw [List.intercalate_cons_cons]
      simpa using append _ _ hp (ih h)

theorem RendersArguments.inert (h : ev.RendersArguments a) (h1 : '>' ∉ a) (h2 : '\n' ∉ a) :
    Inert a where
  angle := h1
  line := h2
  balanced
    | .braces => h.braces
    | .round => h.round

theorem RendersNumber.inert {source : Text} (h : ev.RendersNumber source) :
    Inert (ev.rendered source) ∧ '{' ∉ ev.rendered source := by
  have free {c : Char} (hc : Number.isNumberChar c = false) : c ∉ ev.rendered source := by
    intro hm
    rw [h.plain c hm] at hc
    cases hc
  refine ⟨⟨free (by decide), free (by decide), fun hb => ?_⟩, free (by decide)⟩
  cases hb with
  | braces => exact Token.balanced_of_not_mem (by decide) (free (by decide)) (free (by decide))
  | round => exact h.balanced

/-- Values have no braces, and their round brackets are balanced. -/
theorem RendersArguments.inert_rendered (h : ev.RendersArguments a) :
    Inert (ev.renderedArguments a) ∧ '{' ∉ ev.renderedArguments a := by
  refine join_induction (P := fun s => Inert s ∧ '{' ∉ s) ⟨.nil, nofun⟩ ?_ fun p hp => ?_
  · rintro p s ⟨hp, hp'⟩ ⟨hs, hs'⟩
    exact ⟨hp.append_comma hs, by simp [hp', hs']⟩
  · obtain ⟨piece, hm, rfl⟩ := List.mem_map.1 hp
    exact (h.numbers piece hm).inert

end Evaluator

/-! ## The argument pass in front of other text -/

theorem Text.quiet_cons :
    Quiet (c :: p) after ↔ (c = '<' → Unclosed (p ++ after)) ∧ Quiet p after := by
  constructor
  · intro h
    refine ⟨fun e => h [] p (by rw [e]; rfl), fun q r e => h (c :: q) r ?_⟩
    rw [e, List.cons_append]
  · rintro ⟨h0, h⟩ q r e
    cases q with
    | nil => cases e; exact h0 rfl
    | cons c' q => cases e; exact h q r rfl

theorem segments_unclosed (h : Unclosed s) : segments ('<' :: s) = .plain '<' :: segments s := by
  rw [segments, Segment.scan, if_pos rfl, h.splitAngle]
  simp only
  rw [Segment.scan_eq]
  rfl

/-- The argument pass turns `s` into `u`, and the two are aligned, if the text goes on with a
beginning of `after`. -/
structure Evaluates (ev : Evaluator) (after s u : Text) : Prop where
  turns : ∀ x, x <+: after →
    evaluateArguments ev (s ++ x) = (do let v ← evaluateArguments ev x; .ok (u ++ v))
  aligned : ∀ x x', x <+: after → Aligned x x' → Aligned (s ++ x) (u ++ x')

namespace Evaluates

theorem nil : Evaluates ev after [] [] where
  turns x _ := Turns.nil x
  aligned _ _ _ h := h

theorem append (h : Evaluates ev (s' ++ after) s u) (h' : Evaluates ev after s' u') :
    Evaluates ev after (s ++ s') (u ++ u') where
  turns x hx := by
    have hx' : s' ++ x <+: s' ++ after := (List.prefix_append_right_inj s').2 hx
    rw [List.append_assoc, h.turns _ hx', h'.turns x hx]
    cases evaluateArguments ev x with
    | error e => rfl
    | ok v => exact congrArg Except.ok (List.append_assoc ..).symm
  aligned x x' hx ha := by
    have hx' : s' ++ x <+: s' ++ after := (List.prefix_append_right_inj s').2 hx
    rw [List.append_assoc, List.append_assoc]
    exact h.aligned _ _ hx' (h'.aligned x x' hx ha)

/-- A character that starts no region is kept. -/
theorem char (h : c = '<' → Unclosed after) : Evaluates ev after [c] [c] where
  turns x hx := by
    have hseg : segments ([c] ++ x) = .plain c :: segments x := by
      by_cases hc : c = '<'
      · subst hc
        exact segments_unclosed ((h rfl).of_isPrefix hx)
      · exact segments_cons hc x
    exact evaluateArguments_of_segments hseg rfl
  aligned x x' hx ha := .keep (fun e => (h e).of_isPrefix hx) ha

theorem quiet (h : Text.Quiet p after) : Evaluates ev after p p := by
  induction p with
  | nil => exact .nil
  | cons c p ih =>
    obtain ⟨hc, h⟩ := Text.quiet_cons.1 h
    exact append (s := [c]) (char hc) (ih h)

theorem of_not_mem (h : '<' ∉ p) (after : Text) : Evaluates ev after p p := by
  refine quiet ?_
  rintro q r rfl
  simp at h

theorem region (h1 : '>' ∉ a) (h2 : '\n' ∉ a) (h : ev.RendersArguments a) :
    Evaluates ev after ('<' :: (a ++ ['>'])) ('<' :: (ev.renderedArguments a ++ ['>'])) where
  turns x _ := Turns.region h1 h2 (fun piece hp => (h.numbers piece hp).render) x
  aligned x x' _ ha := by
    have := Aligned.region (h.inert h1 h2) h.inert_rendered.1 ha
    simpa using this

theorem evaluateArguments_eq (h : Evaluates ev after s u) : evaluateArguments ev s = .ok u := by
  have h := h.turns [] List.nil_prefix
  rw [List.append_nil] at h
  rw [h]
  exact congrArg Except.ok (List.append_nil u)

theorem aligned_nil (h : Evaluates ev after s u) : Aligned s u := by
  simpa using h.aligned [] [] List.nil_prefix .nil

end Evaluates

/-- The argument pass keeps the blocks at the top of a text whose regions stand where tokens allow
it. The induction goes along the tokens; the alignment shows that no others come up. -/
theorem Text.Regions.evaluates
    (h : Regions ev.RendersArguments (fun a => '{' ∉ a ∧ ev.RendersArguments a) s after) :
    ∃ u, Evaluates ev after s u ∧ List.Forall₂ (Token.BlockEvaluated ev) (blocks s) (blocks u) := by
  induction h with
  | nil => exact ⟨[], .nil, .nil⟩
  | @skip c s after hf hq _ ih =>
    obtain ⟨u, he, hb⟩ := ih
    have hcu : Evaluates ev after (c :: s) (c :: u) := (Evaluates.quiet hq).append he
    refine ⟨c :: u, hcu, ?_⟩
    rw [blocks_cons_of_not_first hf, blocks_cons_of_not_first (hcu.aligned_nil.first?_eq_none hf)]
    exact hb
  | @stray a s after h1 h2 ha _ ih =>
    obtain ⟨u, he, hb⟩ := ih
    refine ⟨'<' :: (ev.renderedArguments a ++ '>' :: u), ?_, ?_⟩
    · have := (Evaluates.region h1 h2 ha.2).append he
      simpa using this
    · obtain ⟨hi, hn⟩ := ha.2.inert_rendered
      rw [blocks_stray h1 ha.1, blocks_stray hi.angle hn]
      exact hb
  | push _ ih =>
    obtain ⟨u, he, hb⟩ := ih
    refine ⟨'[' :: u, (Evaluates.of_not_mem (p := ['[']) (by decide) _).append he, ?_⟩
    rwa [blocks_push, blocks_push]
  | pop _ ih =>
    obtain ⟨u, he, hb⟩ := ih
    refine ⟨']' :: u, (Evaluates.of_not_mem (p := [']']) (by decide) _).append he, ?_⟩
    rwa [blocks_pop, blocks_pop]
  | @call atom a s after hf ha _ ih =>
    obtain ⟨u, he, hb⟩ := ih
    obtain ⟨hi, -⟩ := ha.inert_rendered
    cases hf with
    | call hne hw h1 h2 =>
    refine ⟨atom ++ '<' :: (ev.renderedArguments a ++ '>' :: u), ?_, ?_⟩
    · have hatom : '<' ∉ atom := fun hm => absurd (hw _ hm) (by decide)
      have := (Evaluates.of_not_mem hatom _).append
        ((Evaluates.region h1 h2 ha).append he)
      simpa using this
    · rw [blocks_call (.call hne hw h1 h2), blocks_call (.call hne hw hi.angle hi.line)]
      exact hb
  | @block content count s after hf _ hq _ ihc ih =>
    obtain ⟨v, hv, -⟩ := ihc
    obtain ⟨u, he, hb⟩ := ih
    cases hf with
    | block hc hne hk =>
    have hv' : Token.Balanced '{' '}' v := hv.aligned_nil.balanced .braces hc
    refine ⟨'{' :: (v ++ '}' :: '(' :: (count ++ ')' :: u)), ?_, ?_⟩
    · have hclose := (Evaluates.of_not_mem (p := [')']) (by decide) _).append he
      have hmid := (Evaluates.of_not_mem (p := ['}', '(']) (by decide) _).append
        ((Evaluates.quiet hq).append hclose)
      have hcontent :
          Evaluates ev ((['}', '('] ++ (count ++ ([')'] ++ s))) ++ after) content v := by
        simpa using hv
      have := (Evaluates.of_not_mem (p := ['{']) (by decide) _).append (hcontent.append hmid)
      simpa using this
    · rw [blocks_block (.block hc hne hk), blocks_block (.block hv' hne hk)]
      exact .cons ⟨hv.evaluateArguments_eq⟩ hb

/-! ## Failures of the argument pass -/

section
variable {Q : Error → Prop}

theorem Evaluates.failsOnly (h : Evaluates ev after s u) {x : Text} (hx : x <+: after)
    (hQ : FailsOnly Q (evaluateArguments ev x)) :
    FailsOnly Q (evaluateArguments ev (s ++ x)) := by
  rw [h.turns x hx]
  exact failsOnly_bind.2 ⟨hQ, fun v _ => failsOnly_ok (u ++ v)⟩

theorem failsOnly_region (h1 : '>' ∉ a) (h2 : '\n' ∉ a)
    (ha : ∀ piece ∈ splitArguments a, FailsOnly Q (ev.render piece))
    (hs : FailsOnly Q (evaluateArguments ev s)) :
    FailsOnly Q (evaluateArguments ev ('<' :: (a ++ '>' :: s))) := by
  have hpieces : FailsOnly Q ((splitArguments a).mapM ev.render) := .mapM ha
  have hregion : FailsOnly Q (Segment.evaluate ev (.region a)) :=
    failsOnly_bind.2 ⟨hpieces, fun _ _ => failsOnly_ok _⟩
  rw [evaluateArguments, segments_region h1 h2, mapM_flatten_cons]
  exact failsOnly_bind.2 ⟨hregion, fun v _ => failsOnly_bind.2 ⟨hs, fun _ _ => failsOnly_ok _⟩⟩

theorem Token.Within.mono {t : Token} (h : Within t s) (hs : tokenize s ⊆ tokenize s') :
    Within t s' := by
  cases h with
  | top hm => exact .top (hs hm)
  | inner hm h => exact .inner (hs hm) h

/-- If regions are argument lists of calls, only an argument of one of these can fail, or what
follows. -/
theorem Text.Regions.failsOnly (h : Regions call (fun _ => False) s after)
    (hQ : ∀ atom a, Token.Within (.call atom a) s →
      ∀ piece ∈ splitArguments a, FailsOnly Q (ev.render piece))
    {x : Text} (hx : x <+: after) (h0 : FailsOnly Q (evaluateArguments ev x)) :
    FailsOnly Q (evaluateArguments ev (s ++ x)) := by
  induction h generalizing x with
  | nil => exact h0
  | @skip c s after hf hq _ ih =>
    have ht := tokenize_cons_of_not_first hf
    have hs := ih (fun atom a hw => hQ atom a (hw.mono (by simp [ht]))) hx h0
    exact (Evaluates.quiet hq).failsOnly ((List.prefix_append_right_inj s).2 hx) hs
  | stray _ _ ha => exact ha.elim
  | @push s after _ ih =>
    have hs := ih (fun atom a hw => hQ atom a (hw.mono (by simp [tokenize_push]))) hx h0
    exact (Evaluates.of_not_mem (p := ['[']) (by decide) _).failsOnly (List.prefix_rfl) hs
  | @pop s after _ ih =>
    have hs := ih (fun atom a hw => hQ atom a (hw.mono (by simp [tokenize_pop]))) hx h0
    exact (Evaluates.of_not_mem (p := [']']) (by decide) _).failsOnly (List.prefix_rfl) hs
  | @call atom a s after hf _ _ ih =>
    have ht := tokenize_call_append hf s
    have hs := ih (fun atom a hw => hQ atom a (hw.mono (by simp [ht]))) hx h0
    have ha := hQ atom a (.top (by simp [ht]))
    cases hf with
    | call _ hw h1 h2 =>
    have hatom : '<' ∉ atom := fun hm => absurd (hw _ hm) (by decide)
    have := (Evaluates.of_not_mem hatom _).failsOnly List.prefix_rfl (failsOnly_region h1 h2 ha hs)
    simpa using this
  | @block content count s after hf _ hq _ ihc ih =>
    have ht := tokenize_block_append hf s
    have hs := ih (fun atom a hw => hQ atom a (hw.mono (by simp [ht]))) hx h0
    have hround : ')' :: (s ++ x) <+: ')' :: (s ++ after) := by
      simpa [List.prefix_append_right_inj] using hx
    have hbrace : '}' :: '(' :: (count ++ ')' :: (s ++ x)) <+:
        '}' :: '(' :: (count ++ ')' :: (s ++ after)) := by
      simpa [List.prefix_append_right_inj] using hx
    have hcount := (Evaluates.quiet hq).failsOnly hround
      ((Evaluates.of_not_mem (p := [')']) (by decide) _).failsOnly List.prefix_rfl hs)
    have hmid := (Evaluates.of_not_mem (p := ['}', '(']) (by decide) _).failsOnly
      List.prefix_rfl hcount
    have hb : Token.block content count ∈ tokenize ('{' :: (content ++ '}' :: '(' ::
        (count ++ ')' :: s))) := by simp [ht]
    have hcontent := ihc (fun atom a hw => hQ atom a (.inner hb hw)) hbrace hmid
    have := (Evaluates.of_not_mem (p := ['{']) (by decide) _).failsOnly List.prefix_rfl hcontent
    simpa using this

end

/-! ## The pass and the tokens -/

/-- If the regions of a text stand where tokens allow it and have values, the argument pass
succeeds, and the blocks at the top are found again, in the same order, with evaluated contents and
the same counts. If all regions are argument lists of calls and the pass fails, a piece of the
argument list of a call of the text, at the top or in a block, has this failure. -/
theorem evaluateArguments_regions (ev : Evaluator) (s : Text) :
    (s.Regions ev.RendersArguments (fun a => '{' ∉ a ∧ ev.RendersArguments a) [] →
      ∃ u, evaluateArguments ev s = .ok u ∧
        List.Forall₂ (Token.BlockEvaluated ev) (blocks s) (blocks u)) ∧
    (s.Regions (fun _ => True) (fun _ => False) [] →
      ∀ e, evaluateArguments ev s = .error e →
        ∃ atom a piece, Token.Within (.call atom a) s ∧ piece ∈ splitArguments a ∧
          ev.render piece = .error e) := by
  constructor
  · intro h
    obtain ⟨u, he, hb⟩ := h.evaluates
    exact ⟨u, he.evaluateArguments_eq, hb⟩
  · intro h
    have hfail : FailsOnly (fun e => ∃ atom a piece, Token.Within (.call atom a) s ∧
        piece ∈ splitArguments a ∧ ev.render piece = .error e) (evaluateArguments ev (s ++ [])) :=
      h.failsOnly (fun atom a hw piece hp e he => ⟨atom, a, piece, hw, hp, he⟩)
        List.nil_prefix (failsOnly_ok [])
    rwa [List.append_nil] at hfail

theorem evaluateArguments_regions_nested :
    (∃ u, evaluateArguments {} "<1+1>{A<1+1>}(1<2)".toList = .ok u ∧
      List.Forall₂ (Token.BlockEvaluated {}) (blocks "<1+1>{A<1+1>}(1<2)".toList) (blocks u)) ∧
    ∃ e atom a piece, evaluateArguments {} "{A<x>}(1<2)".toList = .error e ∧
      Token.Within (.call atom a) "{A<x>}(1<2)".toList ∧ piece ∈ splitArguments a ∧
      ({} : Evaluator).render piece = .error e := by
  -- A block with one call in it, and a count with a `<` behind which no `>` follows.
  have hblock {call stray : Text → Prop} {a : Text} (h1 : '>' ∉ a) (h2 : '\n' ∉ a)
      (hb : Token.Balanced '{' '}' a) (ha : call a) :
      Text.Regions call stray ('{' :: ('A' :: '<' :: (a ++ ['>']) ++ "\x7d(1<2)".toList)) [] := by
    have hcall : (Token.call ['A'] a).Formed :=
      .call (by decide) (List.forall_mem_singleton.2 (by decide)) h1 h2
    have hcontent : Token.Balanced '{' '}' ('A' :: '<' :: (a ++ ['>'])) := by
      have hfront : Token.Balanced '{' '}' ['A', '<'] :=
        Token.balanced_of_not_mem (by decide) (by decide) (by decide)
      have hback : Token.Balanced '{' '}' ['>'] :=
        Token.balanced_of_not_mem (by decide) (by decide) (by decide)
      exact hfront.append (by decide) (hb.append (by decide) hback)
    have hcount : Token.Balanced '(' ')' "1<2".toList :=
      Token.balanced_of_not_mem (by decide) (by decide) (by decide)
    have hquiet : Text.Quiet "1<2".toList [')'] := by
      refine Text.quiet_cons.2 ⟨by decide, Text.quiet_cons.2 ⟨by decide, ?_⟩⟩
      exact Text.quiet_cons.2 ⟨by decide, by simp [Text.Quiet]⟩
    exact Text.Regions.block (.block hcontent (by decide) hcount) (.call hcall ha .nil) hquiet .nil
  have hargs : ({} : Evaluator).RendersArguments "1+1".toList := by
    refine ⟨Token.balanced_of_not_mem (by decide) (by decide) (by decide),
      Token.balanced_of_not_mem (by decide) (by decide) (by decide), fun piece hp => ?_⟩
    have hs : splitArguments "1+1".toList = ["1+1".toList] := by decide
    rw [hs, List.mem_singleton] at hp
    rw [hp]
    decide +kernel
  constructor
  · refine (evaluateArguments_regions {} "<1+1>{A<1+1>}(1<2)".toList).1 ?_
    exact .stray (a := "1+1".toList) (by decide) (by decide) ⟨by decide, hargs⟩
      (hblock (a := "1+1".toList) (by decide) (by decide) hargs.braces hargs)
  · have hx : Token.Balanced '{' '}' ['x'] :=
      Token.balanced_of_not_mem (by decide) (by decide) (by decide)
    have hr : Text.Regions (fun _ => True) (fun _ => False) "{A<x>}(1<2)".toList [] :=
      hblock (a := ['x']) (by decide) (by decide) hx trivial
    have hfail : (evaluateArguments {} "{A<x>}(1<2)".toList).isOk = false := by decide +kernel
    cases he : evaluateArguments {} "{A<x>}(1<2)".toList with
    | ok u => rw [he] at hfail; cases hfail
    | error e =>
      obtain ⟨atom, a, piece, h⟩ := (evaluateArguments_regions {} "{A<x>}(1<2)".toList).2 hr e he
      exact ⟨e, atom, a, piece, rfl, h⟩

/-- A comparison in a count starts a region if a `>` follows: the count changes, or what stands up
to there is taken for an expression, although it is no argument. Braces in a comment count for
blocks until the comment is evaluated away. -/
theorem evaluateArguments_count_changed :
    (blocks "{A<1>}(1<1+1>0)".toList = [.block "A<1>".toList "1<1+1>0".toList] ∧
      ({} : Evaluator).RendersNumber "1".toList ∧ ({} : Evaluator).RendersNumber "1+1".toList ∧
      evaluateArguments {} "{A<1>}(1<1+1>0)".toList = .ok "{A<1>}(1<2>0)".toList ∧
      blocks "{A<1>}(1<2>0)".toList = [.block "A<1>".toList "1<2>0".toList]) ∧
    (({} : Evaluator).RendersNumber "1#\x7b".toList ∧
      blocks "\x7bA<1#\x7b>\x7d\x7d(3)".toList = [.block "A<1#\x7b>\x7d".toList "3".toList] ∧
      evaluateArguments {} "\x7bA<1#\x7b>\x7d\x7d(3)".toList = .ok "\x7bA<1>\x7d\x7d(3)".toList ∧
      blocks "\x7bA<1>\x7d\x7d(3)".toList = []) ∧
    ((evaluateArguments {} "{A}(1<2)>".toList).isOk = false ∧
      ∀ atom a, ¬ Token.Within (.call atom a) "{A}(1<2)>".toList) := by
  have ht : tokenize "{A}(1<2)>".toList = [.block ['A'] "1<2".toList] := by decide +kernel
  have hA : tokenize ['A'] = [] := by decide +kernel
  refine ⟨⟨?_, ?_, ?_, ?_, ?_⟩, ⟨?_, ?_, ?_, ?_⟩, ?_, ?_⟩
  · decide +kernel
  · decide +kernel
  · decide +kernel
  · decide +kernel
  · decide +kernel
  · decide +kernel
  · decide +kernel
  · decide +kernel
  · decide +kernel
  · decide +kernel
  · intro atom a hw
    cases hw with
    | top hm =>
      rw [ht] at hm
      simp at hm
    | @inner _ content _ hm hw =>
      rw [ht, List.mem_singleton, Token.block.injEq] at hm
      obtain ⟨rfl, -⟩ := hm
      cases hw with
      | top hm => simp [hA] at hm
      | inner hm => simp [hA] at hm

end LSystem
