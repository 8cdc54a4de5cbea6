import LSystem.Proofs.Expansion.Concatenation

/-! # What expansions are made of

A command expands to pieces of two kinds: tokens, and copies of what repeat blocks of templates
hold, which are taken as they stand (`expandOnce_pieces`). Nothing is skipped where tokens meet, so
whatever is skipped in an expansion comes from gaps in such a content. -/

namespace LSystem

open Token (Formed)
open Text (Tight)

variable {P Q : Text → Prop} {s t : Text}

/-- A text is put together from texts that satisfy `P`. -/
def Text.Composed (P : Text → Prop) (s : Text) : Prop :=
  ∃ pieces : List Text, s = pieces.flatten ∧ ∀ p ∈ pieces, P p

namespace Text.Composed

theorem of (h : P s) : Composed P s :=
  ⟨[s], by simp, by simpa using h⟩

theorem nil : Composed P [] := ⟨[], rfl, nofun⟩

theorem append (hs : Composed P s) (ht : Composed P t) : Composed P (s ++ t) := by
  obtain ⟨ps, rfl, hp⟩ := hs
  obtain ⟨qs, rfl, hq⟩ := ht
  exact ⟨ps ++ qs, List.flatten_append.symm, List.forall_mem_append.2 ⟨hp, hq⟩⟩

theorem flatten {parts : List Text} (h : ∀ p ∈ parts, Composed P p) : Composed P parts.flatten := by
  induction parts with
  | nil => exact nil
  | cons p parts ih =>
    obtain ⟨hp, h⟩ := List.forall_mem_cons.1 h
    exact hp.append (ih h)

theorem mono (h : Composed P s) (hPQ : ∀ p, P p → Q p) : Composed Q s := by
  obtain ⟨ps, rfl, hp⟩ := h
  exact ⟨ps, rfl, fun p hm => hPQ p (hp p hm)⟩

theorem tight (h : Composed P s) (hP : ∀ p, P p → Tight p) : Tight s := by
  obtain ⟨ps, rfl, hp⟩ := h
  induction ps with
  | nil => exact .nil
  | cons p ps ih =>
    obtain ⟨h0, hp⟩ := List.forall_mem_cons.1 hp
    exact (hP p h0).append (ih hp)

end Text.Composed

/-- Induction on the nesting of repeat blocks in a text. -/
theorem Token.content_induction {motive : Text → Prop}
    (h : ∀ s, (∀ content count, Token.block content count ∈ tokenize s → motive content) → motive s)
    (s : Text) : motive s := by
  induction n : s.length using Nat.strongRecOn generalizing s with
  | ind n ih =>
    subst n
    exact h s fun content _ hm => ih _ (Token.content_length_lt hm) content rfl

theorem repeatText_eq_ok {n : Nat} (h : repeatText n s = .ok t) :
    t = (List.replicate n s).flatten := by
  unfold repeatText at h
  split at h
  · cases h
  · split at h
    · next he =>
      cases h
      rcases Bool.or_eq_true_iff.1 he with he | he
      · simp [of_decide_eq_true he]
      · simp [of_decide_eq_true he]
    · split at h
      · cases h
      · cases h
        rfl

theorem Text.Composed.repeatText {n : Nat} (hs : n ≠ 0 → Composed P s)
    (h : repeatText n s = .ok t) : Composed P t := by
  rw [repeatText_eq_ok h]
  refine .flatten fun p hp => ?_
  obtain ⟨hn, rfl⟩ := List.mem_replicate.1 hp
  exact hs hn

theorem Text.Composed.flatten_replicate (hs : Composed P s) (n : Nat) :
    Composed P (List.replicate n s).flatten :=
  .flatten fun _ hp => List.eq_of_mem_replicate hp ▸ hs

/-- Blocks are written out as copies of their contents, and other tokens stay. -/
theorem unrollBlocks_composed {ev : Evaluator} (h : unrollBlocks ev s = .ok t) :
    Text.Composed (fun p => (∃ u : Token, u.Formed ∧ p = u.text) ∨
      ∃ count n, .block p count ∈ tokenize s ∧ ev.count count = .ok n ∧ n ≠ 0) t := by
  obtain ⟨parts, hparts, h⟩ := bind_eq_ok_iff.1 h
  cases h
  refine .flatten fun p hp => ?_
  obtain ⟨u, hu, hup⟩ := mem_of_mapM_eq_ok hparts hp
  have keep (hk : u.unroll ev = .ok u.text) : p = u.text := Except.ok.inj (hup.symm.trans hk)
  cases u with
  | block content count =>
    obtain ⟨n, hn, hup⟩ := bind_eq_ok_iff.1 hup
    exact .repeatText (fun h0 => .of (.inr ⟨count, n, hu, hn, h0⟩)) hup
  | push => exact .of (.inl ⟨_, formed_of_mem_tokenize hu, keep rfl⟩)
  | pop => exact .of (.inl ⟨_, formed_of_mem_tokenize hu, keep rfl⟩)
  | call => exact .of (.inl ⟨_, formed_of_mem_tokenize hu, keep rfl⟩)

/-- The template for a call with its parameters substituted and its argument lists evaluated, but
with its blocks not yet written out. -/
def Rule.prepare (r : Rule) (ev : Evaluator) (args : List Text) : Except Error Text := do
  let template ← r.select ev args
  evaluateArguments ev (r.substitute template args)

theorem Rule.instantiate_eq_ok_iff {r : Rule} {ev : Evaluator} {args : List Text} :
    r.instantiate ev args = .ok t ↔ ∃ s, r.prepare ev args = .ok s ∧ unrollBlocks ev s = .ok t := by
  simp only [instantiate, prepare, bind_eq_ok_iff]
  constructor
  · rintro ⟨template, hs, s, he, hu⟩
    exact ⟨s, ⟨template, hs, he⟩, hu⟩
  · rintro ⟨s, ⟨template, hs, he⟩, hu⟩
    exact ⟨template, hs, s, he, hu⟩

namespace Grammar

variable {g : Grammar} {command content o : Text} {ts : List Token}

/-- Expanding a command copies the content of a repeat block that stands in the template for one of
its calls, or for a call in one of its repeat blocks. -/
inductive Copies (g : Grammar) : (command content : Text) → Prop where
  | template {command atom arguments s content count : Text} {r : Rule} {n : Nat} :
    .call atom arguments ∈ tokenize command → g.table.get atom = .ok r →
    r.prepare g.evaluator (splitArguments arguments) = .ok s →
    .block content count ∈ tokenize s → g.evaluator.count count = .ok n → n ≠ 0 →
    Copies g command content
  | nested {command inner count content : Text} {n : Nat} :
    .block inner count ∈ tokenize command → g.evaluator.count count = .ok n → n ≠ 0 →
    Copies g inner content → Copies g command content

/-- A token, or the content of a block that the expansion of a command copies. -/
def Piece (g : Grammar) (command p : Text) : Prop :=
  (∃ t : Token, t.Formed ∧ p = t.text) ∨ g.Copies command p

/-- A block expands to nothing, or to copies of what its content expands to. -/
theorem expandToken_block_eq_ok {count : Text} (h : g.expandToken (.block content count) = .ok o) :
    ∃ n, g.evaluator.count count = .ok n ∧ (n = 0 ∧ o = [] ∨
      n ≠ 0 ∧ ∃ s, g.expandOnce content = .ok s ∧ o = (List.replicate n s).flatten) := by
  obtain ⟨n, hn, h⟩ := bind_eq_ok_iff.1 h
  refine ⟨n, hn, ?_⟩
  split at h
  · next h0 =>
    cases h
    exact .inl ⟨h0, rfl⟩
  · next h0 =>
    obtain ⟨s, hs, h⟩ := bind_eq_ok_iff.1 h
    exact .inr ⟨h0, s, hs, repeatText_eq_ok h⟩

theorem expandToken_composed {u : Token} (hu : u ∈ tokenize command)
    (ih : ∀ content count, .block content count ∈ tokenize command →
      ∀ o, g.expandOnce content = .ok o → Text.Composed (g.Piece content) o)
    (h : g.expandToken u = .ok o) : Text.Composed (g.Piece command) o := by
  cases u with
  | push =>
    cases h
    exact .of (.inl ⟨.push, .push, rfl⟩)
  | pop =>
    cases h
    exact .of (.inl ⟨.pop, .pop, rfl⟩)
  | block content count =>
    obtain ⟨n, hn, ⟨-, rfl⟩ | ⟨h0, s, hs, rfl⟩⟩ := expandToken_block_eq_ok h
    · exact .nil
    · refine ((ih content count hu s hs).mono ?_).flatten_replicate n
      exact fun p hp => hp.imp_right fun hc => .nested hu hn h0 hc
  | call atom arguments =>
    obtain ⟨r, hr, h⟩ := bind_eq_ok_iff.1 h
    obtain ⟨s, hs, h⟩ := Rule.instantiate_eq_ok_iff.1 h
    refine (unrollBlocks_composed h).mono fun p hp => hp.imp_right ?_
    rintro ⟨count, n, hp, hn, h0⟩
    exact .template hu hr hs hp hn h0

theorem expandOnce_composed (h : g.expandOnce command = .ok o) :
    Text.Composed (g.Piece command) o := by
  induction command using Token.content_induction generalizing o with
  | h command ih =>
    rw [expandOnce_eq, expandTokens_eq_mapM] at h
    obtain ⟨parts, hparts, h⟩ := bind_eq_ok_iff.1 h
    cases h
    refine .flatten fun p hp => ?_
    obtain ⟨u, hu, h⟩ := mem_of_mapM_eq_ok hparts hp
    exact expandToken_composed hu (fun content count hm o => ih content count hm) h

/-- An expansion is put together from tokens and from copies of what blocks of templates hold. It
has no gaps if these contents have none. -/
theorem expandOnce_pieces (h : g.expandOnce command = .ok o) :
    (∃ pieces : List Text, o = pieces.flatten ∧
      ∀ p ∈ pieces, (∃ t : Token, t.Formed ∧ p = t.text) ∨ g.Copies command p) ∧
    ((∀ content, g.Copies command content → Tight content) → Tight o) := by
  refine ⟨expandOnce_composed h, fun hc => (expandOnce_composed h).tight ?_⟩
  rintro p (⟨t, ht, rfl⟩ | hp)
  · exact ht.tight
  · exact hc p hp

theorem expandOnce_pieces_sprouting :
    sprouting.expandOnce "[B<2>]".toList = .ok "[B<2>B<2>]".toList ∧
      Tight "[B<2>B<2>]".toList := by
  have he : sprouting.expandOnce "[B<2>]".toList = .ok "[B<2>B<2>]".toList := by decide +kernel
  refine ⟨he, (expandOnce_pieces he).2 fun content hc => ?_⟩
  have ht : tokenize "[B<2>]".toList = [.push, .call ['B'] ['2'], .pop] := by decide +kernel
  cases hc with
  | nested hm =>
    rw [ht] at hm
    simp at hm
  | template hm hr hs hb =>
    rw [ht] at hm
    obtain ⟨rfl, rfl⟩ := by simpa using hm
    cases hr
    have hp : repeater.prepare sprouting.evaluator [['2']] = .ok "\x7bB<2>\x7d(2)".toList := by
      decide +kernel
    cases hp.symm.trans hs
    have hu : tokenize "\x7bB<2>\x7d(2)".toList = [.block "B<2>".toList ['2']] := by decide +kernel
    rw [hu] at hb
    obtain ⟨rfl, -⟩ := by simpa using hb
    decide

/-- A rule whose template has a blank in a block. -/
def spacer : Rule where
  atom := ['A']
  parameters := [['x']]
  fallback := "\x7bB<x> \x7d(2)".toList

def spacing : Grammar where
  table := { made := [spacer], held := [0] }

/-- A blank in the block of a template is copied, and then belongs to no token. -/
theorem expandOnce_not_tight :
    spacing.expandOnce "A<1>".toList = .ok "B<1> B<1> ".toList ∧
      ¬ Tight "B<1> B<1> ".toList := by
  decide +kernel

end Grammar

end LSystem
