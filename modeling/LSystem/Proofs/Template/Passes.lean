import LSystem.Rule
import LSystem.Proofs.Template.Replacement
import LSystem.Proofs.Template.Rendering
import LSystem.Proofs.Template.TokenTree

/-! # The passes over token trees

Each of the three passes of an instantiation works on plain text. On the text of a token tree it
does what a function on trees does: substitution maps argument lists and counts
(`replaceEach_text`), the argument pass maps argument lists (`evaluateArguments_text`), and writing
out blocks replaces the blocks at the top by copies of their contents (`unrollBlocks_text`). -/

namespace LSystem

open Text (replaceEach)

variable {ev : Evaluator} {T : TokenTree} {s s' u u' : Text}

/-! ## Substitution -/

/-- Words that occur in no atom are replaced in argument lists and counts only. -/
theorem replaceEach_text {pairs : List (Text × Text)}
    (hw : ∀ p ∈ pairs, p.1 ≠ [] ∧ ∀ c ∈ p.1, Text.isWord c)
    (hT : T.All (fun atom _ => ∀ p ∈ pairs, ¬ p.1 <:+: atom) (fun _ => True)) :
    replaceEach pairs T.text = (T.map (replaceEach pairs) (replaceEach pairs)).text := by
  have sep {c : Char} (hc : Text.isWord c = false) : ∀ p ∈ pairs, c ∉ p.1 := by
    intro p hp hm
    rw [(hw p hp).2 c hm] at hc
    cases hc
  have hne : ∀ p ∈ pairs, p.1 ≠ [] := fun p hp => (hw p hp).1
  induction T with
  | nil => exact Text.replaceEach_nil hne
  | push rest ih =>
    rw [TokenTree.text, Text.replaceEach_cons_of_not_mem hne (sep (by decide)), ih hT]
    rfl
  | pop rest ih =>
    rw [TokenTree.text, Text.replaceEach_cons_of_not_mem hne (sep (by decide)), ih hT]
    rfl
  | block content count rest ihc ih =>
    rw [TokenTree.text, Text.replaceEach_cons_of_not_mem hne (sep (by decide)),
      Text.replaceEach_append_cons (sep (by decide)),
      Text.replaceEach_cons_of_not_mem hne (sep (by decide)),
      Text.replaceEach_append_cons (sep (by decide)), ihc hT.2.1, ih hT.2.2]
    rfl
  | call atom arguments rest ih =>
    rw [TokenTree.text, Text.replaceEach_append_cons (sep (by decide)),
      Text.replaceEach_append_cons (sep (by decide)), Text.replaceEach_of_not_isInfix hT.1, ih hT.2]
    rfl

/-! ## The argument pass -/

theorem Segment.scan_eq (skip : Nat) (s : Text) (found : List Segment) :
    scan skip s found = found.reverse ++ scan 0 (s.drop skip) [] := by
  induction s generalizing skip found with
  | nil => simp [scan]
  | cons c s ih =>
    cases skip with
    | succ skip => rw [scan, ih, List.drop_succ_cons]
    | zero =>
      simp only [scan, List.drop_zero]
      split
      · split
        · rw [ih, ih _ [_]]
          simp
        · rw [ih, ih _ [_]]
          simp
      · rw [ih, ih _ [_]]
        simp

theorem segments_cons {c : Char} (hc : c ≠ '<') (s : Text) :
    segments (c :: s) = .plain c :: segments s := by
  rw [segments, Segment.scan, if_neg hc, Segment.scan_eq]
  rfl

theorem segments_region {arguments : Text} (h1 : '>' ∉ arguments) (h2 : '\n' ∉ arguments)
    (s : Text) :
    segments ('<' :: (arguments ++ '>' :: s)) = .region arguments :: segments s := by
  have h : Token.splitAngle (arguments ++ '>' :: s) [] = some (arguments, s) :=
    Token.splitAngle_eq_some_iff.2 ⟨arguments, h1, h2, rfl, rfl⟩
  rw [segments, Segment.scan, if_pos rfl, h]
  simp only
  rw [Segment.scan_eq]
  simp [segments]

theorem evaluateArguments_of_segments {seg : Segment} (h : segments s = seg :: segments s')
    (hu : seg.evaluate ev = .ok u) :
    evaluateArguments ev s = (do let v ← evaluateArguments ev s'; .ok (u ++ v)) := by
  rw [evaluateArguments, h, mapM_flatten_cons, hu]
  rfl

/-- The argument pass turns `s` into `u`, whatever follows. -/
def Turns (ev : Evaluator) (s u : Text) : Prop :=
  ∀ rest, evaluateArguments ev (s ++ rest) =
    (do let v ← evaluateArguments ev rest; .ok (u ++ v))

namespace Turns

theorem nil : Turns ev [] [] := by
  intro rest
  rw [List.nil_append]
  cases evaluateArguments ev rest <;> rfl

theorem append (h : Turns ev s u) (h' : Turns ev s' u') : Turns ev (s ++ s') (u ++ u') := by
  intro rest
  rw [List.append_assoc, h, h']
  cases evaluateArguments ev rest with
  | error e => rfl
  | ok v => exact congrArg Except.ok (List.append_assoc ..).symm

theorem of_not_mem (h : '<' ∉ s) : Turns ev s s := by
  induction s with
  | nil => exact .nil
  | cons c s ih =>
    rw [List.mem_cons, not_or] at h
    have hc : Turns ev [c] [c] := fun rest =>
      evaluateArguments_of_segments (segments_cons (Ne.symm h.1) rest) rfl
    exact hc.append (ih h.2)

theorem region {arguments : Text} {value : Text → Text} (h1 : '>' ∉ arguments)
    (h2 : '\n' ∉ arguments)
    (hv : ∀ piece ∈ splitArguments arguments, ev.render piece = .ok (value piece)) :
    Turns ev ('<' :: (arguments ++ ['>']))
      ('<' :: (Text.join [','] ((splitArguments arguments).map value) ++ ['>'])) := by
  intro rest
  have hseg := segments_region h1 h2 rest
  rw [List.cons_append, List.append_assoc]
  refine evaluateArguments_of_segments hseg ?_
  rw [Segment.evaluate, mapM_eq_ok_map hv]
  rfl

end Turns

/-- A tree with every argument replaced by a value of it. -/
def TokenTree.withValues (value : Text → Text) (T : TokenTree) : TokenTree :=
  T.map (fun arguments => Text.join [','] ((splitArguments arguments).map value)) id

theorem turns_text {value : Text → Text}
    (hT : T.All
      (fun atom arguments => (Token.call atom arguments).Formed ∧
        ∀ piece ∈ splitArguments arguments, ev.render piece = .ok (value piece))
      (fun count => '<' ∉ count)) :
    Turns ev T.text (T.withValues value).text := by
  induction T with
  | nil => exact .nil
  | push rest ih => exact (Turns.of_not_mem (s := ['[']) (by decide)).append (ih hT)
  | pop rest ih => exact (Turns.of_not_mem (s := [']']) (by decide)).append (ih hT)
  | block content count rest ihc ih =>
    obtain ⟨hk, hc, hr⟩ := hT
    have h1 : Turns ev ['{'] ['{'] := .of_not_mem (by decide)
    have h2 : Turns ev ('}' :: '(' :: (count ++ [')'])) ('}' :: '(' :: (count ++ [')'])) :=
      .of_not_mem (by simp [hk])
    have := h1.append ((ihc hc).append (h2.append (ih hr)))
    simpa [TokenTree.text, TokenTree.withValues, TokenTree.map] using this
  | call atom arguments rest ih =>
    obtain ⟨⟨hf, hv⟩, hr⟩ := hT
    cases hf with
    | call _ hw h1 h2 =>
    have ha : Turns ev atom atom := .of_not_mem fun hm => absurd (hw _ hm) (by decide)
    have := ha.append ((Turns.region h1 h2 hv).append (ih hr))
    simpa [TokenTree.text, TokenTree.withValues, TokenTree.map] using this

theorem evaluateArguments_text {value : Text → Text}
    (hT : T.All
      (fun atom arguments => (Token.call atom arguments).Formed ∧
        ∀ piece ∈ splitArguments arguments, ev.render piece = .ok (value piece))
      (fun count => '<' ∉ count)) :
    evaluateArguments ev T.text = .ok (T.withValues value).text := by
  have h := turns_text hT []
  rw [List.append_nil] at h
  rw [h]
  exact congrArg Except.ok (List.append_nil _)

/-! ## Writing out blocks -/

namespace TokenTree

/-- The text of a tree with the blocks at the top written out as copies of their contents. The first
count that fails gives the error. -/
def unroll (ev : Evaluator) : TokenTree → Except Error Text
  | nil => .ok []
  | push rest => do
    let s ← rest.unroll ev
    .ok ('[' :: s)
  | pop rest => do
    let s ← rest.unroll ev
    .ok (']' :: s)
  | block content count rest => do
    let n ← ev.count count
    let copies ← repeatText n content.text
    let s ← rest.unroll ev
    .ok (copies ++ s)
  | call atom arguments rest => do
    let s ← rest.unroll ev
    .ok (atom ++ '<' :: (arguments ++ '>' :: s))

/-- The text of a tree with the blocks at the top written out as often as `times` says. -/
def unrolled (times : Text → Nat) : TokenTree → Text
  | nil => []
  | push rest => '[' :: rest.unrolled times
  | pop rest => ']' :: rest.unrolled times
  | block content count rest =>
    (List.replicate (times count) content.text).flatten ++ rest.unrolled times
  | call atom arguments rest => atom ++ '<' :: (arguments ++ '>' :: rest.unrolled times)

theorem unroll_eq_mapM (T : TokenTree) :
    T.unroll ev = (do
      let parts ← T.tokens.mapM (Token.unroll ev)
      .ok parts.flatten) := by
  induction T with
  | nil => rfl
  | push rest ih => rw [tokens, mapM_flatten_cons, ← ih]; rfl
  | pop rest ih => rw [tokens, mapM_flatten_cons, ← ih]; rfl
  | block content count rest _ ih =>
    rw [tokens, mapM_flatten_cons, ← ih, unroll, Token.unroll]
    cases ev.count count <;> rfl
  | call atom arguments rest ih =>
    rw [tokens, mapM_flatten_cons, ← ih, unroll]
    cases rest.unroll ev with
    | error e => rfl
    | ok s => simp [bind, Except.bind, Token.unroll, Token.text]

theorem unroll_eq_ok {times : Text → Nat}
    (h : ∀ content count, .block content count ∈ T.tokens → ev.count count = .ok (times count) ∧
      times count < Expr.repetitionLimit ∧
      times count * content.length < Expr.repetitionLimit) :
    T.unroll ev = .ok (T.unrolled times) := by
  induction T with
  | nil => rfl
  | push rest ih => rw [unroll, ih fun c k hm => h c k (.tail _ hm)]; rfl
  | pop rest ih => rw [unroll, ih fun c k hm => h c k (.tail _ hm)]; rfl
  | block content count rest _ ih =>
    obtain ⟨hk, hn, hl⟩ := h _ _ (.head _)
    have hr : repeatText (times count) content.text =
        .ok (List.replicate (times count) content.text).flatten := by
      rw [repeatText, if_neg (by omega)]
      split
      · next h0 => rcases (by simpa using h0) with h0 | h0 <;> simp [h0]
      · rw [if_neg (by omega)]
    rw [unroll, hk, ih fun c k hm => h c k (.tail _ hm)]
    simp only [bind, Except.bind, hr]
    rfl
  | call atom arguments rest ih => rw [unroll, ih fun c k hm => h c k (.tail _ hm)]; rfl

end TokenTree

theorem unrollBlocks_text (h : T.Solid) : unrollBlocks ev T.text = T.unroll ev := by
  rw [unrollBlocks, h.tokenize_text, T.unroll_eq_mapM]

end LSystem
