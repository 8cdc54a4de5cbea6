import LSystem.Proofs.Execution.Nesting
import LSystem.Proofs.Expansion.Concatenation

/-! # Replaying repeat blocks

A repeat block delivers the same events as copies of its expanded content. Both are the events of
what stands before them, a stream that is replayed, and the events of what follows; the block
replays its content one level of nesting deeper than the copies stand. -/

namespace LSystem.Grammar

open EventStream (Upto)
open Text (Tight)

variable {g : Grammar} {p q content count e : Text} {n depth : Nat}

theorem streamWithin_append (hp : Tight p) (q : Text) :
    g.streamWithin (depth + 1) (p ++ q) =
      (g.streamWithin (depth + 1) p).append fun _ => g.streamWithin (depth + 1) q := by
  simp only [streamWithin, hp.tokenize_append, streamOf_append]

/-- A block at the start of a command replays its expanded content. -/
theorem streamWithin_block_append (hb : (Token.block content count).Formed)
    (hn : g.evaluator.count count = .ok n) (he : n = 0 ∨ g.expandOnce content = .ok e) (q : Text) :
    g.streamWithin (depth + 1) ((Token.block content count).text ++ q) =
      (g.streamWithin depth e).replay n fun _ => g.streamWithin (depth + 1) q := by
  simp only [streamWithin, tokenize_text_append hb, streamOf, hn]
  cases n with
  | zero => rfl
  | succ n =>
    obtain he | he := he
    · cases he
    · simp only [he]

theorem streamWithin_copies_append (he : Tight e) (n : Nat) (q : Text) :
    g.streamWithin (depth + 1) ((List.replicate n e).flatten ++ q) =
      (g.streamWithin (depth + 1) e).replay n fun _ => g.streamWithin (depth + 1) q := by
  induction n with
  | zero => rfl
  | succ n ih =>
    rw [List.replicate_succ, List.flatten_cons, List.append_assoc, streamWithin_append he, ih,
      EventStream.replay_succ]

section
variable (hp : Tight p) (hb : (Token.block content count).Formed)
  (hn : g.evaluator.count count = .ok n) (he : n = 0 ∨ g.expandOnce content = .ok e ∧ Tight e)
include hp hb hn he

theorem streamWithin_block_upto_copies (depth : Nat) :
    Upto .endlessNesting (g.streamWithin depth (p ++ ((Token.block content count).text ++ q)))
      (g.streamWithin depth (p ++ ((List.replicate n e).flatten ++ q))) := by
  cases depth with
  | zero => exact .cut
  | succ depth =>
    rw [streamWithin_append hp, streamWithin_append hp]
    refine (Upto.refl _).append ?_
    rw [streamWithin_block_append hb hn (he.imp_right And.left)]
    obtain rfl | ⟨-, he⟩ := he
    · exact .refl _
    · rw [streamWithin_copies_append he]
      exact (streamWithin_upto g depth e).replay (.refl _) n

theorem streamWithin_copies_upto_block (depth : Nat) :
    Upto .endlessNesting (g.streamWithin depth (p ++ ((List.replicate n e).flatten ++ q)))
      (g.streamWithin (depth + 1) (p ++ ((Token.block content count).text ++ q))) := by
  cases depth with
  | zero => exact .cut
  | succ depth =>
    rw [streamWithin_append hp, streamWithin_append hp]
    refine (streamWithin_upto g _ p).append ?_
    rw [streamWithin_block_append hb hn (he.imp_right And.left)]
    obtain rfl | ⟨-, he⟩ := he
    · exact streamWithin_upto g _ q
    · rw [streamWithin_copies_append he]
      exact (Upto.refl _).replay (streamWithin_upto g _ q) n

/-- A repeat block delivers the same events as copies of its expanded content, cut anywhere, and is
stopped by the same error. Within the bound on nesting the streams are equal. -/
theorem block_delivers_copies :
    (∀ limit events ending,
      g.Delivers (p ++ (Token.block content count).text ++ q) limit events ending ↔
        g.Delivers (p ++ (List.replicate n e).flatten ++ q) limit events ending) ∧
    ((g.stream (p ++ (Token.block content count).text ++ q)).error? ≠ some .endlessNesting →
      g.stream (p ++ (Token.block content count).text ++ q) =
        g.stream (p ++ (List.replicate n e).flatten ++ q)) := by
  simp only [List.append_assoc]
  refine ⟨fun limit events ending => ⟨fun h => ?_, fun h => ?_⟩, fun h => ?_⟩
  · exact h.of_upto fun depth => ⟨depth, streamWithin_block_upto_copies hp hb hn he depth⟩
  · exact h.of_upto fun depth => ⟨depth + 1, streamWithin_copies_upto_block hp hb hn he depth⟩
  · exact (streamWithin_block_upto_copies hp hb hn he nestingLimit).eq_of_error? h

end

theorem block_delivers_copies_sprouting :
    sprouting.expandOnce "A<1>".toList = .ok "[A<0>]A<0>".toList ∧
      sprouting.Delivers ("[".toList ++ (Token.block "A<1>".toList "1+1".toList).text ++ "]".toList)
        8 [.push, .push, .call brancher [['0']], .pop, .call brancher [['0']],
          .push, .call brancher [['0']], .pop] none := by
  have hp : Tight "[".toList := by decide
  have hb : (Token.block "A<1>".toList "1+1".toList).Formed :=
    formed_of_mem_tokenize (s := "{A<1>}(1+1)".toList) (by decide)
  have hn : sprouting.evaluator.count "1+1".toList = .ok 2 := by decide +kernel
  have he : sprouting.expandOnce "A<1>".toList = .ok "[A<0>]A<0>".toList := by decide +kernel
  have hc : ((sprouting.streamWithin 1 ("[".toList ++
      (List.replicate 2 "[A<0>]A<0>".toList).flatten ++ "]".toList)).take 8).collect [] =
        ([.push, .push, .call brancher [['0']], .pop, .call brancher [['0']],
          .push, .call brancher [['0']], .pop], none) := by decide +kernel
  exact ⟨he, ((block_delivers_copies hp hb hn (.inr ⟨he, by decide⟩)).1 _ _ _).2 ⟨nofun, 1, hc⟩⟩

end LSystem.Grammar
