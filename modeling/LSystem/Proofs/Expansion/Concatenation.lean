import LSystem.Grammar
import LSystem.Proofs.Result
import LSystem.Proofs.Token.Tight

/-! # Expansion of concatenated commands

Expansion is context-free. A command is expanded token by token (`expandOnce_eq`), so what follows
a command without gaps is expanded on its own, and the first part that fails gives the error. Over
several rounds the same holds as long as the first part keeps having no gaps. -/

namespace LSystem.Grammar

open Text (Tight)

variable {g : Grammar} {a b : Text}

/-- What a token of a command expands to. -/
def expandToken (g : Grammar) : Token → Except Error Text
  | .push => .ok ['[']
  | .pop => .ok [']']
  | .block content count => do
    let n ← g.evaluator.count count
    if n = 0 then .ok []
    else
      let s ← g.expandOnce content
      repeatText n s
  | .call atom arguments => do
    let r ← g.table.get atom
    r.instantiate g.evaluator (splitArguments arguments)

/-- What tokens expand to, one after the other. -/
def expandTokens (g : Grammar) : List Token → Except Error Text
  | [] => .ok []
  | t :: ts => do
    let a ← g.expandToken t
    let b ← g.expandTokens ts
    .ok (a ++ b)

theorem expandTokens_eq_mapM (ts : List Token) :
    g.expandTokens ts = (do
      let parts ← ts.mapM g.expandToken
      .ok parts.flatten) := by
  induction ts with
  | nil => rfl
  | cons t ts ih => rw [expandTokens, ih, mapM_flatten_cons]

theorem expandOnce_eq (command : Text) :
    g.expandOnce command = g.expandTokens (tokenize command) := by
  rw [expandOnce, expandTokens_eq_mapM, List.mapM_subtype (g := g.expandToken),
    List.unattach_attach]
  rintro (_ | _ | _ | _) _ <;> rfl

/-- Of two lists of tokens the first one is expanded first, and its error counts. -/
theorem expandTokens_append (ts us : List Token) :
    g.expandTokens (ts ++ us) = (do
      let a ← g.expandTokens ts
      let b ← g.expandTokens us
      .ok (a ++ b)) := by
  induction ts with
  | nil =>
    simp only [List.nil_append, expandTokens]
    cases g.expandTokens us <;> rfl
  | cons t ts ih =>
    rw [List.cons_append, expandTokens, expandTokens, ih]
    cases g.expandToken t with
    | error e => rfl
    | ok a =>
      cases g.expandTokens ts with
      | error e => rfl
      | ok b =>
        cases g.expandTokens us with
        | error e => rfl
        | ok c => exact congrArg Except.ok (List.append_assoc ..).symm

theorem expandOnce_append (ha : Tight a) (b : Text) :
    g.expandOnce (a ++ b) = (do
      let s ← g.expandOnce a
      let t ← g.expandOnce b
      .ok (s ++ t)) := by
  rw [expandOnce_eq, ha.tokenize_append, expandTokens_append, ← expandOnce_eq, ← expandOnce_eq]

/-! ## Rounds -/

/-- The rounds of `a` succeed without gaps, so what follows `a` goes through the same rounds on its
own. The induction is on the rounds, with `a` replaced by its expansion. -/
theorem rounds_append {n : Nat} {s : Text} (ha : g.rounds n a = .ok s)
    (hT : ∀ i < n, ∀ x, g.rounds i a = .ok x → Tight x) :
    g.rounds n (a ++ b) = (do let t ← g.rounds n b; .ok (s ++ t)) := by
  induction n generalizing a b with
  | zero => cases ha; rfl
  | succ n ih =>
    obtain ⟨a', h1, h2⟩ := bind_eq_ok_iff.1 ha
    have ha0 : Tight a := hT 0 (Nat.succ_pos n) a rfl
    have hT' : ∀ i < n, ∀ x, g.rounds i a' = .ok x → Tight x := by
      intro i hi x hx
      refine hT (i + 1) (Nat.succ_lt_succ hi) x ?_
      rw [rounds, h1]
      exact hx
    rw [rounds, rounds, expandOnce_append ha0, h1]
    cases g.expandOnce b with
    | error e => rfl
    | ok b' => exact ih h2 hT'

theorem expand_eq_rounds (n : Nat) (s : Text) : g.expand s n = g.rounds n s := by
  rw [expand, if_neg (by omega), Int.toNat_natCast]

/-- Expansion is context-free: a command without gaps is expanded independently of what follows it,
once and for any number of rounds in which it has no gaps, and its own error counts first. -/
theorem expand_append (g : Grammar) {a : Text} (ha : Tight a) (b : Text) :
    g.expandOnce (a ++ b) = (do
      let s ← g.expandOnce a
      let t ← g.expandOnce b
      .ok (s ++ t)) ∧
    ∀ (n : Int) (s : Text), g.expand a n = .ok s →
      (∀ i, 0 ≤ i → i < n → ∀ x, g.expand a i = .ok x → Tight x) →
      g.expand (a ++ b) n = (do let t ← g.expand b n; .ok (s ++ t)) := by
  refine ⟨expandOnce_append ha b, fun n s hs hT => ?_⟩
  cases n with
  | negSucc n => simp [expand] at hs
  | ofNat n =>
    simp only [Int.ofNat_eq_natCast, expand_eq_rounds] at hs hT ⊢
    refine rounds_append hs fun i hi x hx => ?_
    rw [← expand_eq_rounds] at hx
    exact hT i (by omega) (by omega) x hx

/-- A rule that branches until its argument is used up. -/
def brancher : Rule where
  atom := ['A']
  parameters := [['x']]
  branches := [⟨"x<=0".toList, "B<x>".toList⟩]
  fallback := "[A<x-1>]A<x-1>".toList

/-- A rule that repeats itself. -/
def repeater : Rule where
  atom := ['B']
  parameters := [['x']]
  fallback := "{B<x>}(x)".toList

/-- The grammar of these two rules. -/
def sprouting : Grammar where
  table := { made := [brancher, repeater], held := [0, 1] }

theorem expand_append_sprouting :
    Tight "{A<1>}(2)]".toList ∧
      sprouting.expand ("{A<1>}(2)]".toList ++ "\x7d A<1>".toList) 2 =
        .ok "[B<0>]B<0>[B<0>]B<0>][B<0>]B<0>".toList := by
  have ha : Tight "{A<1>}(2)]".toList := by decide
  refine ⟨ha, ?_⟩
  have hs : sprouting.expand "{A<1>}(2)]".toList 2 = .ok "[B<0>]B<0>[B<0>]B<0>]".toList := by
    decide +kernel
  have hb : sprouting.expand "\x7d A<1>".toList 2 = .ok "[B<0>]B<0>".toList := by decide +kernel
  rw [(expand_append sprouting ha _).2 2 _ hs, hb]
  · rfl
  · intro i h0 h2 x hx
    obtain rfl | rfl : i = 0 ∨ i = 1 := by omega
    · obtain rfl : x = "{A<1>}(2)]".toList := by cases hx; rfl
      exact ha
    · have h1 : sprouting.expand "{A<1>}(2)]".toList 1 =
          .ok "[A<0>]A<0>[A<0>]A<0>]".toList := by decide +kernel
      obtain rfl := Except.ok.inj (h1.symm.trans hx)
      decide

end LSystem.Grammar
