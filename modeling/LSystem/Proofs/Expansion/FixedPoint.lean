import LSystem.Proofs.Expansion.Pieces
import LSystem.Proofs.Expr.Decimals
import LSystem.Proofs.RuleTable.Identity

/-! # Commands that expand to themselves

A table whose rules were added and never changed only evaluates what is written in a command:
expansion gives values to the arguments of calls and writes out the blocks, at all levels. A value
that was written is read back as itself, so what comes out of the first round stays as it is
(`expand_identity`). -/

namespace LSystem

open Text (IsArgument Tight)

namespace Number

/-- The decimal text of an integer that has not too many digits to be written. -/
def Written (s : Text) : Prop := ∃ v, fitsDigitLimit v ∧ s = intText v

variable {s name : Text}

theorem Written.isDecimal (h : Written s) : s.IsDecimal := by
  obtain ⟨v, -, rfl⟩ := h
  refine ⟨Nat.toDigits 10 v.natAbs, Nat.toDigits_ne_nil, fun c hc => ?_, ?_⟩
  · exact Nat.isDigit_of_mem_toDigits (by decide) (by decide) hc
  · unfold intText
    split
    · exact .inr (.inl rfl)
    · exact .inl rfl

theorem Written.isArgument (h : Written s) : IsArgument s where
  ne_nil := h.isDecimal.ne_nil
  comma := h.isDecimal.not_mem (by decide)
  angle := h.isDecimal.not_mem (by decide)
  line := h.isDecimal.not_mem (by decide)

theorem Written.disjoint (h : Written s) (hn : ∀ c ∈ name, c.isAlpha ∨ c = '_') :
    s.Disjoint name := by
  intro c hs hc
  have hl := hn c hc
  have hstart : Text.isNameStart c := by
    rw [Text.isNameStart, if_pos (Text.toNat_lt_of_letter hl)]
    simpa using hl
  refine h.isDecimal.not_mem ⟨Expr.not_isDigit_of_nameStart hstart, ?_, ?_⟩ hs
  · rintro rfl
    exact absurd hl (by decide)
  · rintro rfl
    exact absurd hl (by decide)

theorem Written.render (h : Written s) (ev : Evaluator) : ev.render s = .ok s := by
  obtain ⟨v, hv, rfl⟩ := h
  exact ev.render_intText hv

end Number

namespace Evaluator

variable {ev : Evaluator} {source s : Text}

/-- How often a block is copied, if its count can be evaluated. -/
def times (ev : Evaluator) (count : Text) : Nat :=
  match ev.count count with
  | .ok n => n
  | .error _ => 0

/-- The decimal text of the integer that is the value of an expression. -/
def decimal (ev : Evaluator) (source : Text) : Text :=
  match ev.evaluate source with
  | .ok (.int v) => Number.intText v
  | _ => []

theorem written_of_render {v : Int} (hv : ev.evaluate source = .ok (.int v))
    (h : ev.render source = .ok s) : s = ev.decimal source ∧ Number.Written s := by
  obtain ⟨hfits, rfl⟩ := (render_eq_ok_iff hv).1 h
  refine ⟨?_, v, hfits, rfl⟩
  rw [decimal, hv]

end Evaluator

namespace TokenTree

/-- The text of a tree with its blocks written out at all levels, as often as `times` says. -/
def spread (times : Text → Nat) : TokenTree → Text
  | nil => []
  | push rest => '[' :: rest.spread times
  | pop rest => ']' :: rest.spread times
  | block content count rest =>
    (List.replicate (times count) (content.spread times)).flatten ++ rest.spread times
  | call atom arguments rest => (Token.call atom arguments).text ++ rest.spread times

/-- The text of a tree with every argument replaced by the decimal text of its value, and every
block by as many copies of its content as its count says. -/
def settled (ev : Evaluator) (T : TokenTree) : Text := (T.withValues ev.decimal).spread ev.times

end TokenTree

namespace Grammar

variable {g : Grammar} {s t o atom arguments : Text} {values : List Text} {r : Rule}

/-- A text without gaps that expands to itself. -/
structure Settled (g : Grammar) (s : Text) : Prop where
  tight : Tight s
  expands : g.expandOnce s = .ok s

namespace Settled

theorem nil : g.Settled [] := ⟨.nil, by rw [expandOnce_eq]; rfl⟩

theorem append (hs : g.Settled s) (ht : g.Settled t) : g.Settled (s ++ t) where
  tight := hs.tight.append ht.tight
  expands := by
    rw [expandOnce_append hs.tight, hs.expands, ht.expands]
    rfl

theorem flatten_replicate (hs : g.Settled s) (n : Nat) :
    g.Settled (List.replicate n s).flatten := by
  induction n with
  | zero => exact .nil
  | succ n ih =>
    rw [List.replicate_succ, List.flatten_cons]
    exact hs.append ih

theorem token {u : Token} (hu : u.Formed) (h : g.expandToken u = .ok u.text) :
    g.Settled u.text where
  tight := hu.tight
  expands := by
    rw [expandOnce_eq, hu.tokenize, expandTokens, h]
    exact congrArg Except.ok (List.append_nil _)

theorem rounds (hs : g.Settled s) (n : Nat) : g.rounds n s = .ok s := by
  induction n with
  | zero => rfl
  | succ n ih =>
    rw [Grammar.rounds, hs.expands]
    exact ih

end Settled

/-! ## Calls -/

/-- Every argument of a call has an integer for its value, and has no character of a parameter of
the rule that is called. -/
def Numeric (g : Grammar) (atom arguments : Text) : Prop :=
  ∀ a ∈ splitArguments arguments, (∃ v, g.evaluator.evaluate a = .ok (.int v)) ∧
    ∀ r, g.table.get atom = .ok r → ∀ name ∈ r.parameters, a.Disjoint name

theorem numeric_iff (hr : g.table.get atom = .ok r) : g.Numeric atom arguments ↔
    ∀ a ∈ splitArguments arguments, (∃ v, g.evaluator.evaluate a = .ok (.int v)) ∧
      ∀ name ∈ r.parameters, a.Disjoint name := by
  simp [Numeric, hr]

section
variable (ht : g.table.Identity)
include ht

/-- A call whose arguments are written already. -/
theorem settled_call (hr : g.table.get atom = .ok r) (hlen : values.length = r.parameters.length)
    (hv : ∀ s ∈ values, Number.Written s) :
    g.Settled (Token.call atom (Text.join [','] values)).text := by
  obtain ⟨hi, rfl⟩ := ht.of_get hr
  have ha : ∀ s ∈ values, IsArgument s := fun s hs => (hv s hs).isArgument
  have hrender : ∀ s ∈ values, g.evaluator.render s = .ok (id s) := fun s hs => (hv s hs).render _
  obtain ⟨_, -, hf, -⟩ := hi.fallback
  cases hf with
  | call hne hw _ _ =>
  refine .token (Text.formed_call_join hne hw ha) ?_
  -- The values are read back as they were written, so the call is given back as it stands.
  rw [expandToken, hr, Text.splitArguments_join ha]
  change r.instantiate g.evaluator values = _
  rw [hi.instantiate_eq ha]
  · rw [Rule.checkArity_eq_ok_iff.2 hlen, mapM_eq_ok_map hrender, List.map_id]
    rfl
  · exact fun s hs name hn => (hv s hs).disjoint (hi.separate.letters name hn)
  · intro s hs value he
    obtain rfl := Except.ok.inj ((hrender s hs).symm.trans he)
    exact ha s hs

/-- The arguments of a call are written once they are evaluated. -/
theorem call_settles (hf : (Token.call atom arguments).Formed) (hn : g.Numeric atom arguments)
    (h : g.expandToken (.call atom arguments) = .ok o) :
    o = (Token.call atom
        (Text.join [','] ((splitArguments arguments).map g.evaluator.decimal))).text ∧
      g.Settled o := by
  obtain ⟨r, hr, hinst⟩ := bind_eq_ok_iff.1 h
  obtain ⟨hi, rfl⟩ := ht.of_get hr
  have hwritten : ∀ a ∈ splitArguments arguments, ∀ value, g.evaluator.render a = .ok value →
      value = g.evaluator.decimal a ∧ Number.Written value := by
    intro a ha value he
    obtain ⟨⟨v, hv⟩, -⟩ := hn a ha
    exact Evaluator.written_of_render hv he
  cases hf with
  | call _ _ h1 h2 =>
  rw [hi.instantiate_eq (fun a => Text.isArgument_of_mem h1 h2) (fun a ha => (hn a ha).2 r hr)
    fun a ha value he => (hwritten a ha value he).2.isArgument] at hinst
  obtain ⟨_, hcheck, hinst⟩ := bind_eq_ok_iff.1 hinst
  obtain ⟨values, hvalues, hinst⟩ := bind_eq_ok_iff.1 hinst
  cases hinst
  have hmap : values = (splitArguments arguments).map g.evaluator.decimal :=
    eq_map_of_mapM_eq_ok hvalues fun a ha value he => (hwritten a ha value he).1
  refine ⟨by rw [hmap], settled_call ht hr ?_ fun s hs => ?_⟩
  · rw [hmap, List.length_map]
    exact Rule.checkArity_eq_ok_iff.1 hcheck
  · obtain ⟨a, ha, he⟩ := mem_of_mapM_eq_ok hvalues hs
    exact (hwritten a ha s he).2

/-! ## Commands -/

omit ht in
theorem block_settles {content count c : Text}
    (hc : ∀ o, g.expandOnce content = .ok o → o = c ∧ g.Settled o)
    (h : g.expandToken (.block content count) = .ok o) :
    o = (List.replicate (g.evaluator.times count) c).flatten ∧ g.Settled o := by
  obtain ⟨n, hn, ho⟩ := expandToken_block_eq_ok h
  have htimes : g.evaluator.times count = n := by rw [Evaluator.times, hn]
  rw [htimes]
  obtain ⟨rfl, rfl⟩ | ⟨-, s, hs, rfl⟩ := ho
  · exact ⟨rfl, .nil⟩
  · obtain ⟨rfl, hsettled⟩ := hc s hs
    exact ⟨rfl, hsettled.flatten_replicate n⟩

/-- What tokens expand to, given what the contents of their blocks do. -/
theorem tokens_settle {ts : List Token} (hts : ∀ u ∈ ts, u.Formed)
    (ih : ∀ content count, .block content count ∈ ts →
      ∀ o, (TokenTree.ofText content).All g.Numeric (fun _ => True) →
        g.expandOnce content = .ok o →
        o = (TokenTree.ofText content).settled g.evaluator ∧ g.Settled o)
    (hT : (ts.foldr (TokenTree.cons .ofText) .nil).All g.Numeric fun _ => True)
    (h : g.expandTokens ts = .ok o) :
    o = (ts.foldr (TokenTree.cons .ofText) .nil).settled g.evaluator ∧ g.Settled o := by
  induction ts generalizing o with
  | nil =>
    cases h
    exact ⟨rfl, .nil⟩
  | cons u ts ihs =>
    obtain ⟨hu, hts⟩ := List.forall_mem_cons.1 hts
    obtain ⟨a, ha, h⟩ := bind_eq_ok_iff.1 h
    obtain ⟨b, hb, h⟩ := bind_eq_ok_iff.1 h
    cases h
    have hrest (hT : (ts.foldr (TokenTree.cons .ofText) .nil).All g.Numeric fun _ => True) :
        b = (ts.foldr (TokenTree.cons .ofText) .nil).settled g.evaluator ∧ g.Settled b :=
      ihs hts (fun content count hm => ih content count (.tail _ hm)) hT hb
    cases u with
    | push =>
      cases ha
      obtain ⟨rfl, hs⟩ := hrest hT
      exact ⟨rfl, (Settled.token .push rfl).append hs⟩
    | pop =>
      cases ha
      obtain ⟨rfl, hs⟩ := hrest hT
      exact ⟨rfl, (Settled.token .pop rfl).append hs⟩
    | block content count =>
      obtain ⟨-, hcontent, hT⟩ := hT
      obtain ⟨rfl, hs⟩ := hrest hT
      obtain ⟨rfl, hs'⟩ := block_settles (ih content count (.head _) · hcontent) ha
      exact ⟨rfl, hs'.append hs⟩
    | call atom arguments =>
      obtain ⟨hn, hT⟩ := hT
      obtain ⟨rfl, hs⟩ := hrest hT
      obtain ⟨rfl, hs'⟩ := call_settles ht hu hn ha
      exact ⟨rfl, hs'.append hs⟩

/-- By induction on the nesting of blocks. -/
theorem command_settles (hs : (TokenTree.ofText s).All g.Numeric fun _ => True)
    (h : g.expandOnce s = .ok o) :
    o = (TokenTree.ofText s).settled g.evaluator ∧ g.Settled o := by
  induction s using Token.content_induction generalizing o with
  | h s ih =>
    rw [expandOnce_eq] at h
    rw [TokenTree.ofText_eq] at hs ⊢
    refine tokens_settle ht (fun u => formed_of_mem_tokenize) ?_ hs h
    exact fun content count hm o => ih content count hm

end

/-- **Identity tables.** If rules were added to a table and nothing else was done with it, and all
arguments in a command are integers, then the first round of expansion writes out the blocks and the
values of the arguments, and no further round changes anything. -/
theorem expand_identity (ht : g.table.Identity)
    (hs : (TokenTree.ofText s).All g.Numeric fun _ => True) (h : g.expandOnce s = .ok o) :
    o = (TokenTree.ofText s).settled g.evaluator ∧
      ∀ n : Int, 1 ≤ n → g.expand s n = .ok o := by
  obtain ⟨ho, hsettled⟩ := command_settles ht hs h
  refine ⟨ho, fun n hn => ?_⟩
  obtain ⟨m, rfl⟩ : ∃ m : Nat, n = (m + 1 : Nat) := ⟨(n - 1).toNat, by omega⟩
  rw [expand_eq_rounds, rounds, h]
  exact hsettled.rounds m

/-- A grammar with the rules `A<x>` and `B<y,,z_>`, to which nothing was done. -/
def echoing : Grammar where
  table :=
    { made :=
        [{ atom := ['A'], parameters := [['x']], fallback := "A<x>".toList },
          { atom := ['B'], parameters := [['y'], ['z', '_']], fallback := "B<y,,z_>".toList }]
      held := [0, 1] }

theorem echoing_identity : echoing.table.Identity := by
  have hA : Declaration.parse? "A<x>".toList = some ⟨['A'], [['x']]⟩ := by decide +kernel
  have hB : Declaration.parse? "B<y,,z_>".toList = some ⟨['B'], [['y'], ['z', '_']]⟩ := by
    decide +kernel
  have sA : (Declaration.mk ['A'] [['x']]).Separate := by decide +kernel
  have sB : (Declaration.mk ['B'] [['y'], ['z', '_']]).Separate := by decide +kernel
  have bare {s : Text} (h : s.all fun c => !Text.isBlank c) : ∀ c ∈ s, Text.isBlank c = false := by
    simpa using h
  have first : RuleTable.Identity _ :=
    .add .empty (bare (by decide)) hA sA (RuleTable.add_of_not_mem {} false hA (by decide))
  exact .add first (bare (by decide)) hB sB (RuleTable.add_of_not_mem _ false hB (by decide))

theorem expand_identity_echoing :
    let s := "-A<2*3>\x7bB<1-4,,2**3>[\x7bA<9>\x7d(1-2)]\x7d(2)".toList
    echoing.table.Identity ∧ (TokenTree.ofText s).All echoing.Numeric (fun _ => True) ∧
      echoing.expandOnce s = .ok "A<6>B<-3,8>[]B<-3,8>[]".toList ∧
      ∀ n : Int, 1 ≤ n → echoing.expand s n = .ok "A<6>B<-3,8>[]B<-3,8>[]".toList := by
  intro s
  have ht : TokenTree.ofText s =
      .call ['A'] "2*3".toList (.block (.call ['B'] "1-4,,2**3".toList
        (.push (.block (.call ['A'] ['9'] .nil) "1-2".toList (.pop .nil)))) ['2'] .nil) := by
    decide +kernel
  have hs : (TokenTree.ofText s).All echoing.Numeric fun _ => True := by
    have hA : echoing.table.get ['A'] = .ok ⟨['A'], [['x']], [], "A<x>".toList, false⟩ := rfl
    have hB : echoing.table.get ['B'] =
        .ok ⟨['B'], [['y'], ['z', '_']], [], "B<y,,z_>".toList, false⟩ := rfl
    rw [ht]
    refine ⟨?_, trivial, ⟨?_, trivial, ⟨?_, trivial⟩, trivial⟩, trivial⟩
    · have hsplit : splitArguments "2*3".toList = [['2', '*', '3']] := by decide +kernel
      rw [numeric_iff hA, hsplit, List.forall_mem_singleton]
      exact ⟨⟨6, by decide +kernel⟩, by simp⟩
    · have hsplit : splitArguments "1-4,,2**3".toList =
          [['1', '-', '4'], ['2', '*', '*', '3']] := by decide +kernel
      rw [numeric_iff hB, hsplit, List.forall_mem_cons, List.forall_mem_singleton]
      exact ⟨⟨⟨-3, by decide +kernel⟩, by simp⟩, ⟨8, by decide +kernel⟩, by simp⟩
    · have hsplit : splitArguments ['9'] = [['9']] := by decide +kernel
      rw [numeric_iff hA, hsplit, List.forall_mem_singleton]
      exact ⟨⟨9, by decide +kernel⟩, by simp⟩
  have ho : echoing.expandOnce s = .ok "A<6>B<-3,8>[]B<-3,8>[]".toList := by decide +kernel
  exact ⟨echoing_identity, hs, ho, (expand_identity echoing_identity hs ho).2⟩

end Grammar

end LSystem
