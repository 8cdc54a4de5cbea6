import LSystem.Proofs.Declaration.Keys
import LSystem.Proofs.RuleTable.Held
import LSystem.Proofs.Token.Tight

/-! # The fallback of a new rule

A rule that was just added has its own key, trimmed, as its fallback. The key was read as a
declaration, whose parameters are trimmed, but in the fallback it is read as a call, whose
arguments are not. So the fallback is a call with one argument for each parameter unless a piece
between its commas is blank without being empty, or a line ends inside of its angle brackets
(`add_fallback`). -/

namespace LSystem

open Token (Formed)

variable {key s inner : Text} {d : Declaration}

namespace Declaration

/-- The parameters are the arguments that are not blank, trimmed. -/
theorem splitParameters_eq (s : Text) :
    splitParameters s = ((splitArguments s).filter fun p => Text.trim p ≠ []).map Text.trim := by
  rw [splitParameters, splitArguments, Text.pieces, List.filter_map, List.filter_filter]
  congr 1
  refine List.filter_congr fun p _ => ?_
  by_cases hp : p = []
  · subst hp
    rfl
  · simp [hp]

theorem length_splitParameters (s : Text) :
    (splitArguments s).length = (splitParameters s).length +
      ((splitArguments s).filter fun p => Text.trim p = []).length := by
  rw [splitParameters_eq, List.length_map, Nat.add_comm]
  simpa using List.length_eq_length_filter_add fun p => decide (Text.trim p = [])

theorem length_splitParameters_eq_iff (s : Text) :
    (splitArguments s).length = (splitParameters s).length ↔
      ∀ piece ∈ splitArguments s, Text.trim piece ≠ [] := by
  rw [splitParameters_eq, List.length_map, eq_comm, List.length_filter_eq_length_iff]
  simp

end Declaration

/-- The only call that may stand in a declaration is the whole of it, if that is on one line. -/
theorem eq_of_call_mem_tokenize {atom a arguments : Text} (hw : ∀ c ∈ atom, Text.isWord c)
    (hl : '<' ∉ inner) (hg : '>' ∉ inner)
    (h : .call a arguments ∈ tokenize (atom ++ '<' :: (inner ++ ['>']))) :
    arguments = inner ∧ '\n' ∉ inner := by
  have hline : '\n' ∉ arguments := by
    cases formed_of_mem_tokenize h with
    | call _ _ _ hn => exact hn
  obtain ⟨p, q, e⟩ := Token.text_isInfix h
  have hatom : '<' ∉ atom := fun hm => absurd (hw _ hm) (by decide)
  have hrest : '<' ∉ inner ++ ['>'] := by simp [hl]
  have e : atom ++ '<' :: (inner ++ ['>']) = (p ++ a) ++ '<' :: (arguments ++ '>' :: q) := by
    rw [← e]
    simp [Token.text]
  obtain ⟨-, -, e⟩ := (List.append_cons_inj_of_notMem hatom hrest).1 e
  obtain ⟨rfl, -, -⟩ := (List.append_cons_inj_of_notMem hg (by simp)).1 e
  exact ⟨rfl, hline⟩

namespace RuleTable

variable {t t' : RuleTable} {h : Handle} {hasAction : Bool}

theorem rule_of_add (ha : t.add key hasAction = .ok (h, t')) :
    ∃ d, Declaration.parse? key = some d ∧
      t'.rule? h = some ⟨d.atom, d.parameters, [], Text.trim key, hasAction⟩ := by
  cases hd : Declaration.parse? key with
  | none =>
    rw [add_of_parse?_eq_none t hasAction hd] at ha
    cases ha
  | some d =>
    by_cases hm : d.atom ∈ t.atoms
    · rw [add_of_mem t hasAction hd hm] at ha
      cases ha
    · rw [add_of_not_mem t hasAction hd hm] at ha
      cases ha
      refine ⟨d, rfl, ?_⟩
      rw [rule?_concat, if_pos rfl]

/-- The fallback of a rule that was just added is its atom with a list between angle brackets. It
is a single call of the rule with as many arguments as there are parameters exactly if no piece of
the list is blank without being empty and no line ends in it. Each such piece is one argument more
than there are parameters; and if a line ends in the list, the fallback holds no call at all. -/
theorem add_fallback (ha : t.add key hasAction = .ok (h, t')) :
    ∃ r inner, t'.rule? h = some r ∧ r.fallback = r.atom ++ '<' :: (inner ++ ['>']) ∧
      ((∃ arguments, tokenize r.fallback = [.call r.atom arguments] ∧
          (splitArguments arguments).length = r.parameters.length) ↔
        '\n' ∉ inner ∧ ∀ piece ∈ splitArguments inner, Text.trim piece ≠ []) ∧
      ('\n' ∉ inner → tokenize r.fallback = [.call r.atom inner] ∧
        (splitArguments inner).length = r.parameters.length +
          ((splitArguments inner).filter fun piece => Text.trim piece = []).length) ∧
      ('\n' ∈ inner → ∀ a arguments, .call a arguments ∉ tokenize r.fallback) := by
  obtain ⟨d, hd, hr⟩ := rule_of_add ha
  obtain ⟨hne, hw⟩ := Declaration.atom_of_parse? hd
  obtain ⟨inner, hkey, hl, hg, hp⟩ := Declaration.trim_of_parse? hd
  refine ⟨_, inner, hr, hkey, ?_⟩
  simp only [hkey, hp]
  have hcall (hn : '\n' ∉ inner) :
      tokenize (d.atom ++ '<' :: (inner ++ ['>'])) = [.call d.atom inner] := by
    have hf : Formed (.call d.atom inner) := .call hne hw hg hn
    simpa [Token.text] using hf.tokenize
  refine ⟨⟨?_, ?_⟩, fun hn => ⟨hcall hn, Declaration.length_splitParameters inner⟩,
    fun hn a arguments hm => (eq_of_call_mem_tokenize hw hl hg hm).2 hn⟩
  · rintro ⟨arguments, ht, hlen⟩
    have hm : .call d.atom arguments ∈ tokenize (d.atom ++ '<' :: (inner ++ ['>'])) := by
      rw [ht]
      exact List.mem_singleton_self _
    obtain ⟨rfl, hn⟩ := eq_of_call_mem_tokenize hw hl hg hm
    exact ⟨hn, (Declaration.length_splitParameters_eq_iff _).1 hlen⟩
  · rintro ⟨hn, hb⟩
    exact ⟨inner, hcall hn, (Declaration.length_splitParameters_eq_iff _).2 hb⟩

theorem add_fallback_spaced :
    ∃ t', add {} " B<x,, y>\n".toList true = .ok (0, t') ∧
      ∃ r arguments, t'.rule? 0 = some r ∧ tokenize r.fallback = [.call r.atom arguments] ∧
        (splitArguments arguments).length = r.parameters.length := by
  have hd : Declaration.parse? " B<x,, y>\n".toList = some ⟨['B'], [['x'], ['y']]⟩ := by
    decide +kernel
  have ha := add_of_not_mem {} true hd (by decide)
  obtain ⟨r, inner, hr, hf, hcall, -⟩ := add_fallback ha
  cases hr
  have hi : inner = "x,, y".toList := by
    have hf : "B<x,, y>".toList = ['B'] ++ '<' :: (inner ++ ['>']) :=
      Eq.trans (by decide +kernel) hf
    exact (List.append_left_inj ['>']).1 (List.cons.inj (List.cons.inj hf).2).2.symm
  obtain ⟨arguments, ht, hlen⟩ := hcall.2 (by subst hi; decide +kernel)
  exact ⟨_, ha, _, arguments, rfl, ht, hlen⟩

/-- A blank piece is an argument of the fallback but no parameter, and a parameter list on two
lines is no argument list. -/
theorem add_fallback_not_call :
    (∃ t', add {} "A<x, >".toList true = .ok (0, t') ∧
      t'.rule? 0 = some ⟨['A'], [['x']], [], "A<x, >".toList, true⟩ ∧
      tokenize "A<x, >".toList = [.call ['A'] "x, ".toList] ∧
      splitArguments "x, ".toList = [['x'], [' ']]) ∧
    ∃ t', add {} "A<x,\ny>".toList true = .ok (0, t') ∧
      t'.rule? 0 = some ⟨['A'], [['x'], ['y']], [], "A<x,\ny>".toList, true⟩ ∧
      tokenize "A<x,\ny>".toList = [] := by
  have hd : Declaration.parse? "A<x, >".toList = some ⟨['A'], [['x']]⟩ := by decide +kernel
  have hd' : Declaration.parse? "A<x,\ny>".toList = some ⟨['A'], [['x'], ['y']]⟩ := by
    decide +kernel
  exact ⟨⟨_, add_of_not_mem {} true hd (by decide), by decide +kernel, by decide +kernel,
      by decide⟩,
    ⟨_, add_of_not_mem {} true hd' (by decide), by decide +kernel, by decide +kernel⟩⟩

end RuleTable

end LSystem
