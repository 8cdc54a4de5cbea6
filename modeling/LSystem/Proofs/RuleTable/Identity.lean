import LSystem.Proofs.Rule.Selection
import LSystem.Proofs.RuleTable.Fallback
import LSystem.Proofs.Template.Instantiation
import LSystem.Proofs.Text.Trimming
import Mathlib.Data.List.Infix

/-! # Rules that expand to their own calls

A rule that was added and never changed expands to its own key. If no name of a parameter gets in
the way of another one or of the atom, and no argument has a character of a name, then a call of
such a rule expands to the same call with its arguments evaluated
(`Rule.Identity.instantiate_eq`). -/

namespace LSystem

open Text (replaceEach)

namespace Text

variable {s piece : Text} {parts : List Text} {pairs : List (Text × Text)} {p : Text × Text}

/-! ## Argument lists -/

/-- A text can be one argument of a call. -/
structure IsArgument (a : Text) : Prop where
  ne_nil : a ≠ []
  comma : ',' ∉ a
  angle : '>' ∉ a
  line : '\n' ∉ a

theorem of_mem_splitArguments (h : piece ∈ splitArguments s) :
    piece ≠ [] ∧ ',' ∉ piece ∧ ∀ c ∈ piece, c ∈ s := by
  obtain ⟨parts, -, hcomma, rfl, hsplit⟩ := splitArguments_eq_filter s
  rw [hsplit, List.mem_filter] at h
  exact ⟨by simpa using h.2, hcomma piece h.1, fun c hc => mem_join_of_mem h.1 hc⟩

theorem isArgument_of_mem (h1 : '>' ∉ s) (h2 : '\n' ∉ s) (h : piece ∈ splitArguments s) :
    IsArgument piece := by
  obtain ⟨hne, hcomma, hsub⟩ := of_mem_splitArguments h
  exact ⟨hne, hcomma, fun hm => h1 (hsub _ hm), fun hm => h2 (hsub _ hm)⟩

theorem splitArguments_join (h : ∀ a ∈ parts, IsArgument a) :
    splitArguments (join [','] parts) = parts := by
  cases parts with
  | nil => rfl
  | cons a parts =>
    have hsplit : (join [','] (a :: parts)).splitOn ',' = a :: parts :=
      List.splitOn_intercalate ',' (fun a ha => (h a ha).comma) (List.cons_ne_nil a parts)
    rw [splitArguments, pieces, hsplit, List.filter_eq_self]
    exact fun a ha => by simpa using (h a ha).ne_nil

theorem formed_call_join {atom : Text} (hne : atom ≠ []) (hw : ∀ c ∈ atom, isWord c)
    (h : ∀ a ∈ parts, IsArgument a) : (Token.call atom (join [','] parts)).Formed := by
  have keep {c : Char} (hc : c ≠ ',') (hp : ∀ a ∈ parts, c ∉ a) : c ∉ join [','] parts := by
    intro hm
    obtain hm | ⟨a, ha, hm⟩ := mem_join hm
    · exact hc hm
    · exact hp a ha hm
  exact .call hne hw (keep (by decide) fun a ha => (h a ha).angle)
    (keep (by decide) fun a ha => (h a ha).line)

theorem toNat_lt_of_letter {c : Char} (h : c.isAlpha ∨ c = '_') : c.toNat < 128 := by
  obtain h | rfl := h
  · obtain h | h := Bool.or_eq_true_iff.1 h
    · have : c.toNat ≤ 90 := (of_decide_eq_true h).2
      omega
    · have : c.toNat ≤ 122 := of_decide_eq_true (Bool.and_eq_true_iff.1 h).2
      omega
  · decide

theorem isWord_of_letter {c : Char} (h : c.isAlpha ∨ c = '_') : isWord c := by
  rw [isWord, if_pos (toNat_lt_of_letter h), Char.isAlphanum]
  obtain h | rfl := h
  · simp [h]
  · decide

/-! ## Words that are replaced by their arguments -/

theorem not_isInfix_of_disjoint {word : Text} (hne : word ≠ []) (hd : s.Disjoint word) :
    ¬ word <:+: s := by
  intro h
  obtain ⟨c, w, rfl⟩ := List.exists_cons_of_ne_nil hne
  exact hd (h.subset List.mem_cons_self) List.mem_cons_self

/-- A word becomes its replacement, if none of the words that are replaced first stands in it and
none of the words stands in the replacement. -/
theorem replaceEach_word (hne : ∀ p ∈ pairs, p.1 ≠ [])
    (hl : pairs.Pairwise fun p q => ¬ p.1 <:+: q.1)
    (hd : ∀ p ∈ pairs, ∀ q ∈ pairs, p.2.Disjoint q.1) (hp : p ∈ pairs) :
    replaceEach pairs p.1 = p.2 := by
  induction pairs with
  | nil => cases hp
  | cons q pairs ih =>
    obtain ⟨hq, hl⟩ := List.pairwise_cons.1 hl
    rw [replaceEach_cons]
    rcases List.mem_cons.1 hp with rfl | hm
    · have hword : replaceAll p.1 p.2 (p.1 ++ []) = p.2 ++ replaceAll p.1 p.2 [] :=
        replaceAll_word_append (hne p hp) []
      rw [List.append_nil, replaceAll_nil (hne p hp), List.append_nil] at hword
      rw [hword, replaceEach_of_not_isInfix]
      intro q hm
      have hm : q ∈ p :: pairs := List.mem_cons_of_mem p hm
      exact not_isInfix_of_disjoint (hne q hm) (hd p hp q hm)
    · rw [replaceAll_of_not_isInfix (hq p hm)]
      refine ih (fun p h => hne p (.tail _ h)) hl (fun p h q h' => ?_) hm
      exact hd p (.tail _ h) q (.tail _ h')

theorem map_replaceEach_zip {names args : List Text} (hlen : args.length = names.length)
    (hne : ∀ name ∈ names, name ≠ []) (hl : names.Pairwise fun p q => ¬ p <:+: q)
    (hd : ∀ a ∈ args, ∀ name ∈ names, a.Disjoint name) :
    names.map (replaceEach (names.zip args)) = args := by
  have hfst : (names.zip args).map Prod.fst = names := List.map_fst_zip hlen.ge
  have hsnd : (names.zip args).map Prod.snd = args := List.map_snd_zip hlen.le
  have left : ∀ p ∈ names.zip args, p.1 ∈ names := fun _ hp => (List.of_mem_zip hp).1
  have hword : ∀ p ∈ names.zip args, replaceEach (names.zip args) p.1 = p.2 := by
    intro p hp
    refine replaceEach_word (fun p hp => hne _ (left p hp)) ?_ (fun p hp q hq => ?_) hp
    · exact List.pairwise_map.1 (hfst.symm ▸ hl)
    · exact hd _ (List.of_mem_zip hp).2 _ (left q hq)
  calc names.map (replaceEach (names.zip args))
      = (names.zip args).map (replaceEach (names.zip args) ∘ Prod.fst) := by
        rw [← List.map_map, hfst]
    _ = (names.zip args).map Prod.snd := List.map_congr_left hword
    _ = args := hsnd

end Text

open Text (IsArgument)

variable {ev : Evaluator} {atom arguments key : Text}

/-! ## The passes over a call -/

theorem evaluateArguments_call (h : (Token.call atom arguments).Formed) :
    evaluateArguments ev (Token.call atom arguments).text = (do
      let values ← (splitArguments arguments).mapM ev.render
      .ok (Token.call atom (Text.join [','] values)).text) := by
  cases h with
  | call _ hw h1 h2 =>
  have hatom : Turns ev atom atom := .of_not_mem fun hm => absurd (hw _ hm) (by decide)
  have hregion : evaluateArguments ev ('<' :: (arguments ++ ['>'])) = (do
      let values ← (splitArguments arguments).mapM ev.render
      .ok ('<' :: Text.join [','] values ++ ['>'])) := by
    rw [evaluateArguments, segments_region h1 h2 [], mapM_flatten_cons, Segment.evaluate]
    cases (splitArguments arguments).mapM ev.render with
    | error e => rfl
    | ok values => exact congrArg Except.ok (List.append_nil _)
  rw [Token.text, List.append_assoc, hatom, List.cons_append, hregion]
  cases (splitArguments arguments).mapM ev.render with
  | error e => rfl
  | ok values => exact congrArg Except.ok (List.append_assoc ..).symm

theorem unrollBlocks_call (h : (Token.call atom arguments).Formed) :
    unrollBlocks ev (Token.call atom arguments).text = .ok (Token.call atom arguments).text := by
  rw [unrollBlocks, h.tokenize]
  exact congrArg Except.ok (List.append_nil _)

/-! ## Rules -/

/-- No parameter gets in the way of another one, or of the atom, when parameters are replaced one
after the other. -/
structure Declaration.Separate (d : Declaration) : Prop where
  letters : ∀ name ∈ d.parameters, ∀ c ∈ name, c.isAlpha ∨ c = '_'
  atom : ∀ name ∈ d.parameters, ¬ name <:+: d.atom
  /-- No parameter stands in a later one. -/
  apart : d.parameters.Pairwise fun p q => ¬ p <:+: q

instance : DecidablePred Declaration.Separate := fun d =>
  decidable_of_iff
    ((∀ name ∈ d.parameters, name.all fun c => c.isAlpha || c = '_') ∧
      (∀ name ∈ d.parameters, ¬ name <:+: d.atom) ∧ d.parameters.Pairwise fun p q => ¬ p <:+: q)
    ⟨fun ⟨hl, ha, hp⟩ => ⟨by simpa using hl, ha, hp⟩,
      fun h => ⟨by simpa using h.letters, h.atom, h.apart⟩⟩

namespace Rule

variable {r : Rule} {args : List Text}

/-- A rule without branches whose fallback is its own declaration. -/
structure Identity (r : Rule) : Prop where
  branches : r.branches = []
  fallback : ∃ inner, r.fallback = (Token.call r.atom inner).text ∧
    (Token.call r.atom inner).Formed ∧ splitArguments inner = r.parameters
  separate : (Declaration.mk r.atom r.parameters).Separate

namespace Identity

/-- Substitution fills the list of the fallback with the arguments. -/
theorem substitute_fallback (h : r.Identity) (hlen : args.length = r.parameters.length)
    (ha : ∀ a ∈ args, IsArgument a) (hd : ∀ a ∈ args, ∀ name ∈ r.parameters, a.Disjoint name) :
    ∃ filled, r.substitute r.fallback args = (Token.call r.atom filled).text ∧
      (Token.call r.atom filled).Formed ∧ splitArguments filled = args := by
  obtain ⟨inner, hfallback, hformed, hinner⟩ := h.fallback
  cases hformed with
  | call hne hw h1 h2 =>
  have hname : ∀ name ∈ r.parameters, IsArgument name := by
    intro name hm
    rw [← hinner] at hm
    exact Text.isArgument_of_mem h1 h2 hm
  have left : ∀ p ∈ r.parameters.zip args, p.1 ∈ r.parameters := fun _ hp => (List.of_mem_zip hp).1
  have right : ∀ p ∈ r.parameters.zip args, IsArgument p.2 := fun _ hp =>
    ha _ (List.of_mem_zip hp).2
  have keep {c : Char} (hi : c ∉ inner) (hc : ∀ a, IsArgument a → c ∉ a) :
      c ∉ replaceEach (r.parameters.zip args) inner := by
    intro hm
    obtain hm | ⟨p, hp, hm⟩ := Text.mem_replaceEach hm
    · exact hi hm
    · exact hc _ (right p hp) hm
  refine ⟨replaceEach (r.parameters.zip args) inner, ?_, ?_, ?_⟩
  · have htree : r.substitute (TokenTree.call r.atom inner .nil).text args = _ :=
      replaceEach_text
        (fun p hp => ⟨(hname _ (left p hp)).ne_nil, fun c hc =>
          Text.isWord_of_letter (h.separate.letters _ (left p hp) c hc)⟩)
        ⟨fun p hp => h.separate.atom _ (left p hp), trivial⟩
    rw [hfallback, Token.text, List.append_assoc]
    refine htree.trans ?_
    simp [TokenTree.map, TokenTree.text, Token.text]
  · exact .call hne hw (keep h1 fun a h => h.angle) (keep h2 fun a h => h.line)
  · rw [Text.splitArguments_replaceEach
      (fun p hp => ⟨(hname _ (left p hp)).ne_nil, (hname _ (left p hp)).comma⟩)
      (fun p hp => ⟨(right p hp).ne_nil, (right p hp).comma⟩), hinner]
    exact Text.map_replaceEach_zip hlen (fun name hm => (hname name hm).ne_nil) h.separate.apart hd

/-- A call expands to itself with its arguments evaluated, unless there are too many or too few. -/
theorem instantiate_eq (h : r.Identity) (ha : ∀ a ∈ args, IsArgument a)
    (hd : ∀ a ∈ args, ∀ name ∈ r.parameters, a.Disjoint name)
    (hv : ∀ a ∈ args, ∀ value, ev.render a = .ok value → IsArgument value) :
    r.instantiate ev args = (do
      r.checkArity args
      let values ← args.mapM ev.render
      .ok (Token.call r.atom (Text.join [','] values)).text) := by
  rw [instantiate, select, h.branches]
  by_cases hlen : args.length = r.parameters.length
  · obtain ⟨filled, hsubst, hformed, hfilled⟩ := h.substitute_fallback hlen ha hd
    rw [checkArity_eq_ok_iff.2 hlen]
    change (do
      let s ← evaluateArguments ev (r.substitute r.fallback args)
      unrollBlocks ev s) = _
    rw [hsubst, evaluateArguments_call hformed, hfilled]
    cases hvalues : args.mapM ev.render with
    | error e => rfl
    | ok values =>
      cases hformed with
      | call hne hw _ _ =>
      refine unrollBlocks_call (Text.formed_call_join hne hw fun value hm => ?_)
      obtain ⟨a, ham, hav⟩ := mem_of_mapM_eq_ok hvalues hm
      exact hv a ham value hav
  · rw [checkArity, if_neg hlen]
    rfl

end Identity

end Rule

/-! ## Keys and tables -/

theorem Declaration.splitParameters_eq_splitArguments {s : Text}
    (h : ∀ c ∈ s, Text.isBlank c = false) : splitParameters s = splitArguments s := by
  have htrim : ∀ p ∈ splitArguments s, Text.trim p = p := fun p hp =>
    Text.trim_eq_self fun c hc => h c ((Text.of_mem_splitArguments hp).2.2 c hc)
  have hfilter : ((splitArguments s).filter fun p => Text.trim p ≠ []) = splitArguments s := by
    refine List.filter_eq_self.2 fun p hp => ?_
    rw [htrim p hp]
    simpa using (Text.of_mem_splitArguments hp).1
  rw [splitParameters_eq, hfilter]
  exact (List.map_congr_left htrim).trans (List.map_id _)

/-- The rule that a key without white space declares. -/
theorem Rule.identity_of_parse? {d : Declaration} {hasAction : Bool}
    (hb : ∀ c ∈ key, Text.isBlank c = false) (hd : Declaration.parse? key = some d)
    (hs : d.Separate) :
    Rule.Identity ⟨d.atom, d.parameters, [], Text.trim key, hasAction⟩ := by
  obtain ⟨inner, hkey, -, hg, hp⟩ := Declaration.trim_of_parse? hd
  obtain ⟨hne, hw⟩ := Declaration.atom_of_parse? hd
  have hinner : ∀ c ∈ inner, Text.isBlank c = false := by
    intro c hc
    refine hb c ?_
    rw [← Text.trim_eq_self hb, hkey]
    simp [hc]
  have hline : '\n' ∉ inner := fun hm => absurd (hinner _ hm) (by decide)
  refine ⟨rfl, ⟨inner, ?_, .call hne hw hg hline, ?_⟩, hs⟩
  · rw [hkey, Token.text, List.append_assoc, List.cons_append]
  · rw [hp, Declaration.splitParameters_eq_splitArguments hinner]

namespace RuleTable

variable {t t' : RuleTable} {r : Rule}

/-- A table to which rules were added, and nothing else was done with it. Their keys have no white
space and declare separate parameters. -/
inductive Identity : RuleTable → Prop where
  | empty : Identity {}
  | add {t t' : RuleTable} {key : Text} {d : Declaration} {hasAction : Bool} {h : Handle} :
    Identity t → (∀ c ∈ key, Text.isBlank c = false) → Declaration.parse? key = some d →
    d.Separate → t.add key hasAction = .ok (h, t') → Identity t'

theorem Identity.rule (ht : t.Identity) : ∀ r ∈ t.made, r.Identity := by
  induction ht with
  | empty => exact nofun
  | @add t t' key d hasAction h _ hb hd hs ha ih =>
    by_cases hm : d.atom ∈ t.atoms
    · rw [add_of_mem t hasAction hd hm] at ha
      cases ha
    · rw [add_of_not_mem t hasAction hd hm] at ha
      cases ha
      refine List.forall_mem_append.2 ⟨ih, List.forall_mem_singleton.2 ?_⟩
      exact Rule.identity_of_parse? hb hd hs

theorem Identity.of_get (ht : t.Identity) (hr : t.get atom = .ok r) :
    r.Identity ∧ r.atom = atom := by
  obtain ⟨hm, ha⟩ := mem_of_find? (get_eq_ok_iff.1 hr)
  obtain ⟨h, -, hh⟩ := mem_rules_iff.1 hm
  exact ⟨ht.rule r (List.mem_of_getElem? hh), ha⟩

end RuleTable

end LSystem
