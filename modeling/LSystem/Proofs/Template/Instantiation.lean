import LSystem.Proofs.Template.Passes
import LSystem.Proofs.Text.Pieces

/-! # Instantiation of clean templates

The three passes over the text of a clean template amount to one transformation of its token tree:
arguments are given values at all levels, counts are substituted, and the blocks at the top are
written out (`instantiate_eq_unroll`). Each pass keeps the shape of the tree, so the next one finds
the same tokens: a parameter meets no atom, and neither a decimal argument nor a written number has
a character that means something in commands. -/

namespace LSystem

open Text (replaceEach)
open Token (Balanced)

/-- A decimal integer: digits, with or without a sign. -/
def Text.IsDecimal (s : Text) : Prop :=
  ∃ digits, digits ≠ [] ∧ (∀ c ∈ digits, c.isDigit) ∧
    (s = digits ∨ s = '-' :: digits ∨ s = '+' :: digits)

theorem Text.IsDecimal.ne_nil {s : Text} (h : s.IsDecimal) : s ≠ [] := by
  obtain ⟨digits, hne, -, rfl | rfl | rfl⟩ := h
  · exact hne
  · exact List.cons_ne_nil _ _
  · exact List.cons_ne_nil _ _

theorem Text.IsDecimal.not_mem {s : Text} (h : s.IsDecimal) {c : Char}
    (hc : c.isDigit = false ∧ c ≠ '-' ∧ c ≠ '+') : c ∉ s := by
  obtain ⟨digits, -, hd, h⟩ := h
  have hm : c ∉ digits := by
    intro hm
    rw [hd c hm] at hc
    exact absurd hc.1 (by decide)
  obtain rfl | rfl | rfl := h
  · exact hm
  · simp [hm, hc.2.1]
  · simp [hm, hc.2.2]

theorem TokenTree.map_map (f f' h h' : Text → Text) (T : TokenTree) :
    (T.map f h).map f' h' = T.map (f' ∘ f) (h' ∘ h) := by
  induction T with
  | nil => rfl
  | push rest ih => simp only [map, ih]
  | pop rest ih => simp only [map, ih]
  | block content count rest ihc ih => simp only [map, ihc, ih, Function.comp]
  | call atom arguments rest ih => simp only [map, ih, Function.comp]

namespace Rule

variable {r : Rule} {ev : Evaluator} {args : List Text} {template : Text}

/-- The tree of a template with every argument replaced by the value of its substituted piece, and
every count by its substituted text. -/
def filled (r : Rule) (ev : Evaluator) (args : List Text) (T : TokenTree) : TokenTree :=
  T.map
    (fun arguments => Text.join [',']
      ((splitArguments arguments).map fun piece => ev.rendered (r.substitute piece args)))
    (fun count => r.substitute count args)

theorem not_mem_parameter (hn : ∀ name ∈ r.parameters, name ≠ [] ∧ ∀ c ∈ name, Text.isWord c)
    {c : Char} (hc : Text.isWord c = false) : ∀ p ∈ r.parameters.zip args, c ∉ p.1 := by
  intro p hp hm
  rw [(hn _ (List.of_mem_zip hp).1).2 c hm] at hc
  cases hc

theorem parameter_ne_nil (hn : ∀ name ∈ r.parameters, name ≠ [] ∧ ∀ c ∈ name, Text.isWord c) :
    ∀ p ∈ r.parameters.zip args, p.1 ≠ [] := fun _ hp => (hn _ (List.of_mem_zip hp).1).1

theorem not_mem_argument (ha : ∀ a ∈ args, Text.IsDecimal a) {c : Char}
    (hc : c.isDigit = false ∧ c ≠ '-' ∧ c ≠ '+') : ∀ p ∈ r.parameters.zip args, c ∉ p.2 :=
  fun _ hp => (ha _ (List.of_mem_zip hp).2).not_mem hc

theorem argument_ne_nil (ha : ∀ a ∈ args, Text.IsDecimal a) :
    ∀ p ∈ r.parameters.zip args, p.2 ≠ [] :=
  fun _ hp => (ha _ (List.of_mem_zip hp).2).ne_nil

theorem not_mem_substitute (ha : ∀ a ∈ args, Text.IsDecimal a) {c : Char}
    (hc : c.isDigit = false ∧ c ≠ '-' ∧ c ≠ '+') {s : Text} (hs : c ∉ s) :
    c ∉ r.substitute s args := by
  intro hm
  have hm : c ∈ replaceEach (r.parameters.zip args) s := hm
  rcases Text.mem_replaceEach hm with hm | ⟨p, hp, hm⟩
  · exact hs hm
  · exact not_mem_argument ha hc p hp hm

section
variable (hn : ∀ name ∈ r.parameters, name ≠ [] ∧ ∀ c ∈ name, Text.isWord c)
  (ha : ∀ a ∈ args, Text.IsDecimal a)
include hn ha

theorem splitArguments_substitute (s : Text) :
    splitArguments (r.substitute s args) =
      (splitArguments s).map fun piece => r.substitute piece args :=
  Text.splitArguments_replaceEach
    (fun p hp => ⟨parameter_ne_nil hn p hp, not_mem_parameter hn (by decide) p hp⟩)
    (fun p hp => ⟨argument_ne_nil ha p hp, not_mem_argument ha (by decide) p hp⟩) s

theorem balanced_substitute {s : Text} (hs : Balanced '(' ')' s) :
    Balanced '(' ')' (r.substitute s args) := by
  refine (Text.balanced_replaceEach_iff (by decide) ?_ ?_).2 hs
  · exact fun p hp => ⟨not_mem_parameter hn (by decide) p hp, not_mem_parameter hn (by decide) p hp⟩
  · exact fun p hp => ⟨not_mem_argument ha (by decide) p hp, not_mem_argument ha (by decide) p hp⟩

theorem withValues_map_substitute (T : TokenTree) :
    (T.map (r.substitute · args) (r.substitute · args)).withValues ev.rendered =
      r.filled ev args T := by
  rw [TokenTree.withValues, TokenTree.map_map, filled]
  congr 1
  funext arguments
  rw [Function.comp, splitArguments_substitute hn ha, List.map_map]
  rfl

/-- Substitution and then the argument pass fill a tree. -/
theorem evaluateArguments_map_substitute {T : TokenTree}
    (hT : T.All
      (fun atom arguments => (Token.call atom arguments).Formed ∧
        ∀ piece ∈ splitArguments arguments, ev.RendersNumber (r.substitute piece args))
      (fun count => '<' ∉ count)) :
    evaluateArguments ev (T.map (r.substitute · args) (r.substitute · args)).text =
      .ok (r.filled ev args T).text := by
  rw [← withValues_map_substitute hn ha]
  refine evaluateArguments_text (TokenTree.all_map_iff.2 (hT.imp ?_ ?_))
  · rintro atom arguments ⟨hf, hv⟩
    cases hf with
    | call hne hw h1 h2 =>
    have hf : (Token.call atom (r.substitute arguments args)).Formed :=
      .call hne hw (not_mem_substitute ha (by decide) h1) (not_mem_substitute ha (by decide) h2)
    refine ⟨hf, ?_⟩
    rw [splitArguments_substitute hn ha]
    intro _ h
    obtain ⟨piece, hpiece, rfl⟩ := List.mem_map.1 h
    exact (hv piece hpiece).render
  · exact fun count h => not_mem_substitute ha (by decide) h

end

/-- A filled tree is read back, since values and arguments bring in no brackets. -/
theorem solid_filled (hn : ∀ name ∈ r.parameters, name ≠ [] ∧ ∀ c ∈ name, Text.isWord c)
    (ha : ∀ a ∈ args, Text.IsDecimal a) {T : TokenTree}
    (hT : T.All
      (fun atom arguments => (Token.call atom arguments).Formed ∧
        ∀ piece ∈ splitArguments arguments, ev.RendersNumber (r.substitute piece args))
      (fun count => (count ≠ [] ∧ Balanced '(' ')' count) ∧ '{' ∉ count ∧ '}' ∉ count)) :
    (r.filled ev args T).Solid := by
  refine TokenTree.all_map_iff.2 (hT.imp ?_ ?_)
  · rintro atom arguments ⟨hf, hv⟩
    have keep {c : Char} (hc : c ≠ ',') (hp : Number.isNumberChar c = false) :
        c ∉ Text.join [','] ((splitArguments arguments).map fun piece =>
          ev.rendered (r.substitute piece args)) := by
      intro hm
      rcases Text.mem_join hm with h | ⟨value, h, hm⟩
      · exact hc h
      · obtain ⟨piece, hpiece, rfl⟩ := List.mem_map.1 h
        rw [(hv piece hpiece).plain c hm] at hp
        cases hp
    cases hf with
    | call hne hw _ _ =>
    exact ⟨.call hne hw (keep (by decide) (by decide)) (keep (by decide) (by decide)),
      keep (by decide) (by decide), keep (by decide) (by decide)⟩
  · rintro count ⟨⟨hne, hb⟩, hl, hr⟩
    refine ⟨⟨?_, balanced_substitute hn ha hb⟩, not_mem_substitute ha (by decide) hl,
      not_mem_substitute ha (by decide) hr⟩
    exact mt (Text.replaceEach_eq_nil_iff (parameter_ne_nil hn) (argument_ne_nil ha)).1 hne

/-- Instantiation of a clean template is a transformation of its token tree. Every argument is
replaced, at all levels, by the value of its substituted piece, and every count by its substituted
text; then each block at the top becomes as many copies of its content as its count says, and the
first count that fails gives the error. -/
theorem instantiate_eq_unroll
    (hn : ∀ name ∈ r.parameters, name ≠ [] ∧ ∀ c ∈ name, Text.isWord c)
    (ha : ∀ a ∈ args, Text.IsDecimal a)
    (hs : r.select ev args = .ok template) (hc : Clean template)
    (hT : (TokenTree.ofText template).All
      (fun atom arguments => (∀ name ∈ r.parameters, ¬ name <:+: atom) ∧
        ∀ piece ∈ splitArguments arguments, ev.RendersNumber (r.substitute piece args))
      (fun count => '<' ∉ count ∧ '{' ∉ count ∧ '}' ∉ count)) :
    r.instantiate ev args = (r.filled ev args (.ofText template)).unroll ev ∧
    ∀ times : Text → Nat,
      (∀ content count, .block content count ∈ (r.filled ev args (.ofText template)).tokens →
        ev.count count = .ok (times count) ∧ times count < Expr.repetitionLimit ∧
          times count * content.length < Expr.repetitionLimit) →
      r.instantiate ev args = .ok ((r.filled ev args (.ofText template)).unrolled times) := by
  have hformed := TokenTree.all_ofText template
  have htext := hc.text_ofText
  generalize TokenTree.ofText template = T at hT hformed htext ⊢
  subst htext
  have hT := hT.and hformed
  have hsubst : r.substitute T.text args =
      (T.map (r.substitute · args) (r.substitute · args)).text :=
    replaceEach_text (fun p hp => hn _ (List.of_mem_zip hp).1) <|
      hT.imp (fun _ _ h p hp => h.1.1 _ (List.of_mem_zip hp).1) fun _ _ => trivial
  have hvalues : evaluateArguments ev (T.map (r.substitute · args) (r.substitute · args)).text =
      .ok (r.filled ev args T).text :=
    evaluateArguments_map_substitute hn ha <|
      hT.imp (fun _ _ h => ⟨h.2, h.1.2⟩) fun _ h => h.1.1
  have hsolid : (r.filled ev args T).Solid :=
    solid_filled hn ha <| hT.imp (fun _ _ h => ⟨h.2, h.1.2⟩) fun _ h => ⟨h.2, h.1.2⟩
  have hunroll : r.instantiate ev args = (r.filled ev args T).unroll ev := by
    rw [← unrollBlocks_text hsolid, instantiate, hs]
    change (do let s ← evaluateArguments ev (r.substitute T.text args); unrollBlocks ev s) = _
    rw [hsubst, hvalues]
    rfl
  exact ⟨hunroll, fun times h => hunroll.trans (TokenTree.unroll_eq_ok h)⟩

/-! ## Templates without parameters -/

/-- The templates that a rule chooses from. -/
def templates (r : Rule) : List Text := r.fallback :: r.branches.map Branch.template

theorem mem_templates_of_selectFrom {branches : List Branch}
    (h : r.selectFrom ev args branches = .ok template) :
    template ∈ r.fallback :: branches.map Branch.template := by
  induction branches with
  | nil =>
    cases h
    exact List.mem_cons_self
  | cons b branches ih =>
    obtain ⟨holds, -, h⟩ := bind_eq_ok_iff.1 h
    rw [List.map_cons, List.mem_cons, List.mem_cons]
    cases holds with
    | true =>
      cases h
      exact .inr (.inl rfl)
    | false => exact (List.mem_cons.1 (ih h)).imp_right .inr

theorem substitute_of_not_isInfix {s : Text} (h : ∀ name ∈ r.parameters, ¬ name <:+: s)
    (args : List Text) : r.substitute s args = s :=
  Text.replaceEach_of_not_isInfix fun _ hp => h _ (List.of_mem_zip hp).1

/-- If no parameter occurs in the templates, what a call expands to depends on its arguments only by
the branch that they select. -/
theorem instantiate_of_not_isInfix
    (ht : ∀ template ∈ r.templates, ∀ name ∈ r.parameters, ¬ name <:+: template) {s : Text}
    (h : r.instantiate ev args = .ok s) :
    ∃ template ∈ r.templates, evaluateArguments ev template >>= unrollBlocks ev = .ok s := by
  obtain ⟨template, hs, h⟩ := bind_eq_ok_iff.1 h
  obtain ⟨_, -, hs⟩ := bind_eq_ok_iff.1 hs
  have hm := mem_templates_of_selectFrom hs
  rw [substitute_of_not_isInfix (ht template hm)] at h
  exact ⟨template, hm, h⟩

/-- A rule whose template has a block in a block. -/
def nesting : Rule where
  atom := ['N']
  parameters := [['x'], ['n']]
  fallback := "[F<x+1,,n/2>{G<n>{H<x>}(n)}(n+1)]".toList

theorem instantiate_eq_unroll_nesting :
    nesting.select {} ["-3".toList, "1".toList] = .ok "[F<x+1,,n/2>{G<n>{H<x>}(n)}(n+1)]".toList ∧
      nesting.instantiate {} ["-3".toList, "1".toList] =
        .ok "[F<-2,0.5>G<1>{H<-3>}(1)G<1>{H<-3>}(1)]".toList := by
  have hs : nesting.select {} ["-3".toList, "1".toList] =
      .ok "[F<x+1,,n/2>{G<n>{H<x>}(n)}(n+1)]".toList := by decide +kernel
  have hn : ∀ name ∈ nesting.parameters, name ≠ [] ∧ ∀ c ∈ name, Text.isWord c := by
    simp only [nesting, List.forall_mem_cons]
    exact ⟨⟨nofun, rfl, nofun⟩, ⟨nofun, rfl, nofun⟩, nofun⟩
  have ha : ∀ a ∈ ["-3".toList, "1".toList], Text.IsDecimal a := by
    simp only [List.forall_mem_cons]
    exact ⟨⟨['3'], by simp, by simp, .inr (.inl rfl)⟩, ⟨['1'], by simp, by simp, .inl rfl⟩, nofun⟩
  have h0 : tokenize "[F<x+1,,n/2>{G<n>{H<x>}(n)}(n+1)]".toList =
      [.push, .call ['F'] "x+1,,n/2".toList, .block "G<n>{H<x>}(n)".toList "n+1".toList, .pop] := by
    decide +kernel
  have h1 : tokenize "G<n>{H<x>}(n)".toList =
      [.call ['G'] ['n'], .block "H<x>".toList ['n']] := by decide +kernel
  have h2 : tokenize "H<x>".toList = [.call ['H'] ['x']] := by decide +kernel
  have hc : Clean "[F<x+1,,n/2>{G<n>{H<x>}(n)}(n+1)]".toList := by
    refine .intro (by decide +kernel) fun content count hm => ?_
    rw [h0] at hm
    obtain ⟨rfl, rfl⟩ : content = "G<n>{H<x>}(n)".toList ∧ count = "n+1".toList := by
      simpa using hm
    refine .intro (by decide +kernel) fun content count hm => ?_
    rw [h1] at hm
    obtain ⟨rfl, rfl⟩ : content = "H<x>".toList ∧ count = ['n'] := by simpa using hm
    refine .intro (by decide +kernel) fun content count hm => ?_
    rw [h2] at hm
    simp at hm
  have h := instantiate_eq_unroll hn ha hs hc (by decide +kernel)
  exact ⟨hs, h.1.trans (by decide +kernel)⟩

end Rule

end LSystem
