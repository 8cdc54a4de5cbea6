import LSystem.Proofs.Template.Replacement
import LSystem.Rule
import Mathlib.Data.List.Infix
import Mathlib.Data.List.Nodup

/-! # Replacing several words at once

A substitution replaces one parameter after the other, each in the whole text that the ones before
have left. `replaceTogether` goes through a text only once: where one of several words starts it
puts the replacement of this word and jumps over the word, and it copies any other character. The
two agree if words and replacements cannot get in each other's way, which is what `Apart` says
(`Rule.substitute_eq_replaceTogether`).

The reason is that a replacement is made of characters that no word has. So a word that starts in
what was replaced started there before (`isPrefix_of_isPrefix_replaceAll`), and a word that stood
there before is not touched, since no other word starts inside of it (`Apart.replaceAll_append`). -/

namespace LSystem.Text

/-- Replaces each of some words by its own replacement, from left to right and without overlap. -/
def replaceTogether (pairs : List (Text × Text)) (s : Text) : Text := go 0 s
where
  /-- Skips the first `skip` characters, which belong to a word already replaced. -/
  go : Nat → Text → Text
    | _, [] => []
    | skip + 1, _ :: s => go skip s
    | 0, c :: s =>
      match pairs.find? fun (word, _) => word.isPrefixOf (c :: s) with
      | some (word, new) => new ++ go (word.length - 1) s
      | none => c :: go 0 s

/-- Words and replacements that cannot get in each other's way. A word may still overlap itself. -/
structure Apart (pairs : List (Text × Text)) : Prop where
  words : ∀ p ∈ pairs, p.1 ≠ []
  distinct : (pairs.map Prod.fst).Nodup
  /-- No word stands in another one. -/
  inner : ∀ p ∈ pairs, ∀ q ∈ pairs, p.1 ≠ q.1 → ¬ p.1 <:+: q.1
  /-- No word ends in something that another one starts with. -/
  overlap : ∀ p ∈ pairs, ∀ q ∈ pairs, p.1 ≠ q.1 → ∀ v, v <:+ p.1 → v ≠ [] → v ≠ p.1 → ¬ v <+: q.1
  replacements : ∀ p ∈ pairs, p.2 ≠ []
  /-- No replacement has a character of a word. -/
  foreign : ∀ p ∈ pairs, ∀ q ∈ pairs, p.2.Disjoint q.1

theorem disjoint_iff_filter {s t : Text} : s.Disjoint t ↔ s.filter (· ∈ t) = [] := by
  simp [List.filter_eq_nil_iff, List.Disjoint]

instance (pairs : List (Text × Text)) : Decidable (Apart pairs) :=
  decidable_of_iff
    ((∀ p ∈ pairs, p.1 ≠ []) ∧ (pairs.map Prod.fst).Nodup ∧
      (∀ p ∈ pairs, ∀ q ∈ pairs, p.1 ≠ q.1 → ¬ p.1 <:+: q.1) ∧
      (∀ p ∈ pairs, ∀ q ∈ pairs, p.1 ≠ q.1 →
        ∀ v ∈ p.1.tails, v ≠ [] → v ≠ p.1 → ¬ v <+: q.1) ∧
      (∀ p ∈ pairs, p.2 ≠ []) ∧ ∀ p ∈ pairs, ∀ q ∈ pairs, p.2.filter (· ∈ q.1) = [])
    ⟨fun ⟨hw, hd, hi, ho, hr, hf⟩ => ⟨hw, hd, hi,
        fun p hp q hq hne v hv => ho p hp q hq hne v ((List.mem_tails v p.1).2 hv), hr,
        fun p hp q hq => disjoint_iff_filter.2 (hf p hp q hq)⟩,
      fun h => ⟨h.words, h.distinct, h.inner,
        fun p hp q hq hne v hv => h.overlap p hp q hq hne v ((List.mem_tails v p.1).1 hv),
        h.replacements, fun p hp q hq => disjoint_iff_filter.1 (h.foreign p hp q hq)⟩⟩

variable {pairs pairs' : List (Text × Text)} {p q : Text × Text} {word new w s : Text} {c : Char}

/-! ## One pass -/

theorem replaceTogether_go_eq (skip : Nat) (s : Text) :
    replaceTogether.go pairs skip s = replaceTogether pairs (s.drop skip) := by
  rw [replaceTogether]
  induction s generalizing skip with
  | nil => simp [replaceTogether.go]
  | cons c s ih =>
    cases skip with
    | zero => rfl
    | succ skip => rw [replaceTogether.go, ih, List.drop_succ_cons]

@[simp] theorem replaceTogether_nil : replaceTogether pairs [] = [] := rfl

@[simp] theorem replaceTogether_empty (s : Text) : replaceTogether [] s = s := by
  induction s with
  | nil => rfl
  | cons c s ih => exact congrArg (c :: ·) ih

theorem replaceTogether_append (hne : word ≠ [])
    (hf : pairs.find? (fun p => p.1.isPrefixOf (word ++ s)) = some (word, new)) :
    replaceTogether pairs (word ++ s) = new ++ replaceTogether pairs s := by
  cases word with
  | nil => exact absurd rfl hne
  | cons c w =>
    rw [List.cons_append] at hf
    rw [replaceTogether, List.cons_append, replaceTogether.go, hf]
    simp only [replaceTogether_go_eq]
    rw [List.length_cons, Nat.add_sub_cancel, List.drop_left]

theorem replaceTogether_cons (h : ∀ p ∈ pairs, ¬ p.1 <+: c :: s) :
    replaceTogether pairs (c :: s) = c :: replaceTogether pairs s := by
  have hf : pairs.find? (fun p => p.1.isPrefixOf (c :: s)) = none := by
    simpa [List.find?_eq_none] using h
  rw [replaceTogether, replaceTogether.go, hf]
  rfl

theorem not_isPrefix_cons (hne : w ≠ []) (hc : c ∉ w) : ¬ w <+: c :: s := by
  cases w with
  | nil => exact absurd rfl hne
  | cons d w =>
    rw [List.cons_prefix_cons]
    rintro ⟨rfl, -⟩
    exact hc List.mem_cons_self

/-- A text is copied that has no character of any word. -/
theorem replaceTogether_append_of_disjoint (hne : ∀ p ∈ pairs, p.1 ≠ []) {x : Text}
    (hx : ∀ p ∈ pairs, x.Disjoint p.1) (s : Text) :
    replaceTogether pairs (x ++ s) = x ++ replaceTogether pairs s := by
  induction x with
  | nil => rfl
  | cons c x ih =>
    have hc : ∀ p ∈ pairs, ¬ p.1 <+: c :: (x ++ s) := fun p hp =>
      not_isPrefix_cons (hne p hp) fun hc => hx p hp List.mem_cons_self hc
    rw [List.cons_append, replaceTogether_cons hc, List.cons_append,
      ih fun p hp => List.disjoint_of_disjoint_cons_left (hx p hp)]

/-! ## What one replacement leaves to the others -/

/-- A word that has no character of a replacement starts only where it started before. -/
theorem isPrefix_of_isPrefix_replaceAll (hne : word ≠ []) (hn : new ≠ []) (hd : new.Disjoint w)
    (h : w <+: replaceAll word new s) : w <+: s := by
  induction s using replacement_induction word generalizing w with
  | hne => exact hne
  | nil => rwa [replaceAll_nil hne] at h
  | jump s _ ih =>
    rw [replaceAll_word_append hne] at h
    cases w with
    | nil => exact List.nil_prefix
    | cons c w =>
      cases new with
      | nil => exact absurd rfl hn
      | cons d new =>
        obtain ⟨rfl, -⟩ := List.cons_prefix_cons.1 h
        exact absurd List.mem_cons_self (hd List.mem_cons_self)
  | keep c s hc ih =>
    rw [replaceAll_cons hc] at h
    cases w with
    | nil => exact List.nil_prefix
    | cons d w =>
      obtain ⟨rfl, hw⟩ := List.cons_prefix_cons.1 h
      exact List.cons_prefix_cons.2 ⟨rfl, ih (List.disjoint_of_disjoint_cons_right hd) hw⟩

theorem replaceAll_append_of_not_isPrefix {x : Text}
    (h : ∀ v, v <:+ x → v ≠ [] → ¬ word <+: v ++ s) :
    replaceAll word new (x ++ s) = x ++ replaceAll word new s := by
  induction x with
  | nil => rfl
  | cons c x ih =>
    have hc : ¬ word <+: c :: (x ++ s) := h (c :: x) List.suffix_rfl (List.cons_ne_nil c x)
    rw [List.cons_append, replaceAll_cons hc, List.cons_append,
      ih fun v hv => h v (hv.trans (List.suffix_cons c x))]

namespace Apart

theorem of_subset (h : Apart pairs) (hs : pairs' ⊆ pairs) (hd : (pairs'.map Prod.fst).Nodup) :
    Apart pairs' where
  words p hp := h.words p (hs hp)
  distinct := hd
  inner p hp q hq := h.inner p (hs hp) q (hs hq)
  overlap p hp q hq := h.overlap p (hs hp) q (hs hq)
  replacements p hp := h.replacements p (hs hp)
  foreign p hp q hq := h.foreign p (hs hp) q (hs hq)

theorem tail (h : Apart (p :: pairs)) : Apart pairs :=
  h.of_subset (List.subset_cons_self p pairs) (List.nodup_cons.1 h.distinct).2

theorem perm (h : Apart pairs) (hp : pairs.Perm pairs') : Apart pairs' :=
  h.of_subset hp.symm.subset ((hp.map _).nodup_iff.1 h.distinct)

theorem word_ne_nil (h : Apart pairs) : ∀ word ∈ pairs.map Prod.fst, word ≠ [] := by
  intro word hw
  obtain ⟨p, hp, rfl⟩ := List.mem_map.1 hw
  exact h.words p hp

/-- No two words start at the same place. -/
theorem eq_of_isPrefix (h : Apart pairs) (hp : p ∈ pairs) (hq : q ∈ pairs) (hps : p.1 <+: s)
    (hqs : q.1 <+: s) : p = q := by
  refine List.inj_on_of_nodup_map h.distinct hp hq (by_contra fun hne => ?_)
  rcases List.prefix_or_prefix_of_prefix hps hqs with hpq | hqp
  · exact h.inner p hp q hq hne hpq.isInfix
  · exact h.inner q hq p hp (Ne.symm hne) hqp.isInfix

theorem replaceTogether_word (h : Apart pairs) (hp : p ∈ pairs) (s : Text) :
    replaceTogether pairs (p.1 ++ s) = p.2 ++ replaceTogether pairs s := by
  have hps : p.1 <+: p.1 ++ s := List.prefix_append ..
  refine replaceTogether_append (h.words p hp) ?_
  cases hf : pairs.find? fun q => q.1.isPrefixOf (p.1 ++ s) with
  | none =>
    have := List.find?_eq_none.1 hf p hp
    exact absurd (List.isPrefixOf_iff_prefix.2 hps) this
  | some q =>
    have hqs : q.1 <+: p.1 ++ s := by simpa using List.find?_some hf
    rw [h.eq_of_isPrefix (List.mem_of_find?_eq_some hf) hp hqs hps]

/-- A word is not touched when another one is replaced. -/
theorem replaceAll_append (h : Apart pairs) (hp : p ∈ pairs) (hq : q ∈ pairs) (hne : p.1 ≠ q.1)
    (s : Text) : replaceAll p.1 p.2 (q.1 ++ s) = q.1 ++ replaceAll p.1 p.2 s := by
  refine replaceAll_append_of_not_isPrefix fun v hvq hv hps => ?_
  rcases List.prefix_or_prefix_of_prefix hps (List.prefix_append v s) with hpv | hvp
  · exact h.inner p hp q hq hne (hpv.isInfix.trans hvq.isInfix)
  · by_cases he : v = q.1
    · exact h.inner q hq p hp (Ne.symm hne) (he ▸ hvp.isInfix)
    · exact h.overlap q hq p hp (Ne.symm hne) v hvq hv he hvp

end Apart

/-! ## All replacements -/

/-- A word can be replaced ahead of the others. The induction is along the single pass, in which a
word of another pair is met as it was before the first one was replaced. -/
theorem replaceTogether_cons_pair (h : Apart (p :: pairs)) (s : Text) :
    replaceTogether (p :: pairs) s = replaceTogether pairs (replaceAll p.1 p.2 s) := by
  have hp : p ∈ p :: pairs := List.mem_cons_self
  induction s using scan_induction ((p :: pairs).map Prod.fst) with
  | hne word hw => exact h.word_ne_nil word hw
  | nil => simp [replaceAll_nil (h.words p hp)]
  | jump word hw s ih =>
    obtain ⟨q, hq, rfl⟩ := List.mem_map.1 hw
    rw [h.replaceTogether_word hq, ih]
    rcases List.mem_cons.1 hq with rfl | hq'
    · have hd : ∀ r ∈ pairs, q.2.Disjoint r.1 := fun r hr =>
        h.foreign q hp r (List.mem_cons_of_mem q hr)
      rw [replaceAll_word_append (h.words q hp),
        replaceTogether_append_of_disjoint h.tail.words hd]
    · have hne : p.1 ≠ q.1 := fun he =>
        (List.nodup_cons.1 h.distinct).1 (he ▸ List.mem_map_of_mem hq')
      rw [h.replaceAll_append hp hq hne, h.tail.replaceTogether_word hq']
  | keep c s hc ih =>
    replace hc := List.forall_mem_map.1 hc
    obtain ⟨hcp, hcq⟩ := List.forall_mem_cons.1 hc
    have hcs : ∀ q ∈ pairs, ¬ q.1 <+: c :: replaceAll p.1 p.2 s := fun q hq hs => by
      rw [← replaceAll_cons hcp] at hs
      have hd := h.foreign p hp q (List.mem_cons_of_mem p hq)
      exact hcq q hq
        (isPrefix_of_isPrefix_replaceAll (h.words p hp) (h.replacements p hp) hd hs)
    rw [replaceTogether_cons hc, ih, replaceAll_cons hcp, replaceTogether_cons hcs]

theorem replaceEach_eq_replaceTogether (h : Apart pairs) (s : Text) :
    replaceEach pairs s = replaceTogether pairs s := by
  induction pairs generalizing s with
  | nil => exact (replaceTogether_empty s).symm
  | cons p pairs ih => rw [replaceEach_cons, ih h.tail, replaceTogether_cons_pair h]

theorem replaceTogether_perm (h : Apart pairs) (hp : pairs.Perm pairs') (s : Text) :
    replaceTogether pairs s = replaceTogether pairs' s := by
  induction s using scan_induction (pairs.map Prod.fst) with
  | hne word hw => exact h.word_ne_nil word hw
  | nil => rfl
  | jump word hw s ih =>
    obtain ⟨p, hm, rfl⟩ := List.mem_map.1 hw
    rw [h.replaceTogether_word hm, (h.perm hp).replaceTogether_word (hp.subset hm), ih]
  | keep c s hc ih =>
    replace hc := List.forall_mem_map.1 hc
    rw [replaceTogether_cons hc, replaceTogether_cons fun p hm => hc p (hp.symm.subset hm), ih]

end LSystem.Text

namespace LSystem.Rule

open Text (Apart replaceTogether)

/-- **Substitution at once.** If parameters and arguments cannot get in each other's way, replacing
one parameter after the other is replacing all of them in a single pass, and their order does not
matter. -/
theorem substitute_eq_replaceTogether (r : Rule) (args : List Text)
    (h : Apart (r.parameters.zip args)) (s : Text) :
    r.substitute s args = replaceTogether (r.parameters.zip args) s ∧
    ∀ (r' : Rule) (args' : List Text), (r'.parameters.zip args').Perm (r.parameters.zip args) →
      r'.substitute s args' = r.substitute s args := by
  have once : ∀ (r : Rule) (args : List Text), Apart (r.parameters.zip args) →
      r.substitute s args = replaceTogether (r.parameters.zip args) s :=
    fun _ _ h => Text.replaceEach_eq_replaceTogether h s
  refine ⟨once r args h, fun r' args' hp => ?_⟩
  rw [once r args h, once r' args' (h.perm hp.symm), Text.replaceTogether_perm (h.perm hp.symm) hp]

/-- The rule `F<aa,bc>`. Its first parameter overlaps itself. -/
def stammer : Rule where
  atom := ['F']
  parameters := [['a', 'a'], ['b', 'c']]
  fallback := []

theorem substitute_eq_replaceTogether_stammer :
    Apart (stammer.parameters.zip [['1'], ['2', '2']]) ∧
      stammer.substitute "aaabcaabc".toList [['1'], ['2', '2']] = "1a22122".toList ∧
      { stammer with parameters := [['b', 'c'], ['a', 'a']] }.substitute "aaabcaabc".toList
        [['2', '2'], ['1']] = "1a22122".toList := by
  have h : Apart (stammer.parameters.zip [['1'], ['2', '2']]) := by decide
  have ht : replaceTogether (stammer.parameters.zip [['1'], ['2', '2']]) "aaabcaabc".toList =
      "1a22122".toList := by decide
  obtain ⟨hs, hperm⟩ := substitute_eq_replaceTogether stammer _ h "aaabcaabc".toList
  have hswap := hperm { stammer with parameters := [['b', 'c'], ['a', 'a']] } [['2', '2'], ['1']]
    (List.Perm.swap ..)
  exact ⟨h, hs.trans ht, hswap.trans (hs.trans ht)⟩

end LSystem.Rule
