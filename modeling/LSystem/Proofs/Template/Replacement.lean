import LSystem.Proofs.Token.Reading

/-! # Replacing words

`replaceAll` goes through a text from left to right: an occurrence of the word is replaced and
jumped over, any other character stays (`replaceAll_word_append`, `replaceAll_cons`). The lemmas
here say what a replacement leaves alone: a character outside the word keeps the two sides apart
(`replaceAll_append_cons`), and brackets that are in neither the word nor its replacement stay
balanced. `replaceEach` makes several replacements, one after the other over the whole text. -/

namespace LSystem.Text

variable {word new s t : Text} {c : Char}

theorem replaceAll_go_eq (skip : Nat) (s done : Text) :
    replaceAll.go word new skip s done =
      done.reverse ++ replaceAll.go word new 0 (s.drop skip) [] := by
  induction s generalizing skip done with
  | nil => simp [replaceAll.go]
  | cons c s ih =>
    cases skip with
    | succ skip => rw [replaceAll.go, ih, List.drop_succ_cons]
    | zero =>
      simp only [replaceAll.go, List.drop_zero]
      split
      · rw [ih, ih _ (new.reverse ++ [])]
        simp
      · rw [ih, ih _ [c]]
        simp

theorem replaceAll_nil (h : word ≠ []) : replaceAll word new [] = [] := by
  rw [replaceAll, if_neg h]
  rfl

/-- The empty word occurs before every character and at the end. -/
@[simp] theorem replaceAll_empty : replaceAll [] new s = new ++ s.flatMap fun c => c :: new :=
  if_pos rfl

theorem replaceAll_word_append (h : word ≠ []) (s : Text) :
    replaceAll word new (word ++ s) = new ++ replaceAll word new s := by
  simp only [replaceAll, if_neg h]
  cases e : word with
  | nil => exact absurd e h
  | cons c w =>
    have hp : (c :: w).isPrefixOf (c :: (w ++ s)) := by simp
    rw [List.cons_append, replaceAll.go, if_pos hp, replaceAll_go_eq]
    simp

theorem replaceAll_cons (h : ¬ word <+: c :: s) :
    replaceAll word new (c :: s) = c :: replaceAll word new s := by
  have hne : word ≠ [] := by
    rintro rfl
    exact h (List.nil_prefix ..)
  have hp : ¬ word.isPrefixOf (c :: s) := by simpa using h
  simp only [replaceAll, if_neg hne]
  rw [replaceAll.go, if_neg hp, replaceAll_go_eq]
  simp

/-- Induction along a scan that jumps over words: where none of them starts, one character is
kept. -/
theorem scan_induction (words : List Text) {P : Text → Prop} (nil : P [])
    (jump : ∀ word ∈ words, ∀ s, P s → P (word ++ s))
    (keep : ∀ c s, (∀ word ∈ words, ¬ word <+: c :: s) → P s → P (c :: s))
    (hne : ∀ word ∈ words, word ≠ []) (s : Text) : P s := by
  induction n : s.length using Nat.strongRecOn generalizing s with
  | ind n ih =>
    subst n
    cases s with
    | nil => exact nil
    | cons c s =>
      by_cases h : ∃ word ∈ words, word <+: c :: s
      · obtain ⟨word, hw, rest, e⟩ := h
        have hl := List.length_pos_iff.2 (hne word hw)
        rw [← e]
        refine jump word hw rest (ih _ ?_ rest rfl)
        rw [← e, List.length_append]
        omega
      · exact keep c s (fun word hw hs => h ⟨word, hw, hs⟩) (ih _ (by simp) s rfl)

/-- Induction along the scan of a replacement. -/
theorem replacement_induction (word : Text) {P : Text → Prop} (nil : P [])
    (jump : ∀ s, word ≠ [] → P s → P (word ++ s))
    (keep : ∀ c s, ¬ word <+: c :: s → P s → P (c :: s)) (hne : word ≠ []) (s : Text) : P s := by
  refine scan_induction [word] nil ?_ ?_ ?_ s
  · simpa using fun s => jump s hne
  · simpa using keep
  · simpa using hne

theorem isPrefix_of_append_cons (hc : c ∉ word) (h : word <+: s ++ c :: t) : word <+: s := by
  rcases List.prefix_or_prefix_of_prefix h (List.prefix_append s _) with h' | ⟨u, rfl⟩
  · exact h'
  · cases u with
    | nil => simp
    | cons d u =>
      rw [List.prefix_append_right_inj, List.cons_prefix_cons] at h
      simp [h.1] at hc

/-- A character outside the word keeps what stands before it and what follows apart. -/
theorem replaceAll_append_cons (hc : c ∉ word) (s t : Text) :
    replaceAll word new (s ++ c :: t) = replaceAll word new s ++ c :: replaceAll word new t := by
  by_cases hne : word = []
  · simp [hne]
  induction s using replacement_induction word with
  | hne => exact hne
  | nil =>
    have hp : ¬ word <+: c :: t := fun h =>
      hne (List.prefix_nil.1 (isPrefix_of_append_cons (s := []) hc h))
    simp [replaceAll_cons hp, replaceAll_nil hne]
  | jump s _ ih =>
    rw [List.append_assoc, replaceAll_word_append hne, replaceAll_word_append hne, ih,
      List.append_assoc]
  | keep d s h ih =>
    have hp : ¬ word <+: d :: (s ++ c :: t) := mt (isPrefix_of_append_cons (s := d :: s) hc) h
    rw [List.cons_append, replaceAll_cons hp, replaceAll_cons h, ih, List.cons_append]

theorem replaceAll_of_not_isInfix (h : ¬ word <:+: s) : replaceAll word new s = s := by
  induction s with
  | nil => exact replaceAll_nil fun hne => h (hne ▸ List.nil_infix)
  | cons c s ih =>
    rw [replaceAll_cons (mt List.IsPrefix.isInfix h),
      ih (mt (fun hi => hi.trans (List.suffix_cons c s).isInfix) h)]

theorem mem_replaceAll (h : c ∈ replaceAll word new s) : c ∈ s ∨ c ∈ new := by
  by_cases hne : word = []
  · rw [hne, replaceAll_empty, List.mem_append, List.mem_flatMap] at h
    rcases h with h | ⟨d, hd, h⟩
    · exact .inr h
    · rcases List.mem_cons.1 h with rfl | h
      · exact .inl hd
      · exact .inr h
  induction s using replacement_induction word with
  | hne => exact hne
  | nil => simp [replaceAll_nil hne] at h
  | jump s _ ih =>
    rw [replaceAll_word_append hne, List.mem_append] at h
    rcases h with h | h
    · exact .inr h
    · exact (ih h).imp_left (List.mem_append_right _)
  | keep d s hd ih =>
    rw [replaceAll_cons hd, List.mem_cons] at h
    rcases h with rfl | h
    · exact .inl List.mem_cons_self
    · exact (ih h).imp_left (List.mem_cons_of_mem _)

theorem replaceAll_eq_nil_iff (hne : word ≠ []) (hn : new ≠ []) :
    replaceAll word new s = [] ↔ s = [] := by
  induction s using replacement_induction word with
  | hne => exact hne
  | nil => simp [replaceAll_nil hne]
  | jump s _ ih => simp [replaceAll_word_append hne, hn, hne]
  | keep d s hd ih => simp [replaceAll_cons hd]

open Token (Balanced Closes) in
/-- Brackets that are neither in the word nor in its replacement stay as they are. -/
theorem closes_replaceAll_iff {left right : Char} (hlr : left ≠ right)
    (hw : Closes left right 0 word) (hn : Closes left right 0 new) {depth : Nat} :
    Closes left right depth (replaceAll word new s) ↔ Closes left right depth s := by
  have happ (t : Text) (depth : Nat) :
      Closes left right depth (new ++ t) ↔ Closes left right depth t := by
    simpa using hn.append_iff hlr (t := t) (d := depth)
  by_cases hne : word = []
  · rw [hne, replaceAll_empty, happ]
    induction s generalizing depth with
    | nil => rfl
    | cons c s ih => simp [Closes, happ, ih]
  induction s using replacement_induction word generalizing depth with
  | hne => exact hne
  | nil => simp [replaceAll_nil hne]
  | jump s _ ih =>
    have hw := hw.append_iff hlr (t := s) (d := depth)
    rw [Nat.zero_add] at hw
    rw [replaceAll_word_append hne, hw, happ]
    exact ih
  | keep d s hd ih => simp only [replaceAll_cons hd, Closes, ih]

/-! ## Several replacements -/

/-- A text after several replacements, one after the other. -/
def replaceEach (pairs : List (Text × Text)) (s : Text) : Text :=
  pairs.foldl (fun s (word, new) => replaceAll word new s) s

section
variable {pairs : List (Text × Text)}

@[simp] theorem replaceEach_cons (p : Text × Text) (pairs : List (Text × Text)) (s : Text) :
    replaceEach (p :: pairs) s = replaceEach pairs (replaceAll p.1 p.2 s) := rfl

theorem replaceEach_nil (h : ∀ p ∈ pairs, p.1 ≠ []) : replaceEach pairs [] = [] := by
  induction pairs with
  | nil => rfl
  | cons p pairs ih =>
    obtain ⟨hp, h⟩ := List.forall_mem_cons.1 h
    rw [replaceEach_cons, replaceAll_nil hp, ih h]

theorem replaceEach_append_cons (hc : ∀ p ∈ pairs, c ∉ p.1) (s t : Text) :
    replaceEach pairs (s ++ c :: t) = replaceEach pairs s ++ c :: replaceEach pairs t := by
  induction pairs generalizing s t with
  | nil => rfl
  | cons p pairs ih =>
    obtain ⟨hp, hc⟩ := List.forall_mem_cons.1 hc
    simp only [replaceEach_cons]
    rw [replaceAll_append_cons hp, ih hc]

theorem replaceEach_cons_of_not_mem (hne : ∀ p ∈ pairs, p.1 ≠ []) (hc : ∀ p ∈ pairs, c ∉ p.1)
    (s : Text) : replaceEach pairs (c :: s) = c :: replaceEach pairs s := by
  simpa [replaceEach_nil hne] using replaceEach_append_cons hc [] s

theorem replaceEach_of_not_isInfix (h : ∀ p ∈ pairs, ¬ p.1 <:+: s) : replaceEach pairs s = s := by
  induction pairs with
  | nil => rfl
  | cons p pairs ih =>
    obtain ⟨hp, h⟩ := List.forall_mem_cons.1 h
    rw [replaceEach_cons, replaceAll_of_not_isInfix hp, ih h]

theorem mem_replaceEach (h : c ∈ replaceEach pairs s) : c ∈ s ∨ ∃ p ∈ pairs, c ∈ p.2 := by
  induction pairs generalizing s with
  | nil => exact .inl h
  | cons p pairs ih =>
    rcases ih h with h | ⟨q, hq, h⟩
    · rcases mem_replaceAll h with h | h
      · exact .inl h
      · exact .inr ⟨p, List.mem_cons_self, h⟩
    · exact .inr ⟨q, List.mem_cons_of_mem _ hq, h⟩

theorem replaceEach_eq_nil_iff (hw : ∀ p ∈ pairs, p.1 ≠ []) (hn : ∀ p ∈ pairs, p.2 ≠ []) :
    replaceEach pairs s = [] ↔ s = [] := by
  induction pairs generalizing s with
  | nil => rfl
  | cons p pairs ih =>
    obtain ⟨hp, hw⟩ := List.forall_mem_cons.1 hw
    obtain ⟨hp', hn⟩ := List.forall_mem_cons.1 hn
    rw [replaceEach_cons, ih hw hn, replaceAll_eq_nil_iff hp hp']

open Token (Balanced closes_of_not_mem balanced_iff_closes) in
theorem balanced_replaceEach_iff {left right : Char} (hlr : left ≠ right)
    (hw : ∀ p ∈ pairs, left ∉ p.1 ∧ right ∉ p.1) (hn : ∀ p ∈ pairs, left ∉ p.2 ∧ right ∉ p.2) :
    Balanced left right (replaceEach pairs s) ↔ Balanced left right s := by
  induction pairs generalizing s with
  | nil => rfl
  | cons p pairs ih =>
    obtain ⟨hp, hw⟩ := List.forall_mem_cons.1 hw
    obtain ⟨hp', hn⟩ := List.forall_mem_cons.1 hn
    rw [replaceEach_cons, ih hw hn, balanced_iff_closes hlr, balanced_iff_closes hlr]
    exact closes_replaceAll_iff hlr (closes_of_not_mem hp.1 hp.2) (closes_of_not_mem hp'.1 hp'.2)

theorem replaceEach_join {sep : Char} (hne : ∀ p ∈ pairs, p.1 ≠ []) (h : ∀ p ∈ pairs, sep ∉ p.1)
    (parts : List Text) :
    replaceEach pairs (join [sep] parts) = join [sep] (parts.map (replaceEach pairs)) := by
  unfold join
  induction parts with
  | nil => simp [replaceEach_nil hne]
  | cons part parts ih =>
    cases parts with
    | nil => simp
    | cons part' parts =>
      rw [List.map_cons, List.map_cons, List.intercalate_cons_cons, List.intercalate_cons_cons,
        ← List.map_cons, ← ih, List.append_assoc, List.append_assoc, List.singleton_append,
        List.singleton_append, replaceEach_append_cons h]

/-- Replacements that keep off the commas go through the pieces of an argument list. -/
theorem splitArguments_replaceEach (hw : ∀ p ∈ pairs, p.1 ≠ [] ∧ ',' ∉ p.1)
    (hn : ∀ p ∈ pairs, p.2 ≠ [] ∧ ',' ∉ p.2) (s : Text) :
    splitArguments (replaceEach pairs s) = (splitArguments s).map (replaceEach pairs) := by
  obtain ⟨parts, hp, hc, rfl, -⟩ := splitArguments_eq_filter s
  have hc' : ∀ part ∈ parts.map (replaceEach pairs), ',' ∉ part := by
    rintro _ h hm
    obtain ⟨part, hpart, rfl⟩ := List.mem_map.1 h
    rcases mem_replaceEach hm with hm | ⟨p, hp, hm⟩
    · exact hc part hpart hm
    · exact (hn p hp).2 hm
  rw [replaceEach_join (fun p hp => (hw p hp).1) fun p hp => (hw p hp).2]
  simp only [splitArguments, pieces, join]
  rw [List.splitOn_intercalate ',' hc' (by simpa using hp), List.splitOn_intercalate ',' hc hp,
    List.filter_map]
  congr 1
  refine List.filter_congr fun part _ => ?_
  simp [replaceEach_eq_nil_iff (fun p hp => (hw p hp).1) fun p hp => (hn p hp).1]

end

end LSystem.Text
