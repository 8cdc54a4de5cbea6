import LSystem.Rule

/-! # Keys of rules

A key is read as a declaration if it is, without the white space at its ends, a word with a
parameter list between angle brackets (`parse?_eq_some_iff`). -/

namespace LSystem.Declaration

variable {key s inner : Text} {d : Declaration}

theorem atom_of_parse? (h : parse? key = some d) :
    d.atom ≠ [] ∧ ∀ c ∈ d.atom, Text.isWord c := by
  unfold parse? at h
  extract_lets key' at h
  split at h
  · cases h
  · next hne =>
    obtain ⟨inner, -, rfl⟩ := Option.map_eq_some_iff.1 h
    exact ⟨hne, fun c hc => List.all_eq_true.1 List.all_takeWhile c hc⟩
  · cases h

theorem inner?_eq_some_iff :
    inner? s = some inner ↔ s = inner ++ ['>'] ∧ '<' ∉ inner ∧ '>' ∉ inner := by
  have hr : s = inner ++ ['>'] ↔ s.reverse = '>' :: inner.reverse := by
    rw [← List.reverse_inj, List.reverse_append]
    rfl
  rw [hr, inner?]
  split
  · next rest he =>
    rw [he, List.cons.injEq, eq_self, true_and]
    split
    · next ha =>
      constructor
      · exact nofun
      · rintro ⟨rfl, hl, hg⟩
        obtain ⟨c, hc, h⟩ := List.any_eq_true.1 ha
        rcases (by simpa using h) with rfl | rfl
        · exact absurd (List.mem_reverse.1 hc) hl
        · exact absurd (List.mem_reverse.1 hc) hg
    · next ha =>
      simp only [List.any_eq_true, not_exists, not_and, Bool.or_eq_true, decide_eq_true_eq,
        not_or] at ha
      constructor
      · intro h
        cases h
        exact ⟨(List.reverse_reverse rest).symm, fun hm => (ha '<' (List.mem_reverse.1 hm)).1 rfl,
          fun hm => (ha '>' (List.mem_reverse.1 hm)).2 rfl⟩
      · rintro ⟨rfl, -⟩
        rw [List.reverse_reverse]
  · next hne =>
    constructor
    · exact nofun
    · exact fun h => absurd h.1 (hne _)

/-- A key that is a declaration is a word with a parameter list between angle brackets. -/
theorem trim_of_parse? (h : parse? key = some d) :
    ∃ inner, Text.trim key = d.atom ++ '<' :: (inner ++ ['>']) ∧ '<' ∉ inner ∧ '>' ∉ inner ∧
      d.parameters = splitParameters inner := by
  unfold parse? at h
  extract_lets key' at h
  split at h
  · cases h
  · next rest hd _ =>
    obtain ⟨inner, hi, rfl⟩ := Option.map_eq_some_iff.1 h
    obtain ⟨rfl, hl, hg⟩ := inner?_eq_some_iff.1 hi
    refine ⟨inner, ?_, hl, hg, rfl⟩
    rw [← hd, List.takeWhile_append_dropWhile]
  · cases h

/-- A key is a declaration if it is a word with a parameter list between angle brackets. -/
theorem parse?_eq_some_iff : parse? key = some d ↔
    d.atom ≠ [] ∧ (∀ c ∈ d.atom, Text.isWord c) ∧
      ∃ inner, Text.trim key = d.atom ++ '<' :: (inner ++ ['>']) ∧ '<' ∉ inner ∧ '>' ∉ inner ∧
        d.parameters = splitParameters inner := by
  constructor
  · intro h
    obtain ⟨hne, hw⟩ := atom_of_parse? h
    exact ⟨hne, hw, trim_of_parse? h⟩
  · obtain ⟨atom, parameters⟩ := d
    rintro ⟨hne, hw, inner, ht, hl, hg, rfl⟩
    have htake : (Text.trim key).takeWhile Text.isWord = atom := by
      rw [ht, List.takeWhile_append_of_pos hw, List.takeWhile_cons_of_neg (by decide),
        List.append_nil]
    have hdrop : (Text.trim key).dropWhile Text.isWord = '<' :: (inner ++ ['>']) := by
      rw [ht, List.dropWhile_append_of_pos hw, List.dropWhile_cons_of_neg (by decide)]
    have hinner : inner? (inner ++ ['>']) = some inner := inner?_eq_some_iff.2 ⟨rfl, hl, hg⟩
    unfold parse?
    simp only [htake, hdrop, hinner, Option.map_some]

/-- A key with which a rule for an atom is declared: the atom, which is a word, and a parameter list
between angle brackets. White space around the key does not count. -/
def Spells (key atom : Text) : Prop :=
  atom ≠ [] ∧ (∀ c ∈ atom, Text.isWord c) ∧
    ∃ inner, Text.trim key = atom ++ '<' :: (inner ++ ['>']) ∧ '<' ∉ inner ∧ '>' ∉ inner

theorem spells_iff {atom : Text} :
    Spells key atom ↔ ∃ d, parse? key = some d ∧ d.atom = atom := by
  constructor
  · rintro ⟨hne, hw, inner, ht, hl, hg⟩
    exact ⟨⟨atom, splitParameters inner⟩,
      parse?_eq_some_iff.2 ⟨hne, hw, inner, ht, hl, hg, rfl⟩, rfl⟩
  · rintro ⟨d, hd, rfl⟩
    obtain ⟨hne, hw, inner, ht, hl, hg, -⟩ := parse?_eq_some_iff.1 hd
    exact ⟨hne, hw, inner, ht, hl, hg⟩

end LSystem.Declaration
