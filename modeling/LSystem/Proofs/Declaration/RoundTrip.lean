import LSystem.Proofs.Declaration.Keys
import LSystem.Proofs.Text.Pieces
import LSystem.Proofs.Text.Trimming

/-! # Declarations that are written down and read

The keys that are read as a declaration are known exactly: they are the ways to write this
declaration down, with white space around the key and around its parameters and with blank pieces
between the commas (`parse_eq_ok_iff`). The text of the declaration is one of them, so reading it
gives the declaration back (`parse_roundTrip`). It matters for this that white space belongs to no
word, so that trimming a key leaves its atom alone, and that trimming a piece brings no comma into
it. -/

namespace LSystem

open Text (Blank)

namespace Text

/-- A text that can be the name of a parameter. -/
structure IsParameter (name : Text) : Prop where
  ne_nil : name ≠ []
  first : ∀ c s, name = c :: s → isBlank c = false
  last : ∀ c s, name = s ++ [c] → isBlank c = false
  comma : ',' ∉ name
  left : '<' ∉ name
  right : '>' ∉ name

variable {name before after : Text}

/-- A name is what is left when the white space around it is trimmed. -/
theorem IsParameter.trim_append (h : IsParameter name) (hb : Blank before) (ha : Blank after) :
    trim (before ++ (name ++ after)) = name := by
  have hlast : name.dropLast ++ [name.getLast h.ne_nil] = name :=
    List.dropLast_append_getLast h.ne_nil
  obtain ⟨c, s, hs⟩ := List.exists_cons_of_ne_nil h.ne_nil
  exact trimWhile_append hb ha ⟨c, s, hs, h.first c s hs⟩
    ⟨_, _, hlast.symm, h.last _ _ hlast.symm⟩

end Text

open Text (IsParameter)

namespace Declaration

variable {key inner name : Text} {pieces names : List Text} {d : Declaration}

/-- The atom of a declaration is a word, and its parameters are names. -/
structure WellFormed (d : Declaration) : Prop where
  atom_ne_nil : d.atom ≠ []
  atom_word : ∀ c ∈ d.atom, Text.isWord c
  parameters : ∀ name ∈ d.parameters, IsParameter name

/-- The pieces of a parameter list and the names in them. A piece is blank, or it is a name with
white space around it. -/
inductive Lists : (pieces names : List Text) → Prop where
  | nil : Lists [] []
  | blank {piece : Text} {pieces names : List Text} : Blank piece → Lists pieces names →
    Lists (piece :: pieces) names
  | name {before name after : Text} {pieces names : List Text} : Blank before → Blank after →
    Lists pieces names → Lists ((before ++ (name ++ after)) :: pieces) (name :: names)

/-- A key that writes a declaration down. White space may stand around the key and around each
parameter, and blank pieces may stand between the commas. -/
def WrittenIn (d : Declaration) (key : Text) : Prop :=
  ∃ before pieces after, Blank before ∧ Blank after ∧ Lists pieces d.parameters ∧
    key = before ++ (d.atom ++ '<' :: (Text.join [','] pieces ++ ['>']) ++ after)

/-! ## Parameter lists -/

theorem Lists.refl (names : List Text) : Lists names names := by
  induction names with
  | nil => exact .nil
  | cons name names ih =>
    have hname : Lists (([] ++ (name ++ [])) :: names) (name :: names) := .name nofun nofun ih
    simpa using hname

/-- Any pieces list the names that are left when blank pieces are dropped and others trimmed. -/
theorem lists_trim (pieces : List Text) :
    Lists pieces ((pieces.map Text.trim).filter (· ≠ [])) := by
  induction pieces with
  | nil => exact .nil
  | cons piece pieces ih =>
    rw [List.map_cons]
    by_cases h : Text.trim piece = []
    · rw [List.filter_cons_of_neg (by simpa using h)]
      exact .blank (Text.trim_eq_nil_iff.1 h) ih
    · rw [List.filter_cons_of_pos (by simpa using h)]
      obtain ⟨before, after, hs, hb, ha, -⟩ := Text.exists_trimWhile Text.isBlank piece
      have hname : Lists ((before ++ (Text.trim piece ++ after)) :: pieces)
          (Text.trim piece :: (pieces.map Text.trim).filter (· ≠ [])) := .name hb ha ih
      rw [Text.trim] at hname ⊢
      rwa [← hs] at hname

/-- Trimming the pieces and dropping blank ones gives the names, if they are names. -/
theorem Lists.filter_trim (h : Lists pieces names) (hn : ∀ name ∈ names, IsParameter name) :
    (pieces.map Text.trim).filter (· ≠ []) = names := by
  induction h with
  | nil => rfl
  | blank hb _ ih =>
    rw [List.map_cons, Text.trim_eq_nil_iff.2 hb]
    exact ih hn
  | name hb ha _ ih =>
    obtain ⟨hname, hn⟩ := List.forall_mem_cons.1 hn
    rw [List.map_cons, hname.trim_append hb ha,
      List.filter_cons_of_pos (by simpa using hname.ne_nil), ih hn]

/-- The pieces bring in no characters but white space. -/
theorem Lists.not_mem (h : Lists pieces names) {c : Char} (hc : Text.isBlank c = false)
    (hn : ∀ name ∈ names, c ∉ name) : ∀ piece ∈ pieces, c ∉ piece := by
  have foreign {s : Text} (hs : Blank s) : c ∉ s := by
    intro hm
    cases (hs c hm).symm.trans hc
  induction h with
  | nil => exact nofun
  | blank hb _ ih => exact List.forall_mem_cons.2 ⟨foreign hb, ih hn⟩
  | name hb ha _ ih =>
    obtain ⟨hname, hn⟩ := List.forall_mem_cons.1 hn
    refine List.forall_mem_cons.2 ⟨?_, ih hn⟩
    rw [List.mem_append, List.mem_append, not_or, not_or]
    exact ⟨foreign hb, hname, foreign ha⟩

/-- A list that is written down is read back. -/
theorem Lists.splitParameters (h : Lists pieces names) (hn : ∀ name ∈ names, IsParameter name) :
    splitParameters (Text.join [','] pieces) = names := by
  cases pieces with
  | nil =>
    cases h
    rfl
  | cons piece pieces =>
    have hcomma : ∀ p ∈ piece :: pieces, ',' ∉ p :=
      h.not_mem (by decide) fun name hm => (hn name hm).comma
    have hsplit : (Text.join [','] (piece :: pieces)).splitOn ',' = piece :: pieces :=
      List.splitOn_intercalate ',' hcomma (List.cons_ne_nil piece pieces)
    rw [Declaration.splitParameters, hsplit, h.filter_trim hn]

theorem Lists.not_mem_join (h : Lists pieces names) {c : Char} (hc : Text.isBlank c = false)
    (hcomma : c ≠ ',') (hn : ∀ name ∈ names, c ∉ name) : c ∉ Text.join [','] pieces := by
  intro hm
  obtain hm | ⟨piece, hp, hm⟩ := Text.mem_join hm
  · exact hcomma hm
  · exact h.not_mem hc hn piece hp hm

/-- What is read from a list without angle brackets are names. -/
theorem isParameter_of_mem (hl : '<' ∉ inner) (hg : '>' ∉ inner)
    (h : name ∈ splitParameters inner) : IsParameter name := by
  obtain ⟨hm, hne⟩ := List.mem_filter.1 h
  obtain ⟨piece, hp, rfl⟩ := List.mem_map.1 hm
  obtain ⟨before, after, hs, -, -, hfirst, hlast⟩ := Text.exists_trimWhile Text.isBlank piece
  have hpiece : ∀ c ∈ Text.trim piece, c ∈ piece := by
    intro c hc
    rw [hs]
    exact List.mem_append_right _ (List.mem_append_left _ hc)
  have hinner : ∀ c ∈ Text.trim piece, c ∈ inner := by
    intro c hc
    have hjoin : Text.join [','] (inner.splitOn ',') = inner := List.intercalate_splitOn ','
    rw [← hjoin]
    exact Text.mem_join_of_mem hp (hpiece c hc)
  exact {
    ne_nil := by simpa using hne
    first := hfirst
    last := hlast
    comma := fun hc => Text.not_mem_of_mem_splitOn hp (hpiece _ hc)
    left := fun hc => hl (hinner _ hc)
    right := fun hc => hg (hinner _ hc) }

/-! ## Keys -/

theorem parse_eq_ok_iff_parse? : parse key = .ok d ↔ parse? key = some d := by
  rw [parse]
  cases parse? key with
  | none => simp
  | some d' => simp

/-- A declaration that is read is well formed. -/
theorem wellFormed_of_parse? (h : parse? key = some d) : d.WellFormed := by
  obtain ⟨hne, hw, inner, -, hl, hg, hp⟩ := parse?_eq_some_iff.1 h
  refine ⟨hne, hw, fun name hm => ?_⟩
  rw [hp] at hm
  exact isParameter_of_mem hl hg hm

/-- A key from which a declaration is read writes it down. -/
theorem writtenIn_of_parse? (h : parse? key = some d) : d.WrittenIn key := by
  obtain ⟨-, -, inner, ht, -, -, hp⟩ := parse?_eq_some_iff.1 h
  obtain ⟨before, after, hs, hb, ha, -⟩ := Text.exists_trimWhile Text.isBlank key
  have htrim : Text.trimWhile Text.isBlank key = d.atom ++ '<' :: (inner ++ ['>']) := ht
  have hinner : Text.join [','] (inner.splitOn ',') = inner := List.intercalate_splitOn ','
  refine ⟨before, inner.splitOn ',', after, hb, ha, ?_, ?_⟩
  · rw [hp]
    exact lists_trim _
  · rw [hinner, ← htrim, ← hs]

/-- Trimming a key that writes a declaration down leaves its atom and its parameter list. -/
theorem WellFormed.trim_append (h : d.WellFormed) {before after : Text} (hb : Blank before)
    (ha : Blank after) (inner : Text) :
    Text.trim (before ++ (d.atom ++ '<' :: (inner ++ ['>']) ++ after)) =
      d.atom ++ '<' :: (inner ++ ['>']) := by
  obtain ⟨c, s, hs⟩ := List.exists_cons_of_ne_nil h.atom_ne_nil
  have hc : Text.isBlank c = false := by
    refine Text.not_isBlank_of_isWord (h.atom_word c ?_)
    rw [hs]
    exact List.mem_cons_self
  refine Text.trimWhile_append hb ha ⟨c, s ++ '<' :: (inner ++ ['>']), ?_, hc⟩
    ⟨d.atom ++ '<' :: inner, '>', ?_, by decide⟩
  · rw [hs, List.cons_append]
  · rw [List.append_assoc, List.cons_append]

/-- A well-formed declaration is read from every key that writes it down. -/
theorem WellFormed.parse? (h : d.WellFormed) (hk : d.WrittenIn key) : parse? key = some d := by
  obtain ⟨before, pieces, after, hb, ha, hlist, rfl⟩ := hk
  refine parse?_eq_some_iff.2 ⟨h.atom_ne_nil, h.atom_word, _, h.trim_append hb ha _, ?_, ?_,
    (hlist.splitParameters h.parameters).symm⟩
  · exact hlist.not_mem_join (by decide) (by decide) fun name hn => (h.parameters name hn).left
  · exact hlist.not_mem_join (by decide) (by decide) fun name hn => (h.parameters name hn).right

/-- The keys from which a declaration is read are those that write it down. -/
theorem parse_eq_ok_iff : parse key = .ok d ↔ d.WellFormed ∧ d.WrittenIn key := by
  rw [parse_eq_ok_iff_parse?]
  exact ⟨fun h => ⟨wellFormed_of_parse? h, writtenIn_of_parse? h⟩, fun h => h.1.parse? h.2⟩

theorem writtenIn_text (d : Declaration) : d.WrittenIn d.text :=
  ⟨[], d.parameters, [], nofun, nofun, .refl _, by simp [text]⟩

/-- A key is read as a declaration exactly if it writes it down and the declaration is well formed.
So what is read from a key is read again from the declaration of a rule with this atom and these
parameters, and from every other key that writes it down; and a word and names are read from the
declaration that is made of them. The keys that are read at all are those that are, without the
white space at their ends, a word with a list between angle brackets. -/
theorem parse_roundTrip :
    (∀ key d, parse key = .ok d ↔ d.WellFormed ∧ d.WrittenIn key) ∧
    (∀ key d, parse key = .ok d → ∀ key', d.WrittenIn key' → parse key' = .ok d) ∧
    (∀ r : Rule, (∃ key, parse key = .ok ⟨r.atom, r.parameters⟩) →
      parse r.declaration = .ok ⟨r.atom, r.parameters⟩) ∧
    (∀ r : Rule, parse r.declaration = .ok ⟨r.atom, r.parameters⟩ ↔
      WellFormed ⟨r.atom, r.parameters⟩) ∧
    (∀ key, (∃ d, parse key = .ok d) ↔ ∃ word, Spells key word) := by
  have hdeclaration (r : Rule) : parse r.declaration = .ok ⟨r.atom, r.parameters⟩ ↔
      WellFormed ⟨r.atom, r.parameters⟩ :=
    parse_eq_ok_iff.trans (and_iff_left (writtenIn_text _))
  refine ⟨fun key d => parse_eq_ok_iff, fun key d h key' hk => ?_, fun r ⟨key, h⟩ => ?_,
    hdeclaration, fun key => ?_⟩
  · exact parse_eq_ok_iff.2 ⟨(parse_eq_ok_iff.1 h).1, hk⟩
  · exact (hdeclaration r).2 (parse_eq_ok_iff.1 h).1
  · simp only [parse_eq_ok_iff_parse?, spells_iff]
    exact ⟨fun ⟨d, hd⟩ => ⟨d.atom, d, hd, rfl⟩, fun ⟨_, d, hd, _⟩ => ⟨d, hd⟩⟩

theorem parse_roundTrip_spaced :
    parse "\u00a0B_1< x y ,\t,z\n>\n".toList = .ok ⟨"B_1".toList, ["x y".toList, ['z']]⟩ ∧
      WellFormed ⟨"B_1".toList, ["x y".toList, ['z']]⟩ ∧
      parse "B_1<x y,z>".toList = .ok ⟨"B_1".toList, ["x y".toList, ['z']]⟩ := by
  have h : parse "\u00a0B_1< x y ,\t,z\n>\n".toList =
      .ok ⟨"B_1".toList, ["x y".toList, ['z']]⟩ := by decide +kernel
  have hr := parse_roundTrip.2.2.1 ⟨"B_1".toList, ["x y".toList, ['z']], [], [], false⟩ ⟨_, h⟩
  exact ⟨h, ((parse_roundTrip.1 _ _).1 h).1, hr⟩

end Declaration

end LSystem
