import LSystem.Proofs.Declaration.Keys
import LSystem.RuleTable
import Mathlib.Data.List.Nodup
import Mathlib.Data.List.Pairwise

/-! # The rules that a table holds

A table is looked at through `rules`, the rules that it holds in order, and through `rule?`, which
knows every rule ever added by its handle. `WellKept` is what all operations keep: the handles that
are held stand for rules, and no two of these have the same atom, which is a word. Under it looking
up an atom finds the one rule of this atom (`find?_eq_some_iff`), and for each operation there are
lemmas on when it succeeds and what it then does to both views. -/

namespace LSystem

namespace RuleTable

variable {t : RuleTable} {a key : Text} {h h' : Handle} {r : Rule} {hasAction : Bool}

/-- What every operation keeps. Also the atoms of rules that are not held any more are words. -/
structure WellKept (t : RuleTable) : Prop where
  known : ∀ h ∈ t.held, (t.rule? h).isSome
  words : ∀ {h r}, t.rule? h = some r → r.atom ≠ [] ∧ ∀ c ∈ r.atom, Text.isWord c
  distinct : t.atoms.Nodup

theorem WellKept.empty : WellKept {} := ⟨nofun, nofun, .nil⟩

theorem mem_rules_iff : r ∈ t.rules ↔ ∃ h ∈ t.held, t.rule? h = some r := List.mem_filterMap

theorem mem_atoms_iff : a ∈ t.atoms ↔ ∃ r ∈ t.rules, r.atom = a := List.mem_map

theorem isOf_iff : t.isOf a h ↔ ∃ r, t.rule? h = some r ∧ r.atom = a := by
  simp [isOf, Option.any_eq_true]

/-! ## Looking up -/

theorem of_handle? (hh : t.handle? a = some h) :
    h ∈ t.held ∧ ∃ r, t.rule? h = some r ∧ r.atom = a :=
  ⟨List.mem_of_find?_eq_some hh, isOf_iff.1 (List.find?_some hh)⟩

theorem handle?_isSome_iff : (t.handle? a).isSome ↔ a ∈ t.atoms := by
  rw [handle?, List.find?_isSome]
  simp only [isOf_iff, mem_atoms_iff, mem_rules_iff]
  constructor
  · rintro ⟨h, hh, r, hr, ha⟩
    exact ⟨r, ⟨h, hh, hr⟩, ha⟩
  · rintro ⟨r, ⟨h, hh, hr⟩, ha⟩
    exact ⟨h, hh, r, hr, ha⟩

theorem contains_iff : t.contains a ↔ a ∈ t.atoms := handle?_isSome_iff

theorem find?_eq_none_iff : t.find? a = none ↔ a ∉ t.atoms := by
  rw [← handle?_isSome_iff, find?]
  cases hh : t.handle? a with
  | none => simp
  | some h =>
    obtain ⟨-, r, hr, -⟩ := of_handle? hh
    simp [hr]

theorem mem_of_find? (hr : t.find? a = some r) : r ∈ t.rules ∧ r.atom = a := by
  obtain ⟨h, hh, hr⟩ := Option.bind_eq_some_iff.1 hr
  obtain ⟨hm, r', hr', ha⟩ := of_handle? hh
  cases hr.symm.trans hr'
  exact ⟨mem_rules_iff.2 ⟨h, hm, hr⟩, ha⟩

theorem get_eq_ok_iff : t.get a = .ok r ↔ t.find? a = some r := by
  rw [get]
  cases t.find? a with
  | none => simp
  | some r' => simp

/-- The rules that a table finds are those that it holds. -/
theorem mem_rules_of_get (h : t.get a = .ok r) : r ∈ t.rules :=
  (mem_of_find? (get_eq_ok_iff.1 h)).1

/-- Looking up an atom finds the rule of this atom. -/
theorem find?_eq_some_iff (hd : t.atoms.Nodup) : t.find? a = some r ↔ r ∈ t.rules ∧ r.atom = a := by
  refine ⟨mem_of_find?, fun ⟨hr, ha⟩ => ?_⟩
  have hm : a ∈ t.atoms := mem_atoms_iff.2 ⟨r, hr, ha⟩
  obtain ⟨r', hr'⟩ := Option.ne_none_iff_exists'.1 (mt find?_eq_none_iff.1 (not_not.2 hm))
  obtain ⟨hm', ha'⟩ := mem_of_find? hr'
  rw [hr', List.inj_on_of_nodup_map hd hm' hr (ha'.trans ha.symm)]

/-! ## Adding -/

theorem rule?_eq_none_iff : t.rule? h = none ↔ t.made.length ≤ h := List.getElem?_eq_none_iff

theorem rule?_concat (t : RuleTable) (r : Rule) (hs : List Handle) (h : Handle) :
    RuleTable.rule? ⟨t.made ++ [r], hs⟩ h = if h = t.made.length then some r else t.rule? h := by
  split
  · next hh => simp [rule?, hh]
  · next hh =>
    rcases Nat.lt_or_gt_of_ne hh with hh | hh
    · exact List.getElem?_append_left hh
    · rw [rule?_eq_none_iff.2 (Nat.le_of_lt hh), rule?_eq_none_iff]
      simpa using Nat.succ_le_of_lt hh

theorem rules_congr {t t' : RuleTable} (hh : t'.held = t.held)
    (hr : ∀ h ∈ t.held, t'.rule? h = t.rule? h) : t'.rules = t.rules := by
  rw [rules, hh]
  exact List.filterMap_congr hr

theorem rules_concat (hk : ∀ h ∈ t.held, (t.rule? h).isSome) (r : Rule) :
    RuleTable.rules ⟨t.made ++ [r], t.held ++ [t.made.length]⟩ = t.rules ++ [r] := by
  rw [rules, List.filterMap_append, rules]
  congr 1
  · refine List.filterMap_congr fun h hh => ?_
    rw [rule?_concat, if_neg]
    rintro rfl
    simpa [rule?] using hk _ hh
  · simp [rule?_concat]

/-- Adding a rule for a new atom puts it last. -/
theorem add_of_not_mem {d : Declaration} (t : RuleTable) (hasAction : Bool)
    (hd : Declaration.parse? key = some d) (hn : d.atom ∉ t.atoms) :
    t.add key hasAction = .ok (t.made.length,
      { made := t.made ++ [⟨d.atom, d.parameters, [], Text.trim key, hasAction⟩],
        held := t.held ++ [t.made.length] }) := by
  have hc : ¬t.contains d.atom := mt contains_iff.1 hn
  simp only [add, Rule.ofKey, Declaration.parse, hd]
  exact if_neg hc

theorem add_of_mem {d : Declaration} (t : RuleTable) (hasAction : Bool)
    (hd : Declaration.parse? key = some d) (hm : d.atom ∈ t.atoms) :
    t.add key hasAction = .error (.duplicateAtom d.atom) := by
  have hc : t.contains d.atom := contains_iff.2 hm
  simp only [add, Rule.ofKey, Declaration.parse, hd]
  exact if_pos hc

theorem add_of_parse?_eq_none (t : RuleTable) (hasAction : Bool)
    (hd : Declaration.parse? key = none) :
    t.add key hasAction = .error (.malformedDeclaration key) := by
  simp only [add, Rule.ofKey, Declaration.parse, hd]
  rfl

/-! ## Removing -/

theorem remove_of_not_mem (hn : a ∉ t.atoms) : t.remove a = .error (.unknownAtom a) := by
  rw [remove, find?_eq_none_iff.2 hn]

/-- The handle of the rule for an atom is the only one of this atom. -/
theorem isOf_iff_eq (hd : t.atoms.Nodup) (hh : t.handle? a = some h) (hm : h' ∈ t.held) :
    t.isOf a h' ↔ h' = h := by
  obtain ⟨hm', r, hr, ha⟩ := of_handle? hh
  refine ⟨fun hi => ?_, fun he => he ▸ isOf_iff.2 ⟨r, hr, ha⟩⟩
  obtain ⟨r', hr', ha'⟩ := isOf_iff.1 hi
  by_contra hne
  have hp : t.held.Pairwise fun h h' =>
      ∀ r, t.rule? h = some r → ∀ r', t.rule? h' = some r' → r.atom ≠ r'.atom :=
    List.pairwise_filterMap.1 (List.pairwise_map.1 hd)
  have : Std.Symm fun h h' =>
      ∀ r, t.rule? h = some r → ∀ r', t.rule? h' = some r' → r.atom ≠ r'.atom :=
    ⟨fun _ _ hs r hr r' hr' => (hs r' hr' r hr).symm⟩
  exact hp.forall hm hm' hne r' hr' r hr (ha'.trans ha.symm)

theorem filter_isOf (hd : t.atoms.Nodup) (hh : t.handle? a = some h) :
    (t.held.filter fun h => !t.isOf a h) = t.held.filter (· ≠ h) :=
  List.filter_congr fun h' hm => by simp [← isOf_iff_eq hd hh hm]

theorem remove_of_mem (hm : a ∈ t.atoms) :
    ∃ r, t.remove a = .ok (r, { t with held := t.held.filter fun h => !t.isOf a h }) := by
  obtain ⟨r, hr⟩ := Option.ne_none_iff_exists'.1 (mt find?_eq_none_iff.1 (not_not.2 hm))
  exact ⟨r, by rw [remove, hr]⟩

theorem rules_filter_held (t : RuleTable) (a : Text) :
    RuleTable.rules ⟨t.made, t.held.filter fun h => !t.isOf a h⟩ = t.rules.filter (·.atom ≠ a) := by
  rw [rules, rules, List.filterMap_filter, List.filter_filterMap]
  refine List.filterMap_congr fun h _ => ?_
  show (if !t.isOf a h then t.rule? h else none) = _
  rw [isOf]
  cases t.rule? h with
  | none => rfl
  | some r => simp [Option.filter]

/-! ## Changing -/

theorem rule?_modify (t : RuleTable) (h : Handle) (f : Rule → Rule) (h' : Handle) :
    (t.modify h f).rule? h' = if h' = h then (t.rule? h).map f else t.rule? h' := by
  rw [rule?, modify, List.getElem?_modify]
  split
  · next hh => rw [if_pos hh.symm, hh]; rfl
  · next hh => rw [if_neg (Ne.symm hh)]; simp [rule?]

end RuleTable

end LSystem
