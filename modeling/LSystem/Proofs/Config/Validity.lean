import LSystem.Proofs.Config.Building
import LSystem.Proofs.Declaration.Keys

/-! # Values that are configurations

`Valid` says of a JSON value, part by part, that it can be taken for a configuration. Checking
decides it (`parse_decides`): a valid value gives the configuration that it holds, and every other
value is refused for a fault of the configuration. What is absent has a default; what is null is
absent for fallbacks only. -/

namespace LSystem

namespace Config

open Declaration (Spells spells_iff)

/-! ## Parts of a value -/

/-- A part that is as `P` says, unless it is absent. -/
def IfPresent (P : Json → Prop) (part : Option Json) : Prop := ∀ value, part = some value → P value

def IsText (value : Json) : Prop := ∃ s, value = .text s

/-- An object that is a branch: a condition and a template. -/
def IsBranch (value : Json) : Prop :=
  ∃ fields, value = .object fields ∧
    (∃ condition, Json.field? "if".toList fields = some (.text condition)) ∧
    ∃ template, Json.field? "then".toList fields = some (.text template)

/-- An object that configures a rule. -/
def IsRule (value : Json) : Prop :=
  ∃ fields, value = .object fields ∧
    IfPresent (fun v => ∃ items, v = .array items ∧ ∀ item ∈ items, IsBranch item)
      (Json.field? "branches".toList fields) ∧
    IfPresent (fun v => v = .null ∨ IsText v) (Json.field? "fallback".toList fields)

/-- Entries that are rules, no two of them for the same atom. -/
structure AreRules (entries : List (Text × Json)) : Prop where
  declared : ∀ entry ∈ entries, ∃ atom, Spells entry.1 atom
  distinct : entries.Pairwise fun entry entry' => ∀ atom, Spells entry.1 atom →
    ¬ Spells entry'.1 atom
  bodies : ∀ entry ∈ entries, IsRule entry.2

/-- The fields of an object that is a configuration. -/
structure AreFields (fields : List (Text × Json)) : Prop where
  name : IfPresent IsText (Json.field? "name".toList fields)
  start : ∃ s, Json.field? "axiom".toList fields = some (.text s) ∧ s ≠ []
  iterations : IfPresent (fun v => ∃ i : Int, v = .int i ∧ 0 ≤ i)
    (Json.field? "iterations".toList fields)
  rules : IfPresent (fun v => ∃ entries, v = .object entries ∧ AreRules entries)
    (Json.field? "rules".toList fields)

/-- A value that can be taken for a configuration. -/
def Valid (value : Json) : Prop := ∃ fields, value = .object fields ∧ AreFields fields

/-! ## What such parts say -/

section
variable {α : Type} {part : Option Json} {f : α → Json} {P : α → Prop} {a : α}

/-- A part with a default of its kind. -/
theorem exists_getD_iff (ha : P a) :
    (∃ b, part.getD (f a) = f b ∧ P b) ↔ IfPresent (fun v => ∃ b, v = f b ∧ P b) part := by
  cases part with
  | none => exact ⟨fun _ => nofun, fun _ => ⟨a, rfl, ha⟩⟩
  | some value =>
    constructor
    · rintro h _ ⟨⟩
      exact h
    · exact fun h => h value rfl

/-- A part whose default is none of the values that `P` allows. -/
theorem exists_getD_iff_of_not (hf : Function.Injective f) (ha : ¬ P a) :
    (∃ b, part.getD (f a) = f b ∧ P b) ↔ ∃ b, part = some (f b) ∧ P b := by
  refine exists_congr fun b => and_congr_left fun hb => ?_
  cases part with
  | none =>
    constructor
    · intro e
      exact absurd (hf e ▸ hb) ha
    · exact nofun
  | some value => simp

end

/-- Items are related to something each if they are related to a list. -/
theorem exists_forall₂_iff {α β : Type} {R : α → β → Prop} {l : List α} :
    (∃ l', List.Forall₂ R l l') ↔ ∀ a ∈ l, ∃ b, R a b := by
  induction l with
  | nil => exact ⟨fun _ => nofun, fun _ => ⟨[], .nil⟩⟩
  | cons a l ih =>
    rw [List.forall_mem_cons, ← ih]
    constructor
    · rintro ⟨_, _ | ⟨h, hl⟩⟩
      exact ⟨⟨_, h⟩, _, hl⟩
    · rintro ⟨⟨b, h⟩, l', hl⟩
      exact ⟨b :: l', .cons h hl⟩

theorem exists_saysBranch_iff {value : Json} : (∃ b, SaysBranch value b) ↔ IsBranch value := by
  constructor
  · rintro ⟨b, fields, hv, hc, ht⟩
    exact ⟨fields, hv, ⟨b.condition, hc⟩, b.template, ht⟩
  · rintro ⟨fields, hv, ⟨condition, hc⟩, template, ht⟩
    exact ⟨⟨condition, template⟩, fields, hv, hc, ht⟩

theorem exists_saysBranches_iff {part : Option Json} : (∃ bs, SaysBranches part bs) ↔
    IfPresent (fun v => ∃ items, v = .array items ∧ ∀ item ∈ items, IsBranch item) part := by
  have hitems (items : List Json) :
      (∃ bs, List.Forall₂ SaysBranch items bs) ↔ ∀ item ∈ items, IsBranch item :=
    exists_forall₂_iff.trans (forall₂_congr fun _ _ => exists_saysBranch_iff)
  refine Iff.trans ?_ (exists_getD_iff (a := []) nofun)
  constructor
  · rintro ⟨bs, items, hv, h⟩
    exact ⟨items, hv, (hitems items).1 ⟨bs, h⟩⟩
  · rintro ⟨items, hv, h⟩
    obtain ⟨bs, h⟩ := (hitems items).2 h
    exact ⟨bs, items, hv, h⟩

theorem exists_saysFallback_iff {part : Option Json} :
    (∃ fallback, SaysFallback part fallback) ↔ IfPresent (fun v => v = .null ∨ IsText v) part := by
  constructor
  · rintro ⟨_, _ | _ | s⟩ value e
    · cases e
    · cases e
      exact .inl rfl
    · cases e
      exact .inr ⟨s, rfl⟩
  · intro h
    cases part with
    | none => exact ⟨none, .missing⟩
    | some value =>
      obtain rfl | ⟨s, rfl⟩ := h value rfl
      · exact ⟨none, .null⟩
      · exact ⟨some s, .text s⟩

theorem exists_saysRule_iff {entry : Text × Json} :
    (∃ spec, SaysRule entry spec) ↔ IsRule entry.2 := by
  constructor
  · rintro ⟨spec, -, fields, hv, hb, hf⟩
    exact ⟨fields, hv, exists_saysBranches_iff.1 ⟨_, hb⟩, exists_saysFallback_iff.1 ⟨_, hf⟩⟩
  · rintro ⟨fields, hv, hb, hf⟩
    obtain ⟨branches, hb⟩ := exists_saysBranches_iff.2 hb
    obtain ⟨fallback, hf⟩ := exists_saysFallback_iff.2 hf
    exact ⟨⟨entry.1, branches, fallback⟩, rfl, fields, hv, hb, hf⟩

theorem Declares.exists_key {keys : List Text} {ds : List Declaration} (hd : Declares keys ds)
    {d : Declaration} (hm : d ∈ ds) : ∃ key ∈ keys, Declaration.parse? key = some d := by
  obtain ⟨h, -⟩ := hd
  induction h with
  | nil => cases hm
  | cons hkey _ ih =>
    rcases List.mem_cons.1 hm with rfl | hm
    · exact ⟨_, List.mem_cons_self, hkey⟩
    · obtain ⟨key, hk, h⟩ := ih hm
      exact ⟨key, List.mem_cons_of_mem _ hk, h⟩

theorem exists_declares_iff {keys : List Text} : (∃ ds, Declares keys ds) ↔
    (∀ key ∈ keys, ∃ atom, Spells key atom) ∧
      keys.Pairwise fun key key' => ∀ atom, Spells key atom → ¬ Spells key' atom := by
  induction keys with
  | nil => exact ⟨fun _ => ⟨nofun, .nil⟩, fun _ => ⟨[], .nil, .nil⟩⟩
  | cons key keys ih =>
    rw [List.forall_mem_cons, List.pairwise_cons]
    simp only [declares_cons_iff]
    constructor
    · rintro ⟨_, d, ds, rfl, hd, hds, hne⟩
      obtain ⟨hall, hpair⟩ := ih.1 ⟨ds, hds⟩
      refine ⟨⟨⟨d.atom, spells_iff.2 ⟨d, hd, rfl⟩⟩, hall⟩, fun key' hm atom h h' => ?_, hpair⟩
      obtain ⟨e, he, rfl⟩ := spells_iff.1 h
      obtain ⟨e', he', ha⟩ := spells_iff.1 h'
      obtain rfl : d = e := Option.some.inj (hd.symm.trans he)
      -- The declaration of a later key is among those that have other atoms.
      obtain ⟨i, hi⟩ := List.getElem?_of_mem hm
      obtain ⟨d', hi', hd'⟩ := hds.getElem? hi
      obtain rfl : d' = e' := Option.some.inj (hd'.symm.trans he')
      exact hne d' (List.mem_of_getElem? hi') ha
    · rintro ⟨⟨⟨atom, h⟩, hall⟩, hapart, hpair⟩
      obtain ⟨ds, hds⟩ := ih.2 ⟨hall, hpair⟩
      obtain ⟨d, hd, rfl⟩ := spells_iff.1 h
      refine ⟨d :: ds, d, ds, rfl, hd, hds, fun d' hm ha => ?_⟩
      obtain ⟨key', hkey', hd'⟩ := hds.exists_key hm
      exact hapart key' hkey' d.atom h (spells_iff.2 ⟨d', hd', ha⟩)

theorem exists_rules_iff {entries : List (Text × Json)} :
    (∃ specs, List.Forall₂ SaysRule entries specs ∧ ∃ ds, Declares (entries.map Prod.fst) ds) ↔
      AreRules entries := by
  have hspecs : (∃ specs, List.Forall₂ SaysRule entries specs) ↔
      ∀ entry ∈ entries, IsRule entry.2 :=
    exists_forall₂_iff.trans (forall₂_congr fun _ _ => exists_saysRule_iff)
  rw [exists_and_right, hspecs, exists_declares_iff, List.forall_mem_map, List.pairwise_map]
  exact ⟨fun h => ⟨h.2.1, h.2.2, h.1⟩, fun h => ⟨h.bodies, h.declared, h.distinct⟩⟩

/-! ## Values -/

theorem exists_text_iff {part : Option Json} (default : Text) :
    (∃ s, part.getD (.text default) = .text s) ↔ IfPresent IsText part := by
  have h : (∃ s, part.getD (.text default) = .text s ∧ True) ↔
      IfPresent (fun v => ∃ s, v = .text s ∧ True) part := exists_getD_iff trivial
  simp only [and_true] at h
  exact h

theorem exists_nat_iff {part : Option Json} : (∃ n : Nat, part.getD (.int 0) = .int n) ↔
    IfPresent (fun v => ∃ i : Int, v = .int i ∧ 0 ≤ i) part := by
  refine Iff.trans ?_ (exists_getD_iff (Int.le_refl 0))
  constructor
  · rintro ⟨n, h⟩
    exact ⟨n, h, Int.natCast_nonneg n⟩
  · rintro ⟨i, h, hi⟩
    exact ⟨i.toNat, by rw [h, Int.toNat_of_nonneg hi]⟩

/-- The values that hold a configuration are the valid ones. -/
theorem exists_holds_iff {value : Json} : (∃ config, Holds value config) ↔ Valid value := by
  have hstart (part : Option Json) : (∃ s, part.getD (.text []) = .text s ∧ s ≠ []) ↔
      ∃ s, part = some (.text s) ∧ s ≠ [] :=
    exists_getD_iff_of_not (fun _ _ => Json.text.inj) (not_not_intro rfl)
  have hrules (part : Option Json) :
      (∃ entries, part.getD (.object []) = .object entries ∧ AreRules entries) ↔
        IfPresent (fun v => ∃ entries, v = .object entries ∧ AreRules entries) part :=
    exists_getD_iff ⟨nofun, .nil, nofun⟩
  constructor
  · rintro ⟨config, fields, hv, hn, hs, hne, hi, entries, he, hspecs⟩
    exact ⟨fields, hv, (exists_text_iff _).1 ⟨_, hn⟩, (hstart _).1 ⟨_, hs, hne⟩,
      exists_nat_iff.1 ⟨_, hi⟩, (hrules _).1 ⟨entries, he, exists_rules_iff.1 ⟨_, hspecs⟩⟩⟩
  · rintro ⟨fields, hv, h⟩
    obtain ⟨name, hn⟩ := (exists_text_iff "L-System".toList).2 h.name
    obtain ⟨start, hs, hne⟩ := (hstart _).2 h.start
    obtain ⟨iterations, hi⟩ := exists_nat_iff.2 h.iterations
    obtain ⟨entries, he, hr⟩ := (hrules _).2 h.rules
    obtain ⟨rules, hspecs⟩ := exists_rules_iff.2 hr
    exact ⟨⟨name, start, iterations, rules⟩, fields, hv, hn, hs, hne, hi, entries, he, hspecs⟩

/-- **Checking decides validity.** A value is taken for a configuration if it is valid, and the
configuration is the one that the value holds, with defaults for what is absent and with all rules
and branches in order. Every other value is refused for a fault of the configuration, and checking
fails in no other way. -/
theorem parse_decides (value : Json) :
    ((∃ config, parse value = .ok config) ↔ Valid value) ∧
      (∀ config, parse value = .ok config ↔ Holds value config) ∧
      ((∃ fault, parse value = .error (.config fault)) ↔ ¬ Valid value) ∧
      ∀ e, parse value = .error e → e.kind = .config := by
  have hvalid : (∃ config, parse value = .ok config) ↔ Valid value :=
    (exists_congr fun _ => parse_eq_ok_iff).trans exists_holds_iff
  refine ⟨hvalid, fun _ => parse_eq_ok_iff, ⟨?_, fun h => ?_⟩, fun e he => ?_⟩
  · rintro ⟨fault, hf⟩ h
    obtain ⟨config, hc⟩ := hvalid.2 h
    cases hf.symm.trans hc
  · exact refused_of_not_holds fun config hc => h (exists_holds_iff.1 ⟨config, hc⟩)
  · obtain ⟨fault, rfl⟩ := parse_fails value e he
    rfl

/-- A rule with some fields, in a value that is a configuration but for this rule perhaps. -/
def ruleWith (fields : List (Text × Json)) : Json := valueOf [("F<x>".toList, .object fields)]

/-- A fallback may be null, and branches may not; a truth value is no number of rounds. -/
theorem parse_decides_null : Valid (ruleWith [("fallback".toList, .null)]) ∧
    ¬ Valid (ruleWith [("branches".toList, .null)]) ∧
    ¬ Valid (.object [("axiom".toList, .text ['[']), ("iterations".toList, .bool true)]) := by
  obtain ⟨hfallback, -⟩ := parse_decides (ruleWith [("fallback".toList, .null)])
  obtain ⟨-, -, hbranches, -⟩ := parse_decides (ruleWith [("branches".toList, .null)])
  obtain ⟨-, -, hrounds, -⟩ := parse_decides
    (.object [("axiom".toList, .text ['[']), ("iterations".toList, .bool true)])
  exact ⟨hfallback.1
      ⟨⟨"L-System".toList, ['['], 0, [⟨"F<x>".toList, [], none⟩]⟩, by decide +kernel⟩,
    hbranches.1 ⟨.shape "rules['F<x>'].branches".toList .array, by decide +kernel⟩,
    hrounds.1 ⟨.shape "iterations".toList .integer, by decide +kernel⟩⟩

end Config

end LSystem
