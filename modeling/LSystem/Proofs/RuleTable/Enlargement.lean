import LSystem.Proofs.Result
import LSystem.Proofs.RuleTable.Transitions

/-! # Adding a rule to a table

A table with one more rule finds the same rules as before, and that one (`Enlarges`). This stays so
when the new rule is configured through its handle, since its atom does not change. The table need
not be `WellKept` for this: the handle of the new rule is `fresh`, so even if the table held it
already, it stood for nothing. -/

namespace LSystem

namespace RuleTable

variable {t t' t'' : RuleTable} {a b : Text} {h h' : Handle} {f : Rule → Rule}

/-- The table `t'` finds the rules that `t` finds, and one for `a`, which `t` does not have. -/
structure Enlarges (a : Text) (t t' : RuleTable) : Prop where
  absent : a ∉ t.atoms
  present : a ∈ t'.atoms
  others : ∀ b ≠ a, t'.find? b = t.find? b

theorem Enlarges.mem_atoms (ht : Enlarges a t t') (b : Text) :
    b ∈ t'.atoms ↔ b ∈ t.atoms ∨ b = a := by
  by_cases hb : b = a
  · subst hb
    simp [ht.present]
  · rw [or_iff_left hb, ← not_iff_not, ← find?_eq_none_iff, ht.others b hb, find?_eq_none_iff]

/-- Only the lookup of the new atom comes out differently. -/
theorem Enlarges.get (ht : Enlarges a t t') (b : Text) :
    Unless (.unknownAtom a) (t.get b) (t'.get b) := by
  by_cases hb : b = a
  · subst hb
    refine .inl ?_
    rw [RuleTable.get, find?_eq_none_iff.2 ht.absent]
  · refine .inr ?_
    rw [RuleTable.get, RuleTable.get, ht.others b hb]

/-- The table `t'` holds what `t` holds, and a rule for `a` behind it. -/
structure Appended (h : Handle) (a : Text) (t t' : RuleTable) : Prop where
  fresh : t.rule? h = none
  held : t'.held = t.held ++ [h]
  rule : ∃ r, t'.rule? h = some r ∧ r.atom = a
  others : ∀ h' ≠ h, t'.rule? h' = t.rule? h'

namespace Appended

theorem concat (t : RuleTable) (r : Rule) :
    Appended t.made.length r.atom t ⟨t.made ++ [r], t.held ++ [t.made.length]⟩ where
  fresh := rule?_eq_none_iff.2 (Nat.le_refl _)
  held := rfl
  rule := ⟨r, (rule?_concat ..).trans (if_pos rfl), rfl⟩
  others _ hne := (rule?_concat ..).trans (if_neg hne)

/-- The rule behind the others may be changed through its handle, except for its atom. -/
theorem changedAt (ht : Appended h a t t') (hc : t'.ChangedAt h f t'')
    (hf : ∀ r, (f r).atom = r.atom) : Appended h a t t'' where
  fresh := ht.fresh
  held := hc.held.trans ht.held
  rule := by
    obtain ⟨r, hr, ha⟩ := ht.rule
    exact ⟨f r, by rw [hc.rule, hr, Option.map_some], (hf r).trans ha⟩
  others h' hne := (hc.others h' hne).trans (ht.others h' hne)

theorem isOf (ht : Appended h a t t') : t'.isOf b h ↔ b = a := by
  obtain ⟨r, hr, ha⟩ := ht.rule
  rw [isOf_iff, hr]
  constructor
  · rintro ⟨r', hr', hb⟩
    cases hr'
    exact hb.symm.trans ha
  · rintro rfl
    exact ⟨r, rfl, ha⟩

theorem isOf_of_ne (ht : Appended h a t t') (hb : b ≠ a) (h' : Handle) :
    t'.isOf b h' = t.isOf b h' := by
  by_cases hh : h' = h
  · subst hh
    rw [Bool.eq_false_iff.2 (mt ht.isOf.1 hb), RuleTable.isOf, ht.fresh]
    rfl
  · rw [RuleTable.isOf, RuleTable.isOf, ht.others h' hh]

theorem handle?_of_ne (ht : Appended h a t t') (hb : b ≠ a) : t'.handle? b = t.handle? b := by
  have hf : t'.isOf b = t.isOf b := funext (ht.isOf_of_ne hb)
  have hh : t.isOf b h = false := by
    rw [← hf]
    exact Bool.eq_false_iff.2 (mt ht.isOf.1 hb)
  rw [handle?, handle?, hf, ht.held, List.find?_append, List.find?_singleton, hh]
  exact Option.or_none

theorem find?_of_ne (ht : Appended h a t t') (hb : b ≠ a) : t'.find? b = t.find? b := by
  rw [find?, find?, ht.handle?_of_ne hb]
  cases hh : t.handle? b with
  | none => rfl
  | some h' =>
    obtain ⟨-, r, hr, -⟩ := of_handle? hh
    refine ht.others h' ?_
    rintro rfl
    cases hr.symm.trans ht.fresh

theorem enlarges (ht : Appended h a t t') (ha : a ∉ t.atoms) : Enlarges a t t' where
  absent := ha
  present := by
    obtain ⟨r, hr, ha⟩ := ht.rule
    have hm : h ∈ t'.held := by simp [ht.held]
    exact mem_atoms_iff.2 ⟨r, mem_rules_iff.2 ⟨h, hm, hr⟩, ha⟩
  others _ hb := ht.find?_of_ne hb

end Appended

end RuleTable

namespace Session

open RuleTable (Appended)

variable {σ : Type} {s : Session σ} {a key : Text} {h : Handle} {hasAction : Bool}

/-- A rule is added behind the others, for an atom that had none. -/
theorem step_add_appended (hs : (s.step (.add key hasAction)).2 = .rule h) :
    ∃ d, Declaration.parse? key = some d ∧ d.atom ∉ s.table.atoms ∧
      Appended h d.atom s.table (s.step (.add key hasAction)).1.table := by
  cases hd : Declaration.parse? key with
  | none =>
    simp only [step, RuleTable.add_of_parse?_eq_none s.table hasAction hd] at hs
    cases hs
  | some d =>
    by_cases hm : d.atom ∈ s.table.atoms
    · simp only [step, RuleTable.add_of_mem s.table hasAction hd hm] at hs
      cases hs
    · refine ⟨d, rfl, hm, ?_⟩
      simp only [step, RuleTable.add_of_not_mem s.table hasAction hd hm] at hs ⊢
      cases hs
      exact Appended.concat s.table ⟨d.atom, d.parameters, [], Text.trim key, hasAction⟩

theorem run_appended {t : RuleTable} (hs : Appended h a t s.table) {ops : List Operation}
    (ho : ∀ op ∈ ops, op.target? = some h) : Appended h a t (s.run ops).table := by
  induction ops generalizing s with
  | nil => exact hs
  | cons op ops ih =>
    obtain ⟨hop, ho⟩ := List.forall_mem_cons.1 ho
    refine ih ?_ ho
    cases op with
    | withBranch h' =>
      cases hop
      exact hs.changedAt (RuleTable.modify_changedAt ..) fun _ => rfl
    | withFallback h' =>
      cases hop
      exact hs.changedAt (RuleTable.modify_changedAt ..) fun _ => rfl
    | _ => cases hop

/-! ## What stays -/

theorem told_evaluator (s : Session σ) (x : σ) (error? : Option Error) :
    (s.told x error?).1.grammar.evaluator = s.grammar.evaluator := by
  cases error? <;> rfl

theorem step_evaluator (s : Session σ) (op : Operation) :
    (s.step op).1.grammar.evaluator = s.grammar.evaluator := by
  cases op with
  | add key hasAction =>
    simp only [step]
    split <;> rfl
  | remove atom =>
    simp only [step]
    split <;> rfl
  | dispatch | execute | expandThenExecute => exact told_evaluator ..
  | _ => rfl

/-- No operation changes what expressions mean. -/
theorem run_evaluator (s : Session σ) (ops : List Operation) :
    (s.run ops).grammar.evaluator = s.grammar.evaluator := by
  induction ops generalizing s with
  | nil => rfl
  | cons op ops ih => exact (ih _).trans (step_evaluator s op)

end Session

end LSystem
