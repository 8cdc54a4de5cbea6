import LSystem.Session
import LSystem.Proofs.RuleTable.Held
import Mathlib.Data.List.Dedup

/-! # What operations do to a table

`Transition` lists all that an operation can do to the table of a session, failures included; every
step of a session is one of these (`Session.step_transition`), and what a table keeps along a run is
read off them. A handle that is not held any more stays out of the table for good: what is changed
through it makes no difference to the rules that the table holds, then or later. -/

namespace LSystem

namespace Operation

/-- Whether an operation only looks at the rules: up, or to expand or execute a command. -/
def readsOnly : Operation → Bool
  | .add .. | .withBranch .. | .withFallback .. | .remove _ => false
  | _ => true

/-- The handle through which an operation changes a rule. -/
def target? : Operation → Option Handle
  | .withBranch h .. | .withFallback h _ => some h
  | _ => none

/-- The atom that is added, going by the answer. -/
def added : Operation → Answer → List Text
  | .add key _, .rule _ => ((Declaration.parse? key).map Declaration.atom).toList
  | _, _ => []

theorem added_of_readsOnly {op : Operation} (h : op.readsOnly) (answer : Answer) :
    op.added answer = [] := by
  cases op with
  | add | withBranch | withFallback | remove => cases h
  | _ => rfl

end Operation

namespace RuleTable

variable {t t' t₁ t₂ : RuleTable} {op : Operation} {answer : Answer} {h : Handle} {f : Rule → Rule}

/-- Only the rule of one handle is changed, by `f`. -/
structure ChangedAt (t : RuleTable) (h : Handle) (f : Rule → Rule) (t' : RuleTable) : Prop where
  held : t'.held = t.held
  rule : t'.rule? h = (t.rule? h).map f
  others : ∀ h' ≠ h, t'.rule? h' = t.rule? h'

theorem modify_changedAt (t : RuleTable) (h : Handle) (f : Rule → Rule) :
    t.ChangedAt h f (t.modify h f) where
  held := rfl
  rule := by rw [rule?_modify, if_pos rfl]
  others h' hne := by rw [rule?_modify, if_neg hne]

/-- How a table comes out of an operation, given the answer. If this is a failure, the table comes
out as it was. -/
inductive Transition (t : RuleTable) : Operation → Answer → RuleTable → Prop
  | added {key : Text} {hasAction : Bool} {d : Declaration} {h : Handle} {t' : RuleTable}
      (declared : Declaration.parse? key = some d) (new : d.atom ∉ t.atoms)
      (fresh : t.rule? h = none) (held : t'.held = t.held ++ [h])
      (rule : t'.rule? h = some ⟨d.atom, d.parameters, [], Text.trim key, hasAction⟩)
      (others : ∀ h' ≠ h, t'.rule? h' = t.rule? h')
      (rules : t'.rules = t.rules ++ [⟨d.atom, d.parameters, [], Text.trim key, hasAction⟩]) :
      Transition t (.add key hasAction) (.rule h) t'
  | malformed {key : Text} {hasAction : Bool} (undeclared : Declaration.parse? key = none) :
      Transition t (.add key hasAction) (.failed (.malformedDeclaration key)) t
  | duplicate {key : Text} {hasAction : Bool} {d : Declaration}
      (declared : Declaration.parse? key = some d) (old : d.atom ∈ t.atoms) :
      Transition t (.add key hasAction) (.failed (.duplicateAtom d.atom)) t
  | branch {h : Handle} {condition template : Text} {t' : RuleTable}
      (changed : t.ChangedAt h (·.withBranch condition template) t') :
      Transition t (.withBranch h condition template) (.rule h) t'
  | fallback {h : Handle} {template : Text} {t' : RuleTable}
      (changed : t.ChangedAt h (·.withFallback template) t') :
      Transition t (.withFallback h template) (.rule h) t'
  | removed {a : Text} {h : Handle} {t' : RuleTable}
      (there : a ∈ t.atoms) (found : t.handle? a = some h)
      (held : t'.held = t.held.filter (· ≠ h)) (known : ∀ h, t'.rule? h = t.rule? h)
      (rules : t'.rules = t.rules.filter (·.atom ≠ a)) :
      Transition t (.remove a) (.found (some h)) t'
  | unknown {a : Text} (absent : a ∉ t.atoms) :
      Transition t (.remove a) (.failed (.unknownAtom a)) t
  | read {op : Operation} {answer : Answer} (reads : op.readsOnly) : Transition t op answer t

/-! ## What transitions keep -/

theorem atoms_congr (hh : t'.held = t.held)
    (ha : ∀ h, (t'.rule? h).map Rule.atom = (t.rule? h).map Rule.atom) : t'.atoms = t.atoms := by
  simp only [atoms, rules, List.map_filterMap, hh, ha]

theorem atoms_of_rules_concat {r : Rule} (hr : t'.rules = t.rules ++ [r]) :
    t'.atoms = t.atoms ++ [r.atom] := by
  rw [atoms, hr, List.map_append]
  rfl

theorem ChangedAt.atom (hc : t.ChangedAt h f t') (hf : ∀ r, (f r).atom = r.atom) (h' : Handle) :
    (t'.rule? h').map Rule.atom = (t.rule? h').map Rule.atom := by
  by_cases he : h' = h
  · rw [he, hc.rule, Option.map_map]
    exact congrArg (Option.map · _) (funext hf)
  · rw [hc.others h' he]

theorem ChangedAt.atoms (hc : t.ChangedAt h f t') (hf : ∀ r, (f r).atom = r.atom) :
    t'.atoms = t.atoms :=
  atoms_congr hc.held (hc.atom hf)

theorem WellKept.changedAt (hk : t.WellKept) (hc : t.ChangedAt h f t')
    (hf : ∀ r, (f r).atom = r.atom) : t'.WellKept where
  known h' hh := by
    have ha := congrArg Option.isSome (hc.atom hf h')
    simp only [Option.isSome_map] at ha
    rw [ha]
    exact hk.known h' (hc.held ▸ hh)
  words {h' r'} hr := by
    have ha := hc.atom hf h'
    rw [hr, Option.map_some] at ha
    obtain ⟨r, hr, ha⟩ := Option.map_eq_some_iff.1 ha.symm
    exact ha ▸ hk.words hr
  distinct := hc.atoms hf ▸ hk.distinct

theorem Transition.wellKept (hk : t.WellKept) (ht : Transition t op answer t') : t'.WellKept := by
  cases ht with
  | @added key hasAction d h _ hd hn _ hheld hrule hothers hrules =>
    refine ⟨fun h' hh => ?_, fun {h' r} hr => ?_, ?_⟩
    · by_cases he : h' = h
      · rw [he, hrule]
        rfl
      · rw [hheld, List.mem_append] at hh
        rw [hothers h' he]
        exact hk.known h' (hh.resolve_right (by simpa using he))
    · by_cases he : h' = h
      · rw [he, hrule] at hr
        cases hr
        exact Declaration.atom_of_parse? hd
      · exact hk.words (hothers h' he ▸ hr)
    · rw [atoms_of_rules_concat hrules, ← List.concat_eq_append]
      exact hk.distinct.concat hn
  | branch hc => exact hk.changedAt hc fun _ => rfl
  | fallback hc => exact hk.changedAt hc fun _ => rfl
  | removed _ _ hheld hknown hrules =>
    refine ⟨fun h hh => ?_, fun hr => hk.words (hknown _ ▸ hr), ?_⟩
    · rw [hknown]
      exact hk.known h (List.mem_of_mem_filter (hheld ▸ hh))
    · rw [atoms, hrules]
      exact hk.distinct.sublist (List.filter_sublist.map _)
  | malformed | duplicate | unknown | read => exact hk

/-! ## The order of the atoms -/

theorem dedup_concat (log : List Text) (a : Text) :
    (log ++ [a]).dedup = log.dedup.filter (· ≠ a) ++ [a] := by
  induction log with
  | nil => simp
  | cons b log ih =>
    rw [List.cons_append]
    by_cases hb : b ∈ log
    · rw [List.dedup_cons_of_mem (List.mem_append_left _ hb), List.dedup_cons_of_mem hb, ih]
    · rw [List.dedup_cons_of_notMem hb, List.filter_cons]
      by_cases he : b = a
      · rw [List.dedup_cons_of_mem (by simp [he]), ih, if_neg (by simp [he])]
      · rw [List.dedup_cons_of_notMem (by simp [hb, he]), ih, if_pos (by simp [he])]
        rfl

/-- Atoms stay in the order in which they were added last, which `log` tells. -/
theorem Transition.order {log : List Text} (ht : Transition t op answer t')
    (hl : t.atoms.Sublist log.dedup) : t'.atoms.Sublist (log ++ op.added answer).dedup := by
  cases ht with
  | @added _ _ d _ _ hd hn _ _ _ _ hrules =>
    simp only [Operation.added, hd, Option.map_some, Option.toList_some]
    rw [atoms_of_rules_concat hrules, dedup_concat]
    refine List.Sublist.append ?_ (.refl _)
    have hf : t.atoms.filter (· ≠ d.atom) = t.atoms :=
      List.filter_eq_self.2 fun b hb => decide_eq_true (ne_of_mem_of_not_mem hb hn)
    exact hf ▸ hl.filter _
  | branch hc =>
    rw [hc.atoms fun _ => rfl]
    simpa [Operation.added] using hl
  | fallback hc =>
    rw [hc.atoms fun _ => rfl]
    simpa [Operation.added] using hl
  | removed _ _ _ _ hrules =>
    have hs : t'.atoms.Sublist t.atoms := by
      rw [atoms, hrules]
      exact List.filter_sublist.map _
    simpa [Operation.added] using hs.trans hl
  | read hr => simpa [Operation.added_of_readsOnly hr] using hl
  | malformed | duplicate | unknown => simpa [Operation.added] using hl

/-! ## Handles that are not held -/

/-- Two tables differ at most in the rule of one handle, which neither of them holds. -/
structure AgreeOff (h : Handle) (t₁ t₂ : RuleTable) : Prop where
  known : h < t₁.made.length
  unheld : h ∉ t₁.held
  held : t₂.held = t₁.held
  made : t₂.made.length = t₁.made.length
  rule : ∀ h' ≠ h, t₂.rule? h' = t₁.rule? h'

namespace AgreeOff

theorem refl (hk : (t.rule? h).isSome) (hn : h ∉ t.held) : AgreeOff h t t :=
  ⟨by simpa [rule?] using hk, hn, rfl, rfl, fun _ _ => rfl⟩

theorem rule_of_held (ha : AgreeOff h t₁ t₂) {h' : Handle} (hh : h' ∈ t₁.held) :
    t₂.rule? h' = t₁.rule? h' :=
  ha.rule h' (ne_of_mem_of_not_mem hh ha.unheld)

theorem rules (ha : AgreeOff h t₁ t₂) : t₂.rules = t₁.rules :=
  rules_congr ha.held fun _ hh => ha.rule_of_held hh

theorem atoms (ha : AgreeOff h t₁ t₂) : t₂.atoms = t₁.atoms := congrArg (List.map _) ha.rules

theorem isOf (ha : AgreeOff h t₁ t₂) {h' : Handle} (hh : h' ∈ t₁.held) (a : Text) :
    t₂.isOf a h' = t₁.isOf a h' := by
  rw [RuleTable.isOf, ha.rule_of_held hh, RuleTable.isOf]

theorem concat (ha : AgreeOff h t₁ t₂) (r : Rule) :
    AgreeOff h ⟨t₁.made ++ [r], t₁.held ++ [t₁.made.length]⟩
      ⟨t₂.made ++ [r], t₂.held ++ [t₂.made.length]⟩ where
  known := by simpa using Nat.lt_succ_of_lt ha.known
  unheld := by simpa using ⟨ha.unheld, Nat.ne_of_lt ha.known⟩
  held := by simp only [ha.held, ha.made]
  made := by simp only [List.length_append, ha.made]
  rule h' hne := by rw [rule?_concat, rule?_concat, ha.made, ha.rule h' hne]

theorem filter (ha : AgreeOff h t₁ t₂) (a : Text) :
    AgreeOff h ⟨t₁.made, t₁.held.filter fun h => !t₁.isOf a h⟩
      ⟨t₂.made, t₂.held.filter fun h => !t₂.isOf a h⟩ where
  known := ha.known
  unheld := mt List.mem_of_mem_filter ha.unheld
  held := by
    rw [ha.held]
    exact List.filter_congr fun h' hh => by rw [ha.isOf hh]
  made := ha.made
  rule := ha.rule

theorem modify (ha : AgreeOff h t₁ t₂) (h' : Handle) (f : Rule → Rule) :
    AgreeOff h (t₁.modify h' f) (t₂.modify h' f) where
  known := by simpa [RuleTable.modify] using ha.known
  unheld := ha.unheld
  held := ha.held
  made := by simpa [RuleTable.modify] using ha.made
  rule h'' hne := by
    rw [rule?_modify, rule?_modify]
    split
    · next he => rw [ha.rule h' (he ▸ hne)]
    · exact ha.rule h'' hne

theorem modify_left (ha : AgreeOff h t₁ t₂) (f : Rule → Rule) : AgreeOff h (t₁.modify h f) t₂ where
  known := by simpa [RuleTable.modify] using ha.known
  unheld := ha.unheld
  held := ha.held
  made := by simpa [RuleTable.modify] using ha.made
  rule h' hne := by rw [rule?_modify, if_neg hne, ha.rule h' hne]

end AgreeOff

end RuleTable

namespace Session

open RuleTable (AgreeOff Transition WellKept)

variable {σ : Type} {s : Session σ}

@[simp] theorem told_table (s : Session σ) (x : σ) (error? : Option Error) :
    (s.told x error?).1.table = s.table := by
  cases error? <;> rfl

theorem step_of_readsOnly (s : Session σ) {op : Operation} (h : op.readsOnly) :
    (s.step op).1.table = s.table := by
  cases op with
  | add | withBranch | withFallback | remove => cases h
  | dispatch | execute | expandThenExecute => exact told_table ..
  | _ => rfl

/-- Every operation is a transition of the table. -/
theorem step_transition (hk : s.table.WellKept) (op : Operation) :
    Transition s.table op (s.step op).2 (s.step op).1.table := by
  cases op with
  | add key hasAction =>
    cases hd : Declaration.parse? key with
    | none =>
      simp only [step, RuleTable.add_of_parse?_eq_none s.table hasAction hd]
      exact .malformed hd
    | some d =>
      by_cases hm : d.atom ∈ s.table.atoms
      · simp only [step, RuleTable.add_of_mem s.table hasAction hd hm]
        exact .duplicate hd hm
      · simp only [step, RuleTable.add_of_not_mem s.table hasAction hd hm]
        exact .added hd hm (RuleTable.rule?_eq_none_iff.2 (Nat.le_refl _)) rfl
          ((RuleTable.rule?_concat ..).trans (if_pos rfl))
          (fun h' hne => (RuleTable.rule?_concat ..).trans (if_neg hne))
          (RuleTable.rules_concat hk.known _)
  | withBranch h condition template => exact .branch (RuleTable.modify_changedAt ..)
  | withFallback h template => exact .fallback (RuleTable.modify_changedAt ..)
  | remove a =>
    by_cases hm : a ∈ s.table.atoms
    · obtain ⟨h, hh⟩ := Option.isSome_iff_exists.1 (RuleTable.handle?_isSome_iff.2 hm)
      obtain ⟨r, hr⟩ := RuleTable.remove_of_mem hm
      simp only [step, hr, hh]
      exact .removed hm hh (RuleTable.filter_isOf hk.distinct hh) (fun _ => rfl)
        (RuleTable.rules_filter_held ..)
    · simp only [step, RuleTable.remove_of_not_mem hm]
      exact .unknown hm
  | _ =>
    rw [step_of_readsOnly s rfl]
    exact .read rfl

variable {s₁ s₂ : Session σ} {h : Handle}

theorem step_agreeOff (ha : AgreeOff h s₁.table s₂.table) (op : Operation) :
    AgreeOff h (s₁.step op).1.table (s₂.step op).1.table := by
  cases op with
  | add key hasAction =>
    cases hd : Declaration.parse? key with
    | none => simpa only [step, RuleTable.add_of_parse?_eq_none _ hasAction hd] using ha
    | some d =>
      by_cases hm : d.atom ∈ s₁.table.atoms
      · have hm' := ha.atoms ▸ hm
        simpa only [step, RuleTable.add_of_mem _ hasAction hd hm,
          RuleTable.add_of_mem _ hasAction hd hm'] using ha
      · have hm' := ha.atoms ▸ hm
        simp only [step, RuleTable.add_of_not_mem _ hasAction hd hm,
          RuleTable.add_of_not_mem _ hasAction hd hm']
        exact ha.concat _
  | withBranch h' => exact ha.modify h' _
  | withFallback h' => exact ha.modify h' _
  | remove a =>
    by_cases hm : a ∈ s₁.table.atoms
    · obtain ⟨r₁, hr₁⟩ := RuleTable.remove_of_mem hm
      obtain ⟨r₂, hr₂⟩ := RuleTable.remove_of_mem (ha.atoms ▸ hm)
      simp only [step, hr₁, hr₂]
      exact ha.filter a
    · simpa only [step, RuleTable.remove_of_not_mem hm,
        RuleTable.remove_of_not_mem (ha.atoms ▸ hm)] using ha
  | _ =>
    rw [step_of_readsOnly s₁ rfl, step_of_readsOnly s₂ rfl]
    exact ha

theorem step_agreeOff_of_target? (ha : AgreeOff h s₁.table s₂.table) {op : Operation}
    (ht : op.target? = some h) : AgreeOff h (s₁.step op).1.table s₂.table := by
  cases op with
  | withBranch h' =>
    cases ht
    exact ha.modify_left _
  | withFallback h' =>
    cases ht
    exact ha.modify_left _
  | _ => cases ht

/-- What is changed through a handle that is not held makes no difference to the rules held. -/
theorem run_agreeOff (ha : AgreeOff h s₁.table s₂.table) (ops : List Operation) :
    AgreeOff h (s₁.run ops).table (s₂.run (ops.filter (·.target? ≠ some h))).table := by
  induction ops generalizing s₁ s₂ with
  | nil => exact ha
  | cons op ops ih =>
    rw [List.filter_cons]
    split
    · exact ih (step_agreeOff ha op)
    · next ht => exact ih (step_agreeOff_of_target? ha (by simpa using ht))

/-! ## Runs -/

theorem wellKept_run (hk : s.table.WellKept) (ops : List Operation) :
    (s.run ops).table.WellKept := by
  induction ops generalizing s with
  | nil => exact hk
  | cons op ops ih => exact ih ((step_transition hk op).wellKept hk)

/-- The atoms that are added in a run, in order. -/
def added (s : Session σ) : List Operation → List Text
  | [] => []
  | op :: ops => op.added (s.step op).2 ++ (s.step op).1.added ops

theorem order_run (hk : s.table.WellKept) {log : List Text}
    (hl : s.table.atoms.Sublist log.dedup) (ops : List Operation) :
    (s.run ops).table.atoms.Sublist (log ++ s.added ops).dedup := by
  induction ops generalizing s log with
  | nil => simpa [added, run] using hl
  | cons op ops ih =>
    have ht := step_transition hk op
    rw [added, ← List.append_assoc]
    exact ih (ht.wellKept hk) (ht.order hl)

/-- **A table along a run.** Whatever is done to a session that starts with an empty table, each
atom that the table then holds is a word, has one rule, which is found under it, and stands in the
order in which atoms were added last. The next operation is one of the transitions. Whatever is done
later through the handle of a rule that was removed, the table holds the same rules as without
it. -/
theorem table_of_run (evaluator : Evaluator) (consumer : Consumer σ) (state : σ)
    (ops : List Operation) :
    let s₀ := start evaluator consumer state
    let s := s₀.run ops
    (∀ a r, s.table.find? a = some r ↔ r ∈ s.table.rules ∧ r.atom = a) ∧
    s.table.atoms.Nodup ∧
    (∀ a ∈ s.table.atoms, a ≠ [] ∧ ∀ c ∈ a, Text.isWord c) ∧
    s.table.atoms.Sublist (s₀.added ops).dedup ∧
    (∀ op, Transition s.table op (s.step op).2 (s.step op).1.table) ∧
    ∀ h, (s.table.rule? h).isSome → h ∉ s.table.held → ∀ later,
      h ∉ (s.run later).table.held ∧
      (s.run later).table.rules =
        (s.run (later.filter (·.target? ≠ some h))).table.rules := by
  intro s₀ s
  have hk : s.table.WellKept := wellKept_run RuleTable.WellKept.empty ops
  have ho : s.table.atoms.Sublist ([] ++ s₀.added ops).dedup :=
    order_run RuleTable.WellKept.empty (.refl _) ops
  refine ⟨fun a r => RuleTable.find?_eq_some_iff hk.distinct, hk.distinct, fun a ha => ?_, ho,
    step_transition hk, fun h hr hh later => ?_⟩
  · obtain ⟨r, hr, rfl⟩ := RuleTable.mem_atoms_iff.1 ha
    obtain ⟨h, -, hr⟩ := RuleTable.mem_rules_iff.1 hr
    exact hk.words hr
  · have ha := run_agreeOff (.refl hr hh) later
    exact ⟨ha.unheld, ha.rules.symm⟩

/-- The first rule for an atom is changed after it was removed and the atom was added again. -/
theorem table_of_run_readded :
    let s := (start {} ({} : Consumer Unit) ()).run
      [.add "F<>".toList false, .remove ['F'], .add " F<x>".toList false]
    s.table.rules = [⟨['F'], [['x']], [], "F<x>".toList, false⟩] ∧ s.table.held = [1] ∧
      (s.run [.withFallback 0 ['['], .withBranch 0 "true".toList [], .remove ['G']]).table.rules =
        [⟨['F'], [['x']], [], "F<x>".toList, false⟩] := by
  intro s
  have hr : s.table.rules = [⟨['F'], [['x']], [], "F<x>".toList, false⟩] := by decide +kernel
  obtain ⟨-, -, -, -, -, h⟩ := table_of_run {} ({} : Consumer Unit) ()
    [.add "F<>".toList false, .remove ['F'], .add " F<x>".toList false]
  refine ⟨hr, by decide +kernel, ?_⟩
  rw [(h 0 (by decide +kernel) (by decide +kernel) _).2]
  exact hr

end Session

end LSystem
