import LSystem.Proofs.Result
import LSystem.Rule
import Mathlib.Data.List.Basic

/-! # Which branch decides a call

The conditions of a rule are tried in order until one is not false. What comes of this one is what
comes of the call (`select_of_decidedAt`), so neither the branches behind it nor the fallback
matter. From this it is read off when a template is selected, when the fallback is, and when
selecting fails (`select_firstMatch`). Templates may be the same text, so to say that one of them is
selected we ask for it whatever the templates are (`SelectsBranch`); a rule whose templates are all
different (`numbered`) then shows which one it is. -/

namespace LSystem

namespace Evaluator

variable {ev : Evaluator} {source : Text}

theorem condition_eq_ok_iff {v : Bool} :
    ev.condition source = .ok v ↔ ev.evaluate source = .ok (.bool v) := by
  rw [condition, bind_eq_ok_iff]
  constructor
  · rintro ⟨value, hv, h⟩
    split at h
    · cases h
      exact hv
    · obtain ⟨_, -, h⟩ := bind_eq_ok_iff.1 h
      cases h
  · exact fun h => ⟨_, h, rfl⟩

/-- A condition fails exactly if it has no truth value. -/
theorem condition_fails_iff :
    (∃ e, ev.condition source = .error e) ↔ ∀ v : Bool, ev.evaluate source ≠ .ok (.bool v) := by
  simp only [ne_eq, ← condition_eq_ok_iff]
  cases ev.condition source with
  | error e => simp
  | ok v => simp

end Evaluator

/-- Either all elements of a list satisfy `P`, or there is a first one that does not. -/
theorem forall_mem_or_exists_first {α : Type} (P : α → Prop) (l : List α) :
    (∀ a ∈ l, P a) ∨ ∃ (i : Nat) (a : α), l[i]? = some a ∧ (∀ b ∈ l.take i, P b) ∧ ¬ P a := by
  induction l with
  | nil => exact .inl nofun
  | cons a l ih =>
    by_cases ha : P a
    · refine ih.imp (fun h => List.forall_mem_cons.2 ⟨ha, h⟩) fun ⟨i, b, hi, hb, hn⟩ => ?_
      exact ⟨i + 1, b, hi, List.forall_mem_cons.2 ⟨ha, hb⟩, hn⟩
    · exact .inr ⟨0, a, rfl, nofun, ha⟩

namespace Rule

variable {r r' : Rule} {ev : Evaluator} {args : List Text} {bs before : List Branch} {b : Branch}
  {i n : Nat} {e : Error}

theorem checkArity_eq_ok_iff : r.checkArity args = .ok () ↔ args.length = r.parameters.length := by
  rw [checkArity]
  split
  · next h => exact ⟨fun _ => h, fun _ => rfl⟩
  · next h => exact ⟨nofun, fun h' => absurd h' h⟩

/-- The condition of a branch has a truth value for a call. -/
def Answers (r : Rule) (ev : Evaluator) (args : List Text) (b : Branch) (v : Bool) : Prop :=
  ev.evaluate (r.substitute b.condition args) = .ok (.bool v)

/-- The conditions of some branches are all false for a call. -/
def PassesOver (r : Rule) (ev : Evaluator) (args : List Text) (bs : List Branch) : Prop :=
  ∀ b ∈ bs, r.Answers ev args b false

/-- The branch at place `i` is the first one whose condition is not false for a call. -/
structure DecidedAt (r : Rule) (ev : Evaluator) (args : List Text) (i : Nat) (b : Branch) :
    Prop where
  branch : r.branches[i]? = some b
  before : r.PassesOver ev args (r.branches.take i)
  here : ¬ r.Answers ev args b false

/-- Rules that try the same conditions with the same parameters. Their templates may differ. -/
structure Retells (r r' : Rule) : Prop where
  parameters : r'.parameters = r.parameters
  conditions : r'.branches.map Branch.condition = r.branches.map Branch.condition

/-- The template of the branch at place `i` is selected. This is so whatever the templates are, so
it is not the template of another branch that happens to be the same. -/
def SelectsBranch (r : Rule) (ev : Evaluator) (args : List Text) (i : Nat) : Prop :=
  ∀ r', r.Retells r' → ∃ b, r'.branches[i]? = some b ∧ r'.select ev args = .ok b.template

/-- The fallback is selected, whatever the templates are. -/
def SelectsFallback (r : Rule) (ev : Evaluator) (args : List Text) : Prop :=
  ∀ r', r.Retells r' → r'.select ev args = .ok r'.fallback

/-- The rule with its first branches only. -/
def upTo (r : Rule) (n : Nat) : Rule := { r with branches := r.branches.take n }

/-- Selecting fails at the branch at place `i`: with the branches before it alone it does not fail,
and with this one it fails as it does with all of them. -/
structure FailsAt (r : Rule) (ev : Evaluator) (args : List Text) (i : Nat) (e : Error) : Prop where
  before : ∀ e', (r.upTo i).select ev args ≠ .error e'
  here : (r.upTo (i + 1)).select ev args = .error e
  all : r.select ev args = .error e

/-- What a rule becomes when branches are added behind the others and the fallback is changed, any
number of times. -/
inductive Becomes (r : Rule) : Rule → Prop where
  | refl : Becomes r r
  | withBranch {r' : Rule} (condition template : Text) : Becomes r r' →
    Becomes r (r'.withBranch condition template)
  | withFallback {r' : Rule} (template : Text) : Becomes r r' →
    Becomes r (r'.withFallback template)

/-! ## Trying the branches -/

theorem selectFrom_append (h : r.PassesOver ev args before) (bs : List Branch) :
    r.selectFrom ev args (before ++ bs) = r.selectFrom ev args bs := by
  induction before with
  | nil => rfl
  | cons b before ih =>
    obtain ⟨hb, h⟩ := List.forall_mem_cons.1 h
    rw [List.cons_append, selectFrom, Evaluator.condition_eq_ok_iff.2 hb]
    exact ih h

/-- A branch that is not passed over decides, whatever comes behind it. -/
theorem selectFrom_cons (h : ¬ r.Answers ev args b false) (bs : List Branch) :
    r.selectFrom ev args (b :: bs) =
      (ev.condition (r.substitute b.condition args)).map fun _ => b.template := by
  rw [selectFrom]
  cases hc : ev.condition (r.substitute b.condition args) with
  | error e => rfl
  | ok v =>
    cases v with
    | false => exact absurd (Evaluator.condition_eq_ok_iff.1 hc) h
    | true => rfl

theorem branches_eq_of_getElem? (h : r.branches[i]? = some b) :
    r.branches = r.branches.take i ++ b :: r.branches.drop (i + 1) := by
  obtain ⟨hi, rfl⟩ := List.getElem?_eq_some_iff.1 h
  rw [← List.drop_eq_getElem_cons hi, List.take_append_drop]

/-- All branches are passed over, or one of them decides. -/
theorem passesOver_or_decidedAt (r : Rule) (ev : Evaluator) (args : List Text) :
    r.PassesOver ev args r.branches ∨ ∃ i b, r.DecidedAt ev args i b := by
  refine (forall_mem_or_exists_first _ r.branches).imp_right ?_
  rintro ⟨i, b, hi, hb, hn⟩
  exact ⟨i, b, hi, hb, hn⟩

section
variable (hlen : args.length = r.parameters.length)
include hlen

theorem select_eq_selectFrom : r.select ev args = r.selectFrom ev args r.branches := by
  rw [select, checkArity_eq_ok_iff.2 hlen]
  rfl

theorem select_of_passesOver (h : r.PassesOver ev args r.branches) :
    r.select ev args = .ok r.fallback := by
  have := selectFrom_append h []
  rw [List.append_nil] at this
  exact (select_eq_selectFrom hlen).trans this

/-- The first branch whose condition is not false decides a call. -/
theorem select_of_decidedAt (h : r.DecidedAt ev args i b) :
    r.select ev args =
      (ev.condition (r.substitute b.condition args)).map fun _ => b.template := by
  rw [select_eq_selectFrom hlen, branches_eq_of_getElem? h.branch, selectFrom_append h.before,
    selectFrom_cons h.here]

end

/-! ## Rules with the same conditions -/

theorem substitute_congr (h : r'.parameters = r.parameters) : r'.substitute = r.substitute := by
  funext s args
  rw [substitute, substitute, h]

theorem passesOver_congr (h : r'.parameters = r.parameters) :
    r'.PassesOver ev args bs ↔ r.PassesOver ev args bs := by
  simp only [PassesOver, Answers, substitute_congr h]

/-- The branches up to the one that decides are all that matters. -/
theorem DecidedAt.congr (h : r.DecidedAt ev args i b) (hp : r'.parameters = r.parameters)
    (hb : r'.branches.take (i + 1) = r.branches.take (i + 1)) : r'.DecidedAt ev args i b := by
  have hi : r'.branches[i]? = r.branches[i]? := by
    rw [← List.getElem?_take_of_lt (Nat.lt_succ_self i), hb,
      List.getElem?_take_of_lt (Nat.lt_succ_self i)]
  have htake : r'.branches.take i = r.branches.take i := by
    have := congrArg (List.take i) hb
    rwa [List.take_take, List.take_take, Nat.min_eq_left (Nat.le_succ i)] at this
  refine ⟨hi.trans h.branch, ?_, ?_⟩
  · rw [htake, passesOver_congr hp]
    exact h.before
  · rw [Answers, substitute_congr hp]
    exact h.here

namespace Retells

theorem passesOver (h : r.Retells r') (hb : r.PassesOver ev args (r.branches.take n)) :
    r'.PassesOver ev args (r'.branches.take n) := by
  have hconditions : (r'.branches.take n).map Branch.condition =
      (r.branches.take n).map Branch.condition := by
    rw [List.map_take, List.map_take, h.conditions]
  have hfalse : ∀ c ∈ (r'.branches.take n).map Branch.condition,
      ev.evaluate (r.substitute c args) = .ok (.bool false) := by
    rw [hconditions]
    exact List.forall_mem_map.2 hb
  exact (passesOver_congr h.parameters).2 (List.forall_mem_map.1 hfalse)

theorem passesOver_all (h : r.Retells r') (hb : r.PassesOver ev args r.branches) :
    r'.PassesOver ev args r'.branches := by
  have hlength : r'.branches.length = r.branches.length := by
    simpa using congrArg List.length h.conditions
  rw [← List.take_length (l := r.branches)] at hb
  have := h.passesOver hb
  rwa [← hlength, List.take_length] at this

theorem decidedAt (h : r.Retells r') (hb : r.DecidedAt ev args i b) :
    ∃ b', r'.DecidedAt ev args i b' ∧ b'.condition = b.condition := by
  have hi : r'.branches[i]?.map Branch.condition = some b.condition := by
    rw [← List.getElem?_map, h.conditions, List.getElem?_map, hb.branch, Option.map_some]
  obtain ⟨b', hb', hc⟩ := Option.map_eq_some_iff.1 hi
  refine ⟨b', ⟨hb', h.passesOver hb.before, ?_⟩, hc⟩
  rw [Answers, substitute_congr h.parameters, hc]
  exact hb.here

end Retells

theorem DecidedAt.upTo (h : r.DecidedAt ev args i b) (hi : i < n) :
    (r.upTo n).DecidedAt ev args i b := by
  refine h.congr rfl ?_
  rw [Rule.upTo, List.take_take, Nat.min_eq_left hi]

namespace Becomes

theorem parameters (h : r.Becomes r') : r'.parameters = r.parameters := by
  induction h with
  | refl => rfl
  | withBranch _ _ _ ih => exact ih
  | withFallback _ _ ih => exact ih

theorem branches (h : r.Becomes r') : r.branches <+: r'.branches := by
  induction h with
  | refl => exact List.prefix_rfl
  | withBranch _ _ _ ih => exact ih.trans (List.prefix_append _ _)
  | withFallback _ _ ih => exact ih

theorem decidedAt (h : r.Becomes r') (hd : r.DecidedAt ev args i b) : r'.DecidedAt ev args i b := by
  obtain ⟨more, hmore⟩ := h.branches
  have hi : i < r.branches.length := (List.getElem?_eq_some_iff.1 hd.branch).1
  refine hd.congr h.parameters ?_
  rw [← hmore, List.take_append_of_le_length hi]

end Becomes

/-- The rule with the place of each branch for its template, and one more for the fallback. -/
def numbered (r : Rule) : Rule where
  atom := r.atom
  parameters := r.parameters
  branches := r.branches.mapIdx fun i b => ⟨b.condition, List.replicate i '|'⟩
  fallback := List.replicate r.branches.length '|'
  hasAction := r.hasAction

theorem getElem?_numbered (r : Rule) (i : Nat) : r.numbered.branches[i]? =
    r.branches[i]?.map fun b => ⟨b.condition, List.replicate i '|'⟩ :=
  List.getElem?_mapIdx

theorem retells_numbered (r : Rule) : r.Retells r.numbered := by
  refine ⟨rfl, List.ext_getElem? fun i => ?_⟩
  rw [List.getElem?_map, List.getElem?_map, getElem?_numbered, Option.map_map]
  rfl

/-! ## Decisions -/

section
variable (hlen : args.length = r.parameters.length)
include hlen

theorem select_numbered_of_passesOver (h : r.PassesOver ev args r.branches) :
    r.numbered.select ev args = .ok (List.replicate r.branches.length '|') :=
  select_of_passesOver (r := r.numbered) hlen (r.retells_numbered.passesOver_all h)

theorem select_numbered_of_decidedAt (h : r.DecidedAt ev args i b) :
    r.numbered.select ev args =
      (ev.condition (r.substitute b.condition args)).map fun _ => List.replicate i '|' := by
  obtain ⟨b', hb', hc⟩ := r.retells_numbered.decidedAt h
  have ht : b'.template = List.replicate i '|' := by
    have := hb'.branch
    rw [getElem?_numbered, h.branch, Option.map_some, Option.some.injEq] at this
    rw [← this]
  rw [select_of_decidedAt (r := r.numbered) hlen hb', hc, ht]
  rfl

theorem selectsBranch_iff (hb : r.branches[i]? = some b) : r.SelectsBranch ev args i ↔
    r.PassesOver ev args (r.branches.take i) ∧ r.Answers ev args b true := by
  constructor
  · intro h
    -- With numbers for templates, what is selected shows which branch decides.
    obtain ⟨b', hb', hs⟩ := h _ r.retells_numbered
    rw [getElem?_numbered, hb, Option.map_some, Option.some.injEq] at hb'
    subst hb'
    obtain hall | ⟨j, bj, hj⟩ := r.passesOver_or_decidedAt ev args
    · rw [select_numbered_of_passesOver hlen hall] at hs
      have hn : r.branches.length = i := List.replicate_left_inj.1 (Except.ok.inj hs)
      have hi : i < r.branches.length := (List.getElem?_eq_some_iff.1 hb).1
      omega
    · rw [select_numbered_of_decidedAt hlen hj] at hs
      obtain ⟨v, hv, hji⟩ := map_eq_ok_iff.1 hs
      obtain rfl : j = i := List.replicate_left_inj.1 hji
      cases hb.symm.trans hj.branch
      have hv := Evaluator.condition_eq_ok_iff.1 hv
      cases v with
      | false => exact absurd hv hj.here
      | true => exact ⟨hj.before, hv⟩
  · rintro ⟨hbefore, htrue⟩ r' hr'
    have hd : r.DecidedAt ev args i b := ⟨hb, hbefore, fun h => nomatch htrue.symm.trans h⟩
    obtain ⟨b', hb', hc⟩ := hr'.decidedAt hd
    have hlen' : args.length = r'.parameters.length := by rw [hr'.parameters, hlen]
    refine ⟨b', hb'.branch, ?_⟩
    rw [select_of_decidedAt hlen' hb', hc, substitute_congr hr'.parameters,
      Evaluator.condition_eq_ok_iff.2 htrue]
    rfl

theorem selectsFallback_iff :
    r.SelectsFallback ev args ↔ r.PassesOver ev args r.branches := by
  constructor
  · intro h
    have hs := h _ r.retells_numbered
    obtain hall | ⟨j, bj, hj⟩ := r.passesOver_or_decidedAt ev args
    · exact hall
    · rw [select_numbered_of_decidedAt hlen hj] at hs
      obtain ⟨-, -, hji⟩ := map_eq_ok_iff.1 hs
      have hn : j = r.branches.length := List.replicate_left_inj.1 hji
      have hi : j < r.branches.length := (List.getElem?_eq_some_iff.1 hj.branch).1
      omega
  · intro h r' hr'
    have hlen' : args.length = r'.parameters.length := by rw [hr'.parameters, hlen]
    exact select_of_passesOver hlen' (hr'.passesOver_all h)

theorem failsAt_iff (hb : r.branches[i]? = some b) : r.FailsAt ev args i e ↔
    r.PassesOver ev args (r.branches.take i) ∧
      ev.condition (r.substitute b.condition args) = .error e := by
  constructor
  · intro h
    obtain hall | ⟨j, bj, hj⟩ := r.passesOver_or_decidedAt ev args
    · cases (select_of_passesOver hlen hall).symm.trans h.all
    · have hs := h.all
      rw [select_of_decidedAt hlen hj, map_eq_error_iff] at hs
      obtain hji | rfl | hij := Nat.lt_trichotomy j i
      · -- The branches before place `i` fail already.
        refine absurd ?_ (h.before e)
        rw [select_of_decidedAt (r := r.upTo i) hlen (hj.upTo hji), map_eq_error_iff]
        exact hs
      · cases hb.symm.trans hj.branch
        exact ⟨hj.before, hs⟩
      · -- The branch at place `i` is passed over, too.
        have hall : (r.upTo (i + 1)).PassesOver ev args (r.upTo (i + 1)).branches :=
          fun b hm => hj.before b (List.take_subset_take_left _ hij hm)
        cases (select_of_passesOver (r := r.upTo (i + 1)) hlen hall).symm.trans h.here
  · rintro ⟨hbefore, hfails⟩
    have hd : r.DecidedAt ev args i b :=
      ⟨hb, hbefore, fun h => nomatch (Evaluator.condition_eq_ok_iff.2 h).symm.trans hfails⟩
    refine ⟨fun e' h => ?_, ?_, ?_⟩
    · cases (select_of_passesOver (r := r.upTo i) hlen hbefore).symm.trans h
    · rw [select_of_decidedAt (r := r.upTo (i + 1)) hlen (hd.upTo (Nat.lt_succ_self i)),
        map_eq_error_iff]
      exact hfails
    · rw [select_of_decidedAt hlen hd, map_eq_error_iff]
      exact hfails

/-- Further branches and another fallback make no difference to a call that is decided. -/
theorem Becomes.select_eq (h : r.Becomes r') (hd : r.DecidedAt ev args i b) :
    r'.select ev args = r.select ev args := by
  have hlen' : args.length = r'.parameters.length := by rw [h.parameters, hlen]
  rw [select_of_decidedAt hlen hd, select_of_decidedAt hlen' (h.decidedAt hd),
    substitute_congr h.parameters]

end

/-- A call of a rule is decided by the first branch whose condition is not false. Its template is
selected if its condition is true, and selecting fails with its error if it has no truth value; the
fallback is selected if all conditions are false. What such a branch decides stays so when branches
are added behind the others and when the fallback is changed. -/
theorem select_firstMatch (hlen : args.length = r.parameters.length) :
    (∀ i b, r.branches[i]? = some b →
      (r.SelectsBranch ev args i ↔
        r.PassesOver ev args (r.branches.take i) ∧ r.Answers ev args b true) ∧
      (∀ e, r.FailsAt ev args i e ↔ r.PassesOver ev args (r.branches.take i) ∧
        ev.condition (r.substitute b.condition args) = .error e) ∧
      ((∃ e, r.FailsAt ev args i e) ↔
        r.PassesOver ev args (r.branches.take i) ∧ ∀ v, ¬ r.Answers ev args b v)) ∧
    (r.SelectsFallback ev args ↔ r.PassesOver ev args r.branches) ∧
    ∀ r', r.Becomes r' → (∃ i b, r.DecidedAt ev args i b) →
      r'.select ev args = r.select ev args ∧ r'.instantiate ev args = r.instantiate ev args := by
  refine ⟨fun i b hb => ⟨selectsBranch_iff hlen hb, fun e => failsAt_iff hlen hb, ?_⟩,
    selectsFallback_iff hlen, fun r' hr' ⟨i, b, hd⟩ => ?_⟩
  · simp only [failsAt_iff hlen hb, exists_and_left, Evaluator.condition_fails_iff]
    rfl
  · have hselect : r'.select ev args = r.select ev args := hr'.select_eq hlen hd
    refine ⟨hselect, ?_⟩
    rw [instantiate, instantiate, hselect, substitute_congr hr'.parameters]

/-- A rule with a condition that cannot be evaluated behind two that can. -/
def ladder : Rule where
  atom := ['S']
  parameters := [['x']]
  branches := [⟨"x > 3".toList, "A<x>".toList⟩, ⟨"x > 1".toList, "B<x*2>".toList⟩,
    ⟨"1/0".toList, "C<x>".toList⟩]
  fallback := "D<x>".toList

theorem select_firstMatch_ladder :
    ladder.SelectsBranch {} [['2']] 1 ∧
      ladder.FailsAt {} [['0']] 2 (.evaluation "1/0".toList (.zeroDivision .integer)) ∧
      ((ladder.withBranch "x + 1".toList []).withFallback []).instantiate {} [['2']] =
        .ok "B<4>".toList := by
  have answers {a : Text} {b : Branch} {v : Bool}
      (h : Evaluator.condition {} (ladder.substitute b.condition [a]) = .ok v) :
      ladder.Answers {} [a] b v := Evaluator.condition_eq_ok_iff.1 h
  have hlen : [['2']].length = ladder.parameters.length := rfl
  have hlen' : [['0']].length = ladder.parameters.length := rfl
  have hbefore : ladder.PassesOver {} [['2']] (ladder.branches.take 1) :=
    List.forall_mem_singleton.2 (answers (by decide +kernel))
  have htrue : ladder.Answers {} [['2']] ⟨"x > 1".toList, "B<x*2>".toList⟩ true :=
    answers (by decide +kernel)
  have hbefore' : ladder.PassesOver {} [['0']] (ladder.branches.take 2) :=
    List.forall_mem_cons.2 ⟨answers (by decide +kernel),
      List.forall_mem_singleton.2 (answers (by decide +kernel))⟩
  have hgrown : ladder.Becomes ((ladder.withBranch "x + 1".toList []).withFallback []) :=
    .withFallback _ (.withBranch _ _ .refl)
  refine ⟨((select_firstMatch hlen).1 1 _ rfl).1.2 ⟨hbefore, htrue⟩, ?_, ?_⟩
  · exact (((select_firstMatch hlen').1 2 _ rfl).2.1 _).2 ⟨hbefore', by decide +kernel⟩
  · have hd : ladder.DecidedAt {} [['2']] 1 ⟨"x > 1".toList, "B<x*2>".toList⟩ :=
      ⟨rfl, hbefore, fun h => nomatch htrue.symm.trans h⟩
    exact ((select_firstMatch hlen).2.2 _ hgrown ⟨_, _, hd⟩).2.trans (by decide +kernel)

end Rule

end LSystem
