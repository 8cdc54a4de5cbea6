import LSystem.Proofs.Config.Failing
import LSystem.Proofs.RuleTable.Held
import Mathlib.Data.List.Forall2
import Mathlib.Data.List.Induction

/-! # Building what was checked

A configuration goes through two passes: its JSON value is checked, and then its rules are added
to a table. `Holds` says, without either of them, what a value must be like to hold a configuration,
and checking succeeds for these values only (`parse_eq_ok_iff`). Adding the rules then cannot fail,
for there are no two rules of one atom, and gives a table that is known exactly
(`build_of_declares`). So the rules of the table are the ones that the value says, one for each key
(`parse_builds`). -/

namespace LSystem

namespace RuleTable

/-- A table to which some rules were added, one after the other. -/
def ofRules (rs : List Rule) : RuleTable := { made := rs, held := List.range rs.length }

theorem ofRules_concat (rs : List Rule) (r : Rule) :
    ofRules (rs ++ [r]) = { made := rs ++ [r], held := (ofRules rs).held ++ [rs.length] } := by
  simp [ofRules, List.range_succ]

@[simp] theorem rules_ofRules (rs : List Rule) : (ofRules rs).rules = rs := by
  induction rs using List.reverseRecOn with
  | nil => rfl
  | append_singleton rs r ih =>
    have hk : ∀ h ∈ (ofRules rs).held, ((ofRules rs).rule? h).isSome := by
      simp [ofRules, rule?]
    rw [ofRules_concat]
    exact (rules_concat hk r).trans (congrArg (· ++ [r]) ih)

@[simp] theorem atoms_ofRules (rs : List Rule) : (ofRules rs).atoms = rs.map Rule.atom := by
  rw [atoms, rules_ofRules]

/-- The rule added last is changed through its handle. -/
theorem modify_ofRules (rs : List Rule) (r : Rule) (f : Rule → Rule) :
    (ofRules (rs ++ [r])).modify rs.length f = ofRules (rs ++ [f r]) := by
  simp [ofRules, modify, List.modify_eq_take_drop]

theorem withBranches_ofRules (rs : List Rule) (r : Rule) (bs : List Branch) :
    bs.foldl (fun t b => t.withBranch rs.length b.condition b.template) (ofRules (rs ++ [r])) =
      ofRules (rs ++ [{ r with branches := r.branches ++ bs }]) := by
  induction bs generalizing r with
  | nil => simp
  | cons b bs ih =>
    rw [List.foldl_cons, withBranch, modify_ofRules, ih, Rule.withBranch]
    simp

end RuleTable

namespace Config

/-! ## What a value says -/

/-- An object with the two texts of a branch. -/
def SaysBranch (value : Json) (b : Branch) : Prop :=
  ∃ fields, value = .object fields ∧ Json.field? "if".toList fields = some (.text b.condition) ∧
    Json.field? "then".toList fields = some (.text b.template)

/-- The branches of a rule in order; there are none if they are missing. -/
def SaysBranches (value : Option Json) (branches : List Branch) : Prop :=
  ∃ items, value.getD (.array []) = .array items ∧ List.Forall₂ SaysBranch items branches

/-- The fallback of a rule. One that is null counts as missing, an empty one does not. -/
inductive SaysFallback : Option Json → Option Text → Prop
  | missing : SaysFallback none none
  | null : SaysFallback (some .null) none
  | text (s : Text) : SaysFallback (some (.text s)) (some s)

/-- What an entry of the rules says about the rule, its key apart. -/
def SaysRule (entry : Text × Json) (spec : RuleSpec) : Prop :=
  spec.key = entry.1 ∧ ∃ fields, entry.2 = .object fields ∧
    SaysBranches (Json.field? "branches".toList fields) spec.branches ∧
    SaysFallback (Json.field? "fallback".toList fields) spec.fallback

/-- Keys that are declarations, no two of them of the same atom. -/
def Declares (keys : List Text) (ds : List Declaration) : Prop :=
  List.Forall₂ (fun key d => Declaration.parse? key = some d) keys ds ∧
    (ds.map Declaration.atom).Nodup

/-- A value that holds a configuration. -/
def Holds (value : Json) (config : Config) : Prop :=
  ∃ fields, value = .object fields ∧
    (Json.field? "name".toList fields).getD (.text "L-System".toList) = .text config.name ∧
    (Json.field? "axiom".toList fields).getD (.text []) = .text config.start ∧
    config.start ≠ [] ∧
    (Json.field? "iterations".toList fields).getD (.int 0) = .int config.iterations ∧
    ∃ entries, (Json.field? "rules".toList fields).getD (.object []) = .object entries ∧
      List.Forall₂ SaysRule entries config.rules ∧ ∃ ds, Declares (entries.map Prod.fst) ds

/-! ## Checking -/

theorem asText_eq_ok_iff {value : Option Json} {path s : Text} :
    asText value path = .ok s ↔ value = some (.text s) := by
  unfold asText
  split <;> simp_all [refuse]

theorem asInt_eq_ok_iff {value : Json} {path : Text} {i : Int} :
    asInt value path = .ok i ↔ value = .int i := by
  unfold asInt
  split <;> simp_all [refuse]

theorem asArray_eq_ok_iff {value : Json} {path : Text} {items : List Json} :
    asArray value path = .ok items ↔ value = .array items := by
  unfold asArray
  split <;> simp_all [refuse]

theorem asObject_eq_ok_iff {value : Json} {path : Text} {entries : List (Text × Json)} :
    asObject value path = .ok entries ↔ value = .object entries := by
  unfold asObject
  split <;> simp_all [refuse]

theorem parseBranch_eq_ok_iff {path : Text} {value : Json} {b : Branch} :
    parseBranch path value = .ok b ↔ SaysBranch value b := by
  simp only [parseBranch, bind_eq_ok_iff, asObject_eq_ok_iff, asText_eq_ok_iff, SaysBranch]
  constructor
  · rintro ⟨fields, hv, c, hc, t, ht, h⟩
    cases h
    exact ⟨fields, hv, hc, ht⟩
  · rintro ⟨fields, hv, hc, ht⟩
    exact ⟨fields, hv, b.condition, hc, b.template, ht, rfl⟩

theorem parseBranches_eq_ok_iff {rule : Text} {i : Nat} {items : List Json} {bs : List Branch} :
    parseBranches rule i items = .ok bs ↔ List.Forall₂ SaysBranch items bs := by
  induction items generalizing i bs with
  | nil =>
    simp only [parseBranches, List.forall₂_nil_left_iff, Except.ok.injEq]
    exact eq_comm
  | cons value items ih =>
    simp only [parseBranches, bind_eq_ok_iff, parseBranch_eq_ok_iff, ih,
      List.forall₂_cons_left_iff]
    constructor
    · rintro ⟨b, hb, bs', hbs, h⟩
      cases h
      exact ⟨b, bs', hb, hbs, rfl⟩
    · rintro ⟨b, bs', hb, hbs, rfl⟩
      exact ⟨b, hb, bs', hbs, rfl⟩

theorem parseFallback_eq_ok_iff {rule : Text} {value : Option Json} {fallback : Option Text} :
    parseFallback rule value = .ok fallback ↔ SaysFallback value fallback := by
  constructor
  · intro h
    unfold parseFallback at h
    split at h
    · cases h
      exact .missing
    · cases h
      exact .null
    · next value _ =>
      cases hs : asText (some value) (rule ++ ".fallback".toList) with
      | error e =>
        rw [hs] at h
        cases h
      | ok s =>
        rw [hs] at h
        cases h
        rw [asText_eq_ok_iff.1 hs]
        exact .text s
  · rintro (_ | _ | s) <;> rfl

theorem parseRule_eq_ok_iff {key : Text} {value : Json} {spec : RuleSpec} :
    parseRule key value = .ok spec ↔ SaysRule (key, value) spec := by
  simp only [parseRule, bind_eq_ok_iff, asObject_eq_ok_iff, asArray_eq_ok_iff,
    parseBranches_eq_ok_iff, parseFallback_eq_ok_iff, SaysRule, SaysBranches]
  constructor
  · rintro ⟨fields, hv, items, hi, bs, hbs, fallback, hf, h⟩
    cases h
    exact ⟨rfl, fields, hv, ⟨items, hi, hbs⟩, hf⟩
  · rintro ⟨rfl, fields, hv, ⟨items, hi, hbs⟩, hf⟩
    exact ⟨fields, hv, items, hi, spec.branches, hbs, spec.fallback, hf, rfl⟩

theorem declares_cons_iff {key : Text} {keys : List Text} {ds : List Declaration} :
    Declares (key :: keys) ds ↔ ∃ d ds', ds = d :: ds' ∧ Declaration.parse? key = some d ∧
      Declares keys ds' ∧ ∀ d' ∈ ds', d'.atom ≠ d.atom := by
  simp only [Declares, List.forall₂_cons_left_iff]
  constructor
  · rintro ⟨⟨d, ds, hd, hds, rfl⟩, hn⟩
    rw [List.map_cons, List.nodup_cons] at hn
    exact ⟨d, ds, rfl, hd, ⟨hds, hn.2⟩, fun d' hm he => hn.1 (he ▸ List.mem_map_of_mem hm)⟩
  · rintro ⟨d, ds, rfl, hd, ⟨hds, hn⟩, hne⟩
    refine ⟨⟨d, ds, hd, hds, rfl⟩, List.nodup_cons.2 ⟨fun hm => ?_, hn⟩⟩
    obtain ⟨d', hm, he⟩ := List.mem_map.1 hm
    exact hne d' hm he

/-- The rules of a configuration are checked one after the other, `seen` being the atoms of those
before. -/
theorem parseRules_eq_ok_iff {seen : List Text} {entries : List (Text × Json)}
    {specs : List RuleSpec} :
    parseRules seen entries = .ok specs ↔ List.Forall₂ SaysRule entries specs ∧
      ∃ ds, Declares (entries.map Prod.fst) ds ∧ ∀ d ∈ ds, d.atom ∉ seen := by
  induction entries generalizing seen specs with
  | nil =>
    rw [parseRules_nil]
    simp only [Except.ok.injEq, List.forall₂_nil_left_iff]
    constructor
    · rintro rfl
      exact ⟨rfl, [], ⟨.nil, .nil⟩, nofun⟩
    · rintro ⟨rfl, -⟩
      rfl
  | cons entry entries ih =>
    obtain ⟨key, value⟩ := entry
    rw [parseRules_cons, List.map_cons, List.forall₂_cons_left_iff]
    simp only [declares_cons_iff]
    constructor
    · intro h
      split at h
      · cases h
      · next d hd =>
        split at h
        · cases h
        · next hn =>
          simp only [bind_eq_ok_iff, parseRule_eq_ok_iff, ih] at h
          obtain ⟨spec, hspec, specs, ⟨hs, ds, hds, hseen⟩, h⟩ := h
          cases h
          refine ⟨⟨spec, specs, hspec, hs, rfl⟩, d :: ds,
            ⟨d, ds, rfl, hd, hds, fun d' hm he => hseen d' hm (he ▸ List.mem_cons_self)⟩, ?_⟩
          exact List.forall_mem_cons.2 ⟨hn, fun d' hm => mt (List.mem_cons_of_mem _) (hseen d' hm)⟩
    · rintro ⟨⟨spec, specs, hspec, hs, rfl⟩, _, ⟨d, ds, rfl, hd, hds, hne⟩, hseen⟩
      obtain ⟨hn, hseen⟩ := List.forall_mem_cons.1 hseen
      rw [hd]
      simp only [if_neg hn, bind_eq_ok_iff, parseRule_eq_ok_iff, ih]
      refine ⟨spec, hspec, specs, ⟨hs, ds, hds, fun d' hm hc => ?_⟩, rfl⟩
      rcases List.mem_cons.1 hc with he | hc
      · exact hne d' hm he
      · exact hseen d' hm hc

theorem unless_eq_ok_iff {α : Type} {c : Prop} [Decidable c] {fault : ConfigFault}
    {f : PUnit → Except Error α} {a : α} :
    (if c then refuse fault >>= f else f ⟨⟩) = .ok a ↔ ¬ c ∧ f ⟨⟩ = .ok a := by
  split
  · next hc => exact ⟨nofun, fun h => absurd hc h.1⟩
  · next hc => exact ⟨fun h => ⟨hc, h⟩, fun h => h.2⟩

/-- Checking succeeds for the values that hold a configuration, and gives this one. -/
theorem parse_eq_ok_iff {value : Json} {config : Config} :
    parse value = .ok config ↔ Holds value config := by
  simp only [parse, bind_eq_ok_iff, unless_eq_ok_iff, asObject_eq_ok_iff, asText_eq_ok_iff,
    asInt_eq_ok_iff, parseRules_eq_ok_iff, Holds, Option.some.injEq, List.isEmpty_iff]
  constructor
  · rintro ⟨fields, hv, name, hn, start, hs, hne, i, hi, hpos, entries, he, specs,
      ⟨hspecs, ds, hds, -⟩, h⟩
    cases h
    refine ⟨fields, hv, hn, hs, hne, ?_, entries, he, hspecs, ds, hds⟩
    rw [hi, Int.toNat_of_nonneg (Int.not_lt.1 hpos)]
  · rintro ⟨fields, hv, hn, hs, hne, hi, entries, he, hspecs, ds, hds⟩
    refine ⟨fields, hv, config.name, hn, config.start, hs, hne, config.iterations, hi,
      Int.not_lt.2 (Int.natCast_nonneg _), entries, he, config.rules,
      ⟨hspecs, ds, hds, fun _ _ => List.not_mem_nil⟩, rfl⟩

/-! ## Building -/

/-- The rule that is made of a checked one, given the declaration in its key. -/
def rule (hasAction : Bool) (spec : RuleSpec) (d : Declaration) : Rule where
  atom := d.atom
  parameters := d.parameters
  branches := spec.branches
  fallback := spec.fallback.getD (Text.trim spec.key)
  hasAction := hasAction

theorem addRule_ofRules {rs : List Rule} {spec : RuleSpec} {d : Declaration} (hasAction : Bool)
    (hd : Declaration.parse? spec.key = some d) (hn : d.atom ∉ rs.map Rule.atom) :
    addRule hasAction (.ofRules rs) spec = .ok (.ofRules (rs ++ [rule hasAction spec d])) := by
  have ha : (RuleTable.ofRules rs).add spec.key hasAction = .ok (rs.length,
      .ofRules (rs ++ [⟨d.atom, d.parameters, [], Text.trim spec.key, hasAction⟩])) := by
    rw [RuleTable.ofRules_concat]
    exact RuleTable.add_of_not_mem _ hasAction hd (by rwa [RuleTable.atoms_ofRules])
  have hb := RuleTable.withBranches_ofRules rs
    ⟨d.atom, d.parameters, [], Text.trim spec.key, hasAction⟩ spec.branches
  rw [addRule, ha]
  refine congrArg Except.ok ?_
  rw [hb]
  cases hf : spec.fallback with
  | none => simp only [rule, hf, List.nil_append, Option.getD_none]
  | some template =>
    simp only [rule, hf, List.nil_append, Option.getD_some]
    exact RuleTable.modify_ofRules ..

/-- Rules for other atoms than those of the table are added in order. -/
theorem addRules_ofRules (rs : List Rule) {specs : List RuleSpec} {ds : List Declaration}
    (hasAction : Bool) (hd : Declares (specs.map RuleSpec.key) ds)
    (hn : ∀ d ∈ ds, d.atom ∉ rs.map Rule.atom) :
    specs.foldlM (addRule hasAction) (.ofRules rs) =
      .ok (.ofRules (rs ++ List.zipWith (rule hasAction) specs ds)) := by
  induction specs generalizing rs ds with
  | nil => simp [pure, Except.pure]
  | cons spec specs ih =>
    obtain ⟨d, ds, rfl, hkey, hd, hne⟩ := declares_cons_iff.1 hd
    obtain ⟨hn, hns⟩ := List.forall_mem_cons.1 hn
    rw [List.foldlM_cons, addRule_ofRules hasAction hkey hn]
    refine (ih _ hd fun d' hm => ?_).trans (by simp)
    rw [List.map_append, List.mem_append]
    rintro (h | h)
    · exact hns d' hm h
    · exact hne d' hm (List.mem_singleton.1 h)

theorem build_of_declares {config : Config} {ds : List Declaration} (hasAction : Bool)
    (hd : Declares (config.rules.map RuleSpec.key) ds) :
    config.build hasAction =
      .ok { table := .ofRules (List.zipWith (rule hasAction) config.rules ds) } := by
  have h := addRules_ofRules [] hasAction hd fun _ _ => List.not_mem_nil
  rw [List.nil_append] at h
  rw [build, show ({} : RuleTable) = .ofRules [] from rfl, h]
  rfl

/-! ## Checking and building -/

/-- The entries of a value's rules; there are none if they are missing. -/
def ruleEntries : Json → List (Text × Json)
  | .object fields =>
    match Json.field? "rules".toList fields with
    | some (.object entries) => entries
    | _ => []
  | _ => []

/-- A rule that is what an entry of the rules says. Without a fallback it has its trimmed key for
one. -/
structure Configures (hasAction : Bool) (entry : Text × Json) (r : Rule) : Prop where
  declared : Declaration.parse? entry.1 = some ⟨r.atom, r.parameters⟩
  action : r.hasAction = hasAction
  body : ∃ fields fallback, entry.2 = .object fields ∧
    SaysBranches (Json.field? "branches".toList fields) r.branches ∧
    SaysFallback (Json.field? "fallback".toList fields) fallback ∧
    r.fallback = fallback.getD (Text.trim entry.1)

theorem saysRule_of_holds {value : Json} {config : Config} (h : Holds value config) :
    List.Forall₂ SaysRule (ruleEntries value) config.rules ∧
      ∃ ds, Declares ((ruleEntries value).map Prod.fst) ds := by
  obtain ⟨fields, rfl, -, -, -, -, entries, he, h⟩ := h
  have hr : ruleEntries (.object fields) = entries := by
    rw [ruleEntries]
    cases hf : Json.field? "rules".toList fields with
    | none =>
      rw [hf] at he
      cases he
      rfl
    | some rules =>
      rw [hf] at he
      cases he
      rfl
  rwa [hr]

theorem keys_of_saysRule {entries : List (Text × Json)} {specs : List RuleSpec}
    (h : List.Forall₂ SaysRule entries specs) :
    specs.map RuleSpec.key = entries.map Prod.fst := by
  induction h with
  | nil => rfl
  | cons hs _ ih => rw [List.map_cons, List.map_cons, hs.1, ih]

theorem configures_of_saysRule {entries : List (Text × Json)} {specs : List RuleSpec}
    {ds : List Declaration} (hasAction : Bool) (h : List.Forall₂ SaysRule entries specs)
    (hd : Declares (entries.map Prod.fst) ds) :
    List.Forall₂ (Configures hasAction) entries (List.zipWith (rule hasAction) specs ds) := by
  induction h generalizing ds with
  | nil => simp
  | cons hs _ ih =>
    obtain ⟨d, ds, rfl, hkey, hd, -⟩ := declares_cons_iff.1 hd
    obtain ⟨he, fields, hv, hbs, hf⟩ := hs
    refine .cons ⟨hkey, rfl, fields, _, hv, hbs, hf, ?_⟩ (ih hd)
    rw [rule, he]

theorem atoms_of_configures {entries : List (Text × Json)} {rs : List Rule}
    {ds : List Declaration} {hasAction : Bool}
    (h : List.Forall₂ (Configures hasAction) entries rs)
    (hd : Declares (entries.map Prod.fst) ds) : rs.map Rule.atom = ds.map Declaration.atom := by
  induction h generalizing ds with
  | nil =>
    cases hd.1
    rfl
  | cons hc _ ih =>
    obtain ⟨d, ds, rfl, hkey, hd, -⟩ := declares_cons_iff.1 hd
    rw [List.map_cons, List.map_cons, ih hd]
    cases hc.declared.symm.trans hkey
    rfl

theorem Declares.getElem? {keys : List Text} {ds : List Declaration} (hd : Declares keys ds)
    {i : Nat} {key : Text} (hi : keys[i]? = some key) :
    ∃ d, ds[i]? = some d ∧ Declaration.parse? key = some d := by
  obtain ⟨h, -⟩ := hd
  induction h generalizing i with
  | nil => simp at hi
  | cons hkey _ ih =>
    cases i with
    | zero =>
      cases hi
      exact ⟨_, rfl, hkey⟩
    | succ i => exact ih hi

/-- Two keys at different places declare different atoms. -/
theorem Declares.atom_ne {keys : List Text} {ds : List Declaration} (hd : Declares keys ds)
    {i j : Nat} (hij : i < j) {key key' : Text} {d d' : Declaration} (hi : keys[i]? = some key)
    (hj : keys[j]? = some key') (hkey : Declaration.parse? key = some d)
    (hkey' : Declaration.parse? key' = some d') : d.atom ≠ d'.atom := by
  obtain ⟨e, hdi, he⟩ := hd.getElem? hi
  obtain ⟨e', hdj, he'⟩ := hd.getElem? hj
  cases he.symm.trans hkey
  cases he'.symm.trans hkey'
  intro ha
  have hl : j < (ds.map Declaration.atom).length := by
    rw [List.length_map]
    exact (List.getElem?_eq_some_iff.1 hdj).1
  have hne := List.nodup_iff_getElem?_ne_getElem?.1 hd.2 i j hij hl
  rw [List.getElem?_map, List.getElem?_map, hdi, hdj] at hne
  exact hne (congrArg some ha)

theorem refused_of_not_holds {value : Json} (h : ∀ config, ¬ Holds value config) :
    ∃ fault, parse value = .error (.config fault) := by
  cases hp : parse value with
  | error e =>
    obtain ⟨fault, rfl⟩ := parse_fails value e hp
    exact ⟨fault, rfl⟩
  | ok config => exact absurd (parse_eq_ok_iff.1 hp) (h config)

/-- **What is checked is built.** A value in which a configuration is found gives a table with one
rule for each key, in order, which is what the entry of the key says and stands under the atom of
the key. A value is refused if one of its keys is no declaration, or if two of them declare the same
atom. -/
theorem parse_builds (value : Json) :
    let keys := (ruleEntries value).map Prod.fst
    let refused := ∃ fault, parse value = .error (.config fault)
    (∀ config, parse value = .ok config → ∀ hasAction, ∃ g, config.build hasAction = .ok g ∧
      List.Forall₂ (Configures hasAction) (ruleEntries value) g.table.rules ∧
      g.table.atoms.Nodup ∧ ∀ r ∈ g.table.rules, g.table.find? r.atom = some r) ∧
    (∀ key ∈ keys, Declaration.parse? key = none → refused) ∧
    ∀ (i j : Nat) key key' d d', i < j → keys[i]? = some key → keys[j]? = some key' →
      Declaration.parse? key = some d → Declaration.parse? key' = some d' → d.atom = d'.atom →
      refused := by
  intro keys refused
  refine ⟨fun config hc hasAction => ?_, fun key hm hkey => ?_, ?_⟩
  · obtain ⟨hs, ds, hd⟩ := saysRule_of_holds (parse_eq_ok_iff.1 hc)
    have hr := configures_of_saysRule hasAction hs hd
    have hb := build_of_declares hasAction (keys_of_saysRule hs ▸ hd)
    refine ⟨_, hb, ?_⟩
    have hn : (RuleTable.ofRules (List.zipWith (rule hasAction) config.rules ds)).atoms.Nodup := by
      rw [RuleTable.atoms_ofRules, atoms_of_configures hr hd]
      exact hd.2
    refine ⟨?_, hn, fun r hm => (RuleTable.find?_eq_some_iff hn).2 ⟨hm, rfl⟩⟩
    rw [RuleTable.rules_ofRules]
    exact hr
  · refine refused_of_not_holds fun config h => ?_
    obtain ⟨-, ds, hd⟩ := saysRule_of_holds h
    obtain ⟨i, hi⟩ := List.getElem?_of_mem hm
    obtain ⟨d, -, he⟩ := hd.getElem? hi
    cases hkey.symm.trans he
  · intro i j key key' d d' hij hi hj hkey hkey' ha
    refine refused_of_not_holds fun config h => ?_
    obtain ⟨-, ds, hd⟩ := saysRule_of_holds h
    exact hd.atom_ne hij hi hj hkey hkey' ha

/-- The value of a configuration with some rules. -/
def valueOf (entries : List (Text × Json)) : Json :=
  .object [("axiom".toList, .text ['[']), ("rules".toList, .object entries)]

/-- Two rules: one that expands to nothing, and one whose fallback is its own key. -/
def vanishing : List (Text × Json) :=
  [(" F<x>".toList, .object [("fallback".toList, .text [])]),
    ("G<>\n".toList, .object [("fallback".toList, .null)])]

/-- Two rules for one atom. -/
def respelled : List (Text × Json) :=
  [("F<x>".toList, .object []), (" F< y, z >".toList, .object [])]

theorem parse_builds_vanishing :
    (∃ config g, parse (valueOf vanishing) = .ok config ∧ config.build true = .ok g ∧
      List.Forall₂ (Configures true) vanishing g.table.rules) ∧
    ∃ fault, parse (valueOf respelled) = .error (.config fault) := by
  have hc : parse (valueOf vanishing) = .ok ⟨"L-System".toList, ['['], 0,
      [⟨" F<x>".toList, [], some []⟩, ⟨"G<>\n".toList, [], none⟩]⟩ := by decide +kernel
  obtain ⟨hb, -, -⟩ := parse_builds (valueOf vanishing)
  obtain ⟨g, hg, hr, -⟩ := hb _ hc true
  obtain ⟨-, -, hn⟩ := parse_builds (valueOf respelled)
  exact ⟨⟨_, g, hc, hg, hr⟩, hn 0 1 _ _ ⟨['F'], [['x']]⟩ ⟨['F'], [['y'], ['z']]⟩ (by decide) rfl rfl
    (by decide +kernel) (by decide +kernel) rfl⟩

end Config

end LSystem
