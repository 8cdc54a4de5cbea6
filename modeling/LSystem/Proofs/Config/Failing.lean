import LSystem.Config
import LSystem.Proofs.Result

/-! # How loading a configuration fails

A document is refused for a fault of the configuration in it, with one exception: an integer with
too many digits is no fault that the reader knows of (`readDocument_fails`). Checking and building a
configuration fail in the ways of configurations, declarations and rule tables only. -/

namespace LSystem

/-! ## Reading documents -/

namespace Json

/-- Only an integer with more digits than can be read is too long. -/
@[simp]
def ReadError.Justified : ReadError → Prop
  | .fault .. => True
  | .tooLong n => Number.digitLimit < n

@[simp] theorem faultAt_justified {α : Type} (fault : Fault) (s : Text) :
    FailsOnly ReadError.Justified (faultAt fault s : Read α) := by
  simp [faultAt]

@[simp] theorem unitEscape_justified (s : Text) :
    FailsOnly ReadError.Justified (unitEscape s) := by
  unfold unitEscape
  split
  · simp
  · extract_lets rest
    clear_value rest
    split
    · simp
    · split
      · split
        · split
          · simp
          · split
            · simp
            · split <;> simp
        · simp
      · simp

@[simp] theorem readText_justified (start : Text) (fuel : Nat) (s done : Text) :
    FailsOnly ReadError.Justified (readText start fuel s done) := by
  induction fuel generalizing s done with
  | zero => simp [readText]
  | succ fuel ih =>
    cases s with
    | nil => simp [readText]
    | cons c s =>
      unfold readText
      split
      · simp
      · split
        · split
          · simp
          · split
            · split
              · exact ih _ _
              · next he => exact failsOnly_error.2 (unitEscape_justified _ _ he)
            · split
              · exact ih _ _
              · simp
        · split
          · simp
          · exact ih _ _

@[simp] theorem readNumber_justified (negative : Bool) (start s : Text) :
    FailsOnly ReadError.Justified (readNumber negative start s) := by
  unfold readNumber
  extract_lets whole
  clear_value whole
  split
  · simp
  · next ds rest =>
    extract_lets fraction
    split
    extract_lets exponent
    split
    · simp
    · split
      · next h => simpa using h
      · simp

mutual

theorem readValue_justified (fuel : Nat) (s : Text) :
    FailsOnly ReadError.Justified (readValue fuel s) := by
  match fuel, s with
  | 0, s => simp [readValue]
  | _ + 1, [] => simp [readValue]
  | fuel + 1, c :: s =>
    rw [readValue]
    split
    · split
      · simp
      · next he => exact failsOnly_error.2 (readText_justified _ _ _ _ _ he)
    · split
      · split
        · simp
        · exact readEntries_justified fuel _ []
      · split
        · split
          · simp
          · exact readItems_justified fuel _ []
        · split
          · simp
          · split <;> simp

theorem readEntries_justified (fuel : Nat) (s : Text) (done : List (Text × Json)) :
    FailsOnly ReadError.Justified (readEntries fuel s done) := by
  match fuel with
  | 0 => simp [readEntries]
  | fuel + 1 =>
    unfold readEntries
    split
    · split
      · next he => exact failsOnly_error.2 (readText_justified _ _ _ _ _ he)
      · split
        · split
          · next he => exact failsOnly_error.2 (readValue_justified fuel _ _ he)
          · extract_lets done
            split
            · simp
            · exact readEntries_justified fuel _ _
            · simp
        · simp
    · simp

theorem readItems_justified (fuel : Nat) (s : Text) (done : List Json) :
    FailsOnly ReadError.Justified (readItems fuel s done) := by
  match fuel with
  | 0 => simp [readItems]
  | fuel + 1 =>
    rw [readItems]
    split
    · next he => exact failsOnly_error.2 (readValue_justified fuel _ _ he)
    · split
      · simp
      · exact readItems_justified fuel _ _
      · simp

end

theorem read_justified (document : Text) : FailsOnly ReadError.Justified (read document) := by
  unfold read
  split
  · simp
  · split
    · next he => exact failsOnly_error.2 (readValue_justified _ _ _ he)
    · extract_lets rest
      split <;> simp

end Json

namespace Config

theorem readDocument_fails (path document : Text) :
    FailsOnly (fun e => (∃ fault, e = .config fault) ∨
      ∃ n, e = .readDigits n ∧ Number.digitLimit < n) (readDocument path document) := by
  unfold readDocument
  extract_lets document
  split
  · simp
  · next n he => exact failsOnly_error.2 (.inr ⟨n, rfl, Json.read_justified _ _ he⟩)
  · simp

/-! ## Checking configurations -/

/-- The error is a fault of a configuration. -/
@[simp]
abbrev OfConfig (e : Error) : Prop := ∃ fault, e = .config fault

@[simp] theorem refuse_fails {α : Type} (fault : ConfigFault) :
    FailsOnly OfConfig (refuse fault : Except Error α) := by
  simp [refuse]

@[simp] theorem asText_fails (value : Option Json) (path : Text) :
    FailsOnly OfConfig (asText value path) := by
  unfold asText
  split <;> simp

@[simp] theorem asInt_fails (value : Json) (path : Text) :
    FailsOnly OfConfig (asInt value path) := by
  unfold asInt
  split <;> simp

@[simp] theorem asArray_fails (value : Json) (path : Text) :
    FailsOnly OfConfig (asArray value path) := by
  unfold asArray
  split <;> simp

@[simp] theorem asObject_fails (value : Json) (path : Text) :
    FailsOnly OfConfig (asObject value path) := by
  unfold asObject
  split <;> simp

theorem parseBranches_fails (rule : Text) (i : Nat) (values : List Json) :
    FailsOnly OfConfig (parseBranches rule i values) := by
  induction values generalizing i with
  | nil => simp [parseBranches]
  | cons value values ih => simp [parseBranches, parseBranch, ih]

@[simp] theorem parseFallback_fails (rule : Text) (value : Option Json) :
    FailsOnly OfConfig (parseFallback rule value) := by
  unfold parseFallback
  split <;> simp

theorem parseRules_nil (seen : List Text) : parseRules seen [] = .ok [] := rfl

theorem parseRules_cons (seen : List Text) (key : Text) (value : Json)
    (entries : List (Text × Json)) :
    parseRules seen ((key, value) :: entries) =
      match Declaration.parse? key with
      | none => refuse (.ruleKey key)
      | some d =>
        if d.atom ∈ seen then refuse (.repeatedAtom d.atom)
        else
          parseRule key value >>= fun r =>
            parseRules (d.atom :: seen) entries >>= fun rs => .ok (r :: rs) :=
  rfl

theorem parseRules_fails (seen : List Text) (entries : List (Text × Json)) :
    FailsOnly OfConfig (parseRules seen entries) := by
  induction entries generalizing seen with
  | nil => exact failsOnly_ok []
  | cons entry entries ih =>
    obtain ⟨key, value⟩ := entry
    rw [parseRules_cons]
    split
    · simp
    · simp [parseRule, parseBranches_fails, ih]

theorem parse_fails (value : Json) : FailsOnly OfConfig (parse value) := by
  rw [parse, failsOnly_bind]
  refine ⟨asObject_fails _ _, fun entries _ => ?_⟩
  extract_lets field
  rw [failsOnly_bind]
  refine ⟨asText_fails _ _, fun name _ => ?_⟩
  rw [failsOnly_bind]
  refine ⟨asText_fails _ _, fun start _ => ?_⟩
  extract_lets checked
  have hc (u : Unit) : FailsOnly OfConfig (checked u) := by
    simp only [checked, failsOnly_bind]
    refine ⟨asInt_fails _ _, fun iterations _ => ?_⟩
    simp [parseRules_fails]
  split
  · exact failsOnly_bind.2 ⟨refuse_fails _, fun u _ => hc u⟩
  · exact hc ()

/-! ## Building grammars -/

/-- The error is one of adding a rule to a table. -/
@[simp]
abbrev OfTable (e : Error) : Prop :=
  (∃ key, e = .malformedDeclaration key) ∨ ∃ atom, e = .duplicateAtom atom

theorem addRule_fails (hasAction : Bool) (t : RuleTable) (spec : RuleSpec) :
    FailsOnly OfTable (addRule hasAction t spec) := by
  have hd : FailsOnly OfTable (Declaration.parse spec.key) := by
    unfold Declaration.parse
    split <;> simp
  have ha : FailsOnly OfTable (t.add spec.key hasAction) := by
    simp only [RuleTable.add, Rule.ofKey, failsOnly_bind]
    exact ⟨⟨hd, fun _ _ => failsOnly_ok _⟩, fun _ _ => by simp⟩
  rw [addRule, failsOnly_bind]
  exact ⟨ha, fun _ _ => failsOnly_ok _⟩

theorem build_fails (config : Config) (hasAction : Bool) (ev : Evaluator) :
    FailsOnly OfTable (config.build hasAction ev) := by
  rw [build, failsOnly_bind]
  exact ⟨.foldlM (fun spec _ t => addRule_fails hasAction t spec) {}, fun _ _ => failsOnly_ok _⟩

end Config

end LSystem
