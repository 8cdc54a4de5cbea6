import LSystem.CommandLine.Run
import LSystem.Proofs.Execution.Replay
import LSystem.Proofs.Execution.Tracing

/-! # What a validation tells

A validation executes the first `sampleSize` events of a command. It warns that there are more of
them as soon as there are that many, and then leaves open pushes alone; of a shorter execution it
finds every fault. -/

namespace LSystem.CommandLine

/-- What is printed for some lines. -/
def linePieces (lines : List String) : List Text := printLines (lines.map String.toList)

/-- Lines one after the other, as they are printed. -/
def printed (lines : List String) : Text := (linePieces lines).flatten

/-- The line that warns that only the first part of an execution was looked at. -/
def sampleWarning : Text :=
  printed [s!"warning: execution exceeds {sampleSize} events; " ++
    "stats are based on the first portion only"]

/-- The last line that is printed is the warning. -/
def Outcome.Warns (o : Outcome) : Prop := sampleWarning <:+ o.stdout

@[simp] theorem conclude_pieces (pieces : List Text) (result : Except Error Unit) :
    (conclude pieces result).pieces = pieces := by
  cases result with
  | ok _ => rfl
  | error e =>
    rw [conclude]
    split <;> rfl

@[simp] theorem conclude_stdout (pieces : List Text) (result : Except Error Unit) :
    (conclude pieces result).stdout = pieces.flatten := by
  rw [Outcome.stdout, conclude_pieces]

theorem conclude_ending_iff {pieces : List Text} {result : Except Error Unit} :
    (conclude pieces result).ending = .exit 0 ↔ result = .ok () := by
  cases result with
  | ok _ => simp [conclude]
  | error e =>
    rw [conclude]
    split <;> simp

/-! ## The last line -/

theorem printed_append (lines lines' : List String) :
    printed (lines ++ lines') = printed lines ++ printed lines' := by
  simp [printed, linePieces, printLines]

theorem printed_singleton (line : String) : printed [line] = line.toList ++ ['\n'] := by
  simp [printed, linePieces, printLines]

theorem sampleWarning_eq : ∃ s, sampleWarning = s ++ ['y', '\n'] :=
  ⟨sampleWarning.dropLast.dropLast, by decide +kernel⟩

/-- A line that ends in a number is not the warning. -/
theorem not_isSuffix_of_number (lines : List String) (label : String) (n : Nat) :
    ¬ sampleWarning <:+ printed (lines ++ [label ++ toString n]) := by
  obtain ⟨w, hw⟩ := sampleWarning_eq
  have hne : Nat.toDigits 10 n ≠ [] := Nat.toDigits_ne_nil
  have hn : (toString n).toList =
      (Nat.toDigits 10 n).dropLast ++ [(Nat.toDigits 10 n).getLast hne] := by
    rw [List.dropLast_concat_getLast]
    exact Nat.toList_repr
  have hd := Nat.isDigit_of_mem_toDigits (by decide) (by decide) (List.getLast_mem hne)
  intro h
  rw [printed_append, printed_singleton, String.toList_append, hn, hw] at h
  simp only [List.append_assoc, List.singleton_append] at h
  rw [← List.append_assoc, ← List.append_assoc,
    List.suffix_append_inj_of_length_eq (by rfl)] at h
  obtain ⟨hc, -⟩ := List.cons.inj h.2
  rw [← hc] at hd
  exact absurd hd (by decide)

theorem configSummary_eq (config : Config) (g : Grammar) :
    ∃ lines n, configSummary config g = lines ++ ["branches: " ++ toString (n : Nat)] :=
  ⟨[_, _, _, _], _, rfl⟩

theorem runSummary_eq_of_ne {run : Consumer.Run Trace} (h : run.consumed ≠ sampleSize)
    (length : Nat) : runSummary length run =
      [s!"expanded length: {length}", s!"events: {run.consumed}", s!"calls: {run.state.calls}"] ++
        ["max depth: " ++ toString run.state.maxDepth] := by
  simp only [runSummary, ne_eq, h, not_false_eq_true, if_true]
  rfl

theorem runSummary_eq_of_eq {run : Consumer.Run Trace} (h : run.consumed = sampleSize)
    (length : Nat) : printed (runSummary length run) =
      printed [s!"expanded length: {length}", s!"events (sampled): {run.consumed}+",
        s!"calls: {run.state.calls}", s!"max depth: {run.state.maxDepth}"] ++ sampleWarning := by
  rw [sampleWarning, ← printed_append]
  simp only [runSummary, ne_eq, h, not_true_eq_false, if_false]

/-! ## The sample -/

variable {config : Config} {draw : Draw} {g : Grammar} {s : Text} {d : Nat}

/-- The execution that a validation looks at. -/
def sample (g : Grammar) (s : Text) : Consumer.Run Trace :=
  Trace.consumer.run {} ((g.stream s).take sampleSize)

/-- As long as no pop is in excess, the sample goes on to its full size or to the end of the
stream. -/
theorem sample_of_levels
    (hl : levels Event.push .pop 0 ((g.stream s).events.take sampleSize) = some d) :
    ∃ t : Trace, sample g s = ⟨t, min sampleSize (g.stream s).events.length,
      if (g.stream s).events.length < sampleSize then (g.stream s).error? else none⟩ ∧
      t.depth = d := by
  rw [← EventStream.events_take] at hl
  obtain ⟨t, ht, hd⟩ := Trace.runFrom_of_levels (t := {}) hl 0
  refine ⟨t, ?_, hd⟩
  rw [sample, Consumer.run, ht, EventStream.events_take, EventStream.error?_take, Nat.zero_add,
    List.length_take]

theorem sample_of_levels_none
    (hl : levels Event.push .pop 0 ((g.stream s).events.take sampleSize) = none) :
    (sample g s).error? = some (.config .emptyStack) := by
  rw [← EventStream.events_take] at hl
  obtain ⟨t, n, ht, -⟩ := Trace.runFrom_of_levels_none (t := {}) hl 0
  rw [sample, Consumer.run, ht]

theorem checkBalance_eq_ok {run : Consumer.Run Trace} :
    checkBalance run = .ok () ↔ (run.consumed ≠ sampleSize → run.state.depth = 0) := by
  unfold checkBalance
  split
  · next h => simp [h.1, h.2]
  · next h =>
    simp only [true_iff]
    exact fun hc => not_not.1 fun hd => h ⟨hc, hd⟩

section
variable (hb : config.build true { draw } = .ok g)
  (he : g.expand config.start config.iterations = .ok s)
include hb he

theorem runValidate_eq_of_error {e : Error} (h : (sample g s).error? = some e) :
    runValidate config draw = conclude (linePieces (configSummary config g)) (.error e) := by
  rw [sample] at h
  simp only [runValidate, hb, he, h]
  rfl

theorem runValidate_eq_of_none (h : (sample g s).error? = none) :
    runValidate config draw =
      conclude (linePieces (configSummary config g ++ runSummary s.length (sample g s)))
        (checkBalance (sample g s)) := by
  rw [sample] at h
  simp only [runValidate, hb, he, h]
  rfl

/-- A validation stops at an error of the execution, without a warning. -/
theorem runValidate_of_error {e : Error} (h : (sample g s).error? = some e) :
    (runValidate config draw).ending ≠ .exit 0 ∧ ¬ (runValidate config draw).Warns := by
  rw [runValidate_eq_of_error hb he h]
  refine ⟨fun h0 => ?_, ?_⟩
  · cases conclude_ending_iff.1 h0
  · obtain ⟨lines, n, hl⟩ := configSummary_eq config g
    rw [Outcome.Warns, conclude_stdout, hl]
    exact not_isSuffix_of_number lines "branches: " n

theorem runValidate_of_none (h : (sample g s).error? = none) :
    ((runValidate config draw).ending = .exit 0 ↔
      ((sample g s).consumed ≠ sampleSize → (sample g s).state.depth = 0)) ∧
    ((runValidate config draw).Warns ↔ (sample g s).consumed = sampleSize) := by
  rw [runValidate_eq_of_none hb he h]
  refine ⟨conclude_ending_iff.trans checkBalance_eq_ok, ?_⟩
  rw [Outcome.Warns, conclude_stdout, ← printed, printed_append]
  constructor
  · intro hw
    by_contra hc
    rw [runSummary_eq_of_ne hc, ← printed_append, ← List.append_assoc] at hw
    exact not_isSuffix_of_number _ "max depth: " _ hw
  · intro hc
    rw [runSummary_eq_of_eq hc, ← List.append_assoc]
    exact List.suffix_append ..

/-- If the sample is full and no pop in it is in excess, there is a warning and nothing more. -/
theorem runValidate_of_full (hn : sampleSize ≤ (g.stream s).events.length)
    (hl : levels Event.push .pop 0 ((g.stream s).events.take sampleSize) = some d) :
    (runValidate config draw).ending = .exit 0 ∧ (runValidate config draw).Warns := by
  obtain ⟨t, ht, -⟩ := sample_of_levels hl
  rw [Nat.min_eq_left hn, if_neg (Nat.not_lt.2 hn)] at ht
  obtain ⟨h0, hw⟩ := runValidate_of_none hb he (by rw [ht])
  simp only [ht] at h0 hw
  exact ⟨h0.2 fun h => absurd rfl h, hw.2 trivial⟩

/-- A shorter execution is looked at as a whole. -/
theorem runValidate_of_short (hn : (g.stream s).events.length < sampleSize)
    (hs : (g.stream s).error? = none)
    (hl : levels Event.push .pop 0 ((g.stream s).events.take sampleSize) = some d) :
    ((runValidate config draw).ending = .exit 0 ↔ d = 0) ∧ ¬ (runValidate config draw).Warns := by
  obtain ⟨t, ht, rfl⟩ := sample_of_levels hl
  rw [Nat.min_eq_right (Nat.le_of_lt hn), if_pos hn, hs] at ht
  obtain ⟨h0, hw⟩ := runValidate_of_none hb he (by rw [ht])
  simp only [ht] at h0 hw
  have hne := Nat.ne_of_lt hn
  exact ⟨h0.trans ⟨fun h => h hne, fun h _ => h⟩, fun h => hne (hw.1 h)⟩

/-- A validation warns if the sample is full and no pop in it is in excess. It accepts a command
whose sample is full if no pop in it is in excess, and one whose stream is shorter and does not fail
if this is nested. -/
theorem validate_decides :
    ((runValidate config draw).Warns ↔ sampleSize ≤ (g.stream s).events.length ∧
      ∀ p, p <+: (g.stream s).events.take sampleSize → p.count .pop ≤ p.count .push) ∧
    (sampleSize ≤ (g.stream s).events.length → ((runValidate config draw).ending = .exit 0 ↔
      ∀ p, p <+: (g.stream s).events.take sampleSize → p.count .pop ≤ p.count .push)) ∧
    ((g.stream s).events.length < sampleSize → (g.stream s).error? = none →
      ((runValidate config draw).ending = .exit 0 ↔ Nested .push .pop (g.stream s).events)) := by
  have opened := levels_isSome_iff Event.push_ne_pop (l := (g.stream s).events.take sampleSize)
    (d := 0)
  simp only [Nat.add_zero] at opened
  rw [← opened]
  cases hl : levels Event.push .pop 0 ((g.stream s).events.take sampleSize) with
  | none =>
    obtain ⟨h0, hw⟩ := runValidate_of_error hb he (sample_of_levels_none hl)
    refine ⟨by simp [hw], fun _ => by simp [h0], fun hn _ => ?_⟩
    rw [List.take_of_length_le (Nat.le_of_lt hn)] at hl
    rw [nested_iff_levels Event.push_ne_pop, hl]
    simp [h0]
  | some d =>
    refine ⟨?_, fun hn => ?_, fun hn hs => ?_⟩
    · rw [Option.isSome_some, and_iff_left rfl]
      refine ⟨fun hw => ?_, fun hn => (runValidate_of_full hb he hn hl).2⟩
      by_contra hn
      rw [Nat.not_le] at hn
      cases hs : (g.stream s).error? with
      | none => exact (runValidate_of_short hb he hn hs hl).2 hw
      | some e =>
        obtain ⟨t, ht, -⟩ := sample_of_levels hl
        rw [if_pos hn, hs] at ht
        exact (runValidate_of_error hb he (by rw [ht])).2 hw
    · simp [(runValidate_of_full hb he hn hl).1]
    · rw [(runValidate_of_short hb he hn hs hl).1, nested_iff_levels Event.push_ne_pop,
        ← List.take_of_length_le (Nat.le_of_lt hn), hl, Option.some_inj]

end

/-- A command without rules. -/
def plainConfig (start : Text) : Config where
  name := "L-System".toList
  start := start
  iterations := 0
  rules := []

theorem build_plainConfig (start : Text) :
    (plainConfig start).build true { draw := ({} : Evaluator).draw } = .ok {} := rfl

theorem expand_plainConfig (start : Text) :
    Grammar.expand {} (plainConfig start).start (plainConfig start).iterations = .ok start := rfl

theorem validate_decides_open_push :
    let o := runValidate (plainConfig "{[]}(2)[".toList) ({} : Evaluator).draw
    o.ending ≠ .exit 0 ∧ ¬ o.Warns := by
  intro o
  have hs : ((Grammar.stream {} "{[]}(2)[".toList).collect []) =
      ([.push, .pop, .push, .pop, .push], none) := by decide +kernel
  rw [EventStream.collect_eq] at hs
  obtain ⟨hv, hn⟩ := Prod.mk.inj hs
  rw [List.reverse_nil, List.nil_append] at hv
  obtain ⟨hw, -, h0⟩ := validate_decides (build_plainConfig _) (expand_plainConfig _)
  rw [hv] at hw h0
  constructor
  · rw [Ne, h0 (by decide) hn, nested_iff_levels Event.push_ne_pop]
    decide
  · rw [hw]
    exact fun h => absurd h.1 (by decide)

/-- As many pushes as a sample has events. -/
def openers : Text := "{[}(10000)".toList

theorem stream_openers :
    (Grammar.stream {} openers).events = List.replicate sampleSize .push ∧
      (Grammar.stream {} openers).error? = none := by
  have hb : (Token.block ['['] "10000".toList).Formed :=
    formed_of_mem_tokenize (s := openers) (by decide)
  have hn : Evaluator.count {} "10000".toList = .ok sampleSize := by decide +kernel
  have he : Grammar.expandOnce {} ['['] = .ok ['['] := by decide +kernel
  have hs : Grammar.stream {} openers =
      (Grammar.streamWithin {} 999 ['[']).replay sampleSize fun _ => .done :=
    Grammar.streamWithin_block_append hb hn (.inr he) []
  have h0 : (Grammar.streamWithin {} 999 ['[']).error? = none := by decide +kernel
  have hv : (Grammar.streamWithin {} 999 ['[']).events = [.push] := by decide +kernel
  rw [hs, EventStream.events_replay h0, EventStream.error?_replay h0, hv]
  simp

/-- An execution that is exactly as long as a sample is said to exceed it, and what it leaves open
is not seen. -/
theorem runValidate_openers :
    let o := runValidate (plainConfig openers) ({} : Evaluator).draw
    Config.parse (.object [("axiom".toList, .text openers)]) = .ok (plainConfig openers) ∧
      (Grammar.stream {} openers).events.length = sampleSize ∧
      (Grammar.stream {} openers).error? = none ∧
      ¬ Nested .push .pop (Grammar.stream {} openers).events ∧
      o.ending = .exit 0 ∧ o.Warns := by
  obtain ⟨hv, hs⟩ := stream_openers
  have hc : Config.parse (.object [("axiom".toList, .text openers)]) =
      .ok (plainConfig openers) := by decide +kernel
  have hl : levels Event.push .pop 0 (List.replicate sampleSize .push) = some sampleSize := by
    rw [levels_replicate_up, Nat.zero_add]
  have hn : (Grammar.stream {} openers).events.length = sampleSize := by
    rw [hv, List.length_replicate]
  refine ⟨hc, hn, hs, fun h => ?_, ?_⟩
  · rw [nested_iff_levels Event.push_ne_pop, hv, hl] at h
    cases h
  · have hf : levels Event.push .pop 0 ((Grammar.stream {} openers).events.take sampleSize) =
        some sampleSize := by
      rw [hv, List.take_replicate, Nat.min_self, hl]
    exact runValidate_of_full (g := {}) (s := openers) (build_plainConfig openers)
      (expand_plainConfig openers) hn.ge hf

end LSystem.CommandLine
