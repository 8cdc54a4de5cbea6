import LSystem.Proofs.CommandLine.Agreement
import LSystem.Proofs.FileSystem.Writing

/-! # Expanding and tracing are all or nothing

An expansion or a trace that fails, for whatever reason and however late, has printed nothing and
changed no file; one that succeeds has delivered the whole of its result, in one place: an expansion
on the output or in the file that was asked for, a trace on the output. There is one exception: the
result is encoded while it is delivered. If that fails, then the file is empty, or the lines before
the one that cannot be encoded have been printed (`run_all_or_nothing`). What the result is,
`ExpandsTo` and `TracesTo` say of the configuration as it stands in its file, with the number of
rounds that was asked for or else its own. -/

namespace LSystem.CommandLine

open FileSystem (SameFiles)

variable {fs fs' : FileSystem} {path s document : Text} {iterations : Option Int}
  {output : Option Text} {config config' : Config} {action : Action} {t : Trace} {draw : Draw}
  {out : Encoding} {o : Outcome}

/-- The file at a path holds a configuration. -/
def Loads (fs : FileSystem) (path : Text) (config : Config) : Prop :=
  ∃ document value, fs.read path = .ok document ∧
    Config.readDocument path document = .ok value ∧ Config.parse value = .ok config

/-- The axiom of the configuration at a path expands to `s`. -/
def ExpandsTo (fs : FileSystem) (path : Text) (draw : Draw) (iterations : Option Int) (s : Text) :
    Prop :=
  ∃ config g, Loads fs path config ∧ config.build false { draw } = .ok g ∧
    g.expand config.start (iterations.getD config.iterations) = .ok s

/-- The axiom of the configuration at a path is expanded and executed, which leaves the trace
`t`. -/
def TracesTo (fs : FileSystem) (path : Text) (draw : Draw) (iterations : Option Int) (t : Trace) :
    Prop :=
  ∃ config g n, Loads fs path config ∧ config.build true { draw } = .ok g ∧
    g.expandThenExecute Trace.consumer {} config.start (iterations.getD config.iterations) =
      ⟨t, n, none⟩

/-- How a command delivers its result: the outcome, and the file system at the end. -/
inductive Delivered (fs : FileSystem) (path : Text) (draw : Draw) (iterations : Option Int) :
    Action → Option Text → Outcome → FileSystem → Prop
  | printed {s : Text} (expands : ExpandsTo fs path draw iterations s) :
    Delivered fs path draw iterations .expand none
      { ending := .exit 0, pieces := [s ++ ['\n']] } fs
  | written {s file : Text} {fs' : FileSystem} (expands : ExpandsTo fs path draw iterations s)
      (whole : fs.Written file (s ++ ['\n']) fs') :
    Delivered fs path draw iterations .expand (some file) { ending := .exit 0 } fs'
  | traced {t : Trace} {output : Option Text} (traces : TracesTo fs path draw iterations t) :
    Delivered fs path draw iterations .trace output
      { ending := .exit 0, pieces := printLines t.lines.toList } fs

/-- How a command breaks off while it delivers its result: at a character that cannot be encoded. -/
inductive BrokenOff (fs : FileSystem) (path : Text) (draw : Draw) (iterations : Option Int)
    (out : Encoding) : Action → Option Text → Outcome → FileSystem → Prop
  /-- The file is emptied before the result is encoded. -/
  | written {s file : Text} {fs' : FileSystem} {fault : EncodingFault}
      (expands : ExpandsTo fs path draw iterations s)
      (fails : Encoding.utf8.fault? (s ++ ['\n']) = some fault) (emptied : fs.Written file [] fs') :
    BrokenOff fs path draw iterations out .expand (some file)
      { ending := .escape (.unencodable fault) } fs'
  | traced {t : Trace} {output : Option Text} {before after : List Text} {line : Text}
      {fault : EncodingFault} (traces : TracesTo fs path draw iterations t)
      (lines : printLines t.lines.toList = before ++ line :: after)
      (takes : ∀ line ∈ before, out.Takes line) (fails : out.fault? line = some fault) :
    BrokenOff fs path draw iterations out .trace output
      { ending := .escape (.unencodable fault), pieces := before } fs

/-- A failure with nothing printed. -/
structure Outcome.Silent (o : Outcome) : Prop where
  ending : o.ending ≠ .exit 0
  pieces : o.pieces = []

theorem conclude_silent (e : Error) : (conclude [] (.error e)).Silent :=
  ⟨fun h => (nomatch conclude_ending_iff.1 h), conclude_pieces ..⟩

theorem fileFailure_silent (e : FileError) : (fileFailure e).Silent := by
  refine ⟨fileFailure_ending e, ?_⟩
  unfold fileFailure
  split <;> rfl

/-- What prints nothing is the same on every output. -/
theorem Outcome.on_of_pieces (h : o.pieces = []) : o.on out = o :=
  on_eq_self (by simp [h])

/-- A single line is printed as a whole or not at all. -/
theorem printed_or_silent (s : Text) (out : Encoding) :
    (conclude (printLines [s]) (.ok ())).on out = conclude (printLines [s]) (.ok ()) ∨
      ((conclude (printLines [s]) (.ok ())).on out).Silent := by
  obtain ⟨-, ho⟩ | ⟨before, line, after, fault, hp, -, -, ho⟩ :=
    Outcome.on_cases (conclude (printLines [s]) (.ok ())) out
  · exact .inl ho
  · -- Nothing stands before the one line, so that nothing is printed.
    obtain rfl : before = [] := by
      rw [conclude_pieces] at hp
      cases before with
      | nil => rfl
      | cons l before => cases before <;> cases hp
    rw [ho]
    exact .inr ⟨by simp, rfl⟩

/-! ## The configuration with the rounds that were asked for -/

theorem loadConfig_eq_ok_iff : loadConfig path document iterations = .ok config' ↔
    ∃ value config, Config.readDocument path document = .ok value ∧
      Config.parse value = .ok config ∧ 0 ≤ iterations.getD config.iterations ∧
      config' = { config with iterations := (iterations.getD config.iterations).toNat } := by
  simp only [loadConfig, bind_eq_ok_iff, ← exists_and_left]
  refine exists_congr fun value => exists_congr fun config => and_congr_right fun _ =>
    and_congr_right fun _ => ?_
  cases iterations with
  | none => simp [eq_comm]
  | some n =>
    by_cases hn : n < 0
    · simp [hn]
    · simp [hn, Int.not_lt.1 hn, eq_comm]

theorem nonneg_of_expand {g : Grammar} {n : Int} {start : Text} (h : g.expand start n = .ok s) :
    0 ≤ n := by
  by_contra hn
  rw [Grammar.expand, if_pos (Int.not_le.1 hn)] at h
  cases h

theorem expandsTo_iff : ExpandsTo fs path draw iterations s ↔ ∃ document config',
    fs.read path = .ok document ∧ loadConfig path document iterations = .ok config' ∧
      expandConfig config' draw = .ok s := by
  simp only [loadConfig_eq_ok_iff, expandConfig, bind_eq_ok_iff]
  constructor
  · rintro ⟨config, g, ⟨document, value, hr, hd, hp⟩, hb, he⟩
    have hn := nonneg_of_expand he
    rw [← Int.toNat_of_nonneg hn] at he
    exact ⟨document, _, hr, ⟨value, config, hd, hp, hn, rfl⟩, g, hb, he⟩
  · rintro ⟨document, _, hr, ⟨value, config, hd, hp, hn, rfl⟩, g, hb, he⟩
    rw [Int.toNat_of_nonneg hn] at he
    exact ⟨config, g, ⟨document, value, hr, hd, hp⟩, hb, he⟩

theorem tracesTo_iff : TracesTo fs path draw iterations t ↔ ∃ document config' g n,
    fs.read path = .ok document ∧ loadConfig path document iterations = .ok config' ∧
      config'.build true { draw } = .ok g ∧
      g.expandThenExecute Trace.consumer {} config'.start config'.iterations = ⟨t, n, none⟩ := by
  simp only [loadConfig_eq_ok_iff]
  constructor
  · rintro ⟨config, g, n, ⟨document, value, hr, hd, hp⟩, hb, he⟩
    have hn : 0 ≤ iterations.getD config.iterations := by
      cases hx : g.expand config.start (iterations.getD config.iterations) with
      | error e =>
        rw [Grammar.expandThenExecute, hx] at he
        cases he
      | ok s => exact nonneg_of_expand hx
    rw [← Int.toNat_of_nonneg hn] at he
    exact ⟨document, _, g, n, hr, ⟨value, config, hd, hp, hn, rfl⟩, hb, he⟩
  · rintro ⟨document, _, g, n, hr, ⟨value, config, hd, hp, hn, rfl⟩, hb, he⟩
    rw [Int.toNat_of_nonneg hn] at he
    exact ⟨config, g, n, ⟨document, value, hr, hd, hp⟩, hb, he⟩

/-! ## Commands -/

theorem Delivered.ending (h : Delivered fs path draw iterations action output o fs') :
    o.ending = .exit 0 := by
  cases h <;> rfl

/-- A file that was asked for holds what the configuration expands to. -/
theorem Delivered.file {file : Text}
    (h : Delivered fs path draw iterations .expand (some file) o fs') :
    ∃ s, ExpandsTo fs path draw iterations s ∧ fs.Written file (s ++ ['\n']) fs' := by
  cases h with
  | written expands whole => exact ⟨_, expands, whole⟩

theorem BrokenOff.ending (h : BrokenOff fs path draw iterations out action output o fs')
    (code : Nat) : o.ending ≠ .exit code := by
  cases h <;> simp

/-- How a command can end: nothing has happened, or all of it, or a part before something that
cannot be encoded. -/
inductive AllOrNothing (fs : FileSystem) (path : Text) (draw : Draw) (iterations : Option Int)
    (out : Encoding) (action : Action) (output : Option Text) (o : Outcome) (fs' : FileSystem) :
    Prop
  | nothing (silent : o.Silent) (same : SameFiles fs fs')
  | all (delivered : Delivered fs path draw iterations action output o fs')
  | part (broken : BrokenOff fs path draw iterations out action output o fs')

theorem AllOrNothing.of_silent (h : o.Silent) (hs : SameFiles fs fs') :
    AllOrNothing fs path draw iterations out action output (o.on out) fs' := by
  rw [Outcome.on_of_pieces h.pieces]
  exact .nothing h hs

theorem runExpand_allOrNothing (hr : fs.read path = .ok document)
    (hl : loadConfig path document iterations = .ok config) (out : Encoding)
    (output : Option Text) :
    AllOrNothing fs path draw iterations out .expand output
      (((runExpand config draw output).within fs).1.on out)
      ((runExpand config draw output).within fs).2 := by
  unfold runExpand
  cases he : expandConfig config draw with
  | error e => exact .of_silent (conclude_silent e) (.refl fs)
  | ok s =>
    have hx : ExpandsTo fs path draw iterations s :=
      expandsTo_iff.2 ⟨document, config, hr, hl, he⟩
    cases output with
    | none =>
      simp only [Step.within]
      obtain ho | ho := printed_or_silent s out
      · rw [ho]
        exact .all (.printed hx)
      · exact .nothing ho (.refl fs)
    | some file =>
      simp only [Step.within]
      cases hw : (fs.write file (s ++ ['\n'])).1 with
      | ok u =>
        simp only [Step.within]
        rw [Outcome.on_of_pieces (conclude_pieces ..)]
        exact .all (.written hx (FileSystem.write_written hw))
      | error e =>
        obtain ⟨hs, -⟩ | ⟨fault, rfl, hf, hwritten⟩ := FileSystem.write_fails hw
        · exact .of_silent (fileFailure_silent e) hs
        · simp only [Step.within]
          rw [Outcome.on_of_pieces (fileFailure_silent _).pieces]
          exact .part (.written hx hf hwritten)

theorem runTrace_allOrNothing (hr : fs.read path = .ok document)
    (hl : loadConfig path document iterations = .ok config) (out : Encoding)
    (output : Option Text) :
    AllOrNothing fs path draw iterations out .trace output ((runTrace config draw).on out) fs := by
  unfold runTrace
  cases hb : config.build true { draw } with
  | error e => exact .of_silent (conclude_silent e) (.refl fs)
  | ok g =>
    dsimp only
    cases he : g.expandThenExecute Trace.consumer {} config.start config.iterations with
    | mk t n error? =>
      cases error? with
      | some e => exact .of_silent (conclude_silent e) (.refl fs)
      | none =>
        have hx : TracesTo fs path draw iterations t :=
          tracesTo_iff.2 ⟨document, config, g, n, hr, hl, hb, he⟩
        dsimp only
        obtain ⟨-, ho⟩ | ⟨before, line, after, fault, hp, hb, hf, ho⟩ :=
          Outcome.on_cases (conclude (printLines t.lines.toList) (.ok ())) out
        · rw [ho]
          exact .all (.traced hx)
        · rw [ho]
          exact .part (.traced hx (by rw [← hp, conclude_pieces]) hb hf)

theorem run_allOrNothing {argv : List Text} (fs : FileSystem) (draw : Draw) (out : Encoding)
    (h : parse argv = .ok (.run action path iterations output)) (ha : action ≠ .validate) :
    AllOrNothing fs path draw iterations out action output
      (((run argv draw).within fs).1.on out) ((run argv draw).within fs).2 := by
  rw [run_of_parse fs draw h]
  cases hr : fs.read path with
  | error e => exact .of_silent (fileFailure_silent e) (.refl fs)
  | ok document =>
    dsimp only
    cases hl : loadConfig path document iterations with
    | error e => exact .of_silent (conclude_silent e) (.refl fs)
    | ok config =>
      cases action with
      | expand => exact runExpand_allOrNothing hr hl out output
      | trace => exact runTrace_allOrNothing hr hl out output
      | validate => exact absurd rfl ha

section
variable {argv : List Text} (fs : FileSystem) (draw : Draw)

/-- An expansion succeeds if there is something to deliver and a place for it. -/
theorem run_expand_ending (h : parse argv = .ok (.run .expand path iterations output))
    (hx : ExpandsTo fs path draw iterations s) (hout : output = none → out.Takes (s ++ ['\n']))
    (hw : ∀ file ∈ output, (fs.write file (s ++ ['\n'])).1 = .ok ()) :
    (((run argv draw).within fs).1.on out).ending = .exit 0 := by
  obtain ⟨document, config, hr, hl, he⟩ := expandsTo_iff.1 hx
  simp only [run_of_parse fs draw h, hr, hl, runAction, runExpand, he]
  cases output with
  | none =>
    simp only [Step.within]
    rw [Outcome.on_eq_self]
    · rfl
    · exact List.forall_mem_singleton.2 (hout rfl)
  | some file =>
    have hw := hw file rfl
    simp only [Step.within, hw]
    rw [Outcome.on_of_pieces (conclude_pieces ..)]
    rfl

theorem run_trace_ending (h : parse argv = .ok (.run .trace path iterations output))
    (hx : TracesTo fs path draw iterations t)
    (hout : ∀ line ∈ printLines t.lines.toList, out.Takes line) :
    (((run argv draw).within fs).1.on out).ending = .exit 0 := by
  obtain ⟨document, config, g, n, hr, hl, hb, he⟩ := tracesTo_iff.1 hx
  simp only [run_of_parse fs draw h, hr, hl, runAction, runTrace, hb, he, Step.within]
  rw [Outcome.on_eq_self]
  · rfl
  · exact hout

end

/-- **All or nothing, but for encoding.** An expansion or a trace that does not succeed has printed
nothing and left all files as they were, unless it broke off at a character that cannot be encoded;
one that succeeds has delivered its result. It succeeds if there is a result that can be
delivered. -/
theorem run_all_or_nothing (fs : FileSystem) (draw : Draw) (out : Encoding) {argv : List Text}
    (h : parse argv = .ok (.run action path iterations output)) (ha : action ≠ .validate) :
    let o := ((run argv draw).within fs).1.on out
    let fs' := ((run argv draw).within fs).2
    (o.ending ≠ .exit 0 → o.stdout = [] ∧ SameFiles fs fs' ∨
      BrokenOff fs path draw iterations out action output o fs') ∧
    (o.ending = .exit 0 → Delivered fs path draw iterations action output o fs') ∧
    (∀ s, action = .expand → ExpandsTo fs path draw iterations s →
      (output = none → out.Takes (s ++ ['\n'])) →
      (∀ file ∈ output, (fs.write file (s ++ ['\n'])).1 = .ok ()) → o.ending = .exit 0) ∧
    ∀ t, action = .trace → TracesTo fs path draw iterations t →
      (∀ line ∈ printLines t.lines.toList, out.Takes line) → o.ending = .exit 0 := by
  intro o fs'
  refine ⟨fun h0 => ?_, fun h0 => ?_, ?_, ?_⟩
  · cases run_allOrNothing fs draw out h ha with
    | nothing hs hf => exact .inl ⟨by rw [Outcome.stdout, hs.pieces]; rfl, hf⟩
    | all hd => exact absurd hd.ending h0
    | part hb => exact .inr hb
  · cases run_allOrNothing fs draw out h ha with
    | nothing hs _ => exact absurd h0 hs.ending
    | all hd => exact hd
    | part hb => exact absurd h0 (hb.ending 0)
  · rintro s rfl hx hout hw
    exact run_expand_ending fs draw h hx hout hw
  · rintro t rfl hx hout
    exact run_trace_ending fs draw h hx hout

/-- A configuration that grows, and one whose execution fails at its last event. -/
def growing : FileSystem where
  files := [
    ([['c']], "\x7b\"axiom\": \"A<1>\", \"rules\": ".toList ++
      "\x7b\"A<x>\": \x7b\"fallback\": \"[A<x+1>]\"\x7d\x7d\x7d".toList),
    ([['u']], "\x7b\"axiom\": \"[]]\"\x7d".toList)]
  working := [['w']]

theorem run_all_or_nothing_growing :
    let expand := (run (["expand", "/c", "--iterations=1", "--output", "/d/o"].map
      String.toList)).within growing
    let trace := (run (["trace", "../u"].map String.toList)).within growing
    (∃ s, ExpandsTo growing "/c".toList ({} : Evaluator).draw (some 1) s ∧
      growing.Written "/d/o".toList (s ++ ['\n']) expand.2) ∧
    (trace.1.on .utf8).stdout = [] ∧ SameFiles growing trace.2 := by
  intro expand trace
  have he : parse (["expand", "/c", "--iterations=1", "--output", "/d/o"].map String.toList) =
      .ok (.run .expand "/c".toList (some 1) (some "/d/o".toList)) := by decide +kernel
  have ht : parse (["trace", "../u"].map String.toList) =
      .ok (.run .trace "../u".toList none none) := by decide +kernel
  obtain ⟨-, hd, -⟩ := run_all_or_nothing growing ({} : Evaluator).draw .utf8 he (by decide)
  obtain ⟨hn, -⟩ := run_all_or_nothing growing ({} : Evaluator).draw .utf8 ht (by decide)
  have h0 : (expand.1.on .utf8).ending = .exit 0 := by decide +kernel
  have h2 : (trace.1.on .utf8).ending = .exit 2 := by decide +kernel
  have hn := hn fun h => nomatch h2.symm.trans h
  exact ⟨(hd h0).file, hn.resolve_right fun hb => hb.ending 2 h2⟩

/-- A configuration with an argument that evaluates to a lone surrogate. -/
def halved : FileSystem where
  files := [
    ([['c']], ("\x7b\"axiom\": \"F<1>F<'\\\\ud800'>\", " ++
      "\"rules\": \x7b\"F<x>\": \x7b\x7d\x7d\x7d").toList),
    ([['o']], "old\n".toList)]

/-- Two results that cannot be encoded: the file that one should go to is empty afterwards, and of
the other one the lines before it have been printed. -/
theorem run_breaks_off :
    let argv := ["expand", "c", "--iterations=1", "--output", "o"].map String.toList
    let expand := (run argv).within halved
    let trace := (run ["trace".toList, ['c']]).within halved
    parse argv = .ok (.run .expand ['c'] (some 1) (some ['o'])) ∧
      (expand.1.on .utf8).ending ≠ .exit 0 ∧ halved.content? [['o']] = some "old\n".toList ∧
      expand.2.content? [['o']] = some [] ∧
    parse ["trace".toList, ['c']] = .ok (.run .trace ['c'] none none) ∧
      (trace.1.on .utf8).ending ≠ .exit 0 ∧
      (trace.1.on .utf8).stdout = "prepare F\ncall F<1>\nprepare F\n".toList := by
  decide +kernel

end LSystem.CommandLine
