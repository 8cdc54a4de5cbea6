import LSystem.CommandLine.Run
import LSystem.Proofs.Config.Failing
import LSystem.Proofs.Execution.Failing
import LSystem.Proofs.Execution.Tracing
import LSystem.Proofs.FileSystem.Writing
import LSystem.Proofs.Text.Encoding

/-! # Failures of the program

A failure of the program is reported, with a word on its class, unless it is one of a few that are
no class of the library: texts repeated too often or grown too long, integers with too many digits,
paths that cannot be, repeat blocks that come out of repeat blocks without end, lone surrogates that
go into a file, and files that hold no text. `run_told` says so for every command line, every file
system and whatever the files hold. -/

namespace LSystem

/-- The errors that the program does not report. -/
@[simp]
def Error.Escapes (fs : FileSystem) : Error → Prop
  | .writtenDigits | .repetitions | .repeatedLength | .endlessNesting | .nullPath => True
  | .readDigits n => Number.digitLimit < n
  | .unencodable fault => Text.isLone fault.char
  | .undecodable words => ∃ file, (file, words) ∈ fs.undecodable
  | _ => False

namespace CommandLine

/-- The words that a report starts with. -/
def reportHeads : List String := ["usage: ", "Config error: ", "L-system error: ", "File error: "]

/-- A success without a report, or a failure with one. -/
def Outcome.Reported (o : Outcome) : Prop :=
  o.ending = .exit 0 ∧ o.stderr = [] ∨
    o.ending = .exit 2 ∧ ∃ head ∈ reportHeads, head.toList <+: o.stderr

/-- Nothing goes wrong unreported, but for the errors that escape. -/
def Outcome.Told (fs : FileSystem) (o : Outcome) : Prop :=
  o.Reported ∨ ∃ e, o.ending = .escape e ∧ e.Escapes fs

/-- An error that is reported, or one of those that escape. -/
def Foreseen (fs : FileSystem) (e : Error) : Prop := (reportHead? e.kind).isSome ∨ e.Escapes fs

variable {fs : FileSystem}

theorem foreseen_of_ofConfig {e : Error} (h : Config.OfConfig e) : Foreseen fs e := by
  obtain ⟨fault, rfl⟩ := h
  exact .inl rfl

theorem foreseen_of_ofTable {e : Error} (h : Config.OfTable e) : Foreseen fs e := by
  rcases h with ⟨key, rfl⟩ | ⟨atom, rfl⟩
  · exact .inl rfl
  · exact .inl rfl

theorem foreseen_of_ofCommand {e : Error} (h : e.OfCommand) : Foreseen fs e := by
  cases e <;> first | exact .inl rfl | exact .inr trivial | exact h.elim

theorem mem_reportHeads {kind : ErrorKind} {head : String} (h : reportHead? kind = some head) :
    head ∈ reportHeads := by
  cases kind <;> cases h <;> simp [reportHeads]

theorem conclude_told {pieces : List Text} {result : Except Error Unit}
    (h : FailsOnly (Foreseen fs) result) : (conclude pieces result).Told fs := by
  cases result with
  | ok _ => exact .inl (.inl ⟨rfl, rfl⟩)
  | error e =>
    rw [failsOnly_error] at h
    rw [conclude]
    split
    · next head hh =>
      refine .inl (.inr ⟨rfl, head, mem_reportHeads hh, ?_⟩)
      simp only [String.toList_append, List.append_assoc]
      exact List.prefix_append ..
    · next hn =>
      rw [Foreseen, hn] at h
      exact .inr ⟨e, rfl, h.resolve_left nofun⟩

/-- A fault that the operating system has no number for escapes. -/
theorem fileFailure_told {e : FileError} (h : e.fault.OfPath ∨ (faultError e.fault).Escapes fs) :
    (fileFailure e).Told fs := by
  unfold fileFailure
  split
  · next he =>
    refine .inr ⟨_, rfl, ?_⟩
    obtain (hs | hn) | h := h
    · rw [he] at hs
      cases hs
    · rw [hn]
      exact trivial
    · exact h
  · have head : "File error: ".toList <+: "File error: [Errno ".toList := by decide
    refine .inl (.inr ⟨rfl, "File error: ", by simp [reportHeads], ?_⟩)
    simp only [String.toList_append, List.append_assoc]
    exact head.trans (List.prefix_append ..)

theorem usage_isPrefix (about : Option Action) : "usage: ".toList <+: (usage about).toList := by
  cases about with
  | none => decide +kernel
  | some action => cases action <;> decide +kernel

theorem refuse_told (about : Option Action) (fault : UsageFault) :
    (refuse about fault).Told fs := by
  refine .inl (.inr ⟨rfl, "usage: ", by simp [reportHeads], ?_⟩)
  simp only [refuse, String.toList_append, List.append_assoc]
  exact (usage_isPrefix about).trans (List.prefix_append ..)

/-! ## Commands -/

theorem loadConfig_foreseen (path document : Text) (iterations : Option Int) :
    FailsOnly (Foreseen fs) (loadConfig path document iterations) := by
  have hd := (Config.readDocument_fails path document).mono (Q := Foreseen fs) ?_
  · have hp (value : Json) := (Config.parse_fails value).mono (Q := Foreseen fs)
      fun e => foreseen_of_ofConfig
    simp only [loadConfig, failsOnly_bind, hd, hp, true_and]
    intro value _ config _
    split
    · simp
    · split
      · exact failsOnly_error.2 (.inl rfl)
      · simp
  · rintro e (h | ⟨n, rfl, h⟩)
    · exact foreseen_of_ofConfig h
    · exact .inr h

variable {draw : Draw}

/-- A configuration has no functions of its own. -/
theorem quiet_of_build {config : Config} {hasAction : Bool} {g : Grammar}
    (h : config.build hasAction { draw } = .ok g) : g.evaluator.Quiet := by
  obtain ⟨table, -, h⟩ := bind_eq_ok_iff.1 h
  cases h
  exact nofun

theorem build_foreseen (config : Config) (hasAction : Bool) :
    FailsOnly (Foreseen fs) (config.build hasAction { draw }) :=
  (Config.build_fails config hasAction _).mono fun _ => foreseen_of_ofTable

theorem expand_foreseen {config : Config} {g : Grammar} (hg : g.evaluator.Quiet) :
    FailsOnly (Foreseen fs) (g.expand config.start config.iterations) :=
  (g.expand_raises _ _).mono fun _ he => foreseen_of_ofCommand (hg.ofCommand he)

/-- A trace stops for an error of the stream or for a pop in excess. -/
theorem run_foreseen {g : Grammar} (hg : g.evaluator.Quiet) {stream : EventStream}
    (hs : stream.FailsOnly g.evaluator.Raises) {e : Error}
    (h : (Trace.consumer.run {} stream).error? = some e) : Foreseen fs e := by
  rcases Trace.error?_run h with h | rfl
  · exact foreseen_of_ofCommand (hg.ofCommand (hs e h))
  · exact .inl rfl

theorem runTrace_told (config : Config) : (runTrace config draw).Told fs := by
  unfold runTrace
  split
  · next he => exact conclude_told (failsOnly_error.2 (build_foreseen _ _ _ he))
  · next g hg =>
    have hq := quiet_of_build hg
    extract_lets run
    split
    · next e he =>
      refine conclude_told (failsOnly_error.2 ?_)
      unfold run Grammar.expandThenExecute at he
      split at he
      · next h =>
        cases he
        exact expand_foreseen hq _ h
      · exact run_foreseen hq (g.streamWithin_raises nestingLimit _) he
    · exact conclude_told (failsOnly_ok _)

theorem runValidate_told (config : Config) : (runValidate config draw).Told fs := by
  unfold runValidate
  split
  · next he => exact conclude_told (failsOnly_error.2 (build_foreseen _ _ _ he))
  · next g hg =>
    extract_lets summary print
    split
    · next he => exact conclude_told (failsOnly_error.2 (expand_foreseen (quiet_of_build hg) _ he))
    · next s _ =>
      extract_lets run
      split
      · next he =>
        have hs := (g.streamWithin_raises nestingLimit s).take sampleSize
        exact conclude_told (failsOnly_error.2 (run_foreseen (quiet_of_build hg) hs he))
      · refine conclude_told ?_
        unfold checkBalance
        split
        · exact failsOnly_error.2 (.inl rfl)
        · simp

theorem expandConfig_foreseen (config : Config) :
    FailsOnly (Foreseen fs) (expandConfig config draw) := by
  rw [expandConfig, failsOnly_bind]
  exact ⟨build_foreseen config false, fun g hg => expand_foreseen (quiet_of_build hg)⟩

theorem runExpand_told (config : Config) (output : Option Text) (fs : FileSystem) :
    ((runExpand config draw output).within fs).1.Told fs := by
  unfold runExpand
  split
  · next he => exact conclude_told (failsOnly_error.2 (expandConfig_foreseen config _ he))
  · next s _ =>
    split
    · exact conclude_told (failsOnly_ok _)
    · next path =>
      simp only [Step.within]
      cases hw : (fs.write path (s ++ ['\n'])).1 with
      | ok u => exact conclude_told (failsOnly_ok u)
      | error e =>
        obtain ⟨-, hp⟩ | ⟨fault, rfl, hf, -⟩ := FileSystem.write_fails hw
        · exact fileFailure_told (.inl hp)
        · exact fileFailure_told (.inr (Encoding.isLone_of_fault? hf))

/-- Whatever the command line, the files and what they hold: the program succeeds, or fails and
reports it, or is left by one of the errors that escape. -/
theorem run_told (argv : List Text) (draw : Draw) (fs : FileSystem) :
    ((run argv draw).within fs).1.Told fs := by
  unfold run
  split
  · next request _ =>
    cases request with
    | help about => exact .inl (.inl ⟨rfl, rfl⟩)
    | run action path iterations output =>
      simp only [runRequest, Step.within]
      cases hr : fs.read path with
      | error e =>
        obtain hp | ⟨file, words, hm, hf⟩ := fs.read_fails path e hr
        · exact fileFailure_told (.inl hp)
        · exact fileFailure_told (.inr (hf ▸ ⟨file, hm⟩))
      | ok document =>
        simp only
        split
        · next he => exact conclude_told (failsOnly_error.2 (loadConfig_foreseen _ _ _ _ he))
        · next config _ =>
          cases action with
          | expand => exact runExpand_told config output fs
          | trace => exact runTrace_told config
          | validate => exact runValidate_told config
  · exact refuse_told _ _

/-- A configuration whose axiom repeats nothing more often than can be counted. -/
def overfull : FileSystem where
  files := [([['c']],
    "\x7b\"axiom\": \"\x7b\x7d(9223372036854775808)\", \"iterations\": 1\x7d".toList)]

/-- A number of repetitions that cannot be counted leaves the program without a report. -/
theorem run_overfull :
    ((run ["expand".toList, ['c']]).within overfull).1 = { ending := .escape .repetitions } := by
  decide +kernel

end CommandLine

end LSystem
