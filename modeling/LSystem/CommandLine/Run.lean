import LSystem.CommandLine.Options
import LSystem.Config
import LSystem.FileSystem
import LSystem.Trace

/-! # Running the commands

What the program does is a chain of steps: it reads the configuration, and may write a file, before
it ends. `Step.within` follows the chain inside of a file system, and `Outcome.on` says what comes
of the outcome on an output that has no bytes for some characters. An error of a configuration or of
a rule ends the program with a message; an error of another class is no matter of the user's input
and escapes.

Random numbers are drawn anew in each run. Here they are given with the run: what is drawn while a
text is evaluated depends on this text. -/

namespace LSystem.CommandLine

inductive Ending where
  | exit (code : Nat)
  /-- An error that is not reported but passed on. -/
  | escape (e : Error)
  deriving DecidableEq, Repr

/-- How the program ends, and what it has printed until then: `pieces` is one text for each time
that something is printed. -/
structure Outcome where
  ending : Ending
  pieces : List Text := []
  stderr : Text := []
  deriving DecidableEq, Repr

/-- All that is printed. -/
def Outcome.stdout (o : Outcome) : Text := o.pieces.flatten

/-- The outcome on an output with an encoding. What cannot be encoded is not printed, and the error
escapes. -/
def Outcome.on (out : Encoding) (o : Outcome) : Outcome :=
  match out.print o.pieces with
  | (_, none) => o
  | (shown, some fault) => { ending := .escape (.unencodable fault), pieces := shown }

inductive Step where
  | finish (o : Outcome)
  | read (path : Text) (next : Except FileError Text → Step)
  /-- Writes a text to a file, makes the directories above it, and goes on. -/
  | write (path text : Text) (next : Except FileError Unit → Step)

/-- The outcome inside of a file system, and the file system at the end. -/
def Step.within (fs : FileSystem) : Step → Outcome × FileSystem
  | .finish o => (o, fs)
  | .read path next => (next (fs.read path)).within fs
  | .write path s next =>
    let (result, fs) := fs.write path s
    (next result).within fs

/-- What introduces the report of an error, if an error of this class is reported. -/
def reportHead? : ErrorKind → Option String
  | .config => some "Config error: "
  | .malformedDeclaration => some "L-system error: "
  | .duplicateAtom => some "L-system error: "
  | .unknownAtom => some "L-system error: "
  | .evaluation => some "L-system error: "
  | .arity => some "L-system error: "
  | .value => none
  | .overflow => none
  | .runtime => none

/-- The outcome of a command that printed some texts and then succeeded or failed. -/
def conclude (pieces : List Text) : Except Error Unit → Outcome
  | .ok () => { ending := .exit 0, pieces }
  | .error e =>
    match reportHead? e.kind with
    | some head =>
      { ending := .exit 2, pieces, stderr := (head ++ e.message ++ "\n").toList }
    | none => { ending := .escape e, pieces }

/-- The error behind a fault that the operating system has no number for. -/
def faultError : FileFault → Error
  | .undecodable words => .undecodable words
  | .unencodable fault => .unencodable fault
  | _ => .nullPath

/-- The outcome when a file cannot be read or written. What is no error of the operating system is
an error of another class. -/
def fileFailure (e : FileError) : Outcome :=
  match e.fault.errno? with
  | none => { ending := .escape (faultError e.fault) }
  | some (number, words) =>
    { ending := .exit 2
      stderr := s!"File error: [Errno {number}] {words}: {quotedString e.path}\n".toList }

/-- Lines, each with its end. -/
def printLines (lines : List Text) : List Text := lines.map (· ++ ['\n'])

/-- The configuration in a document, with another number of rounds if one was given. -/
def loadConfig (path document : Text) (iterations : Option Int) : Except Error Config := do
  let value ← Config.readDocument path document
  let config ← Config.parse value
  match iterations with
  | none => .ok config
  | some n =>
    if n < 0 then .error (.config .negativeOption)
    else .ok { config with iterations := n.toNat }

/-- What is drawn at random in a run, while a text is evaluated. -/
abbrev Draw := Text → Expr.Sample

def expandConfig (config : Config) (draw : Draw) : Except Error Text := do
  let g ← config.build false { draw }
  g.expand config.start config.iterations

/-- Prints what a configuration expands to, or writes it to a file. -/
def runExpand (config : Config) (draw : Draw) (output : Option Text) : Step :=
  match expandConfig config draw with
  | .error e => .finish (conclude [] (.error e))
  | .ok s =>
    match output with
    | none => .finish (conclude (printLines [s]) (.ok ()))
    | some path =>
      .write path (s ++ ['\n']) fun
        | .ok () => .finish (conclude [] (.ok ()))
        | .error e => .finish (fileFailure e)

/-- Prints the trace of what a configuration expands to, if the execution succeeds. -/
def runTrace (config : Config) (draw : Draw) : Outcome :=
  match config.build true { draw } with
  | .error e => conclude [] (.error e)
  | .ok g =>
    let run := g.expandThenExecute Trace.consumer {} config.start config.iterations
    match run.error? with
    | some e => conclude [] (.error e)
    | none => conclude (printLines run.state.lines.toList) (.ok ())

/-- How many events a validation executes at most. -/
def sampleSize : Nat := 10000

def configSummary (config : Config) (g : Grammar) : List String :=
  [s!"name: {String.ofList config.name}",
    s!"axiom length: {config.start.length}",
    s!"iterations: {config.iterations}",
    s!"rules: {g.table.size}",
    s!"branches: {(g.table.rules.flatMap Rule.branches).length}"]

/-- The lines about the execution of an expanded command. -/
def runSummary (length : Nat) (run : Consumer.Run Trace) : List String :=
  let whole := run.consumed ≠ sampleSize
  [s!"expanded length: {length}",
    if whole then s!"events: {run.consumed}" else s!"events (sampled): {run.consumed}+",
    s!"calls: {run.state.calls}",
    s!"max depth: {run.state.maxDepth}"] ++
  if whole then []
  else
    [s!"warning: execution exceeds {sampleSize} events; " ++
      "stats are based on the first portion only"]

/-- Refuses pushes that are left at the end of an execution, unless only its start was looked at. -/
def checkBalance (run : Consumer.Run Trace) : Except Error Unit :=
  if run.consumed ≠ sampleSize ∧ run.state.depth ≠ 0 then
    .error (.config (.unmatchedPushes run.state.depth))
  else .ok ()

/-- Prints a summary of a configuration and of the first events of its execution. -/
def runValidate (config : Config) (draw : Draw) : Outcome :=
  match config.build true { draw } with
  | .error e => conclude [] (.error e)
  | .ok g =>
    let summary := configSummary config g
    let print (lines : List String) : List Text := printLines (lines.map String.toList)
    match g.expand config.start config.iterations with
    | .error e => conclude (print summary) (.error e)
    | .ok s =>
      let run := Trace.consumer.run {} ((g.stream s).take sampleSize)
      match run.error? with
      | some e => conclude (print summary) (.error e)
      | none => conclude (print (summary ++ runSummary s.length run)) (checkBalance run)

def runAction (action : Action) (config : Config) (draw : Draw) (output : Option Text) : Step :=
  match action with
  | .expand => runExpand config draw output
  | .trace => .finish (runTrace config draw)
  | .validate => .finish (runValidate config draw)

def runRequest (draw : Draw) : Request → Step
  | .help about => .finish { ending := .exit 0, pieces := [(help about).toList] }
  | .run action path iterations output =>
    .read path fun
      | .error e => .finish (fileFailure e)
      | .ok document =>
        match loadConfig path document iterations with
        | .error e => .finish (conclude [] (.error e))
        | .ok config => runAction action config draw output

/-- The outcome when a command line is refused. -/
def refuse (about : Option Action) (fault : UsageFault) : Outcome where
  ending := .exit 2
  stderr := (usage about ++ s!"{speaker about}: error: {fault.message}\n").toList

/-- What the program does with a command line. -/
def run (argv : List Text) (draw : Draw := ({} : Evaluator).draw) : Step :=
  match parse argv with
  | .ok request => runRequest draw request
  | .error (about, fault) => .finish (refuse about fault)

end LSystem.CommandLine
