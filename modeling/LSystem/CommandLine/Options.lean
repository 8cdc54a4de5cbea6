import LSystem.CommandLine.Usage
import LSystem.Number.Decimal
import LSystem.Text.Quoted

/-! # Options

The command line is read in two stages: the program has options of its own and a command, and all
that follows the command belongs to it. Long options may be cut short as long as they are not
ambiguous, a value may follow after an equals sign, and a negative number is never an option. After
`--` nothing is an option. -/

namespace LSystem.CommandLine

inductive Flag where
  | help
  | iterations
  | output
  deriving DecidableEq, Repr

/-- How an option is written, in messages. -/
def Flag.title : Flag → String
  | .help => "-h/--help"
  | .iterations => "--iterations"
  | .output => "--output"

/-- The options of a command, or of the program as a whole, under each name. -/
def flags : Option Action → List (String × Flag)
  | some .expand =>
    [("-h", .help), ("--help", .help), ("--iterations", .iterations), ("--output", .output)]
  | some .trace => [("-h", .help), ("--help", .help), ("--iterations", .iterations)]
  | _ => [("-h", .help), ("--help", .help)]

inductive UsageFault where
  | ambiguous (option : Text) (candidates : List String)
  | unknownAction (word : Text)
  | missing (argument : String)
  | unrecognized (args : List Text)
  | expectedValue (flag : Flag)
  | unexpectedValue (flag : Flag) (value : Text)
  | notInteger (flag : Flag) (value : Text)
  deriving DecidableEq, Repr

def quote (s : Text) : String := String.ofList (Text.quoted s)

def UsageFault.message : UsageFault → String
  | .ambiguous option candidates =>
    s!"ambiguous option: {String.ofList option} could match " ++ ", ".intercalate candidates
  | .unknownAction word =>
    s!"argument cmd: invalid choice: {quote word} (choose from 'expand', 'trace', 'validate')"
  | .missing argument => s!"the following arguments are required: {argument}"
  | .unrecognized args =>
    "unrecognized arguments: " ++ " ".intercalate (args.map String.ofList)
  | .expectedValue flag => s!"argument {flag.title}: expected one argument"
  | .unexpectedValue flag value =>
    s!"argument {flag.title}: ignored explicit argument {quote value}"
  | .notInteger flag value => s!"argument {flag.title}: invalid int value: {quote value}"

inductive Mark where
  | plain
  /-- The mark that ends the options. -/
  | ends
  /-- An option that is not known. -/
  | unknown
  /-- An option, under the name that it was found by, and the value given with it. -/
  | flag (flag : Flag) (name : String) (value : Option Text)
  /-- The short option for help, with letters directly after it. -/
  | helpLetters (letters : Text)
  deriving DecidableEq, Repr

/-- An argument, and what it looks like. -/
abbrev Argument := Text × Mark

/-- Whether an argument is a negative number. -/
def isNegativeNumber (s : Text) : Bool :=
  let isDigit (c : Char) : Bool := (Text.decimalValue? c).isSome
  let s := if s.getLast? = some '\n' then s.dropLast else s
  match s with
  | '-' :: s =>
    match s.dropWhile isDigit with
    | [] => !s.isEmpty
    | '.' :: fraction => !fraction.isEmpty && fraction.all isDigit
    | _ => false
  | _ => false

/-- The name in front of the first equals sign, and the value after it. -/
def splitValue? (s : Text) : Option (Text × Text) :=
  match s.dropWhile (· ≠ '=') with
  | _ :: value => some (s.takeWhile (· ≠ '='), value)
  | [] => none

/-- The options that an argument may stand for when it is cut short, or has a value at its end. -/
def candidates (known : List (String × Flag)) (s : Text) : List Mark :=
  match s with
  | '-' :: '-' :: _ =>
    let (start, value) := match splitValue? s with
      | some (start, value) => (start, some value)
      | none => (s, none)
    known.filterMap fun (name, flag) =>
      if start.isPrefixOf name.toList then some (.flag flag name value) else none
  | '-' :: c :: value =>
    known.filterMap fun (name, flag) =>
      if name.toList = ['-', c] then some (.helpLetters value)
      else if s.isPrefixOf name.toList then some (.flag flag name none)
      else none
  | _ => []

def Mark.name : Mark → String
  | .flag _ name _ => name
  | .helpLetters _ => "-h"
  | _ => ""

/-- What an argument looks like before any mark that ends the options. -/
def markOf (known : List (String × Flag)) (s : Text) : Except UsageFault Mark :=
  let named? (name : Text) : Option (String × Flag) := known.find? fun (n, _) => n.toList = name
  if s.head? ≠ some '-' then .ok .plain
  else
    match named? s with
    | some (name, flag) => .ok (.flag flag name none)
    | none =>
      if s.length = 1 then .ok .plain
      else
        let exact := (splitValue? s).bind fun (name, value) =>
          (named? name).map fun (name, flag) => Mark.flag flag name (some value)
        match exact, candidates known s with
        | some mark, _ => .ok mark
        | none, [mark] => .ok mark
        | none, [] =>
          if isNegativeNumber s || s.contains ' ' then .ok .plain else .ok .unknown
        | none, marks => .error (.ambiguous s (marks.map Mark.name))

/-- What all arguments look like. -/
def markAll (known : List (String × Flag)) : List Text → Except UsageFault (List Argument)
  | [] => .ok []
  | s :: rest =>
    if s = ['-', '-'] then .ok ((s, .ends) :: rest.map fun s => (s, .plain))
    else do
      let mark ← markOf known s
      let rest ← markAll known rest
      .ok ((s, mark) :: rest)

structure Reading where
  config : Option Text := none
  iterations : Option Int := none
  output : Option Text := none
  extra : List Text := []
  helps : Bool := false

/-- Reads letters directly after the short option for help. They are options of their own as long as
they ask for help too; a value is refused, and an unknown letter does not matter. -/
def readHelpLetters : Text → Except UsageFault Unit
  | [] => .ok ()
  | '-' :: s => .error (.unexpectedValue .help ('-' :: s))
  | 'h' :: '=' :: value => .error (.unexpectedValue .help value)
  | 'h' :: s => readHelpLetters s
  | _ => .ok ()

/-- What is read when an option gets a value. -/
def Reading.give (r : Reading) (flag : Flag) (value : Text) : Except UsageFault Reading :=
  match flag with
  | .help => .error (.unexpectedValue .help value)
  | .output => .ok { r with output := some value }
  | .iterations =>
    match Number.readInt 10 value with
    | .ok i => .ok { r with iterations := some i }
    | .error _ => .error (.notInteger .iterations value)

/-- Reads an option, given the arguments after it. -/
def Reading.option (r : Reading) (flag : Flag) (value : Option Text)
    (rest : List Argument) : Except UsageFault (Reading × List Argument) :=
  match flag, value with
  | .help, none => .ok ({ r with helps := true }, rest)
  | flag, some value => (r.give flag value).map fun r => (r, rest)
  | flag, none =>
    match rest with
    | (value, .plain) :: rest => (r.give flag value).map fun r => (r, rest)
    | _ => .error (.expectedValue flag)

/-- The plain argument that a list of arguments starts with, if marks that end the options around it
do not count, and what follows. -/
def positional? (args : List Argument) : Option (Text × List Argument) :=
  match args.dropWhile (·.2 = .ends) with
  | (s, .plain) :: rest => some (s, rest.dropWhile (·.2 = .ends))
  | _ => none

/-- Reads the arguments of a command. The first plain one is the path of the configuration. Every
step takes at least one argument; reading ends when help is asked for. -/
def Reading.readAll : Nat → Reading → List Argument → Except UsageFault Reading
  | 0, r, _ => .ok r
  | _ + 1, r, [] => .ok r
  | fuel + 1, r, (s, mark) :: rest =>
    match mark with
    | .flag flag _ value => do
      let (r, rest) ← r.option flag value rest
      if r.helps then .ok r else readAll fuel r rest
    | .helpLetters letters => do
      readHelpLetters letters
      .ok { r with helps := true }
    | .unknown => readAll fuel { r with extra := r.extra ++ [s] } rest
    | _ =>
      match r.config, positional? ((s, mark) :: rest) with
      | none, some (path, rest) => readAll fuel { r with config := some path } rest
      | _, _ => readAll fuel { r with extra := r.extra ++ [s] } rest

inductive Request where
  | help (about : Option Action)
  | run (action : Action) (config : Text) (iterations : Option Int) (output : Option Text)
  deriving DecidableEq, Repr

/-- Reads the arguments of a command, after arguments that nothing was done with. -/
def readCommand (extra : List Text) (action : Action) (args : List Text) :
    Except (Option Action × UsageFault) Request :=
  let result := do
    let args ← markAll (flags (some action)) args
    Reading.readAll args.length {} args
  match result with
  | .error fault => .error (some action, fault)
  | .ok r =>
    if r.helps then .ok (.help (some action))
    else
      match r.config with
      | none => .error (some action, .missing "config")
      | some config =>
        let extra := extra ++ r.extra
        if extra.isEmpty then .ok (.run action config r.iterations r.output)
        else .error (none, .unrecognized extra)

/-- Reads the options of the program up to the command, which is the first argument that is no
option. -/
def readProgram (extra : List Text) : List Argument → Except (Option Action × UsageFault) Request
  | [] => .error (none, .missing "cmd")
  | (s, mark) :: rest =>
    match mark with
    | .flag flag _ value =>
      match ({} : Reading).option flag value rest with
      | .error fault => .error (none, fault)
      | .ok _ => .ok (.help none)
    | .helpLetters letters =>
      match readHelpLetters letters with
      | .error fault => .error (none, fault)
      | .ok () => .ok (.help none)
    | .unknown => readProgram (extra ++ [s]) rest
    | .plain =>
      match Action.all.find? fun a => a.word.toList = s with
      | some action => readCommand extra action (rest.map (·.1))
      | none => .error (none, .unknownAction s)
    | .ends =>
      if rest.isEmpty then .error (none, .missing "cmd") else .error (none, .unknownAction s)

def parse (argv : List Text) : Except (Option Action × UsageFault) Request :=
  match markAll (flags none) argv with
  | .error fault => .error (none, fault)
  | .ok args => readProgram [] args

end LSystem.CommandLine
