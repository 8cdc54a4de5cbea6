import LSystem.CommandLine.Run

/-! # The program

Carries out what `CommandLine.run` asks for on the files of the machine. -/

open LSystem LSystem.CommandLine

/-- The fault behind an error of the operating system. -/
def faultOf : IO.Error → FileFault
  | .noFileOrDirectory .. => .missing
  | .alreadyExists .. => .exists_
  | .inappropriateType _ 20 _ => .notDirectory
  | .inappropriateType .. => .isDirectory
  | e => .other e.toString

def readText (path : Text) : IO (Except FileError Text) := do
  try
    let bytes ← IO.FS.readBinFile (String.ofList path)
    match String.fromUTF8? bytes with
    | some s => return .ok s.toList
    | none => return .error ⟨.undecodable "the bytes are no text", path⟩
  catch e => return .error ⟨faultOf e, path⟩

/-- Writes a text to a file, after making the directories above it. -/
def writeText (path s : Text) : IO (Except FileError Unit) := do
  let above := (path.reverse.dropWhile (· ≠ '/')).reverse
  try
    if !above.isEmpty then IO.FS.createDirAll (String.ofList above)
    match Encoding.utf8.fault? s with
    | none =>
      IO.FS.writeFile (String.ofList path) (String.ofList s)
      return .ok ()
    | some fault =>
      IO.FS.writeFile (String.ofList path) ""
      return .error ⟨.unencodable fault, path⟩
  catch e => return .error ⟨faultOf e, path⟩

def report (o : Outcome) : IO UInt32 := do
  IO.print (String.ofList o.stdout)
  IO.eprint (String.ofList o.stderr)
  match o.ending with
  | .exit code => return code.toUInt32
  | .escape e =>
    IO.eprintln e.message
    return 1

def carryOut : Step → IO UInt32
  | .finish o => report (o.on .utf8)
  | .read path next => do carryOut (next (← readText path))
  | .write path s next => do carryOut (next (← writeText path s))

def main (args : List String) : IO UInt32 := do
  let sample ← IO.rand 0 (Nat.pow 2 53 - 1)
  carryOut (run (args.map String.toList) fun _ => Fin.ofNat (Nat.pow 2 53) sample)
