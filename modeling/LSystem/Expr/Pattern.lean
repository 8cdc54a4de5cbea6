import LSystem.Expr.Parser

/-! # Reading patterns

The patterns of case blocks. Programs with such blocks only have to be well formed, so a reader
gives back what follows the pattern. Every reader takes a number of steps that it may go down. -/

namespace LSystem.Expr.Pattern

/-- What a list of patterns has turned out to be. -/
inductive Sequence where
  /-- One pattern, and no comma. -/
  | single (starred : Bool)
  | several

def readCapture : List Lexeme → Option (List Lexeme)
  | .word w :: ts => if w = "_" || keywords.contains w then none else some ts
  | _ => none

/-- Names joined by points, after the first one, and whether there was a point. -/
def readPath : List Lexeme → (dotted : Bool) → Option (Bool × List Lexeme)
  | .symbol "." :: .word w :: ts, _ => if keywords.contains w then none else readPath ts true
  | .symbol "." :: _, _ => none
  | ts, dotted => some (dotted, ts)

/-- A sign, if there is one. -/
def skipMinus : List Lexeme → List Lexeme
  | .symbol "-" :: ts => ts
  | ts => ts

/-- The imaginary part that a number may be followed by. -/
def readImaginary : List Lexeme → Option (List Lexeme)
  | .symbol "+" :: .literal (.imaginary _) :: ts => some ts
  | .symbol "-" :: .literal (.imaginary _) :: ts => some ts
  | .symbol "+" :: _ => none
  | .symbol "-" :: _ => none
  | ts => some ts

/-- A number, perhaps with a sign and an imaginary part. -/
def readNumber (ts : List Lexeme) : Option (List Lexeme) :=
  match skipMinus ts with
  | .literal (.int _) :: ts => readImaginary ts
  | .literal (.float _) :: ts => readImaginary ts
  | .literal (.imaginary _) :: .symbol "+" :: _ => none
  | .literal (.imaginary _) :: .symbol "-" :: _ => none
  | .literal (.imaginary _) :: ts => some ts
  | _ => none

def readLiteral (n : Nat) : List Lexeme → Option (List Lexeme)
  | .word "None" :: ts => some ts
  | .word "True" :: ts => some ts
  | .word "False" :: ts => some ts
  | .literal (.text s) :: ts => (readAtom n (.literal (.text s) :: ts)).map (·.2)
  | .literal (.bytes s) :: ts => (readAtom n (.literal (.bytes s) :: ts)).map (·.2)
  | .interpolation ps :: ts => (readAtom n (.interpolation ps :: ts)).map (·.2)
  | ts => readNumber ts

mutual

/-- A pattern, which may be given a name. -/
def readPattern : Nat → List Lexeme → Option (List Lexeme)
  | 0, _ => none
  | n + 1, ts => do
    let ts ← readAlternatives n ts
    match ts with
    | .word "as" :: ts => readCapture ts
    | _ => some ts

def readAlternatives : Nat → List Lexeme → Option (List Lexeme)
  | 0, _ => none
  | n + 1, ts => do
    let ts ← readClosed n ts
    match ts with
    | .symbol "|" :: ts => readAlternatives n ts
    | _ => some ts

/-- A pattern that no operator is part of. -/
def readClosed : Nat → List Lexeme → Option (List Lexeme)
  | 0, _ => none
  | _ + 1, .word "_" :: ts => some ts
  | n + 1, .symbol "(" :: ts => do
    if let .symbol ")" :: ts := ts then some ts
    else
      let (sequence, ts) ← readSequence n ")" ts
      match sequence, ts with
      | .single true, _ => none
      | _, .symbol ")" :: ts => some ts
      | _, _ => none
  | n + 1, .symbol "[" :: ts => do
    if let .symbol "]" :: ts := ts then some ts
    else
      let (_, ts) ← readSequence n "]" ts
      match ts with
      | .symbol "]" :: ts => some ts
      | _ => none
  | n + 1, .symbol "\x7b" :: ts => readEntries n ts
  | n + 1, .word w :: ts =>
    if keywords.contains w then readLiteral n (.word w :: ts)
    else
      match readPath ts false with
      | some (_, .symbol "(" :: ts) => readArguments n false ts
      | some (_, .symbol "=" :: _) => none
      | some (_, ts) => some ts
      | none => none
  | n + 1, ts => readLiteral n ts

/-- Patterns with commas between them, some starred, up to a colon, a condition or the bracket
`close`. -/
def readSequence : Nat → (close : String) → List Lexeme → Option (Sequence × List Lexeme)
  | 0, _, _ => none
  | n + 1, close, ts => do
    let (starred, ts) ← match ts with
      | .symbol "*" :: .word "_" :: ts => some (true, ts)
      | .symbol "*" :: ts => (readCapture ts).map fun ts => (true, ts)
      | _ => (readPattern n ts).map fun ts => (false, ts)
    match ts with
    | .symbol "," :: .symbol s :: ts =>
      if s = close then some (.several, .symbol s :: ts)
      else (readSequence n close (.symbol s :: ts)).map fun (_, ts) => (.several, ts)
    | .symbol "," :: .word "if" :: ts => some (.several, .word "if" :: ts)
    | .symbol "," :: ts => (readSequence n close ts).map fun (_, ts) => (.several, ts)
    | _ => some (.single starred, ts)

/-- The entries of a table up to the closing brace. -/
def readEntries : Nat → List Lexeme → Option (List Lexeme)
  | 0, _ => none
  | _ + 1, .symbol "\x7d" :: ts => some ts
  | _ + 1, .symbol "**" :: ts => do
    let ts ← readCapture ts
    match ts with
    | .symbol "\x7d" :: ts => some ts
    | .symbol "," :: .symbol "\x7d" :: ts => some ts
    | _ => none
  | n + 1, ts => do
    let ts ← match ts with
      | .word w :: rest =>
        if keywords.contains w then readLiteral n ts
        else
          match readPath rest false with
          | some (true, ts) => some ts
          | _ => none
      | _ => readLiteral n ts
    match ts with
    | .symbol ":" :: ts =>
      let ts ← readPattern n ts
      match ts with
      | .symbol "," :: ts => readEntries n ts
      | .symbol "\x7d" :: ts => some ts
      | _ => none
    | _ => none

/-- The patterns of the parts of an object up to the closing bracket; after one that is given by
name, all are. -/
def readArguments : Nat → (named : Bool) → List Lexeme → Option (List Lexeme)
  | 0, _, _ => none
  | _ + 1, _, .symbol ")" :: ts => some ts
  | n + 1, named, ts => do
    let (named, ts) ← match ts with
      | .word w :: .symbol "=" :: ts =>
        if keywords.contains w then none else some (true, ts)
      | _ => if named then none else some (false, ts)
    let ts ← readPattern n ts
    match ts with
    | .symbol "," :: ts => readArguments n named ts
    | .symbol ")" :: ts => some ts
    | _ => none

end

/-- What follows the word `case` up to its colon: patterns, and perhaps a condition. -/
def readCase (n : Nat) (ts : List Lexeme) : Option (List Lexeme) := do
  let (sequence, ts) ← readSequence n ":" ts
  match sequence, ts with
  | .single true, _ => none
  | _, .word "if" :: ts => (readNamedExpression n ts).map (·.2)
  | _, _ => some ts

end LSystem.Expr.Pattern
