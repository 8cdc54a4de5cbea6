import LSystem.Expr.Pattern

/-! # Reading programs

An expression is given as a program: a sequence of statements, of which the first one counts and
all others only have to be well formed. -/

namespace LSystem.Expr

namespace Program

/-- The symbols that assign the result of an operator. -/
def augmentedSymbols : List String :=
  ["+=", "-=", "*=", "@=", "/=", "%=", "&=", "|=", "^=", "<<=", ">>=", "**=", "//="]

/-- Whether an expression is a single place that can be assigned to. -/
def isPlace : Term → Bool
  | .name _ => true
  | .attribute .. => true
  | .subscript .. => true
  | _ => false

mutual

/-- Whether an expression can be deleted: a place, or a display of such. -/
def isDeletable : Term → Bool
  | .display .tuple items => areDeletable items
  | .display .list items => areDeletable items
  | e => isPlace e

def areDeletable : List Term → Bool
  | [] => true
  | e :: es => isDeletable e && areDeletable es

end

/-- A name that is no keyword, and what follows. -/
def readName : List Lexeme → Option (List Lexeme)
  | .word w :: ts => if keywords.contains w then none else some ts
  | _ => none

def readDottedName : List Lexeme → Option (List Lexeme)
  | .word w :: .symbol "." :: ts => if keywords.contains w then none else readDottedName ts
  | .word w :: ts => if keywords.contains w then none else some ts
  | _ => none

def readNames : List Lexeme → Option (List Lexeme)
  | .word w :: .symbol "," :: ts => if keywords.contains w then none else readNames ts
  | .word w :: ts => if keywords.contains w then none else some ts
  | _ => none

/-- Another name given with the word `as`, if there is one. -/
def readAlias : List Lexeme → Option (List Lexeme)
  | .word "as" :: ts => readName ts
  | ts => some ts

/-- What a statement imports: names with points if `dotted`, each perhaps under another name. -/
def readImported (dotted : Bool) : Nat → List Lexeme → Option (List Lexeme)
  | 0, _ => none
  | n + 1, ts => do
    let ts ← if dotted then readDottedName ts else readName ts
    let ts ← readAlias ts
    match ts with
    | .symbol "," :: .symbol ")" :: ts => some (.symbol "," :: .symbol ")" :: ts)
    | .symbol "," :: ts => readImported dotted n ts
    | _ => some ts

/-- What follows the word `from` in a statement. -/
def readImportFrom (n : Nat) (ts : List Lexeme) : Option (List Lexeme) := do
  let isPoint : Lexeme → Bool
    | .symbol "." => true
    | .symbol "..." => true
    | _ => false
  let points := ts.takeWhile isPoint
  let ts := ts.dropWhile isPoint
  let ts ← match ts with
    | .word "import" :: _ => if points.isEmpty then none else some ts
    | _ => readDottedName ts
  match ts with
  | .word "import" :: .symbol "*" :: ts => some ts
  | .word "import" :: .symbol "(" :: ts =>
    let ts ← readImported false n ts
    match ts with
    | .symbol "," :: .symbol ")" :: ts => some ts
    | .symbol ")" :: ts => some ts
    | _ => none
  | .word "import" :: ts => readImported false n ts
  | _ => none

/-- A value that is assigned: expressions, or a yield. -/
def readValue (n : Nat) : List Lexeme → Option (Term × List Lexeme)
  | .word "yield" :: ts => readYield n ts
  | ts => readExpressions n ts

/-- What follows an expression in an assignment to it, and in further ones. -/
def readAssigned : Nat → Term → List Lexeme → Option (Term × List Lexeme)
  | 0, _, _ => none
  | n + 1, target, .symbol "=" :: ts => do
    if !target.isTarget then none
    else
      let (value, ts) ← readValue n ts
      readAssigned n value ts
  | _ + 1, value, ts => some (value, ts)

/-- A statement that starts with an expression. -/
def readExpressionStatement (n : Nat) (ts : List Lexeme) : Option (Statement × List Lexeme) := do
  let (e, ts) ← readValue n ts
  match ts with
  | .symbol "=" :: _ =>
    let (value, ts) ← readAssigned n e ts
    some (.assign value, ts)
  | .symbol ":" :: ts =>
    if !isPlace e then none
    else
      let (_, ts) ← readExpression n ts
      match ts with
      | .symbol "=" :: ts =>
        let (_, ts) ← readValue n ts
        some (.other "AnnAssign", ts)
      | _ => some (.other "AnnAssign", ts)
  | .symbol s :: rest =>
    if augmentedSymbols.contains s then
      if !isPlace e then none
      else
        let (value, ts) ← readValue n rest
        some (.assign value, ts)
    else some (.expression e, ts)
  | _ => some (.expression e, ts)

def readSimple (n : Nat) : List Lexeme → Option (Statement × List Lexeme)
  | .word "return" :: ts =>
    match readExpressions n ts with
    | some (_, ts) => some (.other "Return", ts)
    | none => some (.other "Return", ts)
  | .word "import" :: ts => (readImported true n ts).map fun ts => (.importing, ts)
  | .word "from" :: ts => (readImportFrom n ts).map fun ts => (.other "ImportFrom", ts)
  | .word "raise" :: ts =>
    match readExpression n ts with
    | some (_, .word "from" :: ts) =>
      (readExpression n ts).map fun (_, ts) => (.other "Raise", ts)
    | some (_, ts) => some (.other "Raise", ts)
    | none => some (.other "Raise", ts)
  | .word "pass" :: ts => some (.other "Pass", ts)
  | .word "break" :: ts => some (.other "Break", ts)
  | .word "continue" :: ts => some (.other "Continue", ts)
  | .word "del" :: ts => do
    let (e, ts) ← readExpressions n ts
    if isDeletable e then some (.other "Delete", ts) else none
  | .word "assert" :: ts => do
    let (_, ts) ← readExpression n ts
    match ts with
    | .symbol "," :: ts => (readExpression n ts).map fun (_, ts) => (.other "Assert", ts)
    | _ => some (.other "Assert", ts)
  | .word "global" :: ts => (readNames ts).map fun ts => (.other "Global", ts)
  | .word "nonlocal" :: ts => (readNames ts).map fun ts => (.other "Nonlocal", ts)
  | ts => readExpressionStatement n ts

/-- Statements on one line, separated by semicolons, with the end of the line. -/
def readLine : Nat → List Statement → List Lexeme → Option (List Statement × List Lexeme)
  | 0, _, _ => none
  | n + 1, done, ts => do
    let (statement, ts) ← readSimple n ts
    let done := statement :: done
    match ts with
    | .newline :: ts => some (done.reverse, ts)
    | .symbol ";" :: .newline :: ts => some (done.reverse, ts)
    | .symbol ";" :: ts => readLine n done ts
    | _ => none

/-- The managers of a block, up to the colon or bracket after them. -/
def readManagers : Nat → List Lexeme → Option (List Lexeme)
  | 0, _ => none
  | n + 1, ts => do
    let (_, ts) ← readExpression n ts
    let ts ← match ts with
      | .word "as" :: ts =>
        match readPrimary n ts with
        | some (e, ts) => if e.isTarget then some ts else none
        | none => none
      | _ => some ts
    match ts with
    | .symbol "," :: .symbol ")" :: ts => some (.symbol ")" :: ts)
    | .symbol "," :: ts => readManagers n ts
    | _ => some ts

/-- The managers of a block, with the colon after them; brackets may stand around them. -/
def readManagersColon (n : Nat) (ts : List Lexeme) : Option (List Lexeme) :=
  match readManagers n ts, ts with
  | some (.symbol ":" :: rest), _ => some (.symbol ":" :: rest)
  | _, .symbol "(" :: inner =>
    match readManagers n inner with
    | some (.symbol ")" :: .symbol ":" :: rest) => some (.symbol ":" :: rest)
    | _ => none
  | _, _ => none

mutual

/-- A line of statements, or a statement with a block. -/
def readStatements : Nat → List Lexeme → Option (List Statement × List Lexeme)
  | 0, _ => none
  | n + 1, .word "if" :: ts => do
    let ts ← readIf n ts
    some ([.other "If"], ts)
  | n + 1, .word "while" :: ts => do
    let (_, ts) ← readNamedExpression n ts
    let ts ← readBlock n ts
    let ts ← readElse n ts
    some ([.other "While"], ts)
  | n + 1, .word "for" :: ts => do
    let ts ← readFor n ts
    some ([.other "For"], ts)
  | n + 1, .word "with" :: ts => do
    let ts ← readManagersColon n ts
    let ts ← readBlock n ts
    some ([.other "With"], ts)
  | n + 1, .word "try" :: ts => do
    let ts ← readBlock n ts
    match ts with
    | .word "finally" :: ts =>
      let ts ← readBlock n ts
      some ([.other "Try"], ts)
    | .word "except" :: .symbol "*" :: _ =>
      let ts ← readHandlers n true ts
      let ts ← readElse n ts
      let ts ← readFinally n ts
      some ([.other "TryStar"], ts)
    | .word "except" :: _ =>
      let ts ← readHandlers n false ts
      let ts ← readElse n ts
      let ts ← readFinally n ts
      some ([.other "Try"], ts)
    | _ => none
  | n + 1, .word "def" :: ts => do
    let ts ← readDefinition n ts
    some ([.other "FunctionDef"], ts)
  | n + 1, .word "class" :: ts => do
    let ts ← readName ts
    let ts ← match ts with
      | .symbol "(" :: ts => (readArguments n {} 0 ts).map (·.2)
      | _ => some ts
    let ts ← readBlock n ts
    some ([.other "ClassDef"], ts)
  | n + 1, .word "async" :: .word "def" :: ts => do
    let ts ← readDefinition n ts
    some ([.other "AsyncFunctionDef"], ts)
  | n + 1, .word "async" :: .word "for" :: ts => do
    let ts ← readFor n ts
    some ([.other "AsyncFor"], ts)
  | n + 1, .word "async" :: .word "with" :: ts => do
    let ts ← readManagersColon n ts
    let ts ← readBlock n ts
    some ([.other "AsyncWith"], ts)
  | n + 1, .symbol "@" :: ts => do
    let (_, ts) ← readNamedExpression n ts
    match ts with
    | .newline :: .word "def" :: ts => readStatements n (.word "def" :: ts)
    | .newline :: .word "class" :: ts => readStatements n (.word "class" :: ts)
    | .newline :: .word "async" :: .word "def" :: ts =>
      readStatements n (.word "async" :: .word "def" :: ts)
    | .newline :: .symbol "@" :: ts => readStatements n (.symbol "@" :: ts)
    | _ => none
  | n + 1, .word "match" :: ts =>
    match readMatch n ts with
    | some ts => some ([.other "Match"], ts)
    | none => readLine n [] (.word "match" :: ts)
  | n + 1, ts => readLine n [] ts

/-- What follows the word `match`, if it starts a statement: expressions and an indented part with
cases. Else the word is a name. -/
def readMatch : Nat → List Lexeme → Option (List Lexeme)
  | 0, _ => none
  | n + 1, ts => do
    let (first, ts) ← readItem n ts
    let ts ← match first, ts with
      | _, .symbol "," :: ts => (readItems n ":" [first] ts).map (·.2)
      | .starred _, _ => none
      | _, .symbol ":" :: ts => some ts
      | _, _ => none
    match ts with
    | .newline :: .indent :: ts => readCases n ts
    | _ => none

/-- The cases of a statement up to the end of their indentation, at least one. -/
def readCases : Nat → List Lexeme → Option (List Lexeme)
  | 0, _ => none
  | n + 1, .word "case" :: ts => do
    let ts ← Pattern.readCase n ts
    let ts ← readBlock n ts
    match ts with
    | .dedent :: ts => some ts
    | _ => readCases n ts
  | _ + 1, _ => none

/-- What follows the words `if` and `elif`. -/
def readIf : Nat → List Lexeme → Option (List Lexeme)
  | 0, _ => none
  | n + 1, ts => do
    let (_, ts) ← readNamedExpression n ts
    let ts ← readBlock n ts
    match ts with
    | .word "elif" :: ts => readIf n ts
    | ts => readElse n ts

/-- What follows the word `for` in a statement. -/
def readFor : Nat → List Lexeme → Option (List Lexeme)
  | 0, _ => none
  | n + 1, ts => do
    let (_, ts) ← readTargets n ts
    match ts with
    | .word "in" :: ts =>
      let (_, ts) ← readExpressions n ts
      let ts ← readBlock n ts
      readElse n ts
    | _ => none

/-- What follows the word `def`. -/
def readDefinition : Nat → List Lexeme → Option (List Lexeme)
  | 0, _ => none
  | n + 1, ts => do
    let ts ← readName ts
    match ts with
    | .symbol "(" :: ts =>
      let ts ← readParameters n true {} ts
      match ts with
      | .symbol ")" :: .symbol "->" :: ts =>
        let (_, ts) ← readExpression n ts
        readBlock n ts
      | .symbol ")" :: ts => readBlock n ts
      | _ => none
    | _ => none

/-- Handlers of errors, at least one. -/
def readHandlers : Nat → (starred : Bool) → List Lexeme → Option (List Lexeme)
  | 0, _, _ => none
  | n + 1, starred, .word "except" :: ts => do
    let ts ← match starred, ts with
      | true, .symbol "*" :: ts => some ts
      | true, _ => none
      | false, ts => some ts
    let ts ← match ts with
      | .symbol ":" :: _ => if starred then none else some ts
      | _ =>
        match readExpression n ts with
        | some (_, ts) => readAlias ts
        | none => none
    let ts ← readBlock n ts
    match ts with
    | .word "except" :: _ => readHandlers n starred ts
    | _ => some ts
  | _ + 1, _, _ => none

/-- A block after the word `else`, if there is one. -/
def readElse : Nat → List Lexeme → Option (List Lexeme)
  | 0, _ => none
  | n + 1, .word "else" :: ts => readBlock n ts
  | _ + 1, ts => some ts

/-- A block after the word `finally`, if there is one. -/
def readFinally : Nat → List Lexeme → Option (List Lexeme)
  | 0, _ => none
  | n + 1, .word "finally" :: ts => readBlock n ts
  | _ + 1, ts => some ts

/-- A colon and a block: statements on the same line, or an indented part. -/
def readBlock : Nat → List Lexeme → Option (List Lexeme)
  | 0, _ => none
  | n + 1, .symbol ":" :: .newline :: .indent :: ts => readIndented n ts
  | _ + 1, .symbol ":" :: .newline :: _ => none
  | n + 1, .symbol ":" :: ts => (readLine n [] ts).map (·.2)
  | _ + 1, _ => none

/-- Statements up to the end of their indentation, at least one. -/
def readIndented : Nat → List Lexeme → Option (List Lexeme)
  | 0, _ => none
  | n + 1, ts => do
    let (_, ts) ← readStatements n ts
    match ts with
    | .dedent :: ts => some ts
    | _ => readIndented n ts

end

/-- All statements, after those in `done`. -/
def readAll : Nat → List Statement → List Lexeme → Option (List Statement)
  | _, done, [] => some done.reverse
  | 0, _, _ :: _ => none
  | n + 1, done, t :: ts =>
    match readStatements n (t :: ts) with
    | some (statements, ts) => readAll n (statements.reverse ++ done) ts
    | none => none

/-- The statements of a program, if it is well formed. A reader goes down at most twenty steps from
one lexeme to the next, and there are no more lexemes than characters and line ends. -/
def parse (program : Text) : Option (List Statement) :=
  match Lexeme.scan program with
  | some lexemes => readAll (20 * (program.length + 4)) [] lexemes
  | none => none

end Program

end LSystem.Expr
