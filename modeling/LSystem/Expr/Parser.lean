import LSystem.Expr.Lexeme

/-! # Reading expressions

Recursive descent over lexemes. Every reader takes a number of steps that it may go down, in front,
and gives back what it read and what follows. The precedence of the operators, from the weakest:
conditional, `or`, `and`, `not`, comparisons, `|`, `^`, `&`, shifts, sums, products, signs,
powers. -/

namespace LSystem.Expr

def keywords : List String :=
  ["False", "None", "True", "and", "as", "assert", "async", "await", "break", "class", "continue",
    "def", "del", "elif", "else", "except", "finally", "for", "from", "global", "if", "import",
    "in", "is", "lambda", "nonlocal", "not", "or", "pass", "raise", "return", "try", "while",
    "with", "yield"]

/-- An operator between two operands, with its precedence. -/
def binaryOp? : String → Option (BinaryOp × Nat)
  | "|" => some (.bitOr, 1)
  | "^" => some (.bitXor, 2)
  | "&" => some (.bitAnd, 3)
  | "<<" => some (.shiftLeft, 4)
  | ">>" => some (.shiftRight, 4)
  | "+" => some (.add, 5)
  | "-" => some (.sub, 5)
  | "*" => some (.mul, 6)
  | "/" => some (.div, 6)
  | "//" => some (.floorDiv, 6)
  | "%" => some (.mod, 6)
  | "@" => some (.matMul, 6)
  | _ => none

/-- The comparison that a list of lexemes starts with, and what follows. -/
def compareOp? : List Lexeme → Option (CompareOp × List Lexeme)
  | .symbol "==" :: ts => some (.eq, ts)
  | .symbol "!=" :: ts => some (.ne, ts)
  | .symbol "<" :: ts => some (.lt, ts)
  | .symbol "<=" :: ts => some (.le, ts)
  | .symbol ">" :: ts => some (.gt, ts)
  | .symbol ">=" :: ts => some (.ge, ts)
  | .word "in" :: ts => some (.member, ts)
  | .word "not" :: .word "in" :: ts => some (.notMember, ts)
  | .word "is" :: .word "not" :: ts => some (.notSame, ts)
  | .word "is" :: ts => some (.same, ts)
  | _ => none

mutual

/-- Whether an expression can be assigned to. -/
def Term.isTarget : Term → Bool
  | .name _ => true
  | .attribute .. => true
  | .subscript .. => true
  | .display .tuple items => Term.areTargets items
  | .display .list items => Term.areTargets items
  | .starred value => value.isTarget
  | _ => false

/-- Whether all expressions can be assigned to. -/
def Term.areTargets : List Term → Bool
  | [] => true
  | e :: es => e.isTarget && Term.areTargets es

end

/-- The arguments of a call, in order. -/
structure ArgumentList where
  positional : List Term := []
  names : List (Option String) := []
  named : List Term := []

/-- Whether a list of lexemes starts the clauses of a comprehension. -/
def startsClause : List Lexeme → Bool
  | .word "for" :: _ => true
  | .word "async" :: .word "for" :: _ => true
  | _ => false

/-- The parameters of an anonymous or named function, as far as their order goes. -/
structure ParameterOrder where
  /-- Some parameter was seen. -/
  any : Bool := false
  /-- A parameter with a default was seen before the star. -/
  defaulted : Bool := false
  slash : Bool := false
  star : Bool := false
  /-- The star was not followed by a name, and no parameter came after it yet. -/
  bareStar : Bool := false
  twoStars : Bool := false

/-- Joins neighbouring texts among the parts of an interpolation. -/
def mergeTexts : List Term → List Term
  | .literal (.text s) :: rest =>
    match mergeTexts rest with
    | .literal (.text t) :: rest => .literal (.text (s ++ t)) :: rest
    | rest => .literal (.text s) :: rest
  | e :: rest => e :: mergeTexts rest
  | [] => []

/-- The quotations at the start of a list of lexemes, and what follows. -/
def spanQuotations : List Lexeme → List Lexeme × List Lexeme
  | .literal (.text s) :: ts =>
    let (qs, ts) := spanQuotations ts
    (.literal (.text s) :: qs, ts)
  | .literal (.bytes s) :: ts =>
    let (qs, ts) := spanQuotations ts
    (.literal (.bytes s) :: qs, ts)
  | .interpolation ps :: ts =>
    let (qs, ts) := spanQuotations ts
    (.interpolation ps :: qs, ts)
  | ts => ([], ts)

mutual

/-- An expression without a comma at its top. -/
def readExpression : Nat → List Lexeme → Option (Term × List Lexeme)
  | 0, _ => none
  | n + 1, .word "lambda" :: ts => do
    let ts ← readParameters n false {} ts
    match ts with
    | .symbol ":" :: ts =>
      let (_, ts) ← readExpression n ts
      some (.other "Lambda", ts)
    | _ => none
  | n + 1, ts => do
    let (yes, ts) ← readDisjunction n ts
    match ts with
    | .word "if" :: ts =>
      let (test, ts) ← readDisjunction n ts
      match ts with
      | .word "else" :: ts =>
        let (no, ts) ← readExpression n ts
        some (.conditional test yes no, ts)
      | _ => none
    | _ => some (yes, ts)

/-- Operands of `or`. -/
def readDisjunction : Nat → List Lexeme → Option (Term × List Lexeme)
  | 0, _ => none
  | n + 1, ts => do
    let (first, ts) ← readConjunction n ts
    match ts with
    | .word "or" :: _ =>
      let (rest, ts) ← readDisjunctionRest n [] ts
      some (.logical .or (first :: rest), ts)
    | _ => some (first, ts)

/-- Further operands of `or`, after those in `done`. -/
def readDisjunctionRest : Nat → List Term → List Lexeme → Option (List Term × List Lexeme)
  | 0, _, _ => none
  | n + 1, done, .word "or" :: ts => do
    let (e, ts) ← readConjunction n ts
    readDisjunctionRest n (e :: done) ts
  | _ + 1, done, ts => some (done.reverse, ts)

/-- Operands of `and`. -/
def readConjunction : Nat → List Lexeme → Option (Term × List Lexeme)
  | 0, _ => none
  | n + 1, ts => do
    let (first, ts) ← readInversion n ts
    match ts with
    | .word "and" :: _ =>
      let (rest, ts) ← readConjunctionRest n [] ts
      some (.logical .and (first :: rest), ts)
    | _ => some (first, ts)

/-- Further operands of `and`, after those in `done`. -/
def readConjunctionRest : Nat → List Term → List Lexeme → Option (List Term × List Lexeme)
  | 0, _, _ => none
  | n + 1, done, .word "and" :: ts => do
    let (e, ts) ← readInversion n ts
    readConjunctionRest n (e :: done) ts
  | _ + 1, done, ts => some (done.reverse, ts)

/-- A negation or a comparison. -/
def readInversion : Nat → List Lexeme → Option (Term × List Lexeme)
  | 0, _ => none
  | n + 1, .word "not" :: ts => do
    let (e, ts) ← readInversion n ts
    some (.unary .not e, ts)
  | n + 1, ts => do
    let (first, ts) ← readArithmetic n 1 ts
    match compareOp? ts with
    | none => some (first, ts)
    | some _ =>
      let (ops, rest, ts) ← readComparisons n [] [] ts
      some (.compare first ops rest, ts)

/-- Further comparisons of a chain, after those in `ops` and `done`. -/
def readComparisons : Nat → List CompareOp → List Term → List Lexeme →
    Option (List CompareOp × List Term × List Lexeme)
  | 0, _, _, _ => none
  | n + 1, ops, done, ts =>
    match compareOp? ts with
    | none => some (ops.reverse, done.reverse, ts)
    | some (op, ts) => do
      let (e, ts) ← readArithmetic n 1 ts
      readComparisons n (op :: ops) (e :: done) ts

/-- Operators of precedence `least` and above. -/
def readArithmetic : Nat → (least : Nat) → List Lexeme → Option (Term × List Lexeme)
  | 0, _, _ => none
  | n + 1, least, ts => do
    let (first, ts) ← readFactor n ts
    readArithmeticRest n least first ts

/-- Further operators of precedence `least` and above, after the operand `left`. -/
def readArithmeticRest : Nat → (least : Nat) → Term → List Lexeme → Option (Term × List Lexeme)
  | 0, _, _, _ => none
  | n + 1, least, left, .symbol s :: ts =>
    match binaryOp? s with
    | none => some (left, .symbol s :: ts)
    | some (op, precedence) =>
      if precedence < least then some (left, .symbol s :: ts)
      else do
        let (right, ts) ← readArithmetic n (precedence + 1) ts
        readArithmeticRest n least (.binary op left right) ts
  | _ + 1, _, left, ts => some (left, ts)

/-- A sign before an operand, or a power. -/
def readFactor : Nat → List Lexeme → Option (Term × List Lexeme)
  | 0, _ => none
  | n + 1, .symbol "+" :: ts => do
    let (e, ts) ← readFactor n ts
    some (.unary .plus e, ts)
  | n + 1, .symbol "-" :: ts => do
    let (e, ts) ← readFactor n ts
    some (.unary .minus e, ts)
  | n + 1, .symbol "~" :: ts => do
    let (e, ts) ← readFactor n ts
    some (.unary .invert e, ts)
  | n + 1, ts => do
    let (base, ts) ← readAwait n ts
    match ts with
    | .symbol "**" :: ts =>
      let (power, ts) ← readFactor n ts
      some (.binary .pow base power, ts)
    | _ => some (base, ts)

/-- An operand, which may be awaited. -/
def readAwait : Nat → List Lexeme → Option (Term × List Lexeme)
  | 0, _ => none
  | n + 1, .word "await" :: ts => do
    let (_, ts) ← readPrimary n ts
    some (.other "Await", ts)
  | n + 1, ts => readPrimary n ts

def readPrimary : Nat → List Lexeme → Option (Term × List Lexeme)
  | 0, _ => none
  | n + 1, ts => do
    let (e, ts) ← readAtom n ts
    readTrailers n e ts

/-- Attributes, calls and subscripts of what was read. -/
def readTrailers : Nat → Term → List Lexeme → Option (Term × List Lexeme)
  | 0, _, _ => none
  | n + 1, e, .symbol "." :: ts =>
    match ts with
    | .word name :: ts =>
      if keywords.contains name then none else readTrailers n (.attribute e name) ts
    | _ => none
  | n + 1, e, .symbol "(" :: ts => do
    let (args, ts) ← readArguments n {} 0 ts
    readTrailers n (.call e args.positional args.names args.named) ts
  | n + 1, e, .symbol "[" :: ts => do
    let (index, ts) ← readIndex n ts
    readTrailers n (.subscript e index) ts
  | _ + 1, e, ts => some (e, ts)

/-- The arguments of a call up to its closing bracket, after those in `done`. At stage zero all
kinds may follow, at stage one no plain argument, at stage two none but named ones. -/
def readArguments : Nat → ArgumentList → (stage : Nat) → List Lexeme →
    Option (ArgumentList × List Lexeme)
  | 0, _, _, _ => none
  | _ + 1, done, _, .symbol ")" :: ts => some (done, ts)
  | n + 1, done, _, .symbol "**" :: ts => do
    let (e, ts) ← readExpression n ts
    let done := { done with names := done.names ++ [none], named := done.named ++ [e] }
    readArgumentsEnd n done 2 ts
  | n + 1, done, stage, .symbol "*" :: ts => do
    let (e, ts) ← readExpression n ts
    if stage = 2 then none
    else readArgumentsEnd n { done with positional := done.positional ++ [.starred e] } stage ts
  | n + 1, done, stage, .word name :: .symbol "=" :: ts => do
    if keywords.contains name then none
    else
      let (e, ts) ← readExpression n ts
      let done := { done with names := done.names ++ [some name], named := done.named ++ [e] }
      readArgumentsEnd n done (max stage 1) ts
  | n + 1, done, stage, ts => do
    let (e, ts) ← readNamedExpression n ts
    if stage ≠ 0 then none
    else if startsClause ts then
      if done.positional.isEmpty then
        match readClauses n ts with
        | some (.symbol ")" :: ts) =>
          some ({ done with positional := [.other "GeneratorExp"] }, ts)
        | _ => none
      else none
    else readArgumentsEnd n { done with positional := done.positional ++ [e] } stage ts

/-- What comes after an argument: a comma or the closing bracket. -/
def readArgumentsEnd : Nat → ArgumentList → (stage : Nat) → List Lexeme →
    Option (ArgumentList × List Lexeme)
  | 0, _, _, _ => none
  | n + 1, done, stage, .symbol "," :: ts => readArguments n done stage ts
  | _ + 1, done, _, .symbol ")" :: ts => some (done, ts)
  | _ + 1, _, _, _ => none

/-- What stands between the brackets of a subscript, with the closing bracket. -/
def readIndex : Nat → List Lexeme → Option (Term × List Lexeme)
  | 0, _ => none
  | n + 1, ts => do
    let (first, ts) ← readIndexItem n ts
    match first, ts with
    | .starred _, _ =>
      let (_, ts) ← readIndexItems n ts
      some (.display .tuple [], ts)
    | _, .symbol "]" :: ts => some (first, ts)
    | _, .symbol "," :: _ =>
      let (_, ts) ← readIndexItems n ts
      some (.display .tuple [], ts)
    | _, _ => none

/-- The items of a subscript after the first, with the closing bracket. -/
def readIndexItems : Nat → List Lexeme → Option (Unit × List Lexeme)
  | 0, _ => none
  | _ + 1, .symbol "]" :: ts => some ((), ts)
  | _ + 1, .symbol "," :: .symbol "]" :: ts => some ((), ts)
  | n + 1, .symbol "," :: ts => do
    let (_, ts) ← readIndexItem n ts
    readIndexItems n ts
  | _ + 1, _ => none

/-- One item of a subscript: an index or a slice. -/
def readIndexItem : Nat → List Lexeme → Option (Term × List Lexeme)
  | 0, _ => none
  | n + 1, .symbol "*" :: ts => do
    let (e, ts) ← readExpression n ts
    some (.starred e, ts)
  | n + 1, .symbol ":" :: ts => readSliceRest n (.literal .none) ts
  | n + 1, .word name :: .symbol ":=" :: ts =>
    readNamedExpression n (.word name :: .symbol ":=" :: ts)
  | n + 1, ts => do
    let (e, ts) ← readExpression n ts
    match ts with
    | .symbol ":" :: ts => readSliceRest n e ts
    | _ => some (e, ts)

/-- The rest of a slice after its first colon. -/
def readSliceRest : Nat → Term → List Lexeme → Option (Term × List Lexeme)
  | 0, _, _ => none
  | n + 1, lower, ts => do
    let (upper, ts) ← readBound n ts
    match ts with
    | .symbol ":" :: ts =>
      let (step, ts) ← readBound n ts
      some (.slice lower upper step, ts)
    | _ => some (.slice lower upper (.literal .none), ts)

/-- A bound of a slice, which may be missing. -/
def readBound : Nat → List Lexeme → Option (Term × List Lexeme)
  | 0, _ => none
  | _ + 1, .symbol ":" :: ts => some (.literal .none, .symbol ":" :: ts)
  | _ + 1, .symbol "," :: ts => some (.literal .none, .symbol "," :: ts)
  | _ + 1, .symbol "]" :: ts => some (.literal .none, .symbol "]" :: ts)
  | n + 1, ts => readExpression n ts

/-- A name, a literal or what stands between brackets. -/
def readAtom : Nat → List Lexeme → Option (Term × List Lexeme)
  | 0, _ => none
  | _ + 1, .word "None" :: ts => some (.literal .none, ts)
  | _ + 1, .word "True" :: ts => some (.literal (.bool true), ts)
  | _ + 1, .word "False" :: ts => some (.literal (.bool false), ts)
  | _ + 1, .word name :: ts => if keywords.contains name then none else some (.name name, ts)
  | _ + 1, .symbol "..." :: ts => some (.literal .ellipsis, ts)
  | n + 1, .symbol "(" :: ts => readGroup n ts
  | n + 1, .symbol "[" :: ts => readList n ts
  | n + 1, .symbol "\x7b" :: ts => readBraces n ts
  | _ + 1, .literal (.int i) :: ts => some (.literal (.int i), ts)
  | _ + 1, .literal (.float x) :: ts => some (.literal (.float x), ts)
  | _ + 1, .literal (.imaginary x) :: ts => some (.literal (.imaginary x), ts)
  | n + 1, ts => do
    let (quotations, ts) := spanQuotations ts
    if quotations.isEmpty then none
    else
      let parts ← readQuotations n quotations
      let isBytes := parts.any fun e => match e with | .literal (.bytes _) => true | _ => false
      let isText := parts.any fun e => match e with | .literal (.bytes _) => false | _ => true
      let interpolated :=
        quotations.any fun lx => match lx with | .interpolation _ => true | _ => false
      if isBytes then
        if isText || interpolated then none
        else
          let all := parts.flatMap fun e => match e with | .literal (.bytes s) => s | _ => []
          some (.literal (.bytes all), ts)
      else if interpolated then some (.interpolation (mergeTexts parts), ts)
      else
        let all := parts.flatMap fun e => match e with | .literal (.text s) => s | _ => []
        some (.literal (.text all), ts)

def readQuotations : Nat → List Lexeme → Option (List Term)
  | 0, _ => none
  | _ + 1, [] => some []
  | n + 1, .literal value :: ts => do
    let rest ← readQuotations n ts
    some (.literal value :: rest)
  | n + 1, .interpolation pieces :: ts => do
    let parts ← readPieces n pieces
    let rest ← readQuotations n ts
    some (parts ++ rest)
  | _ + 1, _ => none

def readPieces : Nat → List Piece → Option (List Term)
  | 0, _ => none
  | _ + 1, [] => some []
  | n + 1, .text s :: pieces => do
    let rest ← readPieces n pieces
    some (.literal (.text s) :: rest)
  | n + 1, .field expression layout :: pieces => do
    let lexemes ← Lexeme.scan ('(' :: expression ++ [')'])
    let (value, ts) ← readExpressions n lexemes
    match ts with
    | [.newline] =>
      let layout ← match layout with
        | none => some none
        | some layout => (readPieces n layout).map fun parts => some (.interpolation parts)
      let rest ← readPieces n pieces
      some (.interpolated value layout :: rest)
    | _ => none

/-- What stands between round brackets, with the closing bracket. -/
def readGroup : Nat → List Lexeme → Option (Term × List Lexeme)
  | 0, _ => none
  | _ + 1, .symbol ")" :: ts => some (.display .tuple [], ts)
  | n + 1, .word "yield" :: ts => do
    let (e, ts) ← readYield n ts
    match ts with
    | .symbol ")" :: ts => some (e, ts)
    | _ => none
  | n + 1, ts => do
    let (first, ts) ← readItem n ts
    match first, ts with
    | _, .symbol "," :: ts =>
      let (items, ts) ← readItems n ")" [first] ts
      some (.display .tuple items, ts)
    | .starred _, _ => none
    | _, .symbol ")" :: ts => some (first, ts)
    | _, _ =>
      match readClauses n ts with
      | some (.symbol ")" :: ts) => some (.other "GeneratorExp", ts)
      | _ => none

/-- What stands between square brackets, with the closing bracket. -/
def readList : Nat → List Lexeme → Option (Term × List Lexeme)
  | 0, _ => none
  | _ + 1, .symbol "]" :: ts => some (.display .list [], ts)
  | n + 1, ts => do
    let (first, ts) ← readItem n ts
    match first, ts with
    | _, .symbol "," :: ts =>
      let (items, ts) ← readItems n "]" [first] ts
      some (.display .list items, ts)
    | _, .symbol "]" :: ts => some (.display .list [first], ts)
    | .starred _, _ => none
    | _, _ =>
      match readClauses n ts with
      | some (.symbol "]" :: ts) => some (.other "ListComp", ts)
      | _ => none

/-- What stands between braces, with the closing brace. -/
def readBraces : Nat → List Lexeme → Option (Term × List Lexeme)
  | 0, _ => none
  | _ + 1, .symbol "\x7d" :: ts => some (.other "Dict", ts)
  | n + 1, .symbol "**" :: ts => readEntries n (.symbol "**" :: ts)
  | n + 1, ts => do
    let (first, after) ← readItem n ts
    match first, after with
    | _, .symbol ":" :: valueStart =>
      let (_, after) ← readExpression n valueStart
      if startsClause after then
        match readClauses n after with
        | some (.symbol "\x7d" :: ts) => some (.other "DictComp", ts)
        | _ => none
      else readEntriesEnd n after
    | _, .symbol "," :: ts =>
      let (items, ts) ← readItems n "\x7d" [first] ts
      some (.display .set items, ts)
    | _, .symbol "\x7d" :: ts => some (.display .set [first], ts)
    | .starred _, _ => none
    | _, _ =>
      match readClauses n after with
      | some (.symbol "\x7d" :: ts) => some (.other "SetComp", ts)
      | _ => none

/-- The entries of a table between braces, with the closing brace. -/
def readEntries : Nat → List Lexeme → Option (Term × List Lexeme)
  | 0, _ => none
  | _ + 1, .symbol "\x7d" :: ts => some (.other "Dict", ts)
  | n + 1, .symbol "**" :: ts => do
    let (_, ts) ← readArithmetic n 1 ts
    readEntriesEnd n ts
  | n + 1, ts => do
    let (_, ts) ← readExpression n ts
    match ts with
    | .symbol ":" :: ts =>
      let (_, ts) ← readExpression n ts
      readEntriesEnd n ts
    | _ => none

/-- What comes after an entry: a comma or the closing brace. -/
def readEntriesEnd : Nat → List Lexeme → Option (Term × List Lexeme)
  | 0, _ => none
  | n + 1, .symbol "," :: ts => readEntries n ts
  | _ + 1, .symbol "\x7d" :: ts => some (.other "Dict", ts)
  | _ + 1, _ => none

def readItem : Nat → List Lexeme → Option (Term × List Lexeme)
  | 0, _ => none
  | n + 1, .symbol "*" :: ts => do
    let (e, ts) ← readArithmetic n 1 ts
    some (.starred e, ts)
  | n + 1, ts => readNamedExpression n ts

/-- Further items of a display up to its closing bracket, after those in `done`. -/
def readItems : Nat → (close : String) → List Term → List Lexeme → Option (List Term × List Lexeme)
  | 0, _, _, _ => none
  | n + 1, close, done, .symbol s :: ts => do
    if s = close then some (done.reverse, ts)
    else
      let (e, ts) ← readItem n (.symbol s :: ts)
      match ts with
      | .symbol "," :: ts => readItems n close (e :: done) ts
      | .symbol s :: ts => if s = close then some ((e :: done).reverse, ts) else none
      | _ => none
  | n + 1, close, done, ts => do
    let (e, ts) ← readItem n ts
    match ts with
    | .symbol "," :: ts => readItems n close (e :: done) ts
    | .symbol s :: ts => if s = close then some ((e :: done).reverse, ts) else none
    | _ => none

/-- An expression that may be given a name. -/
def readNamedExpression : Nat → List Lexeme → Option (Term × List Lexeme)
  | 0, _ => none
  | n + 1, .word name :: .symbol ":=" :: ts => do
    let (_, ts) ← readExpression n ts
    if keywords.contains name then none else some (.other "NamedExpr", ts)
  | n + 1, ts => do
    let (e, ts) ← readExpression n ts
    match ts with
    | .symbol ":=" :: _ => none
    | _ => some (e, ts)

def readClauses : Nat → List Lexeme → Option (List Lexeme)
  | 0, _ => none
  | n + 1, .word "async" :: ts => readClauses n ts
  | n + 1, .word "for" :: ts => do
    let (_, ts) ← readTargets n ts
    match ts with
    | .word "in" :: ts =>
      let (_, ts) ← readDisjunction n ts
      let ts ← readFilters n ts
      if startsClause ts then readClauses n ts else some ts
    | _ => none
  | _ + 1, _ => none

def readFilters : Nat → List Lexeme → Option (List Lexeme)
  | 0, _ => none
  | n + 1, .word "if" :: ts => do
    let (_, ts) ← readDisjunction n ts
    readFilters n ts
  | _ + 1, ts => some ts

/-- The targets of a clause, up to the word `in`. -/
def readTargets : Nat → List Lexeme → Option (Unit × List Lexeme)
  | 0, _ => none
  | n + 1, ts => do
    let (e, ts) ← match ts with
      | .symbol "*" :: ts => readPrimary n ts
      | _ => readPrimary n ts
    if !e.isTarget then none
    else
      match ts with
      | .symbol "," :: .word "in" :: ts => some ((), .word "in" :: ts)
      | .symbol "," :: ts => readTargets n ts
      | _ => some ((), ts)

/-- What follows the word `yield`. -/
def readYield : Nat → List Lexeme → Option (Term × List Lexeme)
  | 0, _ => none
  | n + 1, .word "from" :: ts => do
    let (_, ts) ← readExpression n ts
    some (.other "YieldFrom", ts)
  | n + 1, ts =>
    match readExpressions n ts with
    | some (_, ts) => some (.other "Yield", ts)
    | none => some (.other "Yield", ts)

/-- Expressions separated by commas; with a comma they form a tuple. -/
def readExpressions : Nat → List Lexeme → Option (Term × List Lexeme)
  | 0, _ => none
  | n + 1, ts => do
    let (first, ts) ← readStarred n ts
    match ts with
    | .symbol "," :: _ =>
      let (items, ts) ← readExpressionsRest n [first] ts
      some (.display .tuple items, ts)
    | _ => some (first, ts)

/-- Further expressions after commas, after those in `done`. The last comma may end the tuple. -/
def readExpressionsRest : Nat → List Term → List Lexeme → Option (List Term × List Lexeme)
  | 0, _, _ => none
  | n + 1, done, .symbol "," :: ts =>
    match readStarred n ts with
    | some (e, ts) => readExpressionsRest n (e :: done) ts
    | none => some (done.reverse, ts)
  | _ + 1, done, ts => some (done.reverse, ts)

def readStarred : Nat → List Lexeme → Option (Term × List Lexeme)
  | 0, _ => none
  | n + 1, .symbol "*" :: ts => do
    let (e, ts) ← readArithmetic n 1 ts
    some (.starred e, ts)
  | n + 1, ts => readExpression n ts

/-- Parameters up to the colon or bracket that ends them; `annotated` says that types may be
given. -/
def readParameters : Nat → (annotated : Bool) → ParameterOrder → List Lexeme →
    Option (List Lexeme)
  | 0, _, _, _ => none
  | _ + 1, _, order, .symbol ":" :: ts =>
    if order.bareStar then none else some (.symbol ":" :: ts)
  | _ + 1, _, order, .symbol ")" :: ts =>
    if order.bareStar then none else some (.symbol ")" :: ts)
  | n + 1, annotated, order, .symbol "/" :: ts =>
    if order.slash || order.star || order.twoStars || !order.any then none
    else readParametersEnd n annotated { order with slash := true } ts
  | n + 1, annotated, order, .symbol "**" :: .word name :: ts => do
    if order.twoStars || order.bareStar || keywords.contains name then none
    else
      let ts ← readAnnotation n annotated ts
      readParametersEnd n annotated { order with twoStars := true } ts
  | n + 1, annotated, order, .symbol "*" :: .word name :: ts => do
    if order.star || order.twoStars || keywords.contains name then none
    else
      let ts ← match annotated, ts with
        | true, .symbol ":" :: ts => (readStarred n ts).map (·.2)
        | _, _ => some ts
      readParametersEnd n annotated { order with star := true } ts
  | n + 1, annotated, order, .symbol "*" :: .symbol "," :: ts =>
    if order.star || order.twoStars then none
    else readParameters n annotated { order with star := true, bareStar := true } ts
  | n + 1, annotated, order, .word name :: ts => do
    if order.twoStars || keywords.contains name then none
    else
      let ts ← readAnnotation n annotated ts
      match ts with
      | .symbol "=" :: ts =>
        let (_, ts) ← readExpression n ts
        let defaulted := order.defaulted || !order.star
        readParametersEnd n annotated
          { order with any := true, defaulted := defaulted, bareStar := false } ts
      | _ =>
        if order.defaulted && !order.star then none
        else readParametersEnd n annotated { order with any := true, bareStar := false } ts
  | _ + 1, _, _, _ => none

/-- What comes after a parameter: a comma, or what ends the parameters. -/
def readParametersEnd : Nat → (annotated : Bool) → ParameterOrder → List Lexeme →
    Option (List Lexeme)
  | 0, _, _, _ => none
  | n + 1, annotated, order, .symbol "," :: ts => readParameters n annotated order ts
  | _ + 1, _, _, .symbol ":" :: ts => some (.symbol ":" :: ts)
  | _ + 1, _, _, .symbol ")" :: ts => some (.symbol ")" :: ts)
  | _ + 1, _, _, _ => none

/-- The type of a parameter, if one is given. -/
def readAnnotation : Nat → (annotated : Bool) → List Lexeme → Option (List Lexeme)
  | 0, _, _ => none
  | n + 1, true, .symbol ":" :: ts => (readExpression n ts).map (·.2)
  | _ + 1, _, ts => some ts

end

end LSystem.Expr
