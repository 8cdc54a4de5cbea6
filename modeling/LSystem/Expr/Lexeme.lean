import LSystem.Expr.Numeral
import LSystem.Expr.Quotation

/-! # Lexemes of expressions

`Lexeme.scan` cuts a program into names, literals and symbols, and marks the ends of lines and the
changes of indentation. Inside brackets, line ends and indentation do not count, and a backslash at
the end of a line joins it to the next. Comments are skipped. -/

namespace LSystem.Expr

inductive Lexeme where
  | word (s : String)
  | literal (value : Literal)
  | interpolation (pieces : List Piece)
  | symbol (s : String)
  | newline
  | indent
  | dedent

namespace Lexeme

/-- What the scanner keeps while it goes through a program. -/
structure State where
  /-- The brackets that are open, innermost first. -/
  brackets : List Char := []
  /-- The indentations that are open, innermost first, each measured with tabs to the next multiple
  of eight and with tabs as one. -/
  indents : List (Nat × Nat) := []
  /-- The lexemes found, last first. -/
  found : List Lexeme := []

def State.add (st : State) (lx : Lexeme) : State := { st with found := lx :: st.found }

/-- The symbols, longest first. -/
def symbols : List String :=
  ["**=", "//=", ">>=", "<<=", "...", "!=", "%=", "&=", "**", "*=", "+=", "-=", "->", "//", "/=",
    ":=", "<<", "<=", "==", ">=", ">>", "@=", "^=", "|=", "%", "&", "(", ")", "*", "+", ",", "-",
    ".", "/", ":", ";", "<", "=", ">", "@", "[", "]", "^", "\x7b", "|", "\x7d", "~"]

/-- The symbol that starts a text, and what follows. -/
def symbol? (s : Text) : Option (String × Text) :=
  symbols.findSome? fun sym => (sym.toList.isPrefixOf? s).map fun rest => (sym, rest)

/-- The quotation that starts a text, and what follows; the outer `none` says that none starts. -/
def quotation? (s : Text) : Option (Option (Lexeme × Text)) :=
  (Quotation.start? s).map fun (mode, quote, rest) => do
    let triple := [quote, quote].isPrefixOf rest
    let (body, rest) ← Quotation.body quote triple false (if triple then rest.drop 2 else rest) []
    if mode.interpolated then
      match Quotation.pieces mode 0 (body.length + 1) body [] [] with
      | some (pieces, []) => some (.interpolation pieces, rest)
      | _ => none
    else if mode.bytes && body.any (128 ≤ ·.toNat) then none
    else
      let value ← if mode.raw then some body else Quotation.decode mode.bytes body
      some (.literal (if mode.bytes then .bytes value else .text value), rest)

/-- The lexeme that starts a text, which starts with no blank, and what follows. -/
def first? (s : Text) : Option (Lexeme × Text) :=
  match quotation? s with
  | some result => result
  | none =>
    match s with
    | [] => none
    | c :: rest =>
      if c.isDigit || c = '.' && (rest.head?.any Char.isDigit) then
        (Numeral.scan s).map fun (value, rest) => (.literal value, rest)
      else if Numeral.isNameLike c then
        let name := s.takeWhile Numeral.isNameLike
        if Text.isNameStart c && name.all Text.isNameContinue then
          some (.word (String.ofList name), s.dropWhile Numeral.isNameLike)
        else none
      else (symbol? s).map fun (sym, rest) => (.symbol sym, rest)

/-- The indentation at the start of a line, measured twice, and the rest of the line. When the line
is joined to the next by a backslash, the indentation up to the backslash counts, unless there is
none; `joined` is that indentation. -/
def measure (joined : Nat) : (col alt : Nat) → Text → Option (Nat × Nat × Text)
  | col, alt, [] => some (col, alt, [])
  | col, alt, [c] => some (col, alt, [c])
  | col, alt, c :: d :: s =>
    if c = ' ' then measure joined (col + 1) (alt + 1) (d :: s)
    else if c = '\t' then measure joined ((col / 8 + 1) * 8) (alt + 1) (d :: s)
    else if c = Char.ofNat 12 then measure joined 0 0 (d :: s)
    else if c = '\\' then
      if d = '\n' && !s.isEmpty then measure (if joined = 0 then col else joined) col alt s
      else none
    else if joined = 0 then some (col, alt, c :: d :: s)
    else some (joined, joined, c :: d :: s)

/-- Closes the indentations deeper than `col`. The line must then be indented like one still
open. -/
def close (col alt : Nat) : List (Nat × Nat) → List Lexeme → Option (List (Nat × Nat) × List Lexeme)
  | [], found => if col = 0 && alt = 0 then some ([], found) else none
  | (c, a) :: indents, found =>
    if col < c then close col alt indents (.dedent :: found)
    else if col = c && alt = a then some ((c, a) :: indents, found)
    else none

/-- Opens or closes indentations at the start of a line that is not blank. -/
def State.indent (st : State) (col alt : Nat) : Option State :=
  let (c, a) := st.indents.headD (0, 0)
  if c < col then
    if a < alt then
      some { st with indents := (col, alt) :: st.indents, found := .indent :: st.found }
    else none
  else (close col alt st.indents st.found).map fun (indents, found) =>
    { st with indents := indents, found := found }

/-- Adds a symbol, keeping count of the brackets. -/
def State.addSymbol (st : State) (sym : String) : Option State :=
  let st' := st.add (.symbol sym)
  match sym.toList with
  | [c] =>
    if c = '(' || c = '[' || c = '\x7b' then
      if 200 ≤ st.brackets.length then none else some { st' with brackets := c :: st.brackets }
    else if c = ')' || c = ']' || c = '\x7d' then
      match st.brackets with
      | o :: brackets =>
        if (o = '(' && c = ')') || (o = '[' && c = ']') || (o = '\x7b' && c = '\x7d') then
          some { st' with brackets := brackets }
        else none
      | [] => none
    else some st'
  | _ => some st'

/-- Scans on; `atStart` says that a line starts. Every step takes at least one character or starts
to read a line. -/
def scanFrom : Nat → (atStart : Bool) → Text → State → Option (List Lexeme)
  | 0, _, _, _ => none
  | fuel + 1, true, s, st =>
    match measure 0 0 0 s with
    | none => none
    | some (_, _, []) =>
      some ((st.indents.map fun _ => Lexeme.dedent).foldl (fun ls l => l :: ls) st.found).reverse
    | some (col, alt, c :: after) =>
      if c = '\n' then scanFrom fuel true after st
      else if c = '#' then scanFrom fuel true ((after.dropWhile (· ≠ '\n')).drop 1) st
      else
        match st.indent col alt with
        | some st => scanFrom fuel false (c :: after) st
        | none => none
  | _ + 1, false, [], _ => none
  | fuel + 1, false, c :: s, st =>
    if c = ' ' || c = '\t' || c = Char.ofNat 12 then scanFrom fuel false s st
    else if c = '#' then scanFrom fuel false (s.dropWhile (· ≠ '\n')) st
    else if c = '\n' then
      if st.brackets.isEmpty then scanFrom fuel true s (st.add .newline)
      else scanFrom fuel false s st
    else if c = '\\' then
      match s with
      | '\n' :: d :: rest => scanFrom fuel false (d :: rest) st
      | _ => none
    else
      match first? (c :: s) with
      | none => none
      | some (.symbol sym, rest) =>
        match st.addSymbol sym with
        | some st => scanFrom fuel false rest st
        | none => none
      | some (lx, rest) => scanFrom fuel false rest (st.add lx)

/-- The lexemes of a program, if it can be cut into lexemes. The last line is ended in any case. -/
def scan (program : Text) : Option (List Lexeme) :=
  let s := Text.unifyLineEnds program ++ ['\n']
  scanFrom (2 * s.length + 2) true s {}

end Lexeme

end LSystem.Expr
