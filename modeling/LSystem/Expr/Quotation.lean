import LSystem.Expr.Syntax
import LSystem.Number.Decimal
import LSystem.Text.Surrogate

/-! # Quoted texts in expressions

A quoted text has letters in front that say how it is read, one or three quotes at each end, and
escapes inside. In an interpolated text, braces enclose fields: an expression, and optionally a
conversion mark and a layout. -/

namespace LSystem.Expr

structure QuotationMode where
  bytes : Bool
  /-- Escapes stand for themselves. -/
  raw : Bool
  /-- Braces enclose fields. -/
  interpolated : Bool
  deriving DecidableEq, Repr

inductive Piece where
  | text (s : Text)
  /-- The text of an expression, and the pieces of the layout of its value. -/
  | field (expression : Text) (layout : Option (List Piece))
  deriving Repr

namespace Quotation

/-- The mode that one letter in front of a quote stands for. -/
def letterMode? (c : Char) : Option QuotationMode :=
  if c = 'b' || c = 'B' then some ⟨true, false, false⟩
  else if c = 'u' || c = 'U' then some ⟨false, false, false⟩
  else if c = 'r' || c = 'R' then some ⟨false, true, false⟩
  else if c = 'f' || c = 'F' then some ⟨false, false, true⟩
  else none

def isQuote (c : Char) : Bool := c = '\'' || c = '"'

/-- The mode, the quote and what follows it, if a text starts a quotation. -/
def start? : Text → Option (QuotationMode × Char × Text)
  | a :: b :: q :: s =>
    if isQuote a then some (⟨false, false, false⟩, a, b :: q :: s)
    else if isQuote b then (letterMode? a).map fun mode => (mode, b, q :: s)
    else if isQuote q then
      if (a = 'r' || a = 'R') && (b = 'b' || b = 'B') ||
          (a = 'b' || a = 'B') && (b = 'r' || b = 'R')
      then some (⟨true, true, false⟩, q, s)
      else if (a = 'r' || a = 'R') && (b = 'f' || b = 'F') ||
          (a = 'f' || a = 'F') && (b = 'r' || b = 'R')
      then some (⟨false, true, true⟩, q, s)
      else none
    else none
  | [a, b] =>
    if isQuote a then some (⟨false, false, false⟩, a, [b])
    else if isQuote b then (letterMode? a).map fun mode => (mode, b, [])
    else none
  | [a] => if isQuote a then some (⟨false, false, false⟩, a, []) else none
  | [] => none

/-- What stands before the closing quotes, and what follows them. A text between single quotes ends
on its line; `escaped` says that a backslash stands before. -/
def body (quote : Char) (triple : Bool) : (escaped : Bool) → Text → Text → Option (Text × Text)
  | _, [], _ => none
  | true, c :: s, done => body quote triple false s (c :: done)
  | false, c :: s, done =>
    if c = '\\' then body quote triple true s (c :: done)
    else if c = quote && !triple then some (done.reverse, s)
    else if c = quote && [quote, quote].isPrefixOf s then some (done.reverse, s.drop 2)
    else if c = '\n' && !triple then none
    else body quote triple false s (c :: done)

/-- The character that `count` hexadecimal digits at the start of a text stand for, and what
follows. -/
def hexEscape (count : Nat) (s : Text) : Option (Char × Text) := do
  let ds ← (s.take count).mapM fun c => (Number.digitValue? c).filter (· < 16)
  if ds.length < count then none
  else
    let n := Number.ofDigits 16 ds
    if n < 0x110000 then some (Text.ofCodePoint n, s.drop count) else none

/-- The digits below eight at the start of a text, at most `count`. -/
def octalDigits (count : Nat) (s : Text) : List Nat :=
  ((s.take count).takeWhile fun c => '0' ≤ c && c ≤ '7').map fun c => c.toNat - 48

/-- The character that an escape stands for, given what follows the backslash. -/
def escape (bytes : Bool) (c : Char) (s : Text) : Option (Text × Text) :=
  match c with
  | '\n' => some ([], s)
  | '\\' => some (['\\'], s)
  | '\'' => some (['\''], s)
  | '"' => some (['"'], s)
  | 'a' => some ([Char.ofNat 7], s)
  | 'b' => some ([Char.ofNat 8], s)
  | 'f' => some ([Char.ofNat 12], s)
  | 'n' => some (['\n'], s)
  | 'r' => some (['\r'], s)
  | 't' => some (['\t'], s)
  | 'v' => some ([Char.ofNat 11], s)
  | 'x' => (hexEscape 2 s).map fun (c, s) => ([c], s)
  | 'u' =>
    if bytes then some (['\\', 'u'], s) else (hexEscape 4 s).map fun (c, s) => ([c], s)
  | 'U' =>
    if bytes then some (['\\', 'U'], s) else (hexEscape 8 s).map fun (c, s) => ([c], s)
  | 'N' => if bytes then some (['\\', 'N'], s) else none
  | c =>
    let ds := octalDigits 3 (c :: s)
    if ds.isEmpty then some (['\\', c], s)
    else
      let n := Number.ofDigits 8 ds
      some ([Char.ofNat (if bytes then n % 256 else n)], s.drop (ds.length - 1))

/-- The text that a quotation's body stands for. -/
def decode (bytes : Bool) (s : Text) : Option Text := go s.length s []
where
  /-- Every step takes at least one character, so the length of the body is fuel enough. -/
  go : Nat → Text → Text → Option Text
    | _, [], done => some done.reverse
    | 0, _ :: _, _ => none
    | fuel + 1, c :: s, done =>
      if c = '\\' then
        match s with
        | [] => none
        | d :: s =>
          match escape bytes d s with
          | some (new, s) => go fuel s (new.reverse ++ done)
          | none => none
      else go fuel s (c :: done)

/-! ## Fields -/

/-- Where the text of an expression stops inside a field: what was taken, and what follows. The
brackets still open are in `opened`; `quoted` is the quote of the text that is open, with its
number of quotes. -/
def fieldExpression (s : Text) : Option (Text × Text) := go s.length s [] none []
where
  /-- Every step takes at least one character. -/
  go : Nat → Text → List Char → Option (Char × Nat) → Text → Option (Text × Text)
    | _, [], opened, quoted, done =>
      if opened.isEmpty && quoted.isNone then some (done.reverse, []) else none
    | 0, _ :: _, _, _, _ => none
    | fuel + 1, c :: s, opened, quoted, done =>
      if c = '\\' then none
      else
        match quoted with
        | some (q, count) =>
          if c = q then
            if count = 3 then
              match s with
              | a :: b :: rest =>
                if a = q && b = q then go fuel rest opened none (q :: q :: q :: done)
                else go fuel s opened quoted (c :: done)
              | _ => go fuel s opened quoted (c :: done)
            else go fuel s opened none (c :: done)
          else go fuel s opened quoted (c :: done)
        | none =>
          if isQuote c then
            match s with
            | a :: b :: rest =>
              if a = c && b = c then go fuel rest opened (some (c, 3)) (c :: c :: c :: done)
              else go fuel s opened (some (c, 1)) (c :: done)
            | _ => go fuel s opened (some (c, 1)) (c :: done)
          else if c = '(' || c = '[' || c = '\x7b' then go fuel s (c :: opened) none (c :: done)
          else if c = '#' then none
          else if opened.isEmpty && (c = '!' || c = '=' || c = '<' || c = '>') &&
              s.head? = some '=' then
            go fuel (s.drop 1) opened none ('=' :: c :: done)
          else if opened.isEmpty && (c = '!' || c = ':' || c = '\x7d' || c = '=') then
            some (done.reverse, c :: s)
          else if c = ')' || c = ']' || c = '\x7d' then
            match opened with
            | o :: opened =>
              if (o = '(' && c = ')') || (o = '[' && c = ']') || (o = '\x7b' && c = '\x7d') then
                go fuel s opened none (c :: done)
              else none
            | [] => none
          else go fuel s opened none (c :: done)

/-- The pieces of an interpolated text, at nesting depth `level`: at depth zero the whole text, with
doubled braces for single ones; deeper a layout, which ends before a closing brace. -/
def pieces (mode : QuotationMode) (level : Nat) :
    Nat → Text → Text → List Piece → Option (List Piece × Text)
  | 0, _, _, _ => none
  | fuel + 1, s, open_, done =>
    let flush : Option (List Piece) :=
      if open_.isEmpty then some done
      else (if mode.raw then some open_.reverse else decode false open_.reverse).map
        fun t => .text t :: done
    match s with
    | [] => flush.map fun done => (done.reverse, [])
    | c :: s =>
      if c = '\\' && !mode.raw then
        match s with
        | d :: rest =>
          if d = '\x7b' || d = '\x7d' then pieces mode level fuel s ('\\' :: '\\' :: open_) done
          else pieces mode level fuel rest (d :: '\\' :: open_) done
        | [] => none
      else if c = '\x7b' then
        if level = 0 && s.head? = some '\x7b' then
          pieces mode level fuel (s.drop 1) ('\x7b' :: open_) done
        else if 2 ≤ level then none
        else
          match flush, fieldExpression s with
          | some done, some (expression, rest) =>
            if expression.all Text.isBlank then none
            else
              let (shown, rest) := match rest with
                | '=' :: after =>
                  let blanks := after.takeWhile Number.isNumeralBlank
                  ([Piece.text (expression ++ '=' :: blanks)], after.drop blanks.length)
                | _ => ([], rest)
              let converted := match rest with
                | '!' :: mark :: after =>
                  if mark = 'r' || mark = 's' || mark = 'a' then some after else none
                | '!' :: [] => none
                | _ => some rest
              match converted with
              | some (':' :: rest) =>
                match pieces mode (level + 1) fuel rest [] [] with
                | some (layout, '\x7d' :: rest) =>
                  pieces mode level fuel rest [] (.field expression (some layout) :: shown ++ done)
                | _ => none
              | some ('\x7d' :: rest) =>
                pieces mode level fuel rest [] (.field expression none :: shown ++ done)
              | _ => none
          | _, _ => none
      else if c = '\x7d' then
        if 0 < level then flush.map fun done => (done.reverse, c :: s)
        else if s.head? = some '\x7d' then
          pieces mode level fuel (s.drop 1) ('\x7d' :: open_) done
        else none
      else pieces mode level fuel s (c :: open_) done

end Quotation

end LSystem.Expr
