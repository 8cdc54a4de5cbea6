/-! # Texts

A text is the list of its characters, so lengths and positions count characters. The operations
here are the ones that the rest of the library is built on: cutting at a separator, joining,
trimming, and replacing every occurrence of a word. -/

namespace LSystem

/-- A text, as the list of its characters. -/
abbrev Text := List Char

namespace Text

/-- The pieces between separators that hold at least one character. -/
def pieces (sep : Char) (s : Text) : List Text := (s.splitOn sep).filter (· ≠ [])

/-- The texts one after the other, with `sep` between any two. -/
def join (sep : Text) (parts : List Text) : Text := sep.intercalate parts

/-- Replaces every occurrence of `word` by `new`, from left to right and without overlap. The empty
word occurs before every character and at the end. -/
def replaceAll (word new : Text) (s : Text) : Text :=
  if word = [] then new ++ s.flatMap fun c => c :: new else go 0 s []
where
  /-- Skips the first `skip` characters, which belong to an occurrence already replaced; `done`
  holds what was written so far, last character first. -/
  go : Nat → Text → Text → Text
    | _, [], done => done.reverse
    | skip + 1, _ :: s, done => go skip s done
    | 0, c :: s, done =>
      if word.isPrefixOf (c :: s) then go (word.length - 1) s (new.reverse ++ done)
      else go 0 s (c :: done)

/-- Whether `word` occurs somewhere in a text. -/
def occurs (word : Text) : Text → Bool
  | [] => word.isEmpty
  | c :: s => word.isPrefixOf (c :: s) || occurs word s

/-- The number of occurrences of `word` that do not overlap, counted from the left. The empty word
occurs at every position and at the end. -/
def countWord (word s : Text) : Nat :=
  if word = [] then s.length + 1 else go 0 s 0
where
  /-- Counts on from `n`, after skipping `skip` characters. -/
  go : Nat → Text → Nat → Nat
    | _, [], n => n
    | skip + 1, _ :: s, n => go skip s n
    | 0, c :: s, n =>
      if word.isPrefixOf (c :: s) then go (word.length - 1) s (n + 1) else go 0 s n

/-- `n` copies of a text one after the other. -/
def copies (n : Nat) (s : Text) : Text :=
  if s.isEmpty then [] else (List.replicate n s).flatten

/-- The text without the characters at both ends that satisfy `p`. -/
def trimWhile (p : Char → Bool) (s : Text) : Text :=
  ((s.dropWhile p).reverse.dropWhile p).reverse

/-- The text with a line feed for each of the ways to end a line: a line feed, a carriage return, or
one after the other. -/
def unifyLineEnds (s : Text) : Text := go s []
where
  /-- Goes on after what is in `done`, last character first. -/
  go : Text → Text → Text
    | [], done => done.reverse
    | '\r' :: '\n' :: s, done => go s ('\n' :: done)
    | '\r' :: s, done => go s ('\n' :: done)
    | c :: s, done => go s (c :: done)

end Text

end LSystem
