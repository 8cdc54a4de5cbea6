import LSystem.Text.Class

/-! # Tokens of commands

A command is a text in which four forms mean something: `[` and `]`, repeat blocks
`{content}(count)` with balanced brackets, and calls `name<arguments>`. `tokenize` finds them from
left to right and skips every other character. -/

namespace LSystem

inductive Token where
  | push
  | pop
  | block (content count : Text)
  /-- A call, with everything that stands between the angle brackets. -/
  | call (atom arguments : Text)
  deriving DecidableEq, Repr

/-- The non-empty pieces of an argument list between commas. -/
def splitArguments (arguments : Text) : List Text := Text.pieces ',' arguments

namespace Token

def text : Token → Text
  | .push => ['[']
  | .pop => [']']
  | .block content count => '{' :: content ++ '}' :: '(' :: count ++ [')']
  | .call atom arguments => atom ++ '<' :: arguments ++ ['>']

def textOf (tokens : List Token) : Text := tokens.flatMap text

/-- Splits a text at the bracket `right` that closes a bracket `left` already open, with `depth`
more of them open: what stands before it, and what follows. -/
def splitClose (left right : Char) : (depth : Nat) → Text → Text → Option (Text × Text)
  | _, [], _ => none
  | depth, c :: s, done =>
    if c = left then splitClose left right (depth + 1) s (c :: done)
    else if c = right then
      match depth with
      | 0 => some (done.reverse, s)
      | depth + 1 => splitClose left right depth s (c :: done)
    else splitClose left right depth s (c :: done)

/-- The repeat block that starts with an opening brace, given what follows the brace. The count
comes at once after the content and is not empty. -/
def block? (s : Text) : Option Token :=
  match splitClose '{' '}' 0 s [] with
  | some (content, '(' :: s) =>
    match splitClose '(' ')' 0 s [] with
    | some ([], _) => none
    | some (count, _) => some (.block content count)
    | none => none
  | _ => none

/-- Splits a text at its first `>`, if that is on the first line: what stands before it, and what
follows. -/
def splitAngle : Text → Text → Option (Text × Text)
  | [], _ => none
  | c :: s, done =>
    if c = '>' then some (done.reverse, s) else if c = '\n' then none else splitAngle s (c :: done)

/-- The call that starts a text: the longest word, and an argument list that ends at the first
`>`. -/
def call? (s : Text) : Option Token :=
  let atom := s.takeWhile Text.isWord
  if atom = [] then none
  else
    match s.dropWhile Text.isWord with
    | '<' :: s => (splitAngle s []).map fun (arguments, _) => .call atom arguments
    | _ => none

def first? : Text → Option Token
  | [] => none
  | '[' :: _ => some .push
  | ']' :: _ => some .pop
  | '{' :: s => block? s
  | c :: s => call? (c :: s)

/-- The tokens of a text, after skipping `skip` characters, which belong to the last token found.
The tokens found so far are in `found`, last first. -/
def scan : (skip : Nat) → Text → List Token → List Token
  | _, [], found => found.reverse
  | skip + 1, _ :: s, found => scan skip s found
  | 0, c :: s, found =>
    match first? (c :: s) with
    | some t => scan (t.text.length - 1) s (t :: found)
    | none => scan 0 s found

/-! ## Where tokens stand -/

theorem splitClose_eq {left right : Char} {depth : Nat} {s done inner rest : Text}
    (h : splitClose left right depth s done = some (inner, rest)) :
    ∃ mid, inner = done.reverse ++ mid ∧ s = mid ++ right :: rest := by
  induction s generalizing depth done with
  | nil => simp [splitClose] at h
  | cons c s ih =>
    have step {depth' : Nat} (h : splitClose left right depth' s (c :: done) = some (inner, rest)) :
        ∃ mid, inner = done.reverse ++ mid ∧ c :: s = mid ++ right :: rest := by
      obtain ⟨mid, rfl, rfl⟩ := ih h
      exact ⟨c :: mid, by simp, rfl⟩
    unfold splitClose at h
    split at h
    · exact step h
    · split at h
      · next hc =>
        cases depth with
        | zero =>
          obtain ⟨rfl, rfl⟩ := by simpa using h
          exact ⟨[], by simp, by simp [hc]⟩
        | succ depth => exact step h
      · exact step h

theorem splitAngle_eq {s done inner rest : Text} (h : splitAngle s done = some (inner, rest)) :
    ∃ mid, inner = done.reverse ++ mid ∧ s = mid ++ '>' :: rest := by
  induction s generalizing done with
  | nil => simp [splitAngle] at h
  | cons c s ih =>
    rw [splitAngle] at h
    split at h
    · next hc =>
      obtain ⟨rfl, rfl⟩ := by simpa using h
      exact ⟨[], by simp, by simp [hc]⟩
    · split at h
      · simp at h
      · obtain ⟨mid, rfl, rfl⟩ := ih h
        exact ⟨c :: mid, by simp, rfl⟩

theorem block?_text_isPrefix {s : Text} {t : Token} (h : block? s = some t) :
    t.text <+: '{' :: s := by
  rw [block?] at h
  split at h
  · next content s' hs =>
    split at h
    · simp at h
    · next count rest _ hs' =>
      obtain rfl := by simpa using h
      obtain ⟨_, rfl, rfl⟩ := splitClose_eq hs
      obtain ⟨_, rfl, rfl⟩ := splitClose_eq hs'
      exact ⟨rest, by simp [text]⟩
    · simp at h
  · simp at h

theorem call?_text_isPrefix {s : Text} {t : Token} (h : call? s = some t) : t.text <+: s := by
  rw [call?] at h
  split at h
  · simp at h
  · split at h
    · next s' hs =>
      obtain ⟨⟨arguments, rest⟩, hr, rfl⟩ := Option.map_eq_some_iff.1 h
      obtain ⟨_, rfl, rfl⟩ := splitAngle_eq hr
      refine ⟨rest, ?_⟩
      conv => rhs; rw [← List.takeWhile_append_dropWhile (p := Text.isWord) (l := s), hs]
      simp [text]
    · simp at h

theorem first?_text_isPrefix {s : Text} {t : Token} (h : first? s = some t) : t.text <+: s := by
  unfold first? at h
  split at h
  · simp at h
  · obtain rfl := by simpa using h
    exact ⟨_, rfl⟩
  · obtain rfl := by simpa using h
    exact ⟨_, rfl⟩
  · exact block?_text_isPrefix h
  · exact call?_text_isPrefix h

theorem mem_scan {skip : Nat} {s : Text} {found : List Token} {t : Token}
    (h : t ∈ scan skip s found) : t ∈ found ∨ t.text <:+: s := by
  induction s generalizing skip found with
  | nil => cases skip <;> simp_all [scan]
  | cons c s ih =>
    have later {skip : Nat} {found : List Token} (h : t ∈ scan skip s found) :
        t ∈ found ∨ t.text <:+: c :: s :=
      (ih h).imp_right fun h => h.trans (List.suffix_cons c s).isInfix
    cases skip with
    | succ skip => exact later h
    | zero =>
      rw [scan] at h
      split at h
      · next t' ht =>
        rcases later h with h | h
        · rcases List.mem_cons.1 h with rfl | h
          · exact .inr (first?_text_isPrefix ht).isInfix
          · exact .inl h
        · exact .inr h
      · exact later h

end Token

/-- The tokens of a command, from left to right. -/
def tokenize (s : Text) : List Token := Token.scan 0 s []

theorem Token.text_isInfix {s : Text} {t : Token} (h : t ∈ tokenize s) : t.text <:+: s := by
  simpa using Token.mem_scan h

/-- The content of a repeat block is shorter than the command that holds the block. -/
theorem Token.content_length_lt {s content count : Text}
    (h : Token.block content count ∈ tokenize s) : content.length < s.length := by
  have := (Token.text_isInfix h).length_le
  simp [Token.text] at this
  omega

end LSystem
