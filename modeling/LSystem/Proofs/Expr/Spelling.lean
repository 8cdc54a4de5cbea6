import LSystem.Expr.Program
import LSystem.Proofs.Expr.Numerals

/-! # Arithmetic texts

An arithmetic text alternates between operands and operators: names for one parameter, integer
literals and signs, round brackets, the operators of arithmetic, and comparisons. It has holes where
the parameter stands, so that it can be spelled with the name of the parameter or with a value. It
is cut into the same lexemes either way, but for those of the holes (`Infix.scan`). -/

namespace LSystem.Expr

open Numeral (isNameLike Ends)

/-- A part of an arithmetic text. -/
inductive Part where
  /-- The place of the parameter. -/
  | hole
  | numeral (digits : Text)
  | opening
  | closing
  /-- A sign, or an operator between two operands. -/
  | operator (s : String)
  deriving DecidableEq

/-- The operators of arithmetic and the comparisons. -/
def operators : List String :=
  ["+", "-", "*", "/", "//", "%", "**", "==", "!=", "<", "<=", ">", ">="]

namespace Part

/-- How a part is written, with `w` in the place of the parameter. -/
def text (w : Text) : Part → Text
  | hole => w
  | numeral digits => digits
  | opening => ['(']
  | closing => [')']
  | operator s => s.toList

end Part

/-- The text of parts, each with the blank text in front of it. -/
def spell (w : Text) (ps : List (Text × Part)) : Text := ps.flatMap fun p => p.1 ++ p.2.text w

/-- A text that may stand between parts. Lines end inside of brackets only. -/
def Blank (depth : Nat) (s : Text) : Prop :=
  ∀ c ∈ s, c = ' ' ∨ c = '\t' ∨ c = Char.ofNat 12 ∨ c = '\n' ∧ 0 < depth

/-- A name that is no keyword. -/
structure IsName (x : Text) : Prop where
  start : ∃ c s, x = c :: s ∧ Text.isNameStart c
  continues : ∀ c ∈ x, Text.isNameContinue c
  keyword : String.ofList x ∉ keywords

/-- A text that is read as an integer as a whole. -/
structure IsLiteral (d : Text) : Prop where
  digit : ∃ c s, d = c :: s ∧ c.isDigit
  nameLike : ∀ c ∈ d, isNameLike c
  value : ∃ i, Numeral.scan d = some (.int i, [])

/-- The parts of a text at `depth` open brackets, where an operand comes next if `operand` holds and
an operator else. The name `x` occurs in no literal. -/
inductive Infix (x : Text) : (depth : Nat) → (operand : Bool) → List (Text × Part) → Prop where
  | nil {depth : Nat} : Infix x depth false []
  | hole {depth : Nat} {b : Text} {ps : List (Text × Part)} : Blank depth b →
    Infix x depth false ps → Infix x depth true ((b, .hole) :: ps)
  | numeral {depth : Nat} {b d : Text} {ps : List (Text × Part)} : Blank depth b → IsLiteral d →
    ¬ x <:+: d → Infix x depth false ps → Infix x depth true ((b, .numeral d) :: ps)
  | opening {depth : Nat} {b : Text} {ps : List (Text × Part)} : Blank depth b →
    Infix x (depth + 1) true ps → Infix x depth true ((b, .opening) :: ps)
  | sign {depth : Nat} {b : Text} {s : String} {ps : List (Text × Part)} : Blank depth b →
    s ∈ ["+", "-"] → Infix x depth true ps → Infix x depth true ((b, .operator s) :: ps)
  | closing {depth : Nat} {b : Text} {ps : List (Text × Part)} : Blank depth b →
    Infix x (depth - 1) false ps → Infix x depth false ((b, .closing) :: ps)
  | operator {depth : Nat} {b : Text} {s : String} {ps : List (Text × Part)} : Blank depth b →
    s ∈ operators → Infix x depth true ps → Infix x depth false ((b, .operator s) :: ps)

/-- The value of an integer literal. -/
def literalValue (d : Text) : Int :=
  match Numeral.scan d with
  | some (.int i, _) => i
  | _ => 0

/-- The lexemes of a part, given those in the place of the parameter. -/
def Part.lexemes (hole : List Lexeme) : Part → List Lexeme
  | .hole => hole
  | .numeral digits => [.literal (.int (literalValue digits))]
  | .opening => [.symbol "("]
  | .closing => [.symbol ")"]
  | .operator s => [.symbol s]

def lexemes (hole : List Lexeme) (ps : List (Text × Part)) : List Lexeme :=
  ps.flatMap fun p => p.2.lexemes hole

/-- The brackets that are open after some parts. There is no result if one is closed that is not
open, or if too many are open at once. -/
def nest : (depth : Nat) → List (Text × Part) → Option Nat
  | depth, [] => some depth
  | depth, (_, .opening) :: ps => if 200 ≤ depth then none else nest (depth + 1) ps
  | 0, (_, .closing) :: _ => none
  | depth + 1, (_, .closing) :: ps => nest depth ps
  | depth, _ :: ps => nest depth ps

open Lexeme (State scanFrom)

/-- A character with which a symbol may go on. -/
def Fuses (c : Char) : Prop := c ∈ ['=', '*', '/', '>', '<', '.']

instance : DecidablePred Fuses := fun _ => inferInstanceAs (Decidable (_ ∈ _))

/-- A character that starts a quotation, or that no program may hold, or that ends a line in other
ways than a line feed. -/
def Strange (c : Char) : Prop := c ∈ ['\'', '"', '\r', Char.ofNat 0]

instance : DecidablePred Strange := fun _ => inferInstanceAs (Decidable (_ ∈ _))

def Ordinary (s : Text) : Prop := ∀ c ∈ s, ¬ Strange c

instance : DecidablePred Ordinary := List.decidableBAll fun c => ¬ Strange c

/-- A text is cut into some lexemes, whatever follows that cannot go on with a name or a number. -/
structure Reads (w : Text) (ls : List Lexeme) : Prop where
  head : ∃ c s, w = c :: s ∧ ¬ Fuses c
  ordinary : Ordinary w
  length : ls.length ≤ w.length
  scan : ∀ fuel rest st, Ends rest → Ordinary rest →
    scanFrom (fuel + ls.length) false (w ++ rest) st =
      scanFrom fuel false rest { st with found := ls.reverse ++ st.found }

variable {x w b d rest : Text} {ls : List Lexeme} {ps : List (Text × Part)} {depth fuel : Nat}
  {operand : Bool} {st : State} {s : String}

/-! ## Single lexemes -/

theorem Quotation.start?_eq_none {s : Text} (h : Ordinary s) : start? s = none := by
  have hq : ∀ c ∈ s, isQuote c = false := by
    intro c hc
    have := h c hc
    simp only [Strange, List.mem_cons, not_or] at this
    simp [isQuote, this.1, this.2.1]
  unfold start?
  split
  · simp [hq _ (.head _), hq _ (.tail _ (.head _)), hq _ (.tail _ (.tail _ (.head _)))]
  · simp [hq _ (.head _), hq _ (.tail _ (.head _))]
  · simp [hq _ (.head _)]
  · rfl

theorem quotation?_eq_none {s : Text} (h : Ordinary s) : Lexeme.quotation? s = none := by
  rw [Lexeme.quotation?, Quotation.start?_eq_none h]
  rfl

theorem symbol?_append (hs : s ∈ operators) (hr : ∀ c t, rest = c :: t → ¬ Fuses c) :
    Lexeme.symbol? (s.toList ++ rest) = some (s, rest) := by
  simp only [operators, List.mem_cons, List.not_mem_nil, or_false] at hs
  cases rest with
  | nil =>
    rw [List.append_nil]
    rcases hs with rfl | rfl | rfl | rfl | rfl | rfl | rfl | rfl | rfl | rfl | rfl | rfl | rfl <;>
      decide +kernel
  | cons c t =>
    have hne {c' : Char} (h : Fuses c') : c' ≠ c := fun e => hr c t rfl (e ▸ h)
    have h1 : '=' ≠ c := hne (by decide)
    have h2 : '*' ≠ c := hne (by decide)
    have h3 : '/' ≠ c := hne (by decide)
    have h4 : '>' ≠ c := hne (by decide)
    have h5 : '<' ≠ c := hne (by decide)
    rcases hs with rfl | rfl | rfl | rfl | rfl | rfl | rfl | rfl | rfl | rfl | rfl | rfl | rfl <;>
      simp [Lexeme.symbol?, Lexeme.symbols, List.isPrefixOf?, h1, h2, h3, h4, h5]

/-- The characters that brackets and operators start with. -/
def marks : List Char := ['(', ')', '+', '-', '*', '/', '%', '=', '!', '<', '>']

/-- A character with which the scanner does more than to look for a lexeme. -/
def Skips (c : Char) : Prop := c ∈ [' ', '\t', Char.ofNat 12, '#', '\n', '\\']

instance : DecidablePred Skips := fun _ => inferInstanceAs (Decidable (_ ∈ _))

theorem of_mem_marks {c : Char} (h : c ∈ marks) :
    isNameLike c = false ∧ c.isDigit = false ∧ c ≠ '.' ∧ ¬ Skips c := by
  simp only [marks, List.mem_cons, List.not_mem_nil, or_false] at h
  rcases h with rfl | rfl | rfl | rfl | rfl | rfl | rfl | rfl | rfl | rfl | rfl <;> decide

theorem scanFrom_add {c : Char} {t : Text} {lx : Lexeme} (hc : ¬ Skips c)
    (hf : Lexeme.first? (c :: t) = some (lx, rest)) (hl : ∀ s, lx ≠ .symbol s) :
    scanFrom (fuel + 1) false (c :: t) st = scanFrom fuel false rest (st.add lx) := by
  simp only [Skips, List.mem_cons, List.not_mem_nil, or_false, not_or] at hc
  conv => lhs; unfold scanFrom
  simp only [hc, decide_false, Bool.or_self, Bool.false_eq_true, if_false, hf]

theorem scanFrom_addSymbol {c : Char} {t : Text} (hc : ¬ Skips c)
    (hf : Lexeme.first? (c :: t) = some (.symbol s, rest)) :
    scanFrom (fuel + 1) false (c :: t) st = (st.addSymbol s).bind (scanFrom fuel false rest) := by
  simp only [Skips, List.mem_cons, List.not_mem_nil, or_false, not_or] at hc
  conv => lhs; unfold scanFrom
  simp only [hc, decide_false, Bool.or_self, Bool.false_eq_true, if_false, hf]
  cases st.addSymbol s <;> rfl

theorem scanFrom_blank (h : Blank depth b) (hst : st.brackets.length = depth) (rest : Text) :
    scanFrom (fuel + b.length) false (b ++ rest) st = scanFrom fuel false rest st := by
  induction b generalizing fuel with
  | nil => rfl
  | cons c b ih =>
    obtain ⟨hc, h⟩ := List.forall_mem_cons.1 h
    have step : scanFrom (fuel + b.length + 1) false (c :: (b ++ rest)) st =
        scanFrom (fuel + b.length) false (b ++ rest) st := by
      conv => lhs; unfold scanFrom
      rcases hc with rfl | rfl | rfl | ⟨rfl, hd⟩
      · simp
      · simp
      · simp
      · have hne : st.brackets ≠ [] := by
          rintro e
          rw [e, List.length_nil] at hst
          omega
        simp [hne]
    rw [List.length_cons, ← Nat.add_assoc, List.cons_append, step, ih h]

/-! ## Names, literals and symbols -/

theorem nameLike_of_continue {c : Char} (h : Text.isNameContinue c) : isNameLike c := by
  unfold Text.isNameContinue at h
  unfold isNameLike
  split at h
  · rw [h, Bool.true_or]
  · next hc =>
    rw [Bool.or_eq_true, decide_eq_true_eq]
    exact .inr (by omega)

theorem not_isDigit_of_nameStart {c : Char} (h : Text.isNameStart c) : c.isDigit = false := by
  rw [Bool.eq_false_iff]
  intro hd
  have hle : c.toNat ≤ 57 := by
    simp only [Char.isDigit, Bool.and_eq_true, decide_eq_true_eq] at hd
    exact hd.2
  rw [Text.isNameStart, if_pos (by omega), Bool.or_eq_true] at h
  rcases h with h | h
  · have hge : 65 ≤ c.toNat ∨ 97 ≤ c.toNat := by
      simp only [Char.isAlpha, Char.isUpper, Char.isLower, Bool.or_eq_true, Bool.and_eq_true,
        decide_eq_true_eq] at h
      exact h.imp And.left And.left
    omega
  · obtain rfl : c = '_' := by simpa using h
    cases hd

/-- The characters of names and literals have no other meaning. -/
theorem of_nameLike {c : Char} (h : isNameLike c) :
    ¬ Fuses c ∧ ¬ Skips c ∧ c ≠ '.' ∧ ¬ Strange c := by
  have hne {c' : Char} (h' : isNameLike c' = false) : c ≠ c' := by
    rintro rfl
    rw [h] at h'
    cases h'
  refine ⟨?_, ?_, hne (by decide), ?_⟩
  · rw [Fuses]
    simp only [List.mem_cons, List.not_mem_nil, or_false, not_or]
    exact ⟨hne (by decide), hne (by decide), hne (by decide), hne (by decide), hne (by decide),
      hne (by decide)⟩
  · rw [Skips]
    simp only [List.mem_cons, List.not_mem_nil, or_false, not_or]
    exact ⟨hne (by decide), hne (by decide), hne (by decide), hne (by decide), hne (by decide),
      hne (by decide)⟩
  · rw [Strange]
    simp only [List.mem_cons, List.not_mem_nil, or_false, not_or]
    exact ⟨hne (by decide), hne (by decide), hne (by decide), hne (by decide)⟩

theorem Ordinary.append {s t : Text} (hs : Ordinary s) (ht : Ordinary t) :
    Ordinary (s ++ t) := List.forall_mem_append.2 ⟨hs, ht⟩

theorem ordinary_of_nameLike (h : ∀ c ∈ w, isNameLike c) : Ordinary w :=
  fun c hc => (of_nameLike (h c hc)).2.2.2

theorem takeWhile_nameLike (hw : ∀ c ∈ w, isNameLike c) (hr : Ends rest) :
    (w ++ rest).takeWhile isNameLike = w ∧ (w ++ rest).dropWhile isNameLike = rest := by
  rw [List.takeWhile_append_of_pos hw, List.dropWhile_append_of_pos hw]
  cases rest with
  | nil => simp
  | cons c s => simp [(hr c s rfl).1]

theorem IsName.nameLike (h : IsName x) : ∀ c ∈ x, isNameLike c :=
  fun c hc => nameLike_of_continue (h.continues c hc)

/-- A name is a word in front of what cannot go on with it. -/
theorem IsName.first? (h : IsName x) (hr : Ends rest) (hq : Ordinary rest) :
    Lexeme.first? (x ++ rest) = some (.word (String.ofList x), rest) := by
  have hall := h.nameLike
  obtain ⟨ht, hd⟩ := takeWhile_nameLike hall hr
  have hcont : x.all Text.isNameContinue = true := List.all_eq_true.2 h.continues
  have hquote := quotation?_eq_none ((ordinary_of_nameLike hall).append hq)
  obtain ⟨c, s, rfl, hc⟩ := h.start
  have hn := hall c List.mem_cons_self
  have hp := (of_nameLike hn).2.2.1
  rw [List.cons_append] at ht hd hquote ⊢
  rw [Lexeme.first?, hquote]
  simp only [not_isDigit_of_nameStart hc, hp, hn, ht, hd, hc, hcont, decide_false, Bool.false_and,
    Bool.or_self, Bool.false_eq_true, if_false, if_true, Bool.and_self]

theorem IsName.reads (h : IsName x) : Reads x [.word (String.ofList x)] where
  head := by
    obtain ⟨c, s, rfl, -⟩ := h.start
    exact ⟨c, s, rfl, (of_nameLike (h.nameLike c List.mem_cons_self)).1⟩
  ordinary := ordinary_of_nameLike h.nameLike
  length := by
    obtain ⟨c, s, rfl, -⟩ := h.start
    simp
  scan fuel rest st hr hq := by
    have hf := h.first? hr hq
    obtain ⟨c, s, rfl, -⟩ := h.start
    exact scanFrom_add (of_nameLike (h.nameLike c List.mem_cons_self)).2.1 hf nofun

theorem IsLiteral.scan (h : IsLiteral d) : Numeral.scan d = some (.int (literalValue d), []) := by
  obtain ⟨i, hi⟩ := h.value
  rw [literalValue, hi]

theorem nameLike_of_isDigit {c : Char} (h : c.isDigit) : isNameLike c := by
  simp [isNameLike, Char.isAlphanum, h]

/-- A text that starts with a digit is one literal, if it is scanned as one in front of what cannot
go on with it. -/
theorem reads_of_scan {l : Literal} (hd : ∃ c s, d = c :: s ∧ c.isDigit) (hq : Ordinary d)
    (h : ∀ rest, Ends rest → Numeral.scan (d ++ rest) = some (l, rest)) : Reads d [.literal l] := by
  obtain ⟨c, s, rfl, hc⟩ := hd
  have hlike := of_nameLike (nameLike_of_isDigit hc)
  refine ⟨⟨c, s, rfl, hlike.1⟩, hq, by simp, fun fuel rest st hr hrest => ?_⟩
  have hfirst : Lexeme.first? (c :: (s ++ rest)) = some (.literal l, rest) := by
    have hscan := h rest hr
    have hquote := quotation?_eq_none (hq.append hrest)
    rw [List.cons_append] at hscan hquote
    rw [Lexeme.first?, hquote]
    simp only [hc, Bool.true_or, if_true, hscan, Option.map_some]
  exact scanFrom_add hlike.2.1 hfirst nofun

theorem IsLiteral.reads (h : IsLiteral d) : Reads d [.literal (.int (literalValue d))] := by
  have hne : d ≠ [] := by
    obtain ⟨c, s, rfl, -⟩ := h.digit
    exact List.cons_ne_nil c s
  exact reads_of_scan h.digit (ordinary_of_nameLike h.nameLike)
    fun rest hr => Numeral.scan_append h.scan hne hr

/-- The decimal digits of an integer are a literal, if they are not too many. -/
theorem isLiteral_toDigits {v : Int} (h : Number.fitsDigitLimit v) :
    IsLiteral (Nat.toDigits 10 v.natAbs) ∧ literalValue (Nat.toDigits 10 v.natAbs) = v.natAbs := by
  have hd : ∀ c ∈ Nat.toDigits 10 v.natAbs, c.isDigit :=
    fun c hc => Nat.isDigit_of_mem_toDigits (by decide) (by decide) hc
  have hlt : v.natAbs < Nat.pow 10 Number.digitLimit := of_decide_eq_true h
  have hscan := Numeral.scan_toDigits hlt
  refine ⟨⟨?_, fun c hc => nameLike_of_isDigit (hd c hc), _, hscan⟩, by rw [literalValue, hscan]⟩
  cases hs : Nat.toDigits 10 v.natAbs with
  | nil => exact absurd hs Nat.toDigits_ne_nil
  | cons c s => exact ⟨c, s, rfl, hd c (hs ▸ List.mem_cons_self)⟩

theorem first?_symbol {c : Char} {t : Text} (hc : c ∈ marks) (hq : Ordinary (c :: t))
    (h : Lexeme.symbol? (c :: t) = some (s, rest)) :
    Lexeme.first? (c :: t) = some (.symbol s, rest) := by
  obtain ⟨hn, hd, hp, -⟩ := of_mem_marks hc
  rw [Lexeme.first?, quotation?_eq_none hq]
  simp [hn, hd, hp, h]

theorem addSymbol_operator (hs : s ∈ operators) (st : State) :
    st.addSymbol s = some (st.add (.symbol s)) := by
  simp only [operators, List.mem_cons, List.not_mem_nil, or_false] at hs
  rcases hs with rfl | rfl | rfl | rfl | rfl | rfl | rfl | rfl | rfl | rfl | rfl | rfl | rfl <;> rfl

theorem mem_operators (hs : s ∈ ["+", "-"]) : s ∈ operators :=
  (List.take_sublist 2 operators).subset hs

/-- The first character of an operator. -/
theorem operator_head (hs : s ∈ operators) :
    ∃ c t, s.toList = c :: t ∧ c ∈ marks ∧ Ordinary s.toList := by
  simp only [operators, List.mem_cons, List.not_mem_nil, or_false] at hs
  rcases hs with rfl | rfl | rfl | rfl | rfl | rfl | rfl | rfl | rfl | rfl | rfl | rfl | rfl <;>
    exact ⟨_, _, rfl, by decide, by decide⟩

theorem operator_length (hs : s ∈ operators) : 1 ≤ s.toList.length := by
  obtain ⟨c, t, e, -⟩ := operator_head hs
  simp [e]

/-- An operator is a symbol in front of what cannot go on with it. -/
theorem scanFrom_operator (hs : s ∈ operators) (hr : ∀ c t, rest = c :: t → ¬ Fuses c)
    (hq : Ordinary rest) : scanFrom (fuel + 1) false (s.toList ++ rest) st =
      scanFrom fuel false rest (st.add (.symbol s)) := by
  have hsym := symbol?_append hs hr
  obtain ⟨c, t, e, hc, hq'⟩ := operator_head hs
  have hq' := hq'.append hq
  rw [e, List.cons_append] at hsym hq' ⊢
  rw [scanFrom_addSymbol (of_mem_marks hc).2.2.2 (first?_symbol hc hq' hsym), addSymbol_operator hs]
  rfl

theorem Reads.minus (h : Reads w ls) : Reads ('-' :: w) (.symbol "-" :: ls) where
  head := ⟨'-', w, rfl, by decide⟩
  ordinary := List.forall_mem_cons.2 ⟨by decide, h.ordinary⟩
  length := by simpa using h.length
  scan fuel rest st hr hq := by
    have hop : scanFrom (fuel + ls.length + 1) false ("-".toList ++ (w ++ rest)) st =
        scanFrom (fuel + ls.length) false (w ++ rest) (st.add (.symbol "-")) := by
      refine scanFrom_operator (by decide) (fun c t e => ?_) (h.ordinary.append hq)
      obtain ⟨c', s, rfl, hc⟩ := h.head
      cases e
      exact hc
    have hw := h.scan fuel rest (st.add (.symbol "-")) hr hq
    refine hop.trans (hw.trans ?_)
    simp [State.add]

theorem scanFrom_opening (hq : Ordinary rest) : scanFrom (fuel + 1) false ('(' :: rest) st =
    if 200 ≤ st.brackets.length then none
    else scanFrom fuel false rest
      { st with brackets := '(' :: st.brackets, found := .symbol "(" :: st.found } := by
  have hsym : Lexeme.symbol? ('(' :: rest) = some ("(", rest) := by
    simp [Lexeme.symbol?, Lexeme.symbols, List.isPrefixOf?]
  have hq : Ordinary ('(' :: rest) := List.forall_mem_cons.2 ⟨by decide, hq⟩
  rw [scanFrom_addSymbol (by decide) (first?_symbol (by decide) hq hsym)]
  have hadd : st.addSymbol "(" = if 200 ≤ st.brackets.length then none
      else some { st with brackets := '(' :: st.brackets, found := .symbol "(" :: st.found } := rfl
  rw [hadd]
  split <;> rfl

theorem scanFrom_closing (hq : Ordinary rest) : scanFrom (fuel + 1) false (')' :: rest) st =
    (st.addSymbol ")").bind (scanFrom fuel false rest) := by
  have hsym : Lexeme.symbol? (')' :: rest) = some (")", rest) := by
    simp [Lexeme.symbol?, Lexeme.symbols, List.isPrefixOf?]
  have hq : Ordinary (')' :: rest) := List.forall_mem_cons.2 ⟨by decide, hq⟩
  exact scanFrom_addSymbol (by decide) (first?_symbol (by decide) hq hsym)

/-! ## Arithmetic texts -/

theorem spell_cons (w b : Text) (p : Part) (ps : List (Text × Part)) :
    spell w ((b, p) :: ps) = b ++ (p.text w ++ spell w ps) := List.append_assoc ..

theorem spell_cons_append (w b : Text) (p : Part) (ps : List (Text × Part)) (rest : Text) :
    spell w ((b, p) :: ps) ++ rest = b ++ (p.text w ++ (spell w ps ++ rest)) := by
  rw [spell_cons, List.append_assoc, List.append_assoc]

theorem lexemes_cons (ls : List Lexeme) (b : Text) (p : Part) (ps : List (Text × Part)) :
    lexemes ls ((b, p) :: ps) = p.lexemes ls ++ lexemes ls ps := rfl

theorem Blank.ordinary (h : Blank depth b) : Ordinary b := by
  intro c hc
  rcases h c hc with rfl | rfl | rfl | ⟨rfl, -⟩ <;> decide

/-- A property of blank characters and of the first character behind them holds of the first
character. -/
theorem Blank.head {P : Char → Prop} (h : Blank depth b)
    (hP : P ' ' ∧ P '\t' ∧ P (Char.ofNat 12) ∧ P '\n') (hr : ∀ c t, rest = c :: t → P c) :
    ∀ c t, b ++ rest = c :: t → P c := by
  intro c t e
  cases b with
  | nil => exact hr c t e
  | cons c' b =>
    cases e
    rcases h c List.mem_cons_self with rfl | rfl | rfl | ⟨rfl, -⟩
    exacts [hP.1, hP.2.1, hP.2.2.1, hP.2.2.2]

namespace Infix

theorem ordinary (h : Infix x depth operand ps) (hw : Ordinary w) :
    Ordinary (spell w ps ++ ['\n']) := by
  induction h with
  | nil => exact List.forall_mem_singleton.2 (by decide)
  | hole hb _ ih =>
    rw [spell_cons_append]
    exact hb.ordinary.append (hw.append ih)
  | numeral hb hd _ _ ih =>
    rw [spell_cons_append]
    exact hb.ordinary.append ((ordinary_of_nameLike hd.nameLike).append ih)
  | opening hb _ ih =>
    rw [spell_cons_append]
    exact hb.ordinary.append (Ordinary.append (List.forall_mem_singleton.2 (by decide)) ih)
  | sign hb hs _ ih =>
    rw [spell_cons_append]
    obtain ⟨-, -, -, -, hq⟩ := operator_head (mem_operators hs)
    exact hb.ordinary.append (hq.append ih)
  | closing hb _ ih =>
    rw [spell_cons_append]
    exact hb.ordinary.append (Ordinary.append (List.forall_mem_singleton.2 (by decide)) ih)
  | operator hb hs _ ih =>
    rw [spell_cons_append]
    obtain ⟨-, -, -, -, hq⟩ := operator_head hs
    exact hb.ordinary.append (hq.append ih)

/-- What follows an operand goes on with no name and no number. -/
theorem ends (h : Infix x depth false ps) (w : Text) : Ends (spell w ps ++ ['\n']) := by
  have hmark {c : Char} (hc : c ∈ marks) : isNameLike c = false ∧ c ≠ '.' :=
    ⟨(of_mem_marks hc).1, (of_mem_marks hc).2.2.1⟩
  cases h with
  | nil => exact Numeral.ends_cons (by decide) (by decide) []
  | closing hb _ =>
    rw [spell_cons_append]
    refine hb.head (by decide) fun c t e => ?_
    cases e
    exact hmark (by decide)
  | operator hb hs _ =>
    rw [spell_cons_append]
    obtain ⟨c', t', e', hc, -⟩ := operator_head hs
    refine hb.head (by decide) fun c t e => ?_
    rw [Part.text, e'] at e
    cases e
    exact hmark hc

/-- What follows a sign, an operator or an opening bracket goes on with no symbol. -/
theorem not_fuses (h : Infix x depth true ps) (hw : ∃ c s, w = c :: s ∧ ¬ Fuses c) :
    ∀ c t, spell w ps ++ ['\n'] = c :: t → ¬ Fuses c := by
  cases h with
  | hole hb _ =>
    rw [spell_cons_append]
    refine hb.head (by decide) fun c t e => ?_
    obtain ⟨c', s, rfl, hc⟩ := hw
    cases e
    exact hc
  | numeral hb hd _ _ =>
    rw [spell_cons_append]
    refine hb.head (by decide) fun c t e => ?_
    obtain ⟨c', s, rfl, hc⟩ := hd.digit
    cases e
    exact (of_nameLike (hd.nameLike _ List.mem_cons_self)).1
  | opening hb _ =>
    rw [spell_cons_append]
    refine hb.head (by decide) fun c t e => ?_
    cases e
    decide
  | sign hb hs _ =>
    rw [spell_cons_append]
    refine hb.head (by decide) fun c t e => ?_
    simp only [List.mem_cons, List.not_mem_nil, or_false] at hs
    rcases hs with rfl | rfl <;> cases e <;> decide

end Infix

/-- The parts are scanned from `depth` open brackets on, in at most as many steps as their text has
characters. -/
def Scans (w : Text) (ls : List Lexeme) (depth : Nat) (ps : List (Text × Part)) : Prop :=
  ∃ k, k ≤ (spell w ps).length ∧ ∀ fuel st, st.brackets = List.replicate depth '(' →
    scanFrom (fuel + k) false (spell w ps ++ ['\n']) st =
      (nest depth ps).bind fun d => scanFrom fuel false ['\n']
        { st with brackets := List.replicate d '(', found := (lexemes ls ps).reverse ++ st.found }

/-- A part that is no bracket in front of others. -/
theorem Scans.cons {p : Part} {j : Nat} (hb : Blank depth b) (hj : j ≤ (p.text w).length)
    (hstep : ∀ fuel st, scanFrom (fuel + j) false (p.text w ++ (spell w ps ++ ['\n'])) st =
      scanFrom fuel false (spell w ps ++ ['\n'])
        { st with found := (p.lexemes ls).reverse ++ st.found })
    (hnest : nest depth ((b, p) :: ps) = nest depth ps) (h : Scans w ls depth ps) :
    Scans w ls depth ((b, p) :: ps) := by
  obtain ⟨k, hk, h⟩ := h
  refine ⟨k + j + b.length, ?_, fun fuel st hst => ?_⟩
  · rw [spell_cons, List.length_append, List.length_append]
    omega
  · have hrest := h fuel { st with found := (p.lexemes ls).reverse ++ st.found } hst
    rw [spell_cons_append, ← Nat.add_assoc, ← Nat.add_assoc,
      scanFrom_blank hb (by rw [hst, List.length_replicate]), hstep, hrest, hnest, lexemes_cons]
    simp only [List.reverse_append, List.append_assoc]

theorem Infix.scans (h : Infix x depth operand ps) (hw : Reads w ls) : Scans w ls depth ps := by
  induction h with
  | @nil depth =>
    refine ⟨0, Nat.zero_le _, fun fuel st hst => ?_⟩
    obtain ⟨brackets, indents, found⟩ := st
    cases hst
    rfl
  | hole hb h ih =>
    exact ih.cons hb hw.length
      (fun fuel st => hw.scan fuel _ st (h.ends w) (h.ordinary hw.ordinary)) rfl
  | numeral hb hd _ h ih =>
    exact ih.cons hb hd.reads.length
      (fun fuel st => hd.reads.scan fuel _ st (h.ends w) (h.ordinary hw.ordinary)) rfl
  | sign hb hs h ih =>
    refine ih.cons hb (operator_length (mem_operators hs)) (fun fuel st => ?_) rfl
    exact scanFrom_operator (mem_operators hs) (h.not_fuses hw.head) (h.ordinary hw.ordinary)
  | operator hb hs h ih =>
    refine ih.cons hb (operator_length hs) (fun fuel st => ?_) rfl
    exact scanFrom_operator hs (h.not_fuses hw.head) (h.ordinary hw.ordinary)
  | @opening depth b ps hb h ih =>
    obtain ⟨k, hk, ih⟩ := ih
    refine ⟨k + 1 + b.length, ?_, fun fuel st hst => ?_⟩
    · rw [spell_cons, List.length_append, List.length_append]
      simp only [Part.text, List.length_singleton]
      omega
    · have hlen : st.brackets.length = depth := by rw [hst, List.length_replicate]
      rw [spell_cons_append, ← Nat.add_assoc, ← Nat.add_assoc, scanFrom_blank hb hlen]
      refine (scanFrom_opening (h.ordinary hw.ordinary)).trans ?_
      rw [hlen, nest]
      split
      · rfl
      · rw [ih _ _ (by rw [hst, List.replicate_succ]), lexemes_cons]
        simp [Part.lexemes]
  | @closing depth b ps hb h ih =>
    obtain ⟨k, hk, ih⟩ := ih
    refine ⟨k + 1 + b.length, ?_, fun fuel st hst => ?_⟩
    · rw [spell_cons, List.length_append, List.length_append]
      simp only [Part.text, List.length_singleton]
      omega
    · have hlen : st.brackets.length = depth := by rw [hst, List.length_replicate]
      rw [spell_cons_append, ← Nat.add_assoc, ← Nat.add_assoc, scanFrom_blank hb hlen]
      refine (scanFrom_closing (h.ordinary hw.ordinary)).trans ?_
      obtain ⟨brackets, indents, found⟩ := st
      cases depth with
      | zero => cases hst; rfl
      | succ depth =>
        cases hst
        have hrest := ih fuel ⟨List.replicate depth '(', indents, .symbol ")" :: found⟩ rfl
        refine Eq.trans hrest ?_
        rw [lexemes_cons]
        simp [nest, Part.lexemes]

/-! ## Whole texts -/

theorem unifyLineEnds_eq {s : Text} (h : Ordinary s) : Text.unifyLineEnds s = s := by
  have go (done : Text) : Text.unifyLineEnds.go s done = done.reverse ++ s := by
    induction s generalizing done with
    | nil => simp [Text.unifyLineEnds.go]
    | cons c s ih =>
      obtain ⟨hc, h⟩ := List.forall_mem_cons.1 h
      have hr : c ≠ '\r' := by
        rintro rfl
        exact hc (by decide)
      rw [Text.unifyLineEnds.go.eq_def]
      split
      · next e => cases e
      · next e => cases e; exact absurd rfl hr
      · next e => cases e; exact absurd rfl hr
      · next e => cases e; rw [ih h]; simp
  rw [Text.unifyLineEnds, go, List.reverse_nil, List.nil_append]

/-- A line that starts with no blank is read on from its first character. -/
theorem scanFrom_start {c : Char} {t : Text} (hc : ¬ Skips c) (ht : t ≠ []) :
    scanFrom (fuel + 1) true (c :: t) {} = scanFrom fuel false (c :: t) {} := by
  simp only [Skips, List.mem_cons, List.not_mem_nil, or_false, not_or] at hc
  obtain ⟨h1, h2, h3, h4, h5, h6⟩ := hc
  cases t with
  | nil => exact absurd rfl ht
  | cons d t =>
    have hm : Lexeme.measure 0 0 0 (c :: d :: t) = some (0, 0, c :: d :: t) := by
      simp [Lexeme.measure, h1, h2, h3, h6]
    conv => lhs; unfold scanFrom
    simp only [hm, h4, h5, if_false]
    rfl

theorem scanFrom_end (d : Nat) (found : List Lexeme) : scanFrom (fuel + 2) false ['\n']
    { brackets := List.replicate d '(', found := found } =
      if d = 0 then some (found.reverse ++ [.newline]) else none := by
  cases d with
  | zero => simp [scanFrom, Lexeme.measure, State.add]
  | succ d => simp [scanFrom, List.replicate_succ]

/-- The lexemes of an arithmetic text are those of its parts, if all brackets are closed. -/
theorem Infix.scan {c : Char} {t : Text} (h : Infix x 0 true ps) (hw : Reads w ls)
    (hs : spell w ps = c :: t) (hc : ¬ Skips c) :
    Lexeme.scan (spell w ps) =
      if nest 0 ps = some 0 then some (lexemes ls ps ++ [.newline]) else none := by
  have hord : Ordinary (spell w ps) := (List.forall_mem_append.1 (h.ordinary hw.ordinary)).1
  obtain ⟨k, hk, hscan⟩ := h.scans hw
  obtain ⟨f, hf⟩ : ∃ f, 2 * (spell w ps ++ ['\n']).length + 2 = f + 2 + k + 1 := by
    rw [List.length_append, List.length_singleton]
    exact ⟨2 * (spell w ps).length + 1 - k, by omega⟩
  have hstart : scanFrom (f + 2 + k + 1) true (c :: (t ++ ['\n'])) {} =
      scanFrom (f + 2 + k) false (c :: (t ++ ['\n'])) {} := scanFrom_start hc (by simp)
  rw [← List.cons_append, ← hs] at hstart
  rw [Lexeme.scan, unifyLineEnds_eq hord, hf, hstart, hscan (f + 2) {} rfl]
  cases nest 0 ps with
  | none => rfl
  | some d =>
    rw [Option.bind_some, List.append_nil]
    refine (scanFrom_end d (lexemes ls ps).reverse).trans ?_
    simp only [List.reverse_reverse, Option.some.injEq]

end LSystem.Expr
