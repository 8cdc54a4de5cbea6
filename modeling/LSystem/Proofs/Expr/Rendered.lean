import LSystem.Proofs.Expr.Decimals
import LSystem.Proofs.Number.Digits

/-! # Numbers that are read back

A float is written into commands as the text of a number, which is a decimal integer or has a point
or an exponent (`numberText_writeFloat`), and such a text is one literal (`NumberText.scan`). So a
finite number is read back as a number by every evaluator (`Evaluator.rendered_reads_back`). An
infinite or undefined float is written as a word. This is read as a name, which means nothing. -/

namespace LSystem.Expr

namespace Numeral

variable {s rest : Text}

/-! ## Numerals with a point or an exponent -/

/-- A point with digits, if there are any. -/
def pointText : Option Text → Text
  | none => []
  | some s => '.' :: s

/-- An exponent with a sign, if there is one. -/
def powerText : Option (Bool × Text) → Text
  | none => []
  | some (negative, s) => 'e' :: (if negative then '-' else '+') :: s

def powerValue (p : Bool × Text) : Int :=
  if p.1 then -(Number.ofDigits 10 (values p.2)) else Number.ofDigits 10 (values p.2)

/-- A decimal number with a point or an exponent: the digits in front of the point, those behind it,
and the sign and the digits of the exponent. -/
structure RealNumeral where
  whole : Text
  part : Option Text
  power : Option (Bool × Text)
  whole_digit : ∀ c ∈ whole, c.isDigit
  part_digit : ∀ s ∈ part, ∀ c ∈ s, c.isDigit
  power_digit : ∀ p ∈ power, p.2 ≠ [] ∧ ∀ c ∈ p.2, c.isDigit
  real : part.isSome ∨ power.isSome

theorem stops_powerText (power : Option (Bool × Text)) (hr : Ends rest) :
    Stops (powerText power ++ rest) := by
  cases power with
  | none => exact hr.stops
  | some p =>
    intro c s e
    cases e
    exact .inr (.inl rfl)

theorem stops_pointText (part : Option Text) (hr : Stops rest) :
    Stops (pointText part ++ rest) := by
  cases part with
  | none => exact hr
  | some s =>
    intro c s e
    cases e
    exact .inl rfl

namespace RealNumeral

variable (r : RealNumeral)

def text : Text := r.whole ++ (pointText r.part ++ powerText r.power)

/-- The nearest float. -/
def value : Float :=
  Number.ofDecimal (Number.ofDigits 10 (values r.whole ++ values (r.part.getD [])))
    ((r.power.map powerValue).getD 0 - (values (r.part.getD [])).length)

theorem exponent_power (hr : Ends rest) :
    exponent (powerText r.power ++ rest) = some (r.power.map powerValue, rest) := by
  cases hp : r.power with
  | none => exact exponent_of_ends hr
  | some p =>
    obtain ⟨negative, s⟩ := p
    obtain ⟨hne, hd⟩ := r.power_digit _ hp
    have hs : digits 10 (s ++ rest) [] = some (values s, rest) := digits_of_isDigit hd hr.stops
    cases s with
    | nil => exact absurd rfl hne
    | cons d s =>
      rw [List.cons_append] at hs
      have hc := hd d List.mem_cons_self
      cases negative <;> simp [powerText, exponent, hc, hs, powerValue]

/-- What is left of a numeral with a point or an exponent, when these are read. -/
theorem finish_of_ends {whole : List Nat} {point : Bool} {power : Option Int} {x : Float}
    (hr : Ends rest) (h : point ∨ power.isSome) :
    (match rest with
    | c :: s =>
      if c = 'j' || c = 'J' then if endsBefore s then some (.imaginary x, s) else none
      else scan.finish rest whole point power fun _ => x
    | [] => scan.finish rest whole point power fun _ => x) = some (.float x, rest) := by
  have hfinish : scan.finish rest whole point power (fun _ => x) = some (.float x, rest) := by
    rw [scan.finish, hr.endsBefore, if_neg (by simp), if_pos (by simpa using h)]
  split
  · next c s =>
    have hj : c ≠ 'j' := hr.ne (by decide)
    have hJ : c ≠ 'J' := hr.ne (by decide)
    rw [if_neg (by simp [hj, hJ]), hfinish]
  · exact hfinish

/-- The numeral is read as its float in front of what cannot go on with it. -/
theorem scan (hr : Ends rest) : scan (r.text ++ rest) = some (.float r.value, rest) := by
  have hstops := stops_pointText r.part (stops_powerText r.power hr)
  have hbase := basePrefix?_of_isDigit r.whole_digit hstops
  have hwhole := fraction_of_isDigit r.whole_digit hstops
  have hpower := r.exponent_power hr
  have hreal := r.real
  rw [text, List.append_assoc, List.append_assoc, value]
  unfold Numeral.scan
  rw [hbase]
  simp only [hwhole, Option.bind_eq_bind, Option.bind_some]
  cases hp : r.part with
  | none =>
    have hne (c : Char) (s : Text) (e : powerText r.power ++ rest = c :: s) : c ≠ '.' := by
      cases hq : r.power with
      | none =>
        rw [hq] at e
        exact (hr c s e).2
      | some p =>
        rw [hq] at e
        cases e
        decide
    simp only [pointText, List.nil_append]
    split
    · next e => exact absurd rfl (hne _ _ e)
    · simp only [hpower, Option.bind_some]
      refine finish_of_ends hr ?_
      simpa [hp] using hreal
  | some s =>
    have hs := fraction_of_isDigit (r.part_digit s hp) (stops_powerText r.power hr)
    simp only [pointText, List.cons_append, hs, Option.map_some, Option.bind_some, hpower]
    exact finish_of_ends hr (.inl rfl)

end RealNumeral

/-! ## Texts of numbers without sign -/

/-- The text of a number without sign, and the literal that it is read as. -/
inductive NumberText : Text → Literal → Prop where
  | integer {s : Text} : s ≠ [] → (∀ c ∈ s, c.isDigit) → Decimal (values s) →
    NumberText s (.int (Number.ofDigits 10 (values s)))
  | real (r : RealNumeral) : r.whole ≠ [] → NumberText r.text (.float r.value)

namespace NumberText

variable {l : Literal}

theorem scan (h : NumberText s l) (hr : Ends rest) : Numeral.scan (s ++ rest) = some (l, rest) := by
  cases h with
  | integer _ hd hw =>
    exact scan_of_fraction (basePrefix?_of_isDigit hd hr.stops)
      (fraction_of_isDigit hd hr.stops) hr hw
  | real r => exact r.scan hr

theorem head (h : NumberText s l) : ∃ c t, s = c :: t ∧ c.isDigit := by
  have first {s t : Text} (hne : s ≠ []) (hd : ∀ c ∈ s, c.isDigit) :
      ∃ c u, s ++ t = c :: u ∧ c.isDigit := by
    cases s with
    | nil => exact absurd rfl hne
    | cons c s => exact ⟨c, s ++ t, rfl, hd c List.mem_cons_self⟩
  cases h with
  | integer hne hd => simpa using first (t := []) hne hd
  | real r hne => exact first hne r.whole_digit

theorem numberChar (h : NumberText s l) : ∀ c ∈ s, NumberChar c := by
  cases h with
  | integer _ hd => exact fun c hc => .inl (hd c hc)
  | real r =>
    refine List.forall_mem_append.2 ⟨fun c hc => .inl (r.whole_digit c hc),
      List.forall_mem_append.2 ⟨?_, ?_⟩⟩
    · cases hp : r.part with
      | none => exact nofun
      | some s =>
        exact List.forall_mem_cons.2 ⟨.inr (by simp), fun c hc => .inl (r.part_digit s hp c hc)⟩
    · cases hp : r.power with
      | none => exact nofun
      | some p =>
        obtain ⟨negative, s⟩ := p
        refine List.forall_mem_cons.2 ⟨.inr (by simp), List.forall_mem_cons.2 ⟨.inr ?_,
          fun c hc => .inl ((r.power_digit _ hp).2 c hc)⟩⟩
        cases negative <;> simp

theorem solid (h : NumberText s l) : Solid s := by
  have hchar := h.numberChar
  obtain ⟨c, t, rfl, -⟩ := h.head
  exact solid_of_numberChar (List.cons_ne_nil c t) hchar

end NumberText

end Numeral

open Numeral (NumberText)

section
variable {s : Text} {l : Literal}

theorem reads_number (h : NumberText s l) : Reads s [.literal l] :=
  reads_of_scan h.head (fun c hc => (h.numberChar c hc).plain.2.2) fun _ hr => h.scan hr

/-- The second text is the first one, or has a minus sign in front of it. -/
def Signed (s t : Text) : Prop := t = s ∨ t = '-' :: s

theorem signed_ite (negative : Bool) (s : Text) : Signed s (if negative then '-' :: s else s) := by
  cases negative with
  | false => exact .inl rfl
  | true => exact .inr rfl

/-! ## How numbers are laid out -/

open Number (Layout Scientific)

theorem isDigit_zeros {n : Nat} : ∀ c ∈ List.replicate n '0', c.isDigit := by
  intro c hc
  obtain rfl := List.eq_of_mem_replicate hc
  decide

/-- The digits of an exponent. -/
theorem exponentText_eq (e : Int) : ∃ s : Text, s ≠ [] ∧ (∀ c ∈ s, c.isDigit) ∧
    Layout.exponentText e = Numeral.powerText (some (decide (e < 0), s)) := by
  refine ⟨List.replicate (2 - (Nat.toDigits 10 e.natAbs).length) '0' ++ Nat.toDigits 10 e.natAbs,
    List.append_ne_nil_of_right_ne_nil _ Nat.toDigits_ne_nil, ?_, ?_⟩
  · exact List.forall_mem_append.2 ⟨isDigit_zeros,
      fun c hc => Nat.isDigit_of_mem_toDigits (by decide) (by decide) hc⟩
  · simp [Layout.exponentText, Numeral.powerText]

/-- The digits in front of the point when there are `n` of them, of which some may be left out. -/
def padded (n : Nat) (digits : Text) : Text :=
  digits.take n ++ List.replicate (n - digits.length) '0'

theorem padded_digits {n : Nat} {d : Char} {rest : Text} (hn : 0 < n)
    (hdigit : ∀ c ∈ d :: rest, c.isDigit) :
    (∃ t, padded n (d :: rest) = d :: t) ∧ (∀ c ∈ padded n (d :: rest), c.isDigit) ∧
      (padded n (d :: rest)).length = n := by
  refine ⟨?_, List.forall_mem_append.2
    ⟨fun c hc => hdigit c (List.mem_of_mem_take hc), isDigit_zeros⟩, ?_⟩
  · obtain ⟨n, rfl⟩ := Nat.exists_eq_succ_of_ne_zero hn.ne'
    exact ⟨_, rfl⟩
  · rw [padded, List.length_append, List.length_take, List.length_replicate]
    omega

theorem exists_numberText (r : Numeral.RealNumeral) (hne : r.whole ≠ []) (e : s = r.text) :
    ∃ l, NumberText s l := by
  rw [e]
  exact ⟨_, .real r hne⟩

/-- Digits as they stand, with a point behind `n` of them where there are more or where one is
always shown. -/
theorem numberText_padded {n : Nat} {d : Char} {rest : Text} {showsPoint : Bool} (hn : 0 < n)
    (hlimit : n ≤ Number.digitLimit) (hdigit : ∀ c ∈ d :: rest, c.isDigit) (hd0 : d ≠ '0') :
    ∃ l, NumberText (padded n (d :: rest) ++
      (if ((d :: rest).drop n).isEmpty then if showsPoint then ['.', '0'] else []
        else '.' :: (d :: rest).drop n)) l := by
  obtain ⟨⟨t, ht⟩, hpad, hlen⟩ := padded_digits hn hdigit
  have hne : padded n (d :: rest) ≠ [] := ht ▸ List.cons_ne_nil d t
  have point {s : Text} (hs : ∀ c ∈ s, c.isDigit) :
      ∃ l, NumberText (padded n (d :: rest) ++ '.' :: s) l := by
    refine exists_numberText ⟨_, some s, none, hpad, ?_, nofun, .inl rfl⟩ hne ?_
    · rintro s' ⟨⟩
      exact hs
    · simp [Numeral.RealNumeral.text, Numeral.pointText, Numeral.powerText]
  split
  · split
    · exact point (List.forall_mem_singleton.2 (by decide))
    · rw [List.append_nil]
      refine ⟨_, .integer hne hpad (Numeral.decimal_values hpad (fun h0 => ?_) ?_)⟩
      · rw [ht] at h0
        exact absurd (Option.some.inj h0) hd0
      · exact hlen.trans_le hlimit
  · exact point fun c hc => hdigit c (List.mem_of_mem_drop hc)

/-- One digit in front of the point, and an exponent. -/
theorem numberText_power {d : Char} {rest : Text} (hdigit : ∀ c ∈ d :: rest, c.isDigit) (e : Int) :
    ∃ l, NumberText (match d :: rest with
      | [d] => d :: Layout.exponentText e
      | d :: rest => d :: '.' :: (rest ++ Layout.exponentText e)
      | [] => []) l := by
  obtain ⟨hd, hrest⟩ := List.forall_mem_cons.1 hdigit
  obtain ⟨s, hne, hs, he⟩ := exponentText_eq e
  have hpower : ∀ p ∈ some (decide (e < 0), s), p.2 ≠ [] ∧ ∀ c ∈ p.2, c.isDigit := by
    rintro p ⟨⟩
    exact ⟨hne, hs⟩
  rw [he]
  cases rest with
  | nil =>
    exact exists_numberText ⟨[d], none, some (decide (e < 0), s), hdigit, nofun, hpower, .inr rfl⟩
      (List.cons_ne_nil _ _) rfl
  | cons d' rest =>
    refine exists_numberText ⟨[d], some (d' :: rest), some (decide (e < 0), s),
      List.forall_mem_singleton.2 hd, ?_, hpower, .inl rfl⟩ (List.cons_ne_nil _ _) rfl
    rintro s ⟨⟩
    exact hrest

/-- Significant digits are laid out as the text of a number. -/
theorem numberText_write {layout : Layout} {sci : Scientific}
    (hl : layout.limit ≤ Number.digitLimit) (h : sci.Significant) :
    ∃ l, NumberText (layout.write sci) l := by
  obtain ⟨d, rest, hdigits, hd0⟩ := h.first
  have hdigit := h.digit
  rw [hdigits] at hdigit
  unfold Layout.write
  rw [hdigits]
  split
  · next hwithin =>
    rw [Bool.and_eq_true, decide_eq_true_eq, decide_eq_true_eq] at hwithin
    split
    · have hzero : ∀ c ∈ ['0'], c.isDigit := List.forall_mem_singleton.2 (by decide)
      refine exists_numberText
        ⟨['0'], some (List.replicate (-sci.exponent - 1).toNat '0' ++ d :: rest), none, hzero, ?_,
          nofun, .inl rfl⟩ (List.cons_ne_nil _ _) ?_
      · rintro s ⟨⟩
        exact List.forall_mem_append.2 ⟨isDigit_zeros, hdigit⟩
      · simp [Numeral.RealNumeral.text, Numeral.pointText, Numeral.powerText]
    · exact numberText_padded (Nat.succ_pos _) (by omega) hdigit hd0
  · exact numberText_power hdigit sci.exponent

/-! ## Reading -/

/-- A number in the narrower sense: an integer or a float. -/
def Value.IsNumber : Value → Prop
  | .int _ => True
  | .float _ => True
  | _ => False

/-- A number that is neither infinite nor undefined. -/
def Value.IsFinite : Value → Prop
  | .int _ => True
  | .float x => x.isNaN = false ∧ x.isInf = false
  | _ => False

theorem Solid.minus (h : Solid s) : Solid ('-' :: s) where
  first := ⟨'-', s, rfl, by decide, by decide⟩
  last := by
    obtain ⟨t, c, rfl, hc⟩ := h.last
    exact ⟨'-' :: t, c, rfl, hc⟩

theorem Solid.signed {t : Text} (h : Solid s) (ht : Signed s t) : Solid t := by
  obtain rfl | rfl := ht
  exacts [h, h.minus]

theorem takes_minus (h : Encoding.utf8.Takes s) : Encoding.utf8.Takes ('-' :: s) :=
  List.forall_mem_cons.2 ⟨rfl, h⟩

theorem Solid.trim_ne_nil (h : Solid s) : Text.trim s ≠ [] := by
  rw [h.trim]
  obtain ⟨c, t, rfl, -⟩ := h.first
  exact List.cons_ne_nil c t

/-- A text whose lexemes are read as one expression has the value of this expression. -/
theorem run_of_reads {sc : Scope} {w : Text} {ls : List Lexeme} {e : Term} (hw : Reads w ls)
    (hs : Solid w) (ht : Encoding.utf8.Takes w) (hsc : Text.trim sc.source = w)
    (hread : ∀ fuel, Program.readAll (fuel + 80) [] (ls ++ [.newline]) = some [.expression e]) :
    sc.run = eval sc e := by
  have hps : Infix ['x'] 0 true [([], .hole)] := .hole nofun .nil
  have hnest : nest 0 [([], .hole)] = some 0 := rfl
  have hparse : Program.parse w = some [.expression e] := by
    rw [← spell_hole w] at hs ⊢
    rw [hps.parse hw hs, line_map, if_pos hnest, Nat.mul_add]
    simpa [lexemes, Part.lexemes] using hread _
  have hnull : Char.ofNat 0 ∉ w := fun hc => hw.ordinary _ hc (by decide)
  rw [Scope.run, hsc]
  simp only [Encoding.fault?_eq_none_iff.2 ht, if_neg hnull, hparse]
  rfl

theorem readAll_number (h : NumberText s l) (fuel : Nat) :
    Program.readAll (fuel + 80) [] [.literal l, .newline] = some [.expression (.literal l)] ∧
      Program.readAll (fuel + 80) [] [.symbol "-", .literal l, .newline] =
        some [.expression (.unary .minus (.literal l))] := by
  cases h with
  | @integer s _ _ _ =>
    generalize (Number.ofDigits 10 (Numeral.values s) : Int) = i
    constructor <;> cbv
  | real r =>
    generalize r.value = x
    constructor <;> cbv

theorem value_number (h : NumberText s l) : ∃ v w, l.value = .ok v ∧ v.IsNumber ∧
    Value.unary .minus v = .ok w ∧ w.IsNumber := by
  cases h with
  | integer => exact ⟨.int _, .int _, rfl, trivial, rfl, trivial⟩
  | real r => exact ⟨.float _, .float _, rfl, trivial, rfl, trivial⟩

/-- The text of a number is read back, with a sign and without, whatever names and functions there
are. -/
theorem run_number {sc : Scope} (h : NumberText s l) (hsc : Signed s (Text.trim sc.source)) :
    ∃ v, sc.run = .ok v ∧ v.IsNumber := by
  have hreads := reads_number h
  have hsolid := h.solid
  have ht := takes_of_numberChar h.numberChar
  obtain ⟨v, w, hv, hnumber, hw, hminus⟩ := value_number h
  obtain hsc | hsc := hsc
  · refine ⟨v, ?_, hnumber⟩
    rw [run_of_reads hreads hsolid ht hsc fun fuel => (readAll_number h fuel).1, eval, hv]
  · refine ⟨w, ?_, hminus⟩
    rw [run_of_reads hreads.minus hsolid.minus (takes_minus ht) hsc
      fun fuel => (readAll_number h fuel).2, eval, eval, bind_of_ok hv, hw]

/-- The words for floats that are not finite. -/
def notFinite : List String := ["nan", "inf"]

theorem isName_word {word : String} (h : word ∈ notFinite) : IsName word.toList := by
  simp only [notFinite, List.mem_cons, List.not_mem_nil, or_false] at h
  obtain rfl | rfl := h
  · exact ⟨⟨'n', _, rfl, by decide⟩, List.all_eq_true.1 (by decide), by decide +kernel⟩
  · exact ⟨⟨'i', _, rfl, by decide⟩, List.all_eq_true.1 (by decide), by decide +kernel⟩

theorem takes_word {word : String} (h : word ∈ notFinite) : Encoding.utf8.Takes word.toList := by
  simp only [notFinite, List.mem_cons, List.not_mem_nil, or_false] at h
  obtain rfl | rfl := h <;> exact List.all_eq_true.1 (by decide)

theorem readAll_word {word : String} (h : word ∈ notFinite) (fuel : Nat) :
    Program.readAll (fuel + 80) [] [.word word, .newline] = some [.expression (.name word)] ∧
      Program.readAll (fuel + 80) [] [.symbol "-", .word word, .newline] =
        some [.expression (.unary .minus (.name word))] := by
  simp only [notFinite, List.mem_cons, List.not_mem_nil, or_false] at h
  obtain rfl | rfl := h
  · constructor <;> cbv
  · constructor <;> cbv

/-- These words are names. -/
theorem run_word {sc : Scope} {word : String} {failure : Failure} (h : word ∈ notFinite)
    (hsc : Signed word.toList (Text.trim sc.source)) (hl : sc.lookup word = .error failure) :
    sc.run = .error failure := by
  have hname := isName_word h
  have hreads := hname.reads
  rw [String.ofList_toList] at hreads
  have ht := takes_word h
  obtain hsc | hsc := hsc
  · rw [run_of_reads hreads hname.solid ht hsc fun fuel => (readAll_word h fuel).1, eval, hl]
  · rw [run_of_reads hreads.minus hname.solid.minus (takes_minus ht) hsc
      fun fuel => (readAll_word h fuel).2, eval, eval, bind_of_error hl]

/-! ## Floats in commands -/

variable {x : Float}

theorem numberText_zero (showsPoint : Bool) :
    ∃ l, NumberText (if showsPoint then ['0', '.', '0'] else ['0']) l := by
  have hzero : ∀ c ∈ ['0'], c.isDigit := List.forall_mem_singleton.2 (by decide)
  cases showsPoint with
  | false =>
    exact ⟨_, .integer (List.cons_ne_nil _ _) hzero
      (Numeral.decimal_values hzero (fun _ => rfl) (by decide))⟩
  | true =>
    refine exists_numberText ⟨['0'], some ['0'], none, hzero, ?_, nofun, .inl rfl⟩
      (List.cons_ne_nil _ _) rfl
    rintro s ⟨⟩
    exact hzero

/-- A finite float has the text of a number, after a sign if it is negative. -/
theorem numberText_writeFloat {layout : Layout} {digits : Float → Scientific}
    (hl : layout.limit ≤ Number.digitLimit)
    (hd : ∀ y : Float, (y == 0.0) = false → (digits y).Significant)
    (hn : x.isNaN = false) (hi : x.isInf = false) :
    ∃ s l, NumberText s l ∧ Signed s (layout.writeFloat digits x) := by
  rw [Layout.writeFloat, hn, if_neg Bool.false_ne_true]
  extract_lets negative y body
  have hbody : ∃ l, NumberText body l := by
    simp only [body, y, Number.isInf_abs hi, Bool.false_eq_true, if_false]
    split
    · exact numberText_zero _
    · next hy => exact numberText_write hl (hd _ (Bool.eq_false_iff.2 hy))
  obtain ⟨l, hl⟩ := hbody
  exact ⟨body, l, hl, signed_ite negative body⟩

theorem commandText_finite (hn : x.isNaN = false) (hi : x.isInf = false) :
    ∃ s l, NumberText s l ∧ Signed s (Number.commandText x) := by
  refine numberText_writeFloat (by decide) (fun y hy => ?_) ?_ ?_
  · have hmantissa := Number.mantissa_pos hy
    exact Scientific.rounded_significant (by decide)
      (Nat.mul_pos hmantissa (Nat.pow_pos (by decide))) (Nat.pow_pos (by decide))
  · split
    · decide +kernel
    · exact hn
  · split
    · decide +kernel
    · exact hi

theorem commandText_not_finite (h : x.isNaN = true ∨ x.isInf = true) :
    ∃ word ∈ notFinite, Signed word.toList (Number.commandText x) := by
  obtain ⟨hz, ha, hn⟩ := Number.not_finite h
  rw [Number.commandText, hz, if_neg Bool.false_ne_true, Layout.writeFloat, hn]
  extract_lets negative y b body
  have hbody : y.isInf = true → body = ['i', 'n', 'f'] := fun hy => if_pos hy
  clear_value body
  cases hx : x.isInf with
  | false => exact ⟨"nan", .head _, .inl rfl⟩
  | true =>
    refine ⟨"inf", .tail _ (.head _), ?_⟩
    rw [hbody (ha.trans hx)]
    exact signed_ite negative _

end

end LSystem.Expr

namespace LSystem.Evaluator

open LSystem.Expr (Value)
open LSystem.Expr.Numeral (NumberText)

/-- Every evaluator reads the text of a number as a number. -/
theorem evaluate_numberText (ev : Evaluator) {s t : Text} {l : Expr.Literal} (h : NumberText s l)
    (ht : Expr.Signed s t) : ∃ v, ev.evaluate t = .ok v ∧ v.IsNumber := by
  have hsolid := h.solid.signed ht
  have hsource : Expr.Signed s (Text.trim (ev.scope t).source) := by rwa [scope, hsolid.trim]
  obtain ⟨v, hrun, hv⟩ := Expr.run_number h hsource
  exact ⟨v, evaluate_eq_ok_iff.2 ⟨hsolid.trim_ne_nil, hrun⟩, hv⟩

/-- The words for what is not finite mean nothing, unless the caller gives them a meaning. -/
theorem evaluate_word {ev : Evaluator} {word : String} {t : Text} (h : word ∈ Expr.notFinite)
    (ht : Expr.Signed word.toList t) (hn : word ∉ ev.names.map Prod.fst)
    (hf : word ∉ ev.functions.map Prod.fst) :
    ev.evaluate t = .error (.evaluation t (.unknownName word t)) := by
  have hsolid := (Expr.isName_word h).solid.signed ht
  have hfind {α : Type} {l : List (String × α)} (hl : word ∉ l.map Prod.fst) :
      l.find? (fun (n, _) => n = word) = none := by
    refine List.find?_eq_none.2 fun p hp => ?_
    simpa using fun e : p.1 = word => hl (e ▸ List.mem_map_of_mem hp)
  have hstandard : ∀ w ∈ Expr.notFinite, w ∉ standardNames.map Prod.fst ∧
      w ∉ (Expr.Function.standard (ev.draw t)).map Prod.fst := by
    simp [Expr.notFinite, standardNames, Expr.Function.standard]
  have hnames : word ∉ (ev.scope t).names.map Prod.fst := by
    rw [scope, List.map_append, List.mem_append, not_or]
    exact ⟨hn, (hstandard word h).1⟩
  have hfunctions : word ∉ (ev.scope t).functions.map Prod.fst := by
    rw [scope, List.map_append, List.mem_append, not_or]
    exact ⟨hf, (hstandard word h).2⟩
  have hlookup : (ev.scope t).lookup word = .error (.unknownName word t) := by
    rw [Expr.Scope.lookup, hfind hnames, Expr.Scope.function?, hfind hfunctions]
    rfl
  have hrun := Expr.run_word h (by rwa [scope, hsolid.trim]) hlookup
  rw [evaluate, if_neg hsolid.trim_ne_nil, hrun]

/-- A count is taken from a finite number. -/
theorem finite_of_count {ev : Evaluator} {source : Text} {n : Nat} (h : ev.count source = .ok n) :
    ∃ v, ev.evaluate source = .ok v ∧ v.IsNumber ∧ v.IsFinite := by
  obtain ⟨v, hv, h⟩ := bind_eq_ok_iff.1 h
  refine ⟨v, hv, ?_⟩
  cases v with
  | int i => exact ⟨trivial, trivial⟩
  | float x =>
    simp only at h
    split at h
    · cases h
    · next hnan =>
      split at h
      · cases h
      · next hinf => exact ⟨trivial, Bool.eq_false_iff.2 hnan, Bool.eq_false_iff.2 hinf⟩
  | _ =>
    obtain ⟨_, _, h⟩ := bind_eq_ok_iff.1 h
    cases h

/-- Unlike the writing of arguments, counting refuses what is not finite. -/
theorem not_finite_of_count {ev : Evaluator} {source : Text} {undefined : Bool}
    (h : ev.count source = .error (.notFinite source undefined)) :
    ∃ v, ev.evaluate source = .ok v ∧ v.IsNumber ∧ ¬ v.IsFinite := by
  obtain h | ⟨v, hv, h⟩ := bind_eq_error_iff.1 h
  · unfold evaluate at h
    split at h
    · cases h
    · split at h <;> cases h
  refine ⟨v, hv, ?_⟩
  cases v with
  | int i => cases h
  | float x =>
    refine ⟨trivial, fun hfinite => ?_⟩
    simp only [hfinite.1, hfinite.2, Bool.false_eq_true, if_false] at h
    cases h
  | _ =>
    obtain h | ⟨_, _, h⟩ := bind_eq_error_iff.1 h
    · unfold written at h
      split at h <;> cases h
    · cases h

/-- **Finite numbers are read back.** What an integer or a finite float is written as has a number
for its value in every evaluator, and an integer itself. An infinite or undefined float is written
as a word that means nothing, unless the caller gives it a meaning. -/
theorem rendered_reads_back {ev : Evaluator} {source s : Text} {v : Value}
    (hv : ev.evaluate source = .ok v) (hn : v.IsNumber) (hs : ev.render source = .ok s) :
    (v.IsFinite → ∀ ev' : Evaluator, ∃ w, ev'.evaluate s = .ok w ∧ w.IsNumber ∧
      ∀ i, v = .int i → w = v) ∧
    (¬ v.IsFinite → ∃ word ∈ ["nan", "inf"], ∀ ev' : Evaluator,
      word ∉ ev'.names.map Prod.fst → word ∉ ev'.functions.map Prod.fst →
      ev'.evaluate s = .error (.evaluation s (.unknownName word s))) := by
  rw [render_of_evaluate hv] at hs
  cases v with
  | int i =>
    obtain ⟨hfits, rfl⟩ := (render_eq_ok_iff hv).1 (by rwa [render_of_evaluate hv])
    exact ⟨fun _ ev' => ⟨.int i, ev'.evaluate_intText hfits, trivial, fun _ _ => rfl⟩,
      fun h => absurd trivial h⟩
  | float x =>
    obtain rfl : Number.commandText x = s := Except.ok.inj hs
    constructor
    · rintro ⟨hnan, hinf⟩ ev'
      obtain ⟨t, l, hl, ht⟩ := Expr.commandText_finite hnan hinf
      obtain ⟨w, hw, hnumber⟩ := ev'.evaluate_numberText hl ht
      exact ⟨w, hw, hnumber, nofun⟩
    · intro h
      have hx : x.isNaN = true ∨ x.isInf = true := by
        simp only [Value.IsFinite, not_and, Bool.not_eq_false] at h
        cases hx : x.isNaN with
        | true => exact .inl rfl
        | false => exact .inr (h hx)
      obtain ⟨word, hword, ht⟩ := Expr.commandText_not_finite hx
      exact ⟨word, hword, fun ev' => evaluate_word hword ht⟩
  | _ => cases hn

/-- A quotient that is written with an exponent, and a difference that is undefined. -/
theorem rendered_reads_back_quotient :
    let ev : Evaluator := {}
    ev.render "-1 / 4000000".toList = .ok "-2.5e-07".toList ∧
      (∃ w, ev.evaluate "-2.5e-07".toList = .ok w ∧ w.IsNumber) ∧
      ev.render "1e+999 - 1e+999".toList = .ok "nan".toList ∧
      ∀ w, ev.evaluate "nan".toList ≠ .ok w := by
  intro ev
  have hs : ev.render "-1 / 4000000".toList = .ok "-2.5e-07".toList := by decide +kernel
  have ht : ev.render "1e+999 - 1e+999".toList = .ok "nan".toList := by decide +kernel
  obtain ⟨v, hv, hn, hfinite⟩ :=
    finite_of_count (by decide +kernel : ev.count "-1 / 4000000".toList = .ok 0)
  obtain ⟨w, hw, hnumber, -⟩ := (rendered_reads_back hv hn hs).1 hfinite ev
  obtain ⟨u, hu, hn, hfinite⟩ := not_finite_of_count
    (by decide +kernel : ev.count "1e+999 - 1e+999".toList =
      .error (.notFinite "1e+999 - 1e+999".toList true))
  obtain ⟨word, -, h⟩ := (rendered_reads_back hu hn ht).2 hfinite
  refine ⟨hs, ⟨w, hw, hnumber⟩, ht, fun w hw => ?_⟩
  rw [h ev nofun nofun] at hw
  cases hw

/-- An infinite float is written as a word that is not read back. -/
theorem rendered_infinity_unread : ∃ v s, ({} : Evaluator).evaluate "1e999".toList = .ok v ∧
    v.IsNumber ∧ ({} : Evaluator).render "1e999".toList = .ok s ∧
    ∀ w, ({} : Evaluator).evaluate s ≠ .ok w := by
  obtain ⟨v, hv, hn, -⟩ := not_finite_of_count (by decide +kernel :
    ({} : Evaluator).count "1e999".toList = .error (.notFinite "1e999".toList false))
  refine ⟨v, "inf".toList, hv, hn, by decide +kernel, fun w hw => ?_⟩
  have hword : "inf" ∈ Expr.notFinite := by decide
  rw [evaluate_word hword (.inl rfl) List.not_mem_nil List.not_mem_nil] at hw
  cases hw

end LSystem.Evaluator
