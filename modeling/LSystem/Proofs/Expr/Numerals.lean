import Mathlib
import LSystem.Expr.Numeral

/-! # Integer literals

An integer literal is read as it stands whatever follows it, if that cannot go on with it
(`Numeral.scan_append`). The decimal digits of a natural number are read back as that number, up to
the limit of digits (`Numeral.scan_toDigits`). -/

namespace LSystem.Expr.Numeral

variable {base : Nat} {d s rest : Text} {ds : List Nat} {i : Int}

/-- No numeral and no name goes on with this text. -/
def Ends (rest : Text) : Prop := ∀ c s, rest = c :: s → isNameLike c = false ∧ c ≠ '.'

theorem ends_nil : Ends [] := nofun

theorem ends_cons {c : Char} (h : isNameLike c = false) (hc : c ≠ '.') (s : Text) :
    Ends (c :: s) := by
  intro c' s' e
  cases e
  exact ⟨h, hc⟩

theorem Ends.ne {c : Char} (h : Ends (c :: s)) {c' : Char} (hc : isNameLike c') : c ≠ c' := by
  rintro rfl
  rw [(h c s rfl).1] at hc
  cases hc

theorem digitValue?_eq_none {c : Char} (h : isNameLike c = false) :
    Number.digitValue? c = none := by
  simp only [isNameLike, Char.isAlphanum, Char.isAlpha, Bool.or_eq_false_iff] at h
  simp [Number.digitValue?, h.1.1]

theorem Ends.endsBefore (h : Ends rest) : endsBefore rest = true := by
  unfold Numeral.endsBefore
  split <;> first | rfl | skip
  next c s _ _ _ _ _ _ _ _ => simp [(h c s rfl).1]

theorem digits_of_ends (h : Ends rest) : digits base rest ds = some (ds.reverse, rest) := by
  cases rest with
  | nil => rfl
  | cons c s =>
    have hc := (h c s rfl).1
    rw [digits.eq_def]
    simp only [digitValue?_eq_none hc, Option.filter_none]
    rw [if_neg (h.ne (by decide))]

/-- Digits up to the end of a text are read in front of other text as well. -/
theorem digits_append {r : List Nat} (h : digits base s ds = some (r, [])) (hr : Ends rest) :
    digits base (s ++ rest) ds = some (r, rest) := by
  induction s, ds using digits.induct base with
  | case1 ds =>
    cases h
    exact digits_of_ends hr
  | case2 c s ds v hv ih =>
    rw [digits.eq_def] at h
    simp only [hv] at h
    rw [List.cons_append, digits.eq_def]
    simp only [hv]
    exact ih h
  | case3 ds c s v hv hu ih =>
    rw [digits.eq_def] at h
    simp only [hu, hv, if_true] at h
    rw [List.cons_append, List.cons_append, digits.eq_def]
    simp only [hu, hv, if_true]
    exact ih h
  | case4 ds c s hv hu =>
    rw [digits.eq_def] at h
    simp [hu, hv] at h
  | case5 ds hu =>
    rw [digits.eq_def] at h
    simp [hu] at h
  | case6 c s ds hv hc =>
    rw [digits.eq_def] at h
    simp [hv, hc] at h

theorem fraction_append {w : List Nat} (h : fraction s = some (w, [])) (hs : s ≠ [])
    (hr : Ends rest) : fraction (s ++ rest) = some (w, rest) := by
  cases s with
  | nil => exact absurd rfl hs
  | cons c s =>
    rw [fraction] at h
    rw [List.cons_append, fraction]
    split at h
    · next hc =>
      rw [if_pos hc]
      exact digits_append h hr
    · cases h

theorem exponent_of_ends (h : Ends rest) : exponent rest = some (none, rest) := by
  cases rest with
  | nil => rfl
  | cons c s =>
    have he : c ≠ 'e' := h.ne (by decide)
    have hE : c ≠ 'E' := h.ne (by decide)
    simp [exponent, he, hE]

/-- Without an exponent nothing is read. -/
theorem eq_of_exponent {s' : Text} (h : exponent s = some (none, s')) : s' = s := by
  unfold exponent at h
  split at h
  · split at h
    · split at h
      · split at h
        · obtain ⟨_, _, h⟩ := Option.map_eq_some_iff.1 h
          cases h
        · cases h
      · split at h
        · obtain ⟨_, _, h⟩ := Option.map_eq_some_iff.1 h
          cases h
        · cases h
      · split at h
        · obtain ⟨_, _, h⟩ := Option.map_eq_some_iff.1 h
          cases h
        · cases h; rfl
      · cases h; rfl
    · cases h; rfl
  · cases h; rfl

theorem eq_of_finish {s' : Text} {whole : List Nat} {point : Bool} {power : Option Int}
    {value : Unit → Float} (h : scan.finish s whole point power value = some (.int i, s')) :
    s' = s ∧ point = false ∧ power = none ∧ ¬ (whole.head? = some 0 ∧ whole.any (· ≠ 0)) ∧
      whole.length ≤ Number.digitLimit ∧ i = Number.ofDigits 10 whole := by
  unfold scan.finish at h
  split at h
  · cases h
  split at h
  · cases h
  · next hp =>
    split at h
    · cases h
    · next hz =>
      split at h
      · cases h
      · next hl =>
        cases h
        simp only [Bool.or_eq_true, not_or, Bool.not_eq_true, Option.isSome_eq_false_iff,
          Option.isNone_iff_eq_none] at hp
        refine ⟨rfl, hp.1, hp.2, ?_, by omega, rfl⟩
        simpa using hz

theorem finish_of_ends {whole : List Nat} {value : Unit → Float} (hr : Ends rest)
    (hz : ¬ (whole.head? = some 0 ∧ whole.any (· ≠ 0))) (hl : whole.length ≤ Number.digitLimit) :
    scan.finish rest whole false none value =
      some (.int (Number.ofDigits 10 whole), rest) := by
  unfold scan.finish
  rw [hr.endsBefore, if_neg (by simp), if_neg (by simp), if_neg (by simpa using hz),
    if_neg (by omega)]

/-- The digits of a decimal integer: at most as many as can be read, and no zero in front of
others. -/
structure Decimal (whole : List Nat) : Prop where
  zero : ¬ (whole.head? = some 0 ∧ whole.any (· ≠ 0))
  length : whole.length ≤ Number.digitLimit

theorem scan_of_fraction {whole : List Nat} (hp : Number.basePrefix? s = none)
    (hf : fraction s = some (whole, rest)) (hr : Ends rest) (hw : Decimal whole) :
    scan s = some (.int (Number.ofDigits 10 whole), rest) := by
  have he := exponent_of_ends hr
  have hfin (value : Unit → Float) : scan.finish rest whole false none value =
      some (.int (Number.ofDigits 10 whole), rest) := finish_of_ends hr hw.zero hw.length
  unfold scan
  rw [hp]
  simp only [hf, Option.bind_eq_bind, Option.bind_some]
  cases rest with
  | nil => simp only [he, Option.bind_some, hfin]
  | cons c r =>
    have hc : c ≠ '.' := (hr c r rfl).2
    have hj : c ≠ 'j' := hr.ne (by decide)
    have hJ : c ≠ 'J' := hr.ne (by decide)
    split
    · next e => cases e; exact absurd rfl hc
    · simp [he, hfin, hj, hJ]

/-- What is left of a numeral after its power is empty, if it is an integer as a whole. -/
theorem finish_of_tail {whole : List Nat} {point : Bool} {power : Option Int}
    {value : Unit → Float} (h : (match s with
      | c :: rest =>
        if (c = 'j' || c = 'J') = true then
          if endsBefore rest = true then some (.imaginary (value ()), rest) else none
        else scan.finish s whole point power value
      | [] => scan.finish s whole point power value) = some (Literal.int i, [])) :
    scan.finish s whole point power value = some (.int i, []) := by
  split at h
  · split at h
    · split at h <;> cases h
    · exact h
  · exact h

theorem fraction_of_scan (hp : Number.basePrefix? d = none) (h : scan d = some (.int i, [])) :
    ∃ whole, fraction d = some (whole, []) ∧ Decimal whole ∧ i = Number.ofDigits 10 whole := by
  unfold scan at h
  rw [hp] at h
  obtain ⟨⟨whole, s⟩, hf, h⟩ := Option.bind_eq_some_iff.1 h
  dsimp only at h
  split at h
  · obtain ⟨⟨point, part, s'⟩, hs, h⟩ := Option.bind_eq_some_iff.1 h
    obtain ⟨⟨power, s''⟩, he, h⟩ := Option.bind_eq_some_iff.1 h
    obtain ⟨_, _, e⟩ := Option.map_eq_some_iff.1 hs
    cases e
    obtain ⟨-, hpoint, -⟩ := eq_of_finish (finish_of_tail h)
    cases hpoint
  · obtain ⟨⟨point, part, s'⟩, hs, h⟩ := Option.bind_eq_some_iff.1 h
    obtain ⟨⟨power, s''⟩, he, h⟩ := Option.bind_eq_some_iff.1 h
    cases hs
    obtain ⟨rfl, -, rfl, hz, hl, hi⟩ := eq_of_finish (finish_of_tail h)
    obtain rfl := eq_of_exponent he
    exact ⟨whole, hf, ⟨hz, hl⟩, hi⟩

theorem basePrefix?_append (hd : d ≠ []) (hr : Ends rest) :
    Number.basePrefix? (d ++ rest) = (Number.basePrefix? d).map fun p => (p.1, p.2 ++ rest) := by
  match d with
  | [] => exact absurd rfl hd
  | [c] =>
    cases rest with
    | nil => simp [Number.basePrefix?]
    | cons c' s =>
      have h {c : Char} (hc : isNameLike c) : c' ≠ c := hr.ne hc
      by_cases h0 : c = '0'
      · subst h0
        simp [Number.basePrefix?, h (show isNameLike 'x' by decide),
          h (show isNameLike 'X' by decide), h (show isNameLike 'o' by decide),
          h (show isNameLike 'O' by decide), h (show isNameLike 'b' by decide),
          h (show isNameLike 'B' by decide)]
      · simp [Number.basePrefix?, h0]
  | c :: c' :: d =>
    by_cases h0 : c = '0'
    · subst h0
      simp only [List.cons_append, Number.basePrefix?]
      split_ifs <;> rfl
    · simp [Number.basePrefix?, h0]

/-- An integer literal is read as it stands in front of what cannot go on with it. -/
theorem scan_append (h : scan d = some (.int i, [])) (hd : d ≠ []) (hr : Ends rest) :
    scan (d ++ rest) = some (.int i, rest) := by
  have hpr := basePrefix?_append hd hr
  cases hp : Number.basePrefix? d with
  | none =>
    rw [hp] at hpr
    obtain ⟨whole, hf, hw, rfl⟩ := fraction_of_scan hp h
    exact scan_of_fraction hpr (fraction_append hf hd hr) hr hw
  | some p =>
    obtain ⟨base, body⟩ := p
    rw [hp] at hpr
    unfold scan at h ⊢
    rw [hp] at h
    rw [hpr]
    obtain ⟨⟨ds, s⟩, hs, h⟩ := Option.bind_eq_some_iff.1 h
    dsimp only at h
    split at h
    · cases h
    · next hds =>
      cases h
      rw [Bool.or_eq_true, not_or] at hds
      refine Option.bind_eq_some_iff.2 ⟨(ds, rest), ?_, by simp [hds.1, hr.endsBefore]⟩
      cases body with
      | nil => cases hs; exact absurd rfl hds.1
      | cons c b =>
        by_cases hc : c = '_'
        · subst hc
          exact digits_append hs hr
        · rw [List.cons_append]
          split
          · next e => cases e; exact absurd rfl hc
          · split at hs
            · next e => cases e; exact absurd rfl hc
            · exact digits_append (s := c :: b) hs hr

/-! ## Decimal digits -/

theorem digitValue?_of_isDigit {c : Char} (h : c.isDigit) :
    (Number.digitValue? c).filter (· < 10) = some (c.toNat - 48) := by
  have hc : c.toNat ≤ 57 := by
    simp only [Char.isDigit, Bool.and_eq_true, decide_eq_true_eq] at h
    exact h.2
  have hlt : c.toNat - 48 < 10 := by omega
  simp [Number.digitValue?, h, Option.filter, hlt]

/-- Decimal digits do not go on with this text: it starts with a point or an exponent, if not with
what ends a numeral. -/
def Stops (rest : Text) : Prop := ∀ c s, rest = c :: s → c = '.' ∨ c = 'e' ∨ isNameLike c = false

theorem Ends.stops (h : Ends rest) : Stops rest := fun c s e => .inr (.inr (h c s e).1)

theorem Stops.not_digit {c : Char} (h : Stops (c :: s)) :
    c.isDigit = false ∧ c ≠ '_' ∧ (Number.digitValue? c).filter (· < 10) = none ∧
      c ∉ ['x', 'X', 'o', 'O', 'b', 'B'] := by
  obtain rfl | rfl | hc := h c s rfl
  · decide
  · decide
  · have hne {c' : Char} (h' : isNameLike c') : c ≠ c' := by
      rintro rfl
      rw [hc] at h'
      cases h'
    refine ⟨?_, hne (by decide), by rw [digitValue?_eq_none hc]; rfl, ?_⟩
    · rw [Bool.eq_false_iff]
      intro hd
      simp [isNameLike, Char.isAlphanum, hd] at hc
    · simp only [List.mem_cons, List.not_mem_nil, or_false, not_or]
      exact ⟨hne (by decide), hne (by decide), hne (by decide), hne (by decide), hne (by decide),
        hne (by decide)⟩

/-- The values of decimal digits. -/
def values (s : Text) : List Nat := s.map fun c => c.toNat - 48

theorem digits_of_isDigit (h : ∀ c ∈ s, c.isDigit) (hr : Stops rest) :
    digits 10 (s ++ rest) ds = some (ds.reverse ++ values s, rest) := by
  induction s generalizing ds with
  | nil =>
    cases rest with
    | nil => simp [digits, values]
    | cons c t =>
      obtain ⟨-, hu, hv, -⟩ := hr.not_digit
      rw [List.nil_append, digits.eq_def]
      simp [hu, hv, values]
  | cons c s ih =>
    obtain ⟨hc, h⟩ := List.forall_mem_cons.1 h
    rw [List.cons_append, digits.eq_def]
    simp only [digitValue?_of_isDigit hc, ih h]
    simp [values]

theorem fraction_of_isDigit (h : ∀ c ∈ s, c.isDigit) (hr : Stops rest) :
    fraction (s ++ rest) = some (values s, rest) := by
  cases s with
  | nil =>
    cases rest with
    | nil => rfl
    | cons c t =>
      rw [List.nil_append, fraction, hr.not_digit.1]
      rfl
  | cons c s =>
    have hd : digits 10 (c :: s ++ rest) [] = some (values (c :: s), rest) :=
      digits_of_isDigit h hr
    rw [List.cons_append] at hd ⊢
    rw [fraction, if_pos (h c List.mem_cons_self)]
    exact hd

theorem ofDigits_toDigits (n : Nat) :
    Number.ofDigits 10 (values (Nat.toDigits 10 n)) = n := by
  have h := Nat.ofDigitChars_ten_toDigits (n := n)
  rw [Nat.ofDigitChars_eq_foldl] at h
  rw [Number.ofDigits, values, List.foldl_map]
  refine Eq.trans ?_ h
  simp only [Nat.mul_comm 10]
  rfl

/-- Digits without a zero in front are those of a decimal integer. -/
theorem decimal_values (h : ∀ c ∈ s, c.isDigit) (hfirst : s.head? = some '0' → s = ['0'])
    (hlen : s.length ≤ Number.digitLimit) : Decimal (values s) where
  zero := by
    rintro ⟨hhead, hany⟩
    cases s with
    | nil => cases hhead
    | cons c s =>
      have hc : c.toNat - 48 = 0 := Option.some.inj hhead
      have hge := h c List.mem_cons_self
      simp only [Char.isDigit, Bool.and_eq_true, decide_eq_true_eq] at hge
      have hge : 48 ≤ c.toNat := hge.1
      obtain rfl : c = '0' := Char.toNat_inj.1 (show c.toNat = 48 by omega)
      rw [hfirst rfl] at hany
      cases hany
  length := by
    rw [values, List.length_map]
    exact hlen

/-- Only zero is written with a zero in front. -/
theorem eq_zero_of_head? {n : Nat} (h : (Nat.toDigits 10 n).head? = some '0') : n = 0 := by
  induction n using Nat.strongRecOn with
  | ind n ih =>
    rw [Nat.toDigits_eq_if (by decide)] at h
    split at h
    · have h := Option.some.inj h
      exact Nat.digitChar_eq_zero.1 h
    · next hn =>
      have hne : Nat.toDigits 10 (n / 10) ≠ [] := Nat.toDigits_ne_nil
      rw [List.head?_append, List.head?_eq_some_head hne, Option.some_or,
        ← List.head?_eq_some_head hne] at h
      have := ih (n / 10) (by omega) h
      omega

/-- No digit and nothing that digits stop at is a mark of another base. -/
theorem basePrefix?_of_isDigit (h : ∀ c ∈ s, c.isDigit) (hr : Stops rest) :
    Number.basePrefix? (s ++ rest) = none := by
  have hmark (c : Char) (t : Text) (e : s ++ rest = '0' :: c :: t) :
      c ∉ ['x', 'X', 'o', 'O', 'b', 'B'] := by
    have digit {c : Char} (hc : c.isDigit) : c ∉ ['x', 'X', 'o', 'O', 'b', 'B'] := by
      intro hm
      simp only [List.mem_cons, List.not_mem_nil, or_false] at hm
      rcases hm with rfl | rfl | rfl | rfl | rfl | rfl <;> exact absurd hc (by decide)
    match s with
    | [] =>
      rw [List.nil_append] at e
      subst e
      exact absurd hr.not_digit.1 (by decide)
    | [_] =>
      cases e
      exact hr.not_digit.2.2.2
    | _ :: c' :: _ =>
      cases e
      exact digit (h c (by simp))
  unfold Number.basePrefix?
  split
  · next c t e =>
    have hc := hmark c t e
    simp only [List.mem_cons, List.not_mem_nil, or_false, not_or] at hc
    simp [hc]
  · rfl

theorem length_toDigits_le {n k : Nat} (hk : 0 < k) (h : n < Nat.pow 10 k) :
    (Nat.toDigits 10 n).length ≤ k :=
  (Nat.length_toDigits_le_iff (by decide) hk).2 h

/-- The decimal digits of a natural number are read back. -/
theorem scan_toDigits {n : Nat} (h : n < Nat.pow 10 Number.digitLimit) :
    scan (Nat.toDigits 10 n) = some (.int n, []) := by
  have hd : ∀ c ∈ Nat.toDigits 10 n, c.isDigit :=
    fun c hc => Nat.isDigit_of_mem_toDigits (by decide) (by decide) hc
  have hlen := length_toDigits_le (by decide) h
  have hf := fraction_of_isDigit hd ends_nil.stops
  have hp := basePrefix?_of_isDigit hd ends_nil.stops
  have hw : Decimal (values (Nat.toDigits 10 n)) := by
    refine decimal_values hd (fun h0 => ?_) hlen
    obtain rfl := eq_zero_of_head? h0
    rfl
  rw [List.append_nil] at hf hp
  rw [scan_of_fraction hp hf ends_nil hw, ofDigits_toDigits]

end LSystem.Expr.Numeral
