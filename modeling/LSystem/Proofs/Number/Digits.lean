import LSystem.Number.Layout
import LSystem.Proofs.Expr.Numerals

/-! # Significant digits

The first digit of a positive number that is rounded to some digits is not zero
(`Scientific.rounded_significant`), for the scale of the digits is that of the number
(`pow_decimalExponent_le`). A float that is not zero is such a number. -/

namespace LSystem.Number

variable {x : Float} {num den count n : Nat} {scale e : Int}

/-! ## Finite floats -/

/-- Only the zeros have no mantissa. -/
theorem mantissa_pos (h : (x == 0.0) = false) : 0 < (Binary.ofFloat x).mantissa := by
  have hne (bits : UInt64) (hb : (Float.ofBits bits).toBits = bits)
      (hz : (Float.ofBits bits == 0.0) = true) : x.toBits.toNat ≠ bits.toNat := by
    intro hx
    rw [← hb] at hx
    obtain rfl := Float.toBits_inj.1 (UInt64.toNat_inj.1 hx)
    rw [hz] at h
    cases h
  have hplus : x.toBits.toNat ≠ 0 := hne 0 (by decide +kernel) (by decide +kernel)
  have hminus : x.toBits.toNat ≠ 0x8000000000000000 :=
    hne 0x8000000000000000 (by decide +kernel) (by decide +kernel)
  have hlt : x.toBits.toNat < 2 ^ 64 := x.toBits.toNat_lt
  unfold Binary.ofFloat
  generalize x.toBits.toNat = bits at hplus hminus hlt
  simp only [Nat.pow_eq]
  split
  · next hb =>
    simp only
    omega
  · simp only
    omega

open Float.Model (Format UnpackedFloat)

/-- The exponent of what is packed is not that of an infinity, if it is not too great. -/
theorem isInf_pack {s : UnpackedFloat.Sign} {m : Nat} {hm : 0 < m} (he : (e + 1075).toNat < 2047) :
    (Float.Model.pack (.finite s m e hm)).isInf = false := by
  have hpack : UnpackedFloat.unpackExponent
      (UnpackedFloat.pack Format.binary64 (.finite s m e hm)) ≠ -1#11 := by
    have hbias :
        (e + Format.binary64.exponentBias + Format.binary64.mantissaBitsWithoutImplicit).toNat =
          (e + 1075).toNat := congrArg Int.toNat (Int.add_assoc e 1023 52)
    unfold UnpackedFloat.pack
    simp only [hbias]
    rw [if_neg (by omega)]
    split
    · rw [UnpackedFloat.unpackExponent_packComponents, ne_eq, ← BitVec.toNat_inj]
      simp only [BitVec.toNat_ofNat, BitVec.toNat_neg]
      omega
    · rw [UnpackedFloat.unpackExponent_packComponents]
      decide
  have hinf (bits : BitVec Format.binary64.numBits)
      (h : UnpackedFloat.unpackExponent bits ≠ -1#11) :
      (UnpackedFloat.unpack Format.binary64 bits).isInf = false := by
    unfold UnpackedFloat.unpack
    simp only [h, if_false]
    split
    · split <;> rfl
    · rfl
  exact hinf _ hpack

theorem exponent_of_unpack {bits : BitVec Format.binary64.numBits} {s : UnpackedFloat.Sign}
    {m : Nat} {hm : 0 < m} (h : UnpackedFloat.unpack Format.binary64 bits = .finite s m e hm) :
    (e + 1075).toNat < 2047 := by
  unfold UnpackedFloat.unpack at h
  dsimp only at h
  split at h
  · split at h <;> cases h
  · next hne =>
    have hlt : (@UnpackedFloat.unpackExponent Format.binary64 bits).toNat < 2048 := BitVec.isLt _
    have hmax : (@UnpackedFloat.unpackExponent Format.binary64 bits).toNat ≠ 2047 :=
      fun h => hne (BitVec.eq_of_toNat_eq h)
    have hbias : Format.binary64.exponentBias = 1023 := rfl
    split at h
    · next hz =>
      split at h
      · cases h
      · cases h
        rw [hz, hbias]
        decide
    · cases h
      rw [hbias]
      omega

theorem isInf_abs (h : x.isInf = false) : x.abs.isInf = false := by
  obtain ⟨f⟩ := x
  change f.unpack.isInf = false at h
  change (Float.Model.pack f.unpack.abs).isInf = false
  cases hu : f.unpack with
  | infinity s =>
    rw [hu] at h
    cases h
  | notANumber => decide +kernel
  | zero s =>
    have hzero : (Float.Model.pack (.zero .positive)).isInf = false := by decide +kernel
    exact hzero
  | finite s m e hm => exact isInf_pack (exponent_of_unpack hu)

/-- What is no finite number is not zero, and is infinite or undefined. -/
theorem not_finite (h : x.isNaN = true ∨ x.isInf = true) :
    (x == 0.0) = false ∧ x.abs.isInf = x.isInf ∧ x.isNaN = !x.isInf := by
  obtain ⟨f⟩ := x
  change f.unpack.isNaN = true ∨ f.unpack.isInf = true at h
  change f.unpack.beq (0.0 : Float).toModel.unpack = false ∧
    (Float.Model.pack f.unpack.abs).isInf = f.unpack.isInf ∧ f.unpack.isNaN = !f.unpack.isInf
  cases hu : f.unpack with
  | infinity s => cases s <;> decide +kernel
  | notANumber => decide +kernel
  | zero | finite =>
    rw [hu] at h
    obtain h | h := h <;> cases h

/-! ## Powers of ten -/

/-- The comparison of a power of ten with a quotient, as it is made in natural numbers. -/
theorem scaled_le_iff (e : Int) : den * Nat.pow 10 e.toNat ≤ num * Nat.pow 10 (-e).toNat ↔
    (10 : ℚ) ^ e * den ≤ num := by
  rw [← Nat.cast_le (α := ℚ)]
  simp only [Nat.pow_eq]
  obtain ⟨k, rfl | rfl⟩ := e.eq_nat_or_neg
  · simp [mul_comm]
  · have hk : (0 : ℚ) < 10 ^ k := by positivity
    rw [zpow_neg, zpow_natCast, inv_mul_le_iff₀ hk]
    simp [mul_comm]

theorem length_toDigits_pos (n : Nat) : 0 < (Nat.toDigits 10 n).length :=
  List.length_pos_iff.2 Nat.toDigits_ne_nil

theorem lt_pow_length_toDigits (n : Nat) : n < 10 ^ (Nat.toDigits 10 n).length :=
  (Nat.length_toDigits_le_iff (by decide) (length_toDigits_pos n)).1 (Nat.le_refl _)

theorem pow_length_toDigits_le (hn : 0 < n) : 10 ^ ((Nat.toDigits 10 n).length - 1) ≤ n := by
  have hlen := length_toDigits_pos n
  rcases Nat.eq_zero_or_pos ((Nat.toDigits 10 n).length - 1) with h | h
  · rw [h]
    exact hn
  · refine Nat.le_of_not_lt fun hlt => ?_
    have := (Nat.length_toDigits_le_iff (by decide) h).2 hlt
    omega

/-- The decimal exponent of a quotient: the power of ten is not greater. -/
theorem pow_decimalExponent_le (hn : 0 < num) : (10 : ℚ) ^ decimalExponent num den * den ≤ num := by
  unfold decimalExponent
  extract_lets e
  split
  · next h => exact (scaled_le_iff e).1 h
  · -- One less than the difference of the lengths: the numbers are as far apart as their digits.
    have hden : (den : ℚ) ≤ 10 ^ (Nat.toDigits 10 den).length := by
      exact_mod_cast (lt_pow_length_toDigits den).le
    have hnum : (10 : ℚ) ^ ((Nat.toDigits 10 num).length - 1) ≤ num := by
      exact_mod_cast pow_length_toDigits_le hn
    have hlen := length_toDigits_pos num
    calc (10 : ℚ) ^ (e - 1) * den
        ≤ 10 ^ (e - 1) * 10 ^ (Nat.toDigits 10 den).length := by gcongr
      _ = 10 ^ ((Nat.toDigits 10 num).length - 1) := by
        rw [← zpow_natCast, ← zpow_natCast, ← zpow_add₀ (by norm_num)]
        congr 1
        omega
      _ ≤ num := hnum

/-! ## Digits -/

namespace Scientific

/-- There are digits, and the first one is not zero. -/
structure Significant (s : Scientific) : Prop where
  digit : ∀ c ∈ s.digits, c.isDigit
  first : ∃ d rest, s.digits = d :: rest ∧ d ≠ '0'

theorem ofScaled_significant (hn : 0 < n) (scale : Int) : (ofScaled n scale).Significant := by
  have hdigit : ∀ c ∈ Nat.toDigits 10 n, c.isDigit :=
    fun c hc => Nat.isDigit_of_mem_toDigits (by decide) (by decide) hc
  have hfirst : (Nat.toDigits 10 n).head? ≠ some '0' :=
    fun h => hn.ne' (Expr.Numeral.eq_zero_of_head? h)
  have hstart : (ofScaled n scale).digits <+: Nat.toDigits 10 n := List.rdropWhile_prefix _ _
  refine ⟨fun c hc => hdigit c (hstart.subset hc), ?_⟩
  obtain ⟨zeros, hzeros⟩ := hstart
  cases hd : (ofScaled n scale).digits with
  | nil =>
    -- Then all digits are zeros.
    have hall := List.rdropWhile_eq_nil_iff.1 hd
    rw [List.head?_eq_some_head Nat.toDigits_ne_nil] at hfirst
    have hzero := hall _ (List.head_mem (Nat.toDigits_ne_nil (n := n) (b := 10)))
    exact absurd (congrArg some (of_decide_eq_true hzero)) hfirst
  | cons d rest =>
    refine ⟨d, rest, rfl, ?_⟩
    rintro rfl
    rw [← hzeros, hd] at hfirst
    exact hfirst rfl

end Scientific

theorem one_le_roundHalfEven (hden : 0 < den) (h : den ≤ num) : 1 ≤ roundHalfEven num den := by
  have hq : 1 ≤ (num : Int).fdiv den := by
    rw [Int.fdiv_eq_ediv_of_nonneg _ (Int.natCast_nonneg den)]
    exact (Int.le_ediv_iff_mul_le (by omega)).2 (by omega)
  unfold roundHalfEven
  extract_lets q twice
  split_ifs <;> omega

/-- The digits of a number that is rounded start with those of the number, for they start at its
decimal exponent. -/
theorem Scientific.rounded_significant (hcount : 0 < count) (hnum : 0 < num) (hden : 0 < den) :
    (rounded count num den).Significant := by
  have hscale : decimalExponent num den - count + 1 ≤ decimalExponent num den := by omega
  unfold rounded
  extract_lets scale num' den'
  have hle : den' ≤ num' := by
    refine (scaled_le_iff scale).2 ?_
    calc (10 : ℚ) ^ scale * den
        ≤ 10 ^ decimalExponent num den * den := by gcongr; norm_num
      _ ≤ num := pow_decimalExponent_le hnum
  have hpos : 0 < den' := Nat.mul_pos hden (Nat.pow_pos (by decide))
  have hround := one_le_roundHalfEven hpos hle
  exact ofScaled_significant (by omega) scale

end LSystem.Number
