import Mathlib
import Vitae.Color

/-! # Large binary fractions

A whole number that a binary fraction reaches is still reached when the fraction is rounded, as long
as the number has a mantissa's bits. So products and quotients of large fractions are large as well,
whatever is lost of them on the way, and those too large for any exponent are infinite. -/

namespace Vitae.Binary

open Float.Model Float.Model.UnpackedFloat

/-- Of that sign and at least `v` in size, with a mantissa of full length. -/
def IsLarge (s : Sign) (v : Nat) : UnpackedFloat → Prop
  | .infinity s' => s' = s
  | .finite s' m e _ => s' = s ∧ 2 ^ 52 ≤ m ∧ m < 2 ^ 53 ∧ (v : ℚ) ≤ m * 2 ^ e
  | .zero _ => False
  | .notANumber => False

/-! ## Rounding -/

/-- What a quotient reaches, it reaches without its fraction. -/
theorem le_floor {v a b : Nat} {e : Int} (hv : v < 2 ^ 53) (hb : 0 < b) (hq : 2 ^ 52 ≤ a / b)
    (h : (v : ℚ) ≤ a / b * 2 ^ e) : (v : ℚ) ≤ (a / b : Nat) * 2 ^ e := by
  rcases lt_or_ge 0 e with he | he
  · have hpow : (2 : ℚ) ^ (1 : Int) ≤ 2 ^ e := zpow_le_zpow_right₀ one_le_two he
    have hq' : (2 ^ 52 : ℚ) ≤ (a / b : Nat) := by exact_mod_cast hq
    have hv' : (v : ℚ) ≤ 2 ^ 53 := by exact_mod_cast hv.le
    calc (v : ℚ)
      _ ≤ 2 ^ 52 * 2 ^ (1 : Int) := by norm_num at hv' ⊢; exact hv'
      _ ≤ (a / b : Nat) * 2 ^ e := mul_le_mul hq' hpow (by positivity) (by positivity)
  · obtain ⟨k, rfl⟩ : ∃ k : Nat, e = -k := ⟨(-e).toNat, by omega⟩
    have hb' : (0 : ℚ) < b := by exact_mod_cast hb
    rw [zpow_neg, zpow_natCast, ← div_eq_mul_inv, le_div_iff₀ (by positivity)] at h ⊢
    rw [le_div_iff₀ hb'] at h
    have hnat : v * 2 ^ k * b ≤ a := by exact_mod_cast h
    exact_mod_cast (Nat.le_div_iff_mul_le hb).mpr hnat

theorem mantissa_shiftRight (em : ExtendedMantissa) (k : Nat) :
    (em >>> k).mantissa = em.mantissa / 2 ^ k := by
  induction k with
  | zero => exact (Nat.div_one _).symm
  | succ k ih =>
    have hstep : (em >>> (k + 1)).mantissa = (em >>> k).mantissa / 2 := rfl
    rw [hstep, ih, Nat.div_div_eq_div_mul, Nat.pow_succ]

theorem mantissa_ofMantissaAndAccuracy (m : Nat) (a : Accuracy) :
    (ExtendedMantissa.ofMantissaAndAccuracy m a).mantissa = m := by
  rcases a with _ | (_ | _ | _) <;> rfl

theorem roundedMantissa_cases (em : ExtendedMantissa) :
    em.roundedMantissa = em.mantissa ∨ em.roundedMantissa = em.mantissa + 1 := by
  obtain ⟨m, r, s⟩ := em
  have hmod : m % 2 = 0 ∨ m % 2 = 1 := by omega
  cases r <;> cases s <;>
    simp [ExtendedMantissa.roundedMantissa, ExtendedMantissa.accuracy,
      Accuracy.roundToNearestEven, hmod]

theorem targetExponent_binary64 (t : Int) :
    Format.binary64.targetExponent t = max (t - 53) (-1074) := rfl

theorem targetExponent_eq (m : Nat) (e : Int) :
    Format.binary64.targetExponent (totalExponent m e) = max (m.log2 + e - 52) (-1074) := by
  rw [targetExponent_binary64, totalExponent]
  omega

theorem log2_eq {m : Nat} {j : Nat} (hlow : 2 ^ (52 + j) ≤ m) (hhigh : m < 2 ^ (53 + j)) :
    m.log2 = 52 + j := by
  have hne : m ≠ 0 := (Nat.two_pow_pos _).trans_le hlow |>.ne'
  have := (Nat.le_log2 hne).mpr hlow
  have := (Nat.log2_lt hne).mpr hhigh
  omega

/-- The bits beyond a mantissa's length are cut off. -/
theorem shiftToTargetExponent_eq {m j : Nat} {e : Int} (a : Accuracy) (hlow : 2 ^ (52 + j) ≤ m)
    (hhigh : m < 2 ^ (53 + j)) (he : -1074 ≤ e + j) :
    (shiftToTargetExponent .binary64 m e a).1.mantissa = m / 2 ^ j ∧
      (shiftToTargetExponent .binary64 m e a).2 = e + j := by
  have hshift : (Format.binary64.targetExponent (totalExponent m e) - e).toNat = j := by
    rw [targetExponent_eq, log2_eq hlow hhigh]
    omega
  simp only [shiftToTargetExponent, shiftToExponent, hshift, mantissa_shiftRight,
    mantissa_ofMantissaAndAccuracy, true_and]

theorem exponent_gt {v m k : Nat} {e : Int} (hv : 0 < v) (hm : m < 2 ^ k)
    (h : (v : ℚ) ≤ m * 2 ^ e) : 0 < k + e := by
  by_contra hle
  have hone : (1 : ℚ) ≤ v := by exact_mod_cast hv
  have hsize : (m : ℚ) < 2 ^ k := by exact_mod_cast hm
  have hlast : (2 : ℚ) ^ k * 2 ^ e ≤ 1 := by
    rw [← zpow_natCast, ← zpow_add₀ two_ne_zero]
    exact zpow_le_one_of_nonpos₀ one_le_two (not_lt.mp hle)
  have := mul_lt_mul_of_pos_right hsize (by positivity : (0 : ℚ) < 2 ^ e)
  linarith

/-- A rounded mantissa that has become too long is that of the next power of two. -/
theorem shiftToTargetExponent_rounded {m : Nat} {e : Int} (hlow : 2 ^ 52 ≤ m) (hhigh : m ≤ 2 ^ 53)
    (he : -1074 ≤ e) :
    let shifted := shiftToTargetExponent .binary64 m e .exact
    2 ^ 52 ≤ shifted.1.mantissa ∧ shifted.1.mantissa < 2 ^ 53 ∧
      (m : ℚ) * 2 ^ e = shifted.1.mantissa * 2 ^ shifted.2 := by
  intro shifted
  rcases Nat.lt_or_eq_of_le hhigh with hlt | rfl
  · obtain ⟨hm, he'⟩ := shiftToTargetExponent_eq (j := 0) (e := e) .exact hlow hlt (by omega)
    rw [hm, he', Nat.pow_zero, Nat.div_one, Int.natCast_zero, Int.add_zero]
    exact ⟨hlow, hlt, rfl⟩
  · obtain ⟨hm, he'⟩ :=
      shiftToTargetExponent_eq (j := 1) (e := e) .exact (Nat.le_refl (2 ^ 53)) (by decide)
        (by omega)
    rw [hm, he']
    refine ⟨by decide, by decide, ?_⟩
    rw [zpow_add₀ two_ne_zero]
    norm_num
    ring

theorem isLarge_round {s : Sign} {v m : Nat} {e : Int} (a : Accuracy) (hv : 0 < v)
    (hv' : v < 2 ^ 53) (hm : 2 ^ 52 ≤ m) (h : (v : ℚ) ≤ m * 2 ^ e) :
    IsLarge s v (roundWithAccuracy .binary64 s m e a) := by
  have hne : m ≠ 0 := (Nat.two_pow_pos 52).trans_le hm |>.ne'
  have hlog := (Nat.le_log2 hne).mpr hm
  obtain ⟨j, hj⟩ : ∃ j, m.log2 = 52 + j := ⟨m.log2 - 52, by omega⟩
  have hlow : 2 ^ (52 + j) ≤ m := (Nat.le_log2 hne).mp hj.ge
  have hhigh : m < 2 ^ (53 + j) := (Nat.log2_lt hne).mp (by omega)
  have he := exponent_gt hv hhigh h
  obtain ⟨hq, he'⟩ := shiftToTargetExponent_eq (e := e) a hlow hhigh (by omega)
  have hqlow : 2 ^ 52 ≤ m / 2 ^ j :=
    (Nat.le_div_iff_mul_le (Nat.two_pow_pos j)).mpr (by rwa [← Nat.pow_add])
  have hqhigh : m / 2 ^ j < 2 ^ 53 :=
    (Nat.div_lt_iff_lt_mul (Nat.two_pow_pos j)).mpr (by rwa [← Nat.pow_add])
  have hreach : (v : ℚ) ≤ (m / 2 ^ j : Nat) * 2 ^ (e + j) := by
    refine le_floor hv' (Nat.two_pow_pos j) hqlow (h.trans_eq ?_)
    rw [zpow_add₀ two_ne_zero, zpow_natCast, Nat.cast_pow, Nat.cast_ofNat]
    field_simp
  unfold roundWithAccuracy
  rcases hs : shiftToTargetExponent .binary64 m e a with ⟨em, e₁⟩
  rw [hs] at hq he'
  dsimp only at hq he' ⊢
  rw [← hq, ← he'] at hreach
  have hr := roundedMantissa_cases em
  obtain ⟨hmlow, hmhigh, hvalue⟩ :=
    shiftToTargetExponent_rounded (m := em.roundedMantissa) (e := e₁) (by omega) (by omega)
      (by omega)
  have hpos : (shiftToTargetExponent .binary64 em.roundedMantissa e₁ .exact).1.mantissa ≠ 0 := by
    omega
  rw [dif_neg hpos]
  refine ⟨rfl, hmlow, hmhigh, hvalue ▸ hreach.trans ?_⟩
  have hle : (em.mantissa : ℚ) ≤ em.roundedMantissa := by
    exact_mod_cast (by omega : em.mantissa ≤ em.roundedMantissa)
  exact mul_le_mul_of_nonneg_right hle (by positivity)

/-! ## Storing -/

theorem toNat_implicit_append (m : BitVec 52) : (1#1 ++ m).toNat = 2 ^ 52 + m.toNat := by
  rw [BitVec.toNat_append, ← Nat.shiftLeft_add_eq_or_of_lt m.isLt]
  rfl

theorem unpack_packedInfinity (s : Sign) :
    UnpackedFloat.unpack .binary64 (packedInfinity .binary64 s) = .infinity s := by
  unfold UnpackedFloat.unpack packedInfinity
  simp only [unpackMantissa_packComponents, unpackExponent_packComponents,
    unpackSign_packComponents, Sign.ofBitVec_toBitVec, if_true]
  rfl

/-- Only the least and the greatest of the stored exponents are not those of a full mantissa. -/
theorem isLarge_unpack_packComponents (s : Sign) {v : Nat} {e : BitVec 11} {m : BitVec 52}
    (hmax : e ≠ -1#_) (hmin : e ≠ 0#_)
    (h : (v : ℚ) ≤ (2 ^ 52 + m.toNat : Nat) * 2 ^ (e.toNat - 1075 : Int)) :
    IsLarge s v (UnpackedFloat.unpack .binary64 (packComponents .binary64 s e m)) := by
  unfold UnpackedFloat.unpack
  simp only [unpackMantissa_packComponents, unpackExponent_packComponents,
    unpackSign_packComponents, Sign.ofBitVec_toBitVec, if_neg hmax, if_neg hmin]
  rw [← toNat_implicit_append] at h
  have hlt := m.isLt
  refine ⟨rfl, ?_, ?_, h⟩
  · rw [toNat_implicit_append]
    omega
  · rw [toNat_implicit_append]
    omega

theorem isLarge_unpack_pack {s : Sign} {v : Nat} {x : UnpackedFloat} (hv : 0 < v)
    (h : IsLarge s v x) : IsLarge s v (Float.Model.pack x).unpack := by
  change IsLarge s v (UnpackedFloat.unpack .binary64 (UnpackedFloat.pack .binary64 x))
  cases x with
  | zero | notANumber => exact h.elim
  | infinity s' =>
    obtain rfl : s' = s := h
    exact (unpack_packedInfinity s').symm ▸ rfl
  | finite s' m e hm =>
    obtain ⟨rfl, hlow, hhigh, hreach⟩ := h
    have he := exponent_gt hv hhigh hreach
    have hlog : m.log2 = 52 := log2_eq (j := 0) hlow hhigh
    obtain ⟨b, hb⟩ : ∃ b : Nat, e = b - 1075 := ⟨(e + 1075).toNat, by omega⟩
    have hbiased : (e + Format.binary64.exponentBias +
        Format.binary64.mantissaBitsWithoutImplicit).toNat = b := by
      have hbias : Format.binary64.exponentBias = 1023 := rfl
      have hbits : Format.binary64.mantissaBitsWithoutImplicit = 52 := rfl
      rw [hbias, hbits]
      omega
    unfold UnpackedFloat.pack
    simp only [hbiased]
    split
    · rw [unpack_packedInfinity]
      rfl
    · rename_i hfits
      rw [if_pos (by rw [hlog]; rfl)]
      have hexponent : (BitVec.ofNat 11 b).toNat = b :=
        (BitVec.toNat_ofNat b 11).trans (Nat.mod_eq_of_lt (by omega))
      have hmantissa : 2 ^ 52 + (BitVec.ofNat 52 m).toNat = m := by
        rw [BitVec.toNat_ofNat]
        omega
      refine isLarge_unpack_packComponents s' (e := .ofNat 11 b) (m := .ofNat 52 m) ?_ ?_ ?_
      · intro hmax
        have := congrArg BitVec.toNat hmax
        rw [hexponent] at this
        change b = 2047 at this
        omega
      · intro hmin
        have := congrArg BitVec.toNat hmin
        rw [hexponent] at this
        change b = 0 at this
        omega
      · rwa [hexponent, hmantissa, ← hb]

/-! ## Arithmetic -/

theorem IsLarge.neg {s : Sign} {v : Nat} {x : UnpackedFloat} (h : IsLarge s v x) :
    IsLarge (-s) v x.neg := by
  cases x with
  | zero | notANumber => exact h.elim
  | infinity s' => exact congrArg _ h
  | finite s' m e hm => exact ⟨congrArg _ h.1, h.2⟩

theorem IsLarge.abs {s : Sign} {v : Nat} {x : UnpackedFloat} (h : IsLarge s v x) :
    IsLarge .positive v x.abs := by
  cases x with
  | zero | notANumber => exact h.elim
  | infinity s' => exact rfl
  | finite s' m e hm => exact ⟨rfl, h.2⟩

theorem IsLarge.mul {s : Sign} {v w n : Nat} {x : UnpackedFloat} {e : Int} {hn : 0 < n}
    (h : IsLarge s v x) (hw : (w : ℚ) ≤ n * 2 ^ e) (hpos : 0 < v * w) (hlt : v * w < 2 ^ 53) :
    IsLarge s (v * w) (UnpackedFloat.mul .binary64 x (.finite .positive n e hn)) := by
  have hsign : s * .positive = s := by cases s <;> rfl
  cases x with
  | zero | notANumber => exact h.elim
  | infinity s' =>
    obtain rfl : s' = s := h
    exact hsign
  | finite s' m d hm =>
    obtain ⟨rfl, hlow, -, hreach⟩ := h
    rw [UnpackedFloat.mul, hsign]
    refine isLarge_round .exact hpos hlt (hlow.trans (Nat.le_mul_of_pos_right _ hn)) ?_
    rw [Nat.cast_mul, Nat.cast_mul, zpow_add₀ two_ne_zero, mul_mul_mul_comm]
    exact mul_le_mul hreach hw (by positivity) (by positivity)

/-- Of two mantissas of full length, the first is lengthened to twice that for the quotient. -/
theorem divCore_eq {m n : Nat} {d e : Int} (hm : 2 ^ 52 ≤ m) (hm' : m < 2 ^ 53) (hn : 2 ^ 52 ≤ n)
    (hn' : n < 2 ^ 53) (he : -52 ≤ d - e) :
    (divCore .binary64 m d n e).1 = m * 2 ^ 53 / n ∧
      (divCore .binary64 m d n e).2.1 = d - e - 53 := by
  have hmlog : m.log2 = 52 := log2_eq (j := 0) hm hm'
  have hnlog : n.log2 = 52 := log2_eq (j := 0) hn hn'
  have htarget : min (d - e)
      (Format.binary64.targetExponent (totalExponent m d - totalExponent n e)) = d - e - 53 := by
    rw [targetExponent_binary64, totalExponent, totalExponent, hmlog, hnlog]
    omega
  have hshift : (d - e - (d - e - 53)).toNat = 53 := by omega
  unfold divCore
  simp only [htarget, hshift, Nat.shiftLeft_eq, and_self]

theorem IsLarge.div {s : Sign} {v w n : Nat} {x : UnpackedFloat} {e : Int} {hpos : 0 < n}
    (h : IsLarge s v x) (hlow : 2 ^ 52 ≤ n) (hhigh : n < 2 ^ 53) (hw : 0 < w) (hlt : w < 2 ^ 53)
    (hle : w * (n * 2 ^ e : ℚ) ≤ v) :
    IsLarge s w (UnpackedFloat.div .binary64 x (.finite .positive n e hpos)) := by
  have hsign : s / .positive = s := by cases s <;> rfl
  cases x with
  | zero | notANumber => exact h.elim
  | infinity s' =>
    obtain rfl : s' = s := h
    exact hsign
  | finite s' m d hm =>
    obtain ⟨rfl, hmlow, hmhigh, hreach⟩ := h
    have hprod : ((w * n : Nat) : ℚ) ≤ m * 2 ^ (d - e) := by
      rw [Nat.cast_mul, zpow_sub₀ two_ne_zero, ← mul_div_assoc, le_div_iff₀ (by positivity),
        mul_assoc]
      exact hle.trans hreach
    have hexp := exponent_gt (Nat.mul_pos hw hpos) hmhigh hprod
    obtain ⟨hquot, hquote⟩ := divCore_eq (d := d) (e := e) hmlow hmhigh hlow hhigh (by omega)
    have hquotlow : 2 ^ 52 ≤ m * 2 ^ 53 / n :=
      (Nat.le_div_iff_mul_le hpos).mpr (Nat.mul_le_mul hmlow hhigh.le)
    have hn : (0 : ℚ) < n := by exact_mod_cast hpos
    have hquotient : (w : ℚ) ≤ (m * 2 ^ 53 : Nat) / n * 2 ^ (d - e - 53) := by
      rw [Nat.cast_mul, ← le_div_iff₀ hn] at hprod
      refine hprod.trans_eq ?_
      rw [zpow_sub₀ two_ne_zero (d - e), Nat.cast_mul, Nat.cast_pow, Nat.cast_ofNat]
      field_simp
    have hfloor := le_floor hlt hpos hquotlow hquotient
    rw [← hquot] at hquotlow hfloor
    rw [← hquote] at hfloor
    rw [UnpackedFloat.div, hsign]
    exact isLarge_round _ hw hlt hquotlow hfloor

theorem isLarge_round_nat {v n : Nat} (hv : 0 < v) (hv' : v < 2 ^ 53) (hn : v ≤ n) :
    IsLarge .positive v (UnpackedFloat.round .binary64 .positive n 0) := by
  have hne : n ≠ 0 := (hv.trans_le hn).ne'
  have hshift : (0 - Format.binary64.targetExponent (totalExponent n 0)).toNat = 52 - n.log2 := by
    rw [targetExponent_eq]
    omega
  unfold UnpackedFloat.round decreaseExponent
  simp only [hshift, Nat.shiftLeft_eq]
  refine isLarge_round .exact hv hv' ?_ ?_
  · calc 2 ^ 52
      _ ≤ 2 ^ (n.log2 + (52 - n.log2)) := Nat.pow_le_pow_right (by decide) (by omega)
      _ = 2 ^ n.log2 * 2 ^ (52 - n.log2) := Nat.pow_add ..
      _ ≤ n * 2 ^ (52 - n.log2) := Nat.mul_le_mul_right _ (Nat.log2_self_le hne)
  · rw [zero_sub, zpow_neg, zpow_natCast, Nat.cast_mul, Nat.cast_pow, Nat.cast_ofNat,
      mul_inv_cancel_right₀ (by positivity)]
    exact_mod_cast hn

theorem isLarge_ofScientific {v n : Nat} (hv : 0 < v) (hv' : v < 2 ^ 53) (hn : v ≤ n) :
    IsLarge .positive v (UnpackedFloat.ofScientific .binary64 n 0) := by
  have hexponent : Format.binary64.exponentBits = 11 := rfl
  have hlong : Format.binary64.mantissaBits = 53 := rfl
  unfold UnpackedFloat.ofScientific
  rw [dif_neg (hv.trans_le hn).ne', if_neg (by decide), if_neg (by rw [hexponent]; omega),
    if_pos (by decide), UnpackedFloat.mul, hlong, Nat.shiftLeft_eq]
  simp only [Int.toNat_zero, Nat.pow_zero, Nat.mul_one, Int.add_zero]
  refine isLarge_round .exact hv hv' (by omega) ?_
  rw [zpow_neg, Nat.cast_mul, Nat.cast_pow, Nat.cast_ofNat, ← zpow_natCast,
    mul_inv_cancel_right₀ (by positivity)]
  exact_mod_cast hn

theorem le_roundToInt {v m : Nat} {e : Int} (h : (v : ℚ) ≤ m * 2 ^ e) :
    (v : Int) ≤ roundToInt .positive m e := by
  unfold roundToInt decreaseExponent shiftToExponent
  simp only [mantissa_shiftRight, mantissa_ofMantissaAndAccuracy, Sign.apply, Nat.shiftLeft_eq]
  rw [Int.ofNat_le, Nat.le_div_iff_mul_le (Nat.two_pow_pos _)]
  rcases le_or_gt 0 e with he | he
  · obtain ⟨k, rfl⟩ := Int.eq_ofNat_of_zero_le he
    have hk : ((k : Int) - 0).toNat = k := by omega
    rw [zpow_natCast] at h
    rw [hk, Int.sub_self, Int.sub_self, Int.toNat_zero, Nat.pow_zero, Nat.mul_one]
    exact_mod_cast h
  · obtain ⟨k, rfl⟩ : ∃ k : Nat, e = -k := ⟨(-e).toNat, by omega⟩
    have hk : (-(k : Int) - 0).toNat = 0 := by omega
    have hk' : (0 - (-(k : Int) - 0)).toNat = k := by omega
    rw [zpow_neg, zpow_natCast, ← div_eq_mul_inv, le_div_iff₀ (by positivity)] at h
    rw [hk, Int.natCast_zero, hk', Nat.pow_zero, Nat.mul_one]
    exact_mod_cast h

theorem IsLarge.le_toInt {v : Nat} {x : UnpackedFloat} (h : IsLarge .positive v x) (least : Int) :
    (v : Int) ≤ x.toInt least v := by
  cases x with
  | zero | notANumber => exact h.elim
  | infinity s' =>
    obtain rfl : s' = .positive := h
    exact Int.le_refl _
  | finite s' m e hm =>
    obtain ⟨rfl, -, -, hreach⟩ := h
    exact le_roundToInt hreach

theorem IsLarge.lt_zero_iff {s s' : Sign} {v : Nat} {x : UnpackedFloat} (h : IsLarge s v x) :
    x.lt (.zero s') ↔ s = .negative := by
  cases x with
  | zero | notANumber => exact h.elim
  | infinity t =>
    obtain rfl : t = s := h
    cases t
    · exact iff_of_true rfl rfl
    · exact iff_of_false nofun nofun
  | finite t m e hm =>
    obtain ⟨rfl, -⟩ := h
    cases t
    · exact iff_of_true rfl rfl
    · exact iff_of_false nofun nofun

/-! ## Stored fractions -/

def Reaches (s : Sign) (v : Nat) (x : Float) : Prop := IsLarge s v x.toModel.unpack

theorem reaches_neg {s : Sign} {v : Nat} {x : Float} (hv : 0 < v) (h : Reaches s v x) :
    Reaches (-s) v (-x) :=
  isLarge_unpack_pack hv h.neg

theorem reaches_abs {s : Sign} {v : Nat} {x : Float} (hv : 0 < v) (h : Reaches s v x) :
    Reaches .positive v x.abs :=
  isLarge_unpack_pack hv h.abs

theorem reaches_mul {s : Sign} {v w n : Nat} {x y : Float} {e : Int} {hn : 0 < n}
    (h : Reaches s v x) (hy : y.toModel.unpack = .finite .positive n e hn)
    (hw : (w : ℚ) ≤ n * 2 ^ e) (hpos : 0 < v * w) (hlt : v * w < 2 ^ 53) :
    Reaches s (v * w) (x * y) := by
  refine isLarge_unpack_pack hpos ?_
  rw [hy]
  exact h.mul hw hpos hlt

theorem reaches_div {s : Sign} {v w n : Nat} {x y : Float} {e : Int} {hpos : 0 < n}
    (h : Reaches s v x) (hy : y.toModel.unpack = .finite .positive n e hpos) (hlow : 2 ^ 52 ≤ n)
    (hhigh : n < 2 ^ 53) (hw : 0 < w) (hlt : w < 2 ^ 53) (hle : w * (n * 2 ^ e : ℚ) ≤ v) :
    Reaches s w (x / y) := by
  refine isLarge_unpack_pack hw ?_
  rw [hy]
  exact h.div hlow hhigh hw hlt hle

theorem reaches_ofNat {v n : Nat} (hv : 0 < v) (hv' : v < 2 ^ 53) (hn : v ≤ n) :
    Reaches .positive v (Float.ofNat n) := by
  change Reaches .positive v (Float.ofScientific n false 0)
  unfold Float.ofScientific
  split
  · rename_i hsmall
    have hword : n.toUInt64.toNat = n := UInt64.toNat_ofNat_of_lt' (hsmall.1.trans (by decide))
    have hone : (Float.exactlyRepresentablePowersOfTen[0]).toModel.unpack =
        .finite .positive (2 ^ 52) (-52) (Nat.two_pow_pos 52) := rfl
    have hexact : Reaches .positive v n.toUInt64.toFloat := by
      refine isLarge_unpack_pack hv ?_
      change IsLarge .positive v (UnpackedFloat.normalize .binary64 n.toUInt64.toNat 0 .positive)
      have hsign : compare (n : Int) 0 = .gt := compare_gt_iff_gt.mpr (by omega)
      rw [hword, UnpackedFloat.normalize, hsign]
      exact isLarge_round_nat hv hv' hn
    have := reaches_mul hexact hone (w := 1) (by norm_num) (by omega) (by omega)
    rwa [Nat.mul_one] at this
  · exact isLarge_unpack_pack hv (isLarge_ofScientific hv hv' hn)

theorem toUInt8_of_reaches {x : Float} (h : Reaches .positive 255 x) : x.toUInt8 = 255 := by
  have hle : (255 : Nat) ≤ (x.toModel.unpack.toInt 0 255).toNat :=
    Int.toNat_le_toNat (h.le_toInt 0)
  change UInt8.ofNatClamp (x.toModel.unpack.toInt 0 255).toNat = 255
  rcases hle.eq_or_lt with heq | hlt
  · rw [← heq]
    rfl
  · exact UInt8.toNat_inj.mp (UInt8.toNat_ofNatClamp_of_le hlt)

theorem lt_zero_iff_of_reaches {s : Sign} {v : Nat} {x : Float} (h : Reaches s v x) :
    x < 0.0 ↔ s = .negative := by
  have hzero : (0.0 : Float).toModel.unpack = .zero .positive := rfl
  have hlt : x < 0.0 ↔ UnpackedFloat.lt x.toModel.unpack (0.0 : Float).toModel.unpack :=
    decide_eq_true_iff
  rw [hlt, hzero]
  exact h.lt_zero_iff

end Vitae.Binary
