import Mathlib.Data.Nat.Log
import Reshape.Decimal.Shortest
import Reshape.Proofs.NearestDouble

/-!
# Decimals that read back

Zeros at the end of the digits do not change the double that a decimal is rounded to:
`Decimal.toExtended_widen`. The decimal that equals a double is rounded to it,
`Double.toExtended_exact`, and so is the shortest one, `Double.toExtended_shortest`.
-/

namespace Reshape

theorem Digits.length_ofNat (n : Nat) : (ofNat n).length = Nat.log 10 n + 1 := by
  induction n using Nat.strongRecOn with
  | ind n ih =>
    rw [ofNat]
    by_cases h : n < 10
    · rw [if_pos h, Nat.log_of_lt h]
      rfl
    · rw [if_neg h, List.length_append, ih (n / 10) (by omega),
        Nat.log_of_one_lt_of_le (b := 10) (n := n) (by decide) (by omega)]
      rfl

namespace Decimal

theorem ratio_pos (d : Decimal) : 0 < d.ratio.2 := by
  unfold ratio
  split
  · exact Nat.one_pos
  · exact Nat.pow_pos (by decide)

theorem quotient_ratio (d : Decimal) : (d.ratio.1 : ℚ) / d.ratio.2 = d.digits * 10 ^ d.exponent := by
  unfold ratio
  by_cases he : 0 ≤ d.exponent
  · rw [if_pos he, zpow_of_nonneg 10 he]
    simp
  · rw [if_neg he, zpow_of_neg 10 he]
    simp [div_eq_mul_inv]

/-! ## Zeros at the end -/

/-- The same number with zeros behind its digits. -/
def widen (d : Decimal) (zeros : Nat) : Decimal :=
  ⟨d.negative, d.digits * 10 ^ zeros, d.exponent - zeros⟩

theorem reach_widen {d : Decimal} (h : d.digits ≠ 0) (zeros : Nat) :
    (d.widen zeros).reach = d.reach := by
  have hlog : Nat.log 10 (d.digits * 10 ^ zeros) = Nat.log 10 d.digits + zeros := by
    induction zeros with
    | zero => simp
    | succ zeros ih =>
      rw [Nat.pow_succ, ← Nat.mul_assoc, Nat.log_mul_base (by decide) (by positivity), ih]
      rfl
  unfold reach widen
  dsimp only
  rw [Digits.length_ofNat, Digits.length_ofNat, hlog]
  push_cast
  ring

/-- Zeros behind the digits change nothing about the double. -/
theorem toExtended_widen (d : Decimal) (zeros : Nat) :
    (d.widen zeros).toExtended = d.toExtended := by
  have hzero : (d.widen zeros).digits = 0 ↔ d.digits = 0 := by simp [widen]
  by_cases h : d.digits = 0
  · rw [toExtended, toExtended, if_pos (.inl (hzero.2 h)), if_pos (.inl h)]
    rfl
  · have hratio : Extended.ofRatio d.negative (d.widen zeros).ratio.1 (d.widen zeros).ratio.2
        = Extended.ofRatio d.negative d.ratio.1 d.ratio.2 := by
      refine Extended.ofRatio_congr _ (ratio_pos _) (ratio_pos _) ?_
      rw [quotient_ratio, quotient_ratio]
      simp only [widen, Nat.cast_mul, Nat.cast_pow, Nat.cast_ofNat]
      rw [mul_assoc, ← zpow_natCast, ← zpow_add₀ (by norm_num)]
      congr 2
      ring
    unfold toExtended
    rw [reach_widen h]
    simp only [hzero]
    exact congrArg _ (congrArg _ hratio)

theorem toExtended_trim (d : Decimal) : d.trim.toExtended = d.toExtended := by
  induction d using trim.induct with
  | case1 d h ih =>
    have hwide : widen ⟨d.negative, d.digits / 10, d.exponent + 1⟩ 1 = d := by
      have hdigits : d.digits / 10 * 10 = d.digits := by omega
      simp [widen, hdigits]
    rw [trim, dif_pos h, ih, ← toExtended_widen _ 1, hwide]
  | case2 d h => rw [trim, dif_neg h]

end Decimal

namespace Double

/-! ## The exact decimal -/

/-- The decimal stands for the same quotient as the double. -/
theorem quotient_exact (d : Double) :
    (d.exact.ratio.1 : ℚ) / d.exact.ratio.2 = d.ratio.1 / d.ratio.2 := by
  rw [Decimal.quotient_ratio, quotient_ratio]
  unfold exact
  by_cases hs : 0 ≤ d.scale
  · rw [if_pos hs, zpow_of_nonneg 2 hs]
    simp
  · rw [if_neg hs]
    have hten : (10 : ℚ) ^ d.scale = 5 ^ d.scale * 2 ^ d.scale := by
      rw [← mul_zpow]
      norm_num
    have hfive : (5 : ℚ) ^ (-d.scale).toNat * 5 ^ d.scale = 1 := by
      rw [← zpow_natCast, ← zpow_add₀ (by norm_num), Int.toNat_of_nonneg (by omega),
        neg_add_cancel, zpow_zero]
    calc ((d.significand * Nat.pow 5 (-d.scale).toNat : Nat) : ℚ) * 10 ^ d.scale
        = d.significand * (5 ^ (-d.scale).toNat * 5 ^ d.scale) * 2 ^ d.scale := by
          rw [hten, Nat.cast_mul, Nat.pow_eq, Nat.cast_pow, Nat.cast_ofNat]
          ring
      _ = d.significand * 2 ^ d.scale := by rw [hfive, mul_one]

theorem exact_digits_pos {d : Double} (h : d.magnitude ≠ 0) : 0 < d.exact.digits := by
  have hsig := significand_pos h
  unfold exact
  split
  · exact Nat.mul_pos hsig (Nat.two_pow_pos _)
  · exact Nat.mul_pos hsig (Nat.pow_pos (by decide))

theorem log_mul_two_pow_lt {m n : Nat} (hm : 0 < m) (hlt : m < 2 ^ 53) (hn : n ≤ 971) :
    Nat.log 10 (m * Nat.pow 2 n) < 310 := by
  refine (Nat.log_lt_iff_lt_pow (by decide) (Nat.mul_pos hm (Nat.two_pow_pos n)).ne').2 ?_
  calc m * 2 ^ n < 2 ^ 53 * 2 ^ 971 :=
        Nat.mul_lt_mul_of_lt_of_le hlt (Nat.pow_le_pow_right (by decide) hn) (by positivity)
    _ < 10 ^ 310 := by decide +kernel

theorem log_mul_five_pow_lt {m : Nat} (k : Nat) (hm : 0 < m) (hlt : m < 2 ^ 53) :
    Nat.log 10 (m * Nat.pow 5 k) < k + 310 := by
  refine (Nat.log_lt_iff_lt_pow (by decide) (Nat.mul_pos hm (Nat.pow_pos (by decide))).ne').2 ?_
  calc m * 5 ^ k < 10 ^ 310 * 10 ^ k :=
        Nat.mul_lt_mul_of_lt_of_le (hlt.trans (by decide +kernel))
          (Nat.pow_le_pow_left (by decide) k) (by positivity)
    _ = 10 ^ (k + 310) := by rw [Nat.pow_add, Nat.mul_comm]

theorem le_log_mul_five_pow {m k : Nat} (hm : 0 < m) (hk : k ≤ 1074) :
    k - 331 ≤ Nat.log 10 (m * Nat.pow 5 k) := by
  refine (Nat.le_log_iff_pow_le (by decide) (Nat.mul_pos hm (Nat.pow_pos (by decide))).ne').2 ?_
  by_cases hle : k ≤ 331
  · rw [Nat.sub_eq_zero_of_le hle]
    exact Nat.mul_pos hm (Nat.pow_pos (by decide))
  · have hpow : 2 ^ (k - 331) ≤ 5 ^ 331 :=
      (Nat.pow_le_pow_right (by decide) (by omega)).trans (by decide +kernel : 2 ^ 743 ≤ 5 ^ 331)
    calc 10 ^ (k - 331) = 2 ^ (k - 331) * 5 ^ (k - 331) := by rw [← Nat.mul_pow]
      _ ≤ 5 ^ 331 * 5 ^ (k - 331) := Nat.mul_le_mul_right _ hpow
      _ = 5 ^ k := by rw [← Nat.pow_add, Nat.add_sub_cancel' (by omega)]
      _ ≤ m * 5 ^ k := Nat.le_mul_of_pos_left _ hm

/-- No double leaves the exponents for which powers are computed. -/
theorem reach_exact {d : Double} (h : d.magnitude ≠ 0) :
    -330 ≤ d.exact.reach ∧ d.exact.reach ≤ 310 := by
  have hpos := significand_pos h
  have hlt : d.significand < 2 ^ 53 := d.significand_lt
  have hscale := d.scale_bounds
  unfold Decimal.reach
  rw [Digits.length_ofNat]
  unfold exact
  by_cases hs : 0 ≤ d.scale
  · rw [if_pos hs]
    dsimp only
    have hlog := log_mul_two_pow_lt hpos hlt (n := d.scale.toNat) (by omega)
    omega
  · rw [if_neg hs]
    dsimp only
    generalize hk : (-d.scale).toNat = k
    have hhigh := log_mul_five_pow_lt k hpos hlt
    have hlow := le_log_mul_five_pow hpos (k := k) (by omega)
    omega

theorem toExtended_exact {d : Double} (h : d.magnitude ≠ 0) : d.exact.toExtended = .finite d := by
  obtain ⟨hlow, hhigh⟩ := reach_exact h
  have hnegative : d.exact.negative = d.negative := by
    unfold exact
    split
    · rfl
    · rfl
  unfold Decimal.toExtended
  rw [if_neg, if_neg (by omega), hnegative,
    Extended.ofRatio_congr _ d.exact.ratio_pos d.ratio_pos d.quotient_exact, Extended.ofRatio_ratio]
  rintro (hzero | hreach)
  · exact (exact_digits_pos h).ne' hzero
  · omega

/-! ## The shortest decimal -/

theorem toExtended_of_readsBackAt {d : Double} {tie : Tie} {place : Int} {found : Decimal}
    (h : d.readsBackAt tie place = some found) : found.toExtended = .finite d := by
  unfold readsBackAt at h
  dsimp only at h
  split at h
  · rename_i hlow hhigh
    rw [decide_eq_true_eq] at hlow hhigh
    cases h
    rcases tie.roundDiv_eq_or (d.inUnits place).1 (d.inUnits place).2 with hr | hr
    · rwa [hr]
    · rwa [hr]
  · rename_i hlow _
    rw [decide_eq_true_eq] at hlow
    cases h
    exact hlow
  · rename_i _ hhigh
    rw [decide_eq_true_eq] at hhigh
    cases h
    exact hhigh
  · cases h

/-- The shortest decimal is rounded to the double. -/
theorem toExtended_shortest (d : Double) (tie : Tie) : (d.shortest tie).toExtended = .finite d := by
  unfold shortest
  by_cases h : d.magnitude = 0
  · rw [if_pos (by simp [isZero, h])]
    have hratio : ((0 : Nat) : ℚ) / (1 : Nat) = d.ratio.1 / d.ratio.2 := by
      rw [d.ratio_fst_eq_zero_iff.2 h, Nat.cast_zero, zero_div, zero_div]
    rw [Decimal.toExtended, if_pos (.inl rfl),
      Extended.ofRatio_congr _ Nat.one_pos d.ratio_pos hratio, Extended.ofRatio_ratio]
  · rw [if_neg (by simp [isZero, h])]
    dsimp only
    rw [Decimal.toExtended_trim]
    generalize hfound : (List.range 17).findSome? _ = found
    cases found with
    | none => exact toExtended_exact h
    | some decimal =>
      obtain ⟨n, -, hn⟩ := List.exists_of_findSome?_eq_some hfound
      exact toExtended_of_readsBackAt hn

end Double

end Reshape
