import Mathlib.Algebra.Order.Field.Basic
import Mathlib.Algebra.Order.Field.Power
import Mathlib.Data.Int.Log
import Mathlib.Data.Rat.Floor
import Mathlib.Tactic.FieldSimp
import Mathlib.Tactic.NormNum
import Mathlib.Tactic.Positivity
import Mathlib.Tactic.Ring
import Reshape.Double.Rounding

/-!
# Nearest doubles

`Double.leadingBit` is the binary logarithm of a quotient, so rounding a quotient to a
double depends on its value alone: `Extended.ofRatio_congr`. The quotient that a double
stands for is rounded to that double, `Extended.ofRatio_ratio`.
-/

namespace Reshape

/-! ## Rounded division -/

theorem Tie.roundDiv_mul (tie : Tie) (num den : Nat) {c : Nat} (hc : 0 < c) :
    tie.roundDiv (num * c) (den * c) = tie.roundDiv num den := by
  have hlow : 2 * (num * c % (den * c)) < den * c ↔ 2 * (num % den) < den := by
    rw [Nat.mul_mod_mul_right, ← Nat.mul_assoc]
    exact Nat.mul_lt_mul_right hc
  have hhigh : den * c < 2 * (num * c % (den * c)) ↔ den < 2 * (num % den) := by
    rw [Nat.mul_mod_mul_right, ← Nat.mul_assoc]
    exact Nat.mul_lt_mul_right hc
  unfold Tie.roundDiv
  simp only [hlow, hhigh, Nat.mul_div_mul_right _ _ hc]

/-- Rounded division depends on the quotient alone. -/
theorem Tie.roundDiv_congr (tie : Tie) {num den num' den' : Nat} (hd : 0 < den) (hd' : 0 < den')
    (h : num * den' = num' * den) : tie.roundDiv num den = tie.roundDiv num' den' :=
  calc tie.roundDiv num den = tie.roundDiv (num * den') (den * den') :=
        (tie.roundDiv_mul num den hd').symm
    _ = tie.roundDiv (num' * den) (den' * den) := by rw [h, Nat.mul_comm den]
    _ = tie.roundDiv num' den' := tie.roundDiv_mul num' den' hd

theorem Tie.roundDiv_one (tie : Tie) (n : Nat) : tie.roundDiv n 1 = n := by
  simp [Tie.roundDiv, Nat.mod_one]

/-- What is nearest is one of the two neighbours. -/
theorem Tie.roundDiv_eq_or (tie : Tie) (num den : Nat) :
    tie.roundDiv num den = num / den ∨ tie.roundDiv num den = num / den + 1 := by
  unfold Tie.roundDiv
  dsimp only
  split
  · exact .inl rfl
  · split
    · exact .inr rfl
    · cases tie with
      | toEven =>
        dsimp only
        omega
      | up => exact .inr rfl

/-! ## Binary logarithms of quotients -/

theorem zpow_of_nonneg (b : ℚ) {k : Int} (hk : 0 ≤ k) : b ^ k = b ^ k.toNat := by
  rw [← zpow_natCast, Int.toNat_of_nonneg hk]

theorem zpow_of_neg (b : ℚ) {k : Int} (hk : ¬ 0 ≤ k) : b ^ k = 1 / b ^ (-k).toNat := by
  rw [← zpow_of_nonneg b (by omega), zpow_neg, one_div, inv_inv]

theorem two_zpow_le_iff {r : ℚ} (hr : 0 < r) {k : Int} : (2 : ℚ) ^ k ≤ r ↔ k ≤ Int.log 2 r := by
  exact_mod_cast Int.zpow_le_iff_le_log (b := 2) Nat.one_lt_two hr

theorem lt_two_zpow_iff {r : ℚ} (hr : 0 < r) {k : Int} : r < (2 : ℚ) ^ k ↔ Int.log 2 r < k := by
  exact_mod_cast Int.lt_zpow_iff_log_lt (b := 2) Nat.one_lt_two hr

theorem belowPower_iff {num den : Nat} (hd : 0 < den) (k : Int) :
    belowPower num den k = true ↔ (num : ℚ) / den < 2 ^ k := by
  have hden : (0 : ℚ) < den := Nat.cast_pos.2 hd
  unfold belowPower
  by_cases hk : 0 ≤ k
  · rw [if_pos hk, decide_eq_true_eq, zpow_of_nonneg 2 hk, div_lt_iff₀ hden, mul_comm]
    exact_mod_cast Iff.rfl
  · have hpow : (0 : ℚ) < 2 ^ (-k).toNat := by positivity
    rw [if_neg hk, decide_eq_true_eq, zpow_of_neg 2 hk, div_lt_div_iff₀ hden hpow, one_mul]
    exact_mod_cast Iff.rfl

namespace Double

/-- The leading binary digit of a quotient stands where its logarithm says. -/
theorem leadingBit_eq {num den : Nat} (hn : 0 < num) (hd : 0 < den) :
    leadingBit num den = Int.log 2 ((num : ℚ) / den) := by
  have hnum : (0 : ℚ) < num := Nat.cast_pos.2 hn
  have hden : (0 : ℚ) < den := Nat.cast_pos.2 hd
  have hquot : (0 : ℚ) < num / den := div_pos hnum hden
  have hnum_log : Int.log 2 (num : ℚ) = num.log2 := by rw [Int.log_natCast, Nat.log2_eq_log_two]
  have hden_log : Int.log 2 (den : ℚ) = den.log2 := by rw [Int.log_natCast, Nat.log2_eq_log_two]
  have hlow : (num.log2 : Int) - den.log2 - 1 ≤ Int.log 2 ((num : ℚ) / den) := by
    refine (two_zpow_le_iff hquot).1 ?_
    have h₁ : (2 : ℚ) ^ (num.log2 : Int) ≤ num := (two_zpow_le_iff hnum).2 hnum_log.ge
    have h₂ : (den : ℚ) < 2 ^ ((den.log2 : Int) + 1) := (lt_two_zpow_iff hden).2 (by omega)
    rw [le_div_iff₀ hden, show (num.log2 : Int) - den.log2 - 1 = num.log2 - (den.log2 + 1) by ring,
      zpow_sub₀ (by norm_num), div_mul_eq_mul_div, div_le_iff₀ (by positivity)]
    exact mul_le_mul h₁ h₂.le hden.le hnum.le
  have hhigh : Int.log 2 ((num : ℚ) / den) < (num.log2 : Int) - den.log2 + 1 := by
    refine (lt_two_zpow_iff hquot).1 ?_
    have h₁ : (num : ℚ) < 2 ^ ((num.log2 : Int) + 1) := (lt_two_zpow_iff hnum).2 (by omega)
    have h₂ : (2 : ℚ) ^ (den.log2 : Int) ≤ den := (two_zpow_le_iff hden).2 hden_log.ge
    rw [div_lt_iff₀ hden, show (num.log2 : Int) - den.log2 + 1 = (num.log2 + 1) - den.log2 by ring,
      zpow_sub₀ (by norm_num), div_mul_eq_mul_div, lt_div_iff₀ (by positivity)]
    exact mul_lt_mul h₁ h₂ (by positivity) (by positivity)
  have hbelow := (belowPower_iff hd ((num.log2 : Int) - den.log2)).trans
    (lt_two_zpow_iff hquot)
  unfold leadingBit
  dsimp only
  by_cases hb : belowPower num den ((num.log2 : Int) - den.log2) = true
  · have := hbelow.1 hb
    rw [if_pos hb]
    omega
  · have := mt hbelow.2 hb
    rw [if_neg hb]
    omega

theorem nearestMagnitude_congr {num den num' den' : Nat} (hn : 0 < num) (hn' : 0 < num')
    (hd : 0 < den) (hd' : 0 < den') (h : (num : ℚ) / den = num' / den') :
    nearestMagnitude num den = nearestMagnitude num' den' := by
  have hcross : num * den' = num' * den := by
    rw [div_eq_div_iff (Nat.cast_pos.2 hd).ne' (Nat.cast_pos.2 hd').ne'] at h
    exact_mod_cast h
  have hplace : lastPlace num den = lastPlace num' den' := by
    unfold lastPlace
    rw [leadingBit_eq hn hd, leadingBit_eq hn' hd', h]
  unfold nearestMagnitude
  rw [hplace]
  dsimp only
  congr 1
  split
  · have hpow : 0 < Nat.pow 2 (lastPlace num' den').toNat := Nat.two_pow_pos _
    refine Tie.roundDiv_congr _ (Nat.mul_pos hd hpow) (Nat.mul_pos hd' hpow) ?_
    rw [← Nat.mul_assoc, hcross, Nat.mul_assoc]
  · refine Tie.roundDiv_congr _ hd hd' ?_
    rw [Nat.mul_right_comm, hcross, Nat.mul_right_comm]

end Double

/-- Rounding depends on the quotient alone. -/
theorem Extended.ofRatio_congr (negative : Bool) {num den num' den' : Nat} (hd : 0 < den)
    (hd' : 0 < den') (h : (num : ℚ) / den = num' / den') :
    ofRatio negative num den = ofRatio negative num' den' := by
  have hzero : num = 0 ↔ num' = 0 := by
    have hden : (den : ℚ) ≠ 0 := (Nat.cast_pos.2 hd).ne'
    have hden' : (den' : ℚ) ≠ 0 := (Nat.cast_pos.2 hd').ne'
    have hleft : num = 0 ↔ (num : ℚ) / den = 0 := by simp [hden]
    have hright : num' = 0 ↔ (num' : ℚ) / den' = 0 := by simp [hden']
    rw [hleft, hright, h]
  have hmagnitude : (if num = 0 then 0 else Double.nearestMagnitude num den)
      = if num' = 0 then 0 else Double.nearestMagnitude num' den' := by
    by_cases hn : num = 0
    · rw [if_pos hn, if_pos (hzero.1 hn)]
    · have hn' := mt hzero.2 hn
      rw [if_neg hn, if_neg hn', Double.nearestMagnitude_congr (Nat.pos_of_ne_zero hn)
        (Nat.pos_of_ne_zero hn') hd hd' h]
  unfold ofRatio
  rw [hmagnitude]

/-! ## The quotient of a double -/

namespace Double

theorem hiddenBit_pos : 0 < hiddenBit := Nat.two_pow_pos _

theorem significand_pos {d : Double} (h : d.magnitude ≠ 0) : 0 < d.significand := by
  unfold significand
  split
  · exact Nat.pos_of_ne_zero h
  · exact Nat.add_pos_right _ hiddenBit_pos

theorem significand_lt (d : Double) : d.significand < 2 * hiddenBit := by
  have hmod := Nat.mod_lt d.magnitude hiddenBit_pos
  unfold significand
  split
  · omega
  · omega

/-- Significand and scale put together are the magnitude. -/
theorem significand_add (d : Double) :
    d.significand + (d.scale + 1074).toNat * hiddenBit = d.magnitude := by
  unfold significand scale
  by_cases hsmall : d.magnitude < hiddenBit
  · rw [if_pos hsmall, if_pos hsmall]
    simp
  · have hquot : 1 ≤ d.magnitude / hiddenBit :=
      (Nat.one_le_div_iff hiddenBit_pos).2 (Nat.le_of_not_lt hsmall)
    have hscale : (((d.magnitude / hiddenBit : Nat) : Int) - 1075 + 1074).toNat
        = d.magnitude / hiddenBit - 1 := by omega
    rw [if_neg hsmall, if_neg hsmall, hscale, Nat.sub_mul, Nat.one_mul]
    have hle := Nat.mul_le_mul_right hiddenBit hquot
    have hdiv := Nat.mod_add_div' d.magnitude hiddenBit
    omega

theorem scale_bounds (d : Double) : -1074 ≤ d.scale ∧ d.scale ≤ 971 := by
  have hquot : d.magnitude / hiddenBit < 0x7FF :=
    (Nat.div_lt_iff_lt_mul hiddenBit_pos).2 d.magnitude_lt
  unfold scale
  by_cases hsmall : d.magnitude < hiddenBit
  · rw [if_pos hsmall]
    decide
  · have hpos : 1 ≤ d.magnitude / hiddenBit :=
      (Nat.one_le_div_iff hiddenBit_pos).2 (Nat.le_of_not_lt hsmall)
    rw [if_neg hsmall]
    omega

theorem ratio_pos (d : Double) : 0 < d.ratio.2 := by
  unfold ratio
  split
  · exact Nat.one_pos
  · exact Nat.two_pow_pos _

theorem ratio_fst_eq_zero_iff (d : Double) : d.ratio.1 = 0 ↔ d.magnitude = 0 := by
  have hsig : d.significand = 0 ↔ d.magnitude = 0 := by
    refine ⟨fun h => by_contra fun hne => (significand_pos hne).ne' h, fun h => ?_⟩
    rw [significand, h, if_pos hiddenBit_pos]
  unfold ratio
  split
  · rw [← hsig]
    exact Nat.mul_eq_zero.trans (or_iff_left (Nat.two_pow_pos _).ne')
  · exact hsig

theorem quotient_ratio (d : Double) :
    (d.ratio.1 : ℚ) / d.ratio.2 = d.significand * 2 ^ d.scale := by
  unfold ratio
  by_cases hs : 0 ≤ d.scale
  · rw [if_pos hs, zpow_of_nonneg 2 hs]
    simp
  · rw [if_neg hs, zpow_of_neg 2 hs]
    simp [div_eq_mul_inv]

/-- The last place kept of the quotient of a double is the one that the double keeps. -/
theorem lastPlace_ratio {d : Double} (h : d.magnitude ≠ 0) :
    lastPlace d.ratio.1 d.ratio.2 = d.scale := by
  have hsig : (0 : ℚ) < d.significand := Nat.cast_pos.2 (significand_pos h)
  have hvalue : (0 : ℚ) < d.significand * 2 ^ d.scale := by positivity
  have hnum : 0 < d.ratio.1 := Nat.pos_of_ne_zero (mt d.ratio_fst_eq_zero_iff.1 h)
  have hhidden : (hiddenBit : ℚ) = 2 ^ (52 : Int) := by
    show ((2 ^ 52 : Nat) : ℚ) = 2 ^ (52 : Nat)
    rw [Nat.cast_pow, Nat.cast_ofNat]
  have hhigh : Int.log 2 ((d.significand : ℚ) * 2 ^ d.scale) < d.scale + 53 := by
    refine (lt_two_zpow_iff hvalue).1 ?_
    have hlt : (d.significand : ℚ) < 2 * hiddenBit := by exact_mod_cast d.significand_lt
    rw [hhidden] at hlt
    calc (d.significand : ℚ) * 2 ^ d.scale < 2 * 2 ^ (52 : Int) * 2 ^ d.scale := by gcongr
      _ = 2 ^ (d.scale + 53) := by
        rw [zpow_add₀ (by norm_num)]
        norm_num
        ring
  unfold lastPlace
  rw [leadingBit_eq hnum d.ratio_pos, quotient_ratio]
  by_cases hsmall : d.magnitude < hiddenBit
  · have hscale : d.scale = -1074 := by rw [scale, if_pos hsmall]
    have hlow : Int.log 2 ((d.significand : ℚ) * 2 ^ d.scale) < d.scale + 52 := by
      refine (lt_two_zpow_iff hvalue).1 ?_
      have hlt : (d.significand : ℚ) < hiddenBit := by
        rw [significand, if_pos hsmall]
        exact_mod_cast hsmall
      rw [hhidden] at hlt
      rw [add_comm, zpow_add₀ (by norm_num)]
      gcongr
    omega
  · have hlow : d.scale + 52 ≤ Int.log 2 ((d.significand : ℚ) * 2 ^ d.scale) := by
      refine (two_zpow_le_iff hvalue).1 ?_
      have hle : (hiddenBit : ℚ) ≤ d.significand := by
        rw [significand, if_neg hsmall]
        exact_mod_cast Nat.le_add_left _ _
      rw [hhidden] at hle
      rw [add_comm, zpow_add₀ (by norm_num)]
      gcongr
    have := d.scale_bounds
    omega

theorem nearestMagnitude_ratio {d : Double} (h : d.magnitude ≠ 0) :
    nearestMagnitude d.ratio.1 d.ratio.2 = d.magnitude := by
  have hexact (c : Nat) (hc : 0 < c) : Tie.toEven.roundDiv (d.significand * c) c = d.significand := by
    have := Tie.toEven.roundDiv_mul d.significand 1 hc
    rwa [Nat.one_mul, Tie.roundDiv_one] at this
  unfold nearestMagnitude
  rw [lastPlace_ratio h]
  dsimp only
  rw [← d.significand_add]
  congr 1
  unfold ratio
  by_cases hs : 0 ≤ d.scale
  · rw [if_pos hs, if_pos hs]
    dsimp only
    rw [Nat.one_mul]
    exact hexact _ (Nat.two_pow_pos _)
  · rw [if_neg hs, if_neg hs]
    exact hexact _ (Nat.two_pow_pos _)

end Double

/-- The quotient that a double stands for is rounded to the double. -/
theorem Extended.ofRatio_ratio (d : Double) :
    ofRatio d.negative d.ratio.1 d.ratio.2 = .finite d := by
  have hmagnitude : (if d.ratio.1 = 0 then 0 else Double.nearestMagnitude d.ratio.1 d.ratio.2)
      = d.magnitude := by
    by_cases h : d.magnitude = 0
    · rw [if_pos (d.ratio_fst_eq_zero_iff.2 h), h]
    · rw [if_neg (mt d.ratio_fst_eq_zero_iff.1 h), Double.nearestMagnitude_ratio h]
  unfold ofRatio
  simp only [hmagnitude, d.magnitude_lt, ↓reduceDIte]

end Reshape
