import Reshape.Number
import Reshape.Proofs.ShortestDecimal
import Reshape.Proofs.WholeDoubles

/-!
# Numbers of few digits

A numeral is read as a word times a power of ten, which is rounded step by step. A word of at
most 53 binary digits is a double, and so are the powers up to `10 ^ 22`. With these only the last
step rounds, so that the numeral is read as the nearest double, `Number.ofNumeral_iff_of_short`.
-/

namespace Reshape

/-! ## Words -/

namespace Digits

theorem le_foldl_value (n : Nat) (cs : List Char) :
    n ≤ cs.foldl (fun n c => 10 * n + valueOf c) n := by
  induction cs generalizing n with
  | nil => exact Nat.le_refl n
  | cons c cs ih => exact Nat.le_trans (by omega) (ih (10 * n + valueOf c))

theorem takeBelow_of_lt {bound n : Nat} {cs : List Char}
    (h : cs.foldl (fun n c => 10 * n + valueOf c) n < bound) :
    takeBelow bound n cs = (cs.foldl (fun n c => 10 * n + valueOf c) n, []) := by
  induction cs generalizing n with
  | nil => rfl
  | cons c cs ih =>
    unfold takeBelow
    rw [if_pos (Nat.lt_of_le_of_lt (le_foldl_value _ cs) h)]
    exact ih h

end Digits

/-- No digits are left out if all of them make a word. -/
theorem Numeral.word_of_lt {n : Numeral} (h : n.toDecimal.digits < Nat.pow 2 64) :
    n.word = (n.toDecimal.digits, -((n.fraction.getD []).length : Int)) := by
  unfold toDecimal Digits.value at h ⊢
  dsimp only at h ⊢
  rw [List.foldl_append] at h ⊢
  have hwhole := Digits.takeBelow_of_lt (Nat.lt_of_le_of_lt (Digits.le_foldl_value _ _) h)
  unfold word
  rw [hwhole]
  dsimp only
  rw [Digits.takeBelow_of_lt h]
  simp

theorem Numeral.exponentValue_eq (n : Numeral) : n.exponentValue =
    if n.exponentIsNegative then -(Digits.value n.exponentDigits : Int)
    else Digits.value n.exponentDigits := by
  unfold exponentValue exponentIsNegative exponentDigits
  split
  · rename_i h
    simp [h]
  · rename_i sign ds hsign h
    have hne : sign ≠ some '-' := fun hs => hsign hs
    simp [h, hne]
  · rename_i h
    simp [h, Digits.value]

/-! ## Doubles that are exact -/

namespace Double

variable {n : Nat}

theorem wholeMagnitude_eq (hn : n ≠ 0) :
    wholeMagnitude n = wholeSignificand n - hiddenBit + hiddenBit * (n.log2 + 1023) := by
  have hlow := (wholeSignificand_bounds (Nat.pos_of_ne_zero hn)).1
  have hcarry : hiddenBit * (n.log2 + 1023) = hiddenBit + (n.log2 + 1022) * hiddenBit := by
    ring
  rw [wholeMagnitude, if_neg hn, nearestMagnitude_whole (Nat.pos_of_ne_zero hn), hcarry,
    ← Nat.add_assoc, Nat.sub_add_cancel hlow]

/-- The parts of the double of a number that needs no rounding. -/
theorem parts_of_short (hn : n ≠ 0) (hlog : n.log2 ≤ 52) (h : wholeMagnitude n < ceiling) :
    significand ⟨false, wholeMagnitude n, h⟩ = wholeSignificand n ∧
      scale ⟨false, wholeMagnitude n, h⟩ = (n.log2 : Int) - 52 := by
  have hlow := (wholeSignificand_bounds (Nat.pos_of_ne_zero hn)).1
  have hhigh := wholeSignificand_lt hlog
  have hlarge : ¬ wholeMagnitude n < hiddenBit := by
    rw [wholeMagnitude_eq hn, Nat.mul_add]
    omega
  constructor
  · unfold significand
    rw [if_neg hlarge]
    dsimp only
    rw [wholeMagnitude_eq hn, Nat.add_mul_mod_self_left, Nat.mod_eq_of_lt (by omega)]
    omega
  · unfold scale
    rw [if_neg hlarge]
    dsimp only
    rw [wholeMagnitude_eq hn, Nat.add_mul_div_left _ _ hiddenBit_pos,
      Nat.div_eq_of_lt (show wholeSignificand n - hiddenBit < hiddenBit by omega)]
    omega

theorem exists_of_short (h : n < 2 ^ 53) :
    ∃ d, Extended.ofNat n = .finite d ∧ d.negative = false ∧ (d.ratio.1 : ℚ) / d.ratio.2 = n := by
  have hfinite : wholeMagnitude n < ceiling := wholeMagnitude_lt_ceiling (by omega)
  refine ⟨⟨false, wholeMagnitude n, hfinite⟩, dif_pos hfinite, rfl, ?_⟩
  rw [quotient_ratio]
  by_cases hn : n = 0
  · subst hn
    simp [wholeMagnitude, significand, hiddenBit_pos]
  · have hlog : n.log2 ≤ 52 := Nat.le_of_lt_succ ((Nat.log2_lt hn).2 h)
    obtain ⟨hsignificand, hscale⟩ := parts_of_short hn hlog hfinite
    rw [hsignificand, hscale, wholeSignificand_of_le hlog, Nat.cast_mul, Nat.cast_pow,
      Nat.cast_ofNat, mul_assoc, ← zpow_natCast, ← zpow_add₀ (by norm_num),
      show ((52 - n.log2 : Nat) : Int) + (n.log2 - 52) = 0 by omega, zpow_zero, mul_one]

theorem ratio_powerOfTen : ∀ k : Fin 23, (powerOfTen (k.castLE (by decide))).ratio.1
    = 10 ^ k.val * (powerOfTen (k.castLE (by decide))).ratio.2 := by
  decide +kernel

/-- The powers of ten up to the twenty-second are doubles. -/
theorem quotient_powerOfTen {k : Fin 309} (h : k.val ≤ 22) :
    ((powerOfTen k).ratio.1 : ℚ) / (powerOfTen k).ratio.2 = 10 ^ k.val := by
  have hk : (powerOfTen k).ratio.1 = 10 ^ k.val * (powerOfTen k).ratio.2 :=
    ratio_powerOfTen ⟨k.val, Nat.lt_succ_of_le h⟩
  have hden : ((powerOfTen k).ratio.2 : ℚ) ≠ 0 := (Nat.cast_pos.2 (ratio_pos _)).ne'
  rw [div_eq_iff hden, hk]
  push_cast
  rfl

/-- The product or quotient of exact values is rounded once. -/
theorem scaled_of_short {d : Double} (hd : d.negative = false) {power : Int}
    (hp : power.natAbs ≤ 22) {num den : Nat} (hden : 0 < den)
    (h : (d.ratio.1 : ℚ) / d.ratio.2 * 10 ^ power = num / den) :
    d.scaled power = (Extended.ofRatio false num den).finite? := by
  have hlt : power.natAbs < 309 := by omega
  have hten := quotient_powerOfTen (k := ⟨power.natAbs, hlt⟩) hp
  have hsign : (powerOfTen ⟨power.natAbs, hlt⟩).negative = false := rfl
  unfold scaled
  rw [dif_pos hlt]
  generalize powerOfTen ⟨power.natAbs, hlt⟩ = ten at hten hsign
  dsimp only at hten ⊢
  congr 1
  by_cases hpos : 0 ≤ power
  · rw [if_pos hpos, times, hd, hsign]
    refine Extended.ofRatio_congr _ (Nat.mul_pos (ratio_pos d) (ratio_pos ten)) hden ?_
    have hpower : power.natAbs = power.toNat := by omega
    rw [Nat.cast_mul, Nat.cast_mul, mul_div_mul_comm, hten, ← h, zpow_of_nonneg 10 hpos, hpower]
  · have hnum : 0 < ten.ratio.1 := by
      rw [Nat.pos_iff_ne_zero]
      rintro hzero
      rw [hzero, Nat.cast_zero, zero_div] at hten
      exact pow_ne_zero _ (by norm_num) hten.symm
    rw [if_neg hpos, dividedBy, hd, hsign]
    refine Extended.ofRatio_congr _ (Nat.mul_pos (ratio_pos d) hnum) hden ?_
    have hpower : power.natAbs = (-power).toNat := by omega
    rw [Nat.cast_mul, Nat.cast_mul, ← div_div_div_eq, hten, ← h, zpow_of_neg 10 hpos, hpower,
      mul_one_div]

end Double

/-! ## Numerals -/

theorem Extended.finite?_ofRatio_negative (num den : Nat) :
    (ofRatio true num den).finite? = (ofRatio false num den).finite?.map Double.neg := by
  unfold ofRatio
  dsimp only
  generalize (if num = 0 then 0 else Double.nearestMagnitude num den) = magnitude
  split <;> rfl

theorem Decimal.toExtended_of_short {d : Decimal} (hd : d.digits < 2 ^ 53)
    (hp : d.exponent.natAbs ≤ 22) :
    d.toExtended = Extended.ofRatio d.negative d.ratio.1 d.ratio.2 := by
  have hlog : Nat.log 10 d.digits < 53 := by
    refine Nat.log_lt_of_lt_pow' (by decide) (lt_of_lt_of_le hd ?_)
    exact Nat.pow_le_pow_left (by decide) 53
  have hlow : ¬ d.reach < -330 := by
    unfold reach
    omega
  have hhigh : ¬ 310 < d.reach := by
    unfold reach
    rw [Digits.length_ofNat]
    omega
  unfold toExtended
  by_cases hzero : d.digits = 0
  · rw [if_pos (.inl hzero)]
    refine Extended.ofRatio_congr _ Nat.one_pos (ratio_pos d) ?_
    rw [quotient_ratio, hzero]
    simp
  · rw [if_neg (not_or.2 ⟨hzero, hlow⟩), if_neg hhigh]

namespace Number

theorem ofWord?_of_short (negative : Bool) {word : Nat} (hw : word < 2 ^ 53) {power : Int}
    (hp : power.natAbs ≤ 22) :
    ofWord? negative word power = (⟨negative, word, power⟩ : Decimal).toExtended.finite? := by
  obtain ⟨d, hd, hsign, hvalue⟩ := Double.exists_of_short hw
  let c : Decimal := ⟨negative, word, power⟩
  have hquotient : (d.ratio.1 : ℚ) / d.ratio.2 * 10 ^ power = c.ratio.1 / c.ratio.2 := by
    rw [c.quotient_ratio, hvalue]
  have hscaled := Double.scaled_of_short hsign hp c.ratio_pos hquotient
  rw [Decimal.toExtended_of_short (d := c) hw hp]
  unfold ofWord?
  rw [hd]
  show (d.scaled power >>= fun d => pure (if negative then d.neg else d)) = _
  rw [hscaled]
  cases negative with
  | false => exact bind_pure _
  | true =>
    show _ = (Extended.ofRatio true c.ratio.1 c.ratio.2).finite?
    rw [Extended.finite?_ofRatio_negative]
    exact Option.map_eq_bind.symm

/-- A numeral with a point or an exponent is read as the nearest double, if its digits and its
power of ten are within these bounds. -/
theorem ofNumeral_iff_of_short {n : Numeral} (hpoint : n.isWhole = false)
    (hdigits : n.toDecimal.digits < 2 ^ 53) (hpower : n.toDecimal.exponent.natAbs ≤ 22)
    (hexponent : Digits.value n.exponentDigits < 2 ^ 31) (d : Double) :
    ofNumeral n = .ok (double d) ↔ n.toDecimal.toExtended = .finite d := by
  have hword := Numeral.word_of_lt (Nat.lt_trans hdigits (by decide))
  have htaken : Digits.takeBelow (Nat.pow 2 31) 0 n.exponentDigits
      = (Digits.value n.exponentDigits, []) := Digits.takeBelow_of_lt hexponent
  have hplaces : (if n.exponentIsNegative then
        -((n.fraction.getD []).length : Int) - Digits.value n.exponentDigits
      else -((n.fraction.getD []).length : Int) + Digits.value n.exponentDigits)
      = n.toDecimal.exponent := by
    show _ = n.exponentValue - _
    rw [n.exponentValue_eq]
    split <;> omega
  unfold ofNumeral
  rw [hpoint, hword]
  simp only [Bool.false_and, Bool.false_eq_true, if_false, htaken, List.isEmpty_nil, if_true]
  have hdecimal : (⟨n.isNegative, n.toDecimal.digits, n.toDecimal.exponent⟩ : Decimal)
      = n.toDecimal := rfl
  rw [hplaces, ofWord?_of_short n.isNegative hdigits hpower, hdecimal]
  cases n.toDecimal.toExtended with
  | finite e => simp [Extended.finite?]
  | infinite _ | undefined => simp [Extended.finite?]

/-- A longer numeral may be read as a neighbour of the nearest double, here `31.24527019143944`. -/
example :
    let n (text : String) : Numeral := (Numeral.scan text.toList).1
    let nearest (text : String) := (n text).toDecimal.toExtended
    (ofNumeral (n "31.245270191439438")).toOption.map toExtended
        = some (nearest "31.24527019143944") ∧
      nearest "31.24527019143944" ≠ nearest "31.245270191439438" := by
  decide +kernel

end Number

end Reshape
