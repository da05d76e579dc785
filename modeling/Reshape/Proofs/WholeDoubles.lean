import Reshape.Proofs.NearestDouble

/-!
# Whole numbers as doubles

The double nearest to a whole number has its leading digit where the number has it, or one place
above if it rounds up to a power of two, `Double.wholeSignificand_bounds`. What has at most 53
binary digits is kept as it is. So a number of that length is the only whole number nearest to its
double, `Extended.eq_of_same_ofInt`, and one that fits 64 bits never rounds to an infinity.
-/

namespace Reshape

namespace Double

variable {m n : Nat}

/-- The significand of the double nearest to a positive whole number. -/
def wholeSignificand (n : Nat) : Nat :=
  if 52 ≤ n.log2 then Tie.toEven.roundDiv n (2 ^ (n.log2 - 52)) else n * 2 ^ (52 - n.log2)

theorem nearestMagnitude_whole (hn : 0 < n) :
    nearestMagnitude n 1 = wholeSignificand n + (n.log2 + 1022) * hiddenBit := by
  have hlead : leadingBit n 1 = n.log2 := by
    rw [leadingBit_eq hn Nat.one_pos, Nat.cast_one, div_one, Int.log_natCast, Nat.log2_eq_log_two]
  have hlast : lastPlace n 1 = (n.log2 : Int) - 52 := by
    unfold lastPlace
    omega
  have hplaces : ((n.log2 : Int) - 52 + 1074).toNat = n.log2 + 1022 := by omega
  unfold nearestMagnitude wholeSignificand
  rw [hlast]
  dsimp only
  rw [hplaces]
  by_cases hlong : 52 ≤ n.log2
  · have hplace : ((n.log2 : Int) - 52).toNat = n.log2 - 52 := by omega
    rw [if_pos (by omega), if_pos hlong, hplace, Nat.one_mul]
    rfl
  · have hplace : (-((n.log2 : Int) - 52)).toNat = 52 - n.log2 := by omega
    rw [if_neg (by omega), if_neg hlong, hplace, Tie.roundDiv_one]
    rfl

theorem wholeSignificand_of_le (h : n.log2 ≤ 52) : wholeSignificand n = n * 2 ^ (52 - n.log2) := by
  unfold wholeSignificand
  split
  · have hzero : n.log2 - 52 = 0 ∧ 52 - n.log2 = 0 := by omega
    rw [hzero.1, hzero.2, Nat.pow_zero, Tie.roundDiv_one, Nat.mul_one]
  · rfl

theorem wholeSignificand_lt (h : n.log2 ≤ 52) : wholeSignificand n < 2 * hiddenBit :=
  calc wholeSignificand n = n * 2 ^ (52 - n.log2) := wholeSignificand_of_le h
    _ < 2 ^ (n.log2 + 1) * 2 ^ (52 - n.log2) :=
      Nat.mul_lt_mul_of_pos_right Nat.lt_log2_self (Nat.two_pow_pos _)
    _ = 2 * hiddenBit := by
      rw [← Nat.pow_add, show n.log2 + 1 + (52 - n.log2) = 53 by omega]
      rfl

theorem wholeSignificand_bounds (hn : 0 < n) :
    hiddenBit ≤ wholeSignificand n ∧ wholeSignificand n ≤ 2 * hiddenBit := by
  have hlow : 2 ^ n.log2 ≤ n := Nat.log2_self_le hn.ne'
  by_cases hshort : n.log2 ≤ 52
  · refine ⟨?_, (wholeSignificand_lt hshort).le⟩
    calc hiddenBit = 2 ^ n.log2 * 2 ^ (52 - n.log2) := by
          rw [← Nat.pow_add, show n.log2 + (52 - n.log2) = 52 by omega]
          rfl
      _ ≤ n * 2 ^ (52 - n.log2) := Nat.mul_le_mul_right _ hlow
      _ = wholeSignificand n := (wholeSignificand_of_le hshort).symm
  · have hpow : 0 < 2 ^ (n.log2 - 52) := Nat.two_pow_pos _
    have hge : hiddenBit ≤ n / 2 ^ (n.log2 - 52) := by
      rw [Nat.le_div_iff_mul_le hpow]
      refine le_trans (Nat.le_of_eq ?_) hlow
      rw [show hiddenBit = 2 ^ 52 from rfl, ← Nat.pow_add]
      congr 1
      omega
    have hlt : n / 2 ^ (n.log2 - 52) < 2 * hiddenBit := by
      rw [Nat.div_lt_iff_lt_mul hpow]
      refine lt_of_lt_of_le Nat.lt_log2_self (Nat.le_of_eq ?_)
      rw [show 2 * hiddenBit = 2 ^ 53 from rfl, ← Nat.pow_add]
      congr 1
      omega
    rw [wholeSignificand, if_pos (by omega)]
    have hor := Tie.roundDiv_eq_or .toEven n (2 ^ (n.log2 - 52))
    omega

/-- The magnitude of the double nearest to a whole number. -/
def wholeMagnitude (n : Nat) : Nat := if n = 0 then 0 else nearestMagnitude n 1

theorem wholeMagnitude_eq_zero_iff : wholeMagnitude n = 0 ↔ n = 0 := by
  unfold wholeMagnitude
  by_cases hn : n = 0
  · simp [hn]
  · have hlow := (wholeSignificand_bounds (Nat.pos_of_ne_zero hn)).1
    rw [if_neg hn, nearestMagnitude_whole (Nat.pos_of_ne_zero hn)]
    have hpos := hiddenBit_pos
    omega

theorem wholeMagnitude_lt_ceiling (h : n < 2 ^ 64) : wholeMagnitude n < ceiling := by
  unfold wholeMagnitude ceiling
  by_cases hn : n = 0
  · rw [if_pos hn]
    exact Nat.mul_pos (by decide) hiddenBit_pos
  · have hlog : n.log2 < 64 := (Nat.log2_lt hn).2 h
    have hhigh := (wholeSignificand_bounds (Nat.pos_of_ne_zero hn)).2
    have hscale : (n.log2 + 1022) * hiddenBit ≤ (63 + 1022) * hiddenBit :=
      Nat.mul_le_mul_right _ (by omega)
    rw [if_neg hn, nearestMagnitude_whole (Nat.pos_of_ne_zero hn)]
    have hpos := hiddenBit_pos
    omega

/-- A number that is not longer than a significand does not share its magnitude with a longer
one. -/
theorem log2_le_of_nearestMagnitude (hm : 0 < m) (hn : 0 < n) (hshort : n.log2 ≤ 52)
    (h : nearestMagnitude m 1 = nearestMagnitude n 1) : m.log2 ≤ n.log2 := by
  rw [nearestMagnitude_whole hm, nearestMagnitude_whole hn] at h
  have hlow := (wholeSignificand_bounds hm).1
  have hlt := wholeSignificand_lt hshort
  by_contra hlonger
  have hscale : (n.log2 + 1 + 1022) * hiddenBit ≤ (m.log2 + 1022) * hiddenBit :=
    Nat.mul_le_mul_right _ (by omega)
  rw [Nat.add_right_comm, Nat.add_one_mul] at hscale
  omega

theorem eq_of_wholeMagnitude (hn : n < 2 ^ 53) (h : wholeMagnitude m = wholeMagnitude n) :
    m = n := by
  by_cases hzero : n = 0
  · have hm : wholeMagnitude m = 0 := h.trans (wholeMagnitude_eq_zero_iff.2 hzero)
    rw [hzero, wholeMagnitude_eq_zero_iff.1 hm]
  · have hmzero : m ≠ 0 := fun hm =>
      hzero (wholeMagnitude_eq_zero_iff.1 (h.symm.trans (wholeMagnitude_eq_zero_iff.2 hm)))
    have hnpos := Nat.pos_of_ne_zero hzero
    have hmpos := Nat.pos_of_ne_zero hmzero
    have hnlog : n.log2 ≤ 52 := Nat.le_of_lt_succ ((Nat.log2_lt hzero).2 hn)
    rw [wholeMagnitude, wholeMagnitude, if_neg hzero, if_neg hmzero] at h
    have hmn := log2_le_of_nearestMagnitude hmpos hnpos hnlog h
    have hnm := log2_le_of_nearestMagnitude hnpos hmpos (hmn.trans hnlog) h.symm
    have hlog : m.log2 = n.log2 := Nat.le_antisymm hmn hnm
    rw [nearestMagnitude_whole hmpos, nearestMagnitude_whole hnpos,
      wholeSignificand_of_le (hmn.trans hnlog), wholeSignificand_of_le hnlog, hlog] at h
    exact Nat.eq_of_mul_eq_mul_right (Nat.two_pow_pos _) (Nat.add_right_cancel h)

end Double

namespace Extended

open Double (wholeMagnitude)

theorem ofInt_eq (n : Int) :
    ofInt n = if h : wholeMagnitude n.natAbs < Double.ceiling
      then .finite ⟨n < 0, wholeMagnitude n.natAbs, h⟩ else .infinite (n < 0) := rfl

/-- What is a whole number of at most 53 binary digits as a double is no other whole number. -/
theorem eq_of_same_ofInt {m n : Int} (hn : n.natAbs < 2 ^ 53)
    (h : (ofInt m).same (ofInt n) = true) : m = n := by
  have hfinite : wholeMagnitude n.natAbs < Double.ceiling :=
    Double.wholeMagnitude_lt_ceiling (by omega)
  rw [ofInt_eq m, ofInt_eq n, dif_pos hfinite] at h
  by_cases hm : wholeMagnitude m.natAbs < Double.ceiling
  · rw [dif_pos hm, same, beq_iff_eq, Double.key, Double.key] at h
    simp only [decide_eq_true_eq] at h
    have hmagnitude : wholeMagnitude m.natAbs = wholeMagnitude n.natAbs := by
      split_ifs at h <;> omega
    have habs : m.natAbs = n.natAbs := Double.eq_of_wholeMagnitude hn hmagnitude
    have hzero : wholeMagnitude n.natAbs = 0 ↔ n.natAbs = 0 := Double.wholeMagnitude_eq_zero_iff
    split_ifs at h <;> omega
  · rw [dif_neg hm] at h
    cases h

end Extended

end Reshape
