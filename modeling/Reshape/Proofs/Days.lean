import Reshape.Calendar.Date

/-!
# Days and dates

Counted from March, a year ends with its leap day, if it has one. `Date.marchFirst` is the number of
its first day and `Date.ofYearDay` the date so many days after that. Each day is such a day of one
year, `Date.exists_yearDay`, and so is each date of the calendar, `Date.exists_ofYearDay`. Hence
`Date.toDays` and `Date.ofDays` undo each other.
-/

namespace Reshape

namespace Date

variable {year cycle : Int} {century four single r m : Nat}

/-! ## Years from March -/

def marchFirst (year : Int) : Int := 365 * year + year / 4 - year / 100 + year / 400 - 719468

def yearLength (year : Int) : Nat := if isLeap (year + 1) then 366 else 365

/-- The date so many days after the first of March. -/
def ofYearDay (year : Int) (r : Nat) : Date :=
  let monthFromMarch := (5 * r + 2) / 153
  let month := if monthFromMarch < 10 then monthFromMarch + 3 else monthFromMarch - 9
  ⟨if month ≤ 2 then year + 1 else year, month, r - daysBefore monthFromMarch + 1⟩

theorem yearLength_bounds (year : Int) : 365 ≤ yearLength year ∧ yearLength year ≤ 366 := by
  unfold yearLength
  split <;> omega

/-- A year counted in cycles of 400 years, centuries, fours and single years. -/
inductive Counted : Int → Int → Nat → Nat → Nat → Prop
  | mk (cycle : Int) {century four single : Nat} (hc : century ≤ 3) (hf : four ≤ 24)
      (hs : single ≤ 3) :
      Counted (400 * cycle + 100 * century + 4 * four + single) cycle century four single

theorem exists_counted (year : Int) :
    ∃ cycle century four single, Counted year cycle century four single := by
  have h : year = 400 * (year / 400) + 100 * ((year % 400 / 100).toNat : Nat)
      + 4 * ((year % 100 / 4).toNat : Nat) + ((year % 4).toNat : Nat) := by omega
  rw [h]
  exact ⟨_, _, _, _, .mk _ (by omega) (by omega) (by omega)⟩

theorem Counted.marchFirst_eq (h : Counted year cycle century four single) :
    marchFirst year = 146097 * cycle + 36524 * century + 1461 * four + 365 * single - 719468 := by
  obtain ⟨cycle, hc, hf, hs⟩ := h
  have h4 : (400 * cycle + 100 * century + 4 * four + single) / 4
      = 100 * cycle + 25 * century + four := by omega
  have h100 : (400 * cycle + 100 * century + 4 * four + single) / 100
      = 4 * cycle + century := by omega
  have h400 : (400 * cycle + 100 * century + 4 * four + single) / 400 = cycle := by omega
  unfold marchFirst
  rw [h4, h100, h400]
  omega

/-- A leap day ends the last year of a four, unless the four is the last of a century that is not
the last of a cycle. -/
theorem Counted.lt_yearLength_iff (h : Counted year cycle century four single) :
    r < yearLength year ↔ r < 365 ∨ r = 365 ∧ single = 3 ∧ (four = 24 → century = 3) := by
  obtain ⟨cycle, hc, hf, hs⟩ := h
  have hleap : isLeap (400 * cycle + 100 * century + 4 * four + single + 1) = true ↔
      single = 3 ∧ (four = 24 → century = 3) := by
    simp only [isLeap, Bool.and_eq_true, Bool.or_eq_true, beq_iff_eq, bne_iff_ne]
    omega
  unfold yearLength
  split
  · rename_i hl
    have := hleap.1 hl
    omega
  · rename_i hl
    have := mt hleap.2 hl
    omega

/-! ## Days of a year -/

theorem exists_yearDay (days : Int) :
    ∃ year r, r < yearLength year ∧ days = marchFirst year + (r : Nat) := by
  -- centuries, fours and years are taken off in turn; the last one of each kind may be longer
  obtain ⟨n, hn⟩ : ∃ n : Nat, (days + 719468) % 146097 = n :=
    ⟨_, (Int.toNat_of_nonneg (by omega)).symm⟩
  obtain ⟨century, hc⟩ : ∃ c, c = min (n / 36524) 3 := ⟨_, rfl⟩
  obtain ⟨m, hm⟩ : ∃ m, n = 36524 * century + m := ⟨n - 36524 * century, by omega⟩
  obtain ⟨single, hs⟩ : ∃ s, s = min (m % 1461 / 365) 3 := ⟨_, rfl⟩
  obtain ⟨year, h⟩ : ∃ year, Counted year ((days + 719468) / 146097) century (m / 1461) single :=
    ⟨_, .mk _ (by omega) (by omega) (by omega)⟩
  refine ⟨year, m % 1461 - 365 * single, ?_, ?_⟩
  · rw [h.lt_yearLength_iff]
    omega
  · rw [h.marchFirst_eq]
    omega

/-- Without the leap days before a day of a cycle, 365 days are left for each year. -/
theorem yearOfCycle_eq (hc : century ≤ 3) (hf : four ≤ 24) (hs : single ≤ 3)
    (hr : r < 365 ∨ r = 365 ∧ single = 3 ∧ (four = 24 → century = 3)) {n : Nat}
    (hn : n = 36524 * century + 1461 * four + 365 * single + r) :
    (n - n / 1460 + n / 36524 - n / 146096) / 365 = 100 * century + 4 * four + single := by
  have hcenturies : n / 36524 = century + n / 146096 := by
    obtain ⟨k, hk⟩ : ∃ k, k = 1461 * four + 365 * single + r := ⟨_, rfl⟩
    have hlast : k < 36524 ∨ k = 36524 ∧ century = 3 := by omega
    clear hr hf hs
    omega
  obtain ⟨leap, hl⟩ : ∃ leap, leap = (24 * century + four + 365 * single + r) / 1460 := ⟨_, rfl⟩
  have hfours : n / 1460 = 25 * century + four + leap := by
    clear hr hf hs hcenturies
    omega
  have hleap : leap ≤ r ∧ r < 365 + leap := by
    clear hcenturies hfours hn
    omega
  rw [hcenturies, hfours]
  generalize n / 146096 = m
  clear hr hc hf hs hcenturies hfours hl
  have hdays : n - (25 * century + four + leap) + (century + m) - m
      = 365 * (100 * century + 4 * four + single) + (r - leap) := by omega
  rw [hdays]
  clear hdays hn
  omega

theorem ofDays_marchFirst (h : r < yearLength year) :
    ofDays (marchFirst year + r) = ofYearDay year r := by
  obtain ⟨cycle, century, four, single, hcount⟩ := exists_counted year
  have hr := hcount.lt_yearLength_iff.1 h
  rw [hcount.marchFirst_eq]
  obtain ⟨cycle, hc, hf, hs⟩ := hcount
  obtain ⟨n, hn⟩ : ∃ n, n = 36524 * century + 1461 * four + 365 * single + r := ⟨_, rfl⟩
  obtain ⟨y, hy⟩ : ∃ y, y = 100 * century + 4 * four + single := ⟨_, rfl⟩
  have hsum : 146097 * cycle + 36524 * century + 1461 * four + 365 * single - 719468 + r + 719468
      = 146097 * cycle + n := by omega
  have hlt : n < 146097 := by
    clear hsum h
    omega
  have hcycle : (146097 * cycle + n).fdiv 146097 = cycle := by
    rw [Int.fdiv_eq_ediv_of_nonneg _ (by decide)]
    omega
  have hrest : ((146097 * cycle + n).fmod 146097).toNat = n := by
    rw [Int.fmod_eq_emod_of_nonneg _ (by decide)]
    omega
  have hday : n - (365 * y + y / 4 - y / 100) = r := by
    have h4 : y / 4 = 25 * century + four := by omega
    have h100 : y / 100 = century := by omega
    rw [h4, h100]
    omega
  have hyear : 400 * cycle + 100 * century + 4 * four + single = cycle * 400 + (y : Nat) := by omega
  unfold ofDays
  simp only [hsum, hcycle, hrest, yearOfCycle_eq hc hf hs hr hn, ← hy, hday, hyear]
  rfl

/-! ## Months -/

/-- The number of days from the first of March to the end of a month, counted from March. -/
def monthEnd (year : Int) (m : Nat) : Nat := if m < 11 then daysBefore (m + 1) else yearLength year

theorem lt_monthEnd_iff (hm : m ≤ 11) (hstart : daysBefore m ≤ r) :
    r < monthEnd year m ↔ r < yearLength year ∧ (5 * r + 2) / 153 = m := by
  have hy := yearLength_bounds year
  unfold monthEnd
  unfold daysBefore at hstart ⊢
  split <;> omega

theorem monthLength_eq (hm : m ≤ 11) {month : Nat}
    (hmonth : month = if m < 10 then m + 3 else m - 9) :
    monthLength (if month ≤ 2 then year + 1 else year) month = monthEnd year m - daysBefore m := by
  subst hmonth
  match m, hm with
  | 0, _ | 1, _ | 2, _ | 3, _ | 4, _ | 5, _ | 6, _ | 7, _ | 8, _ | 9, _ | 10, _ =>
    simp [monthLength, monthEnd, daysBefore]
  | 11, _ =>
    show (if isLeap (year + 1) then 29 else 28) = (if isLeap (year + 1) then 366 else 365) - 337
    split <;> rfl

theorem toDays_ofYearDay (h : r < yearLength year) :
    (ofYearDay year r).toDays = marchFirst year + r := by
  have hy := yearLength_bounds year
  obtain ⟨m, hm⟩ : ∃ m, m = (5 * r + 2) / 153 := ⟨_, rfl⟩
  have hstart : daysBefore m ≤ r := by
    unfold daysBefore
    omega
  obtain ⟨month, hmonth⟩ : ∃ month, month = if m < 10 then m + 3 else m - 9 := ⟨_, rfl⟩
  have hback : (month + 9) % 12 = m := by
    rw [hmonth]
    split <;> omega
  have hyear : (if month ≤ 2 then (if month ≤ 2 then year + 1 else year) - 1
      else if month ≤ 2 then year + 1 else year) = year := by
    split <;> omega
  have hday : daysBefore m + (r - daysBefore m + 1) - 1 = r := by omega
  unfold toDays ofYearDay
  simp only [← hm, ← hmonth, hback, hyear, hday]
  rw [Int.fdiv_eq_ediv_of_nonneg _ (by decide), Int.fmod_eq_emod_of_nonneg _ (by decide)]
  unfold marchFirst
  omega

theorem isReal_iff {d : Date} : d.isReal = true ↔
    (1 ≤ d.month ∧ d.month ≤ 12) ∧ 1 ≤ d.day ∧ d.day ≤ monthLength d.year d.month := by
  simp [isReal, and_assoc]

theorem isReal_ofYearDay (h : r < yearLength year) : (ofYearDay year r).isReal = true := by
  have hy := yearLength_bounds year
  obtain ⟨m, hm⟩ : ∃ m, m = (5 * r + 2) / 153 := ⟨_, rfl⟩
  have hstart : daysBefore m ≤ r := by
    unfold daysBefore
    omega
  have hend : r < monthEnd year m := (lt_monthEnd_iff (by omega) hstart).2 ⟨h, hm.symm⟩
  rw [isReal_iff]
  unfold ofYearDay
  simp only [← hm]
  refine ⟨by split <;> omega, by omega, ?_⟩
  rw [monthLength_eq (by omega) rfl]
  omega

/-- The calendar has the days of the years that start in March, and no others. -/
theorem exists_ofYearDay {d : Date} (h : d.isReal = true) :
    ∃ year r, r < yearLength year ∧ d = ofYearDay year r := by
  obtain ⟨year, month, day⟩ := d
  obtain ⟨hmonths, hday, hlength⟩ := isReal_iff.1 h
  dsimp only at hmonths hday hlength
  obtain ⟨m, hm⟩ : ∃ m, m = (month + 9) % 12 := ⟨_, rfl⟩
  obtain ⟨start, hstart⟩ : ∃ start, start = if month ≤ 2 then year - 1 else year := ⟨_, rfl⟩
  have hmonth : month = if m < 10 then m + 3 else m - 9 := by split <;> omega
  have hyear : year = if month ≤ 2 then start + 1 else start := by
    rw [hstart]
    split <;> omega
  rw [hyear, monthLength_eq (by omega) hmonth] at hlength
  obtain ⟨hr, hback⟩ : daysBefore m + day - 1 < yearLength start ∧
      (5 * (daysBefore m + day - 1) + 2) / 153 = m :=
    (lt_monthEnd_iff (by omega) (by omega)).1 (by omega)
  refine ⟨start, _, hr, ?_⟩
  unfold ofYearDay
  simp only [hback, ← hmonth, ← hyear]
  congr 1
  omega

/-! ## Dates and days -/

theorem toDays_ofDays (days : Int) : (ofDays days).toDays = days := by
  obtain ⟨year, r, h, rfl⟩ := exists_yearDay days
  rw [ofDays_marchFirst h, toDays_ofYearDay h]

theorem ofDays_toDays {d : Date} (h : d.isReal = true) : ofDays d.toDays = d := by
  obtain ⟨year, r, hr, rfl⟩ := exists_ofYearDay h
  rw [toDays_ofYearDay hr, ofDays_marchFirst hr]

theorem isReal_ofDays (days : Int) : (ofDays days).isReal = true := by
  obtain ⟨year, r, h, rfl⟩ := exists_yearDay days
  rw [ofDays_marchFirst h]
  exact isReal_ofYearDay h

/-- A date falls between the first of March of the year before and that of the year after. -/
theorem toDays_bounds {d : Date} (h : d.isReal = true) :
    marchFirst (d.year - 1) ≤ d.toDays ∧ d.toDays < marchFirst (d.year + 1) := by
  obtain ⟨year, r, hr, rfl⟩ := exists_ofYearDay h
  have hy := yearLength_bounds year
  have hcases : (ofYearDay year r).year = year + 1 ∨ (ofYearDay year r).year = year ∧ r < 306 := by
    unfold ofYearDay
    dsimp only
    split <;> omega
  rw [toDays_ofYearDay hr]
  unfold marchFirst
  rcases hcases with hyear | ⟨hyear, hearly⟩ <;> rw [hyear] <;> omega

end Date

end Reshape
