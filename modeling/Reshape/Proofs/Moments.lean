import Reshape.Calendar.Reader
import Reshape.Proofs.Days
import Reshape.Proofs.SelectorText

/-!
# Moments that are read

What texts of moments are made of: a time stamp has a mark before its time, an offset of less than a
day and a year of four digits, `Moment.parts_of_ofStamp?`; the other forms have no offset,
`Moment.parts_of_ofLoose?`. So every moment that is read falls in the years there are, although an
offset can lead to another year than the one that is written: `Moment.inYears_of_ofText?`.
-/

namespace Reshape

namespace Digits

theorem value_lt {ds : List Char} (hd : Expression.Grammar.AllDigits ds) :
    value ds < 10 ^ ds.length := by
  induction ds using List.reverseRecOn with
  | nil => exact Nat.one_pos
  | append_singleton ds d ih =>
    have hlast := valueOf_lt (hd d (by simp))
    have hfirst := ih fun c hc => hd c (List.mem_append_left _ hc)
    rw [value_concat, List.length_append, List.length_singleton, Nat.pow_succ]
    omega

end Digits

namespace Moment

variable {cs rest : List Char} {n : Nat} {m : Moment}

/-! ## Time stamps -/

/-- A time stamp is no date alone: a mark stands before its time. -/
def IsTimeMark (c : Char) : Prop := c = 'T' ∨ c = 't' ∨ c = ' '

theorem suffix_of_exactly {v : Nat} (h : exactly n cs = some (v, rest)) : rest <:+ cs := by
  unfold exactly at h
  dsimp only at h
  split at h
  · cases h
    exact List.drop_suffix _ _
  · cases h

theorem suffix_of_mark {c : Char} (h : mark c cs = some rest) : rest <:+ cs := by
  cases cs with
  | nil => cases h
  | cons d cs =>
    rw [mark] at h
    split at h
    · cases h
      exact List.suffix_cons _ _
    · cases h

theorem lt_of_exactly {v : Nat} (h : exactly n cs = some (v, rest)) : v < 10 ^ n := by
  unfold exactly at h
  dsimp only at h
  split at h
  · rename_i hd
    have hlt : Digits.value (cs.take n) < 10 ^ (cs.take n).length :=
      Digits.value_lt (List.all_eq_true.1 hd.2)
    cases h
    rwa [hd.1] at hlt
  · cases h

theorem offset_bounds {o : Int} (h : offset cs = some o) : -86400 < o ∧ o < 86400 := by
  unfold offset at h
  split at h
  · cases h
    decide
  · cases h
    decide
  · extract_lets signed at h
    have hsigned : ∀ factor : Int, factor = 1 ∨ factor = -1 → signed factor = some o →
        -86400 < o ∧ o < 86400 := by
      intro factor hfactor h
      simp only [signed, bind, Option.bind_eq_some_iff, Option.ite_none_right_eq_some] at h
      obtain ⟨⟨hours, _⟩, -, _, -, ⟨minutes, _⟩, -, hlt, ho⟩ := h
      cases ho
      rcases hfactor with rfl | rfl <;> omega
    split_ifs at h
    · exact hsigned 1 (.inl rfl) h
    · exact hsigned (-1) (.inr rfl) h
    · cases h
  · cases h

/-- What a time stamp is made of. -/
theorem parts_of_ofStamp? (h : ofStamp? cs = some m) :
    (∃ c ∈ cs, IsTimeMark c) ∧ ∃ (year : Nat) (month day hour minute second : Nat) (o : Int),
      year ≤ 9999 ∧ (-86400 < o ∧ o < 86400) ∧
      make? year month day hour minute second o = some m := by
  obtain ⟨⟨year, r₁⟩, hyear, h⟩ := Option.bind_eq_some_iff.1 h
  obtain ⟨r₂, hmark₂, h⟩ := Option.bind_eq_some_iff.1 h
  obtain ⟨⟨month, r₃⟩, hmonth, h⟩ := Option.bind_eq_some_iff.1 h
  obtain ⟨r₄, hmark₄, h⟩ := Option.bind_eq_some_iff.1 h
  obtain ⟨⟨day, r₅⟩, hday, h⟩ := Option.bind_eq_some_iff.1 h
  dsimp only at hmark₂ hmark₄ h
  have hdate : r₅ <:+ cs := (suffix_of_exactly hday).trans <| (suffix_of_mark hmark₄).trans <|
    (suffix_of_exactly hmonth).trans <| (suffix_of_mark hmark₂).trans (suffix_of_exactly hyear)
  have hlt : year < 10 ^ 4 := lt_of_exactly hyear
  split at h
  · rename_i c time
    split at h
    · rename_i htime
      simp only [bind, Option.bind_eq_some_iff] at h
      obtain ⟨_, -, ⟨hour, _⟩, -, _, -, ⟨minute, _⟩, -, _, -, ⟨second, _⟩, -, _, -, o, ho, h⟩ := h
      exact ⟨⟨c, hdate.subset List.mem_cons_self, htime⟩, year, month, day, hour, minute, second, o,
        by omega, offset_bounds ho, h⟩
    · cases h
  · cases h

/-- What a moment without an offset is made of. -/
theorem parts_of_ofLoose? (h : ofLoose? cs = some m) :
    ∃ (d : Date) (hour minute second : Nat),
      make? d.year d.month d.day hour minute second 0 = some m := by
  unfold ofLoose? at h
  simp only [bind, Option.bind_eq_some_iff] at h
  obtain ⟨⟨date, rest⟩, -, h⟩ := h
  have htime : ∀ {cs}, looseTime date cs = some m → ∃ (d : Date) (hour minute second : Nat),
      make? d.year d.month d.day hour minute second 0 = some m := by
    intro cs h
    unfold looseTime at h
    simp only [bind, Option.bind_eq_some_iff] at h
    obtain ⟨⟨hour, _⟩, -, _, -, ⟨minute, _⟩, -, _, -, ⟨second, _⟩, -, _, -, h⟩ := h
    dsimp only at h
    split at h
    · exact ⟨date, hour, minute, second, h⟩
    · cases h
  dsimp only at h
  split at h
  · exact ⟨date, 0, 0, 0, h⟩
  · exact htime h
  · exact htime h

/-! ## Years -/

/-- The year is one that moments can fall in. -/
def InYears (m : Moment) : Prop := Date.firstYear ≤ m.date.year ∧ m.date.year ≤ Date.lastYear

theorem make?_eq_some {year : Int} {month day hour minute second : Nat} {o : Int}
    (h : make? year month day hour minute second o = some m) :
    (⟨year, month, day⟩ : Date).isReal = true ∧ (Date.firstYear ≤ year ∧ year ≤ Date.lastYear) ∧
      ∃ s : Nat, s < 86400 ∧ m.seconds = (⟨year, month, day⟩ : Date).toDays * 86400 + s - o := by
  unfold make? at h
  dsimp only at h
  split at h
  · rename_i hparts
    obtain ⟨hreal, hfirst, hlast, hhour, hminute, hsecond⟩ := hparts
    cases h
    exact ⟨hreal, ⟨hfirst, hlast⟩, _, by omega, rfl⟩
  · cases h

theorem inYears_of_ofStamp? (h : ofStamp? cs = some m) : m.InYears := by
  obtain ⟨-, year, month, day, hour, minute, second, o, hyear, ho, hm⟩ := parts_of_ofStamp? h
  obtain ⟨hreal, -, s, hs, hseconds⟩ := make?_eq_some hm
  obtain ⟨days, hdays⟩ : ∃ days, m.seconds.fdiv 86400 = days := ⟨_, rfl⟩
  have hclose : (⟨year, month, day⟩ : Date).toDays - 1 ≤ days ∧
      days ≤ (⟨year, month, day⟩ : Date).toDays + 1 := by
    rw [Int.fdiv_eq_ediv_of_nonneg _ (by decide)] at hdays
    omega
  have hread := Date.toDays_bounds hreal
  have hhere := Date.toDays_bounds (Date.isReal_ofDays days)
  rw [Date.toDays_ofDays] at hhere
  unfold InYears date Date.firstYear Date.lastYear
  rw [hdays]
  unfold Date.marchFirst at hread hhere
  dsimp only at hread
  omega

theorem inYears_of_ofLoose? (h : ofLoose? cs = some m) : m.InYears := by
  obtain ⟨d, hour, minute, second, hm⟩ := parts_of_ofLoose? h
  obtain ⟨hreal, hyear, s, hs, hseconds⟩ := make?_eq_some hm
  have hday : m.seconds.fdiv 86400 = d.toDays := by
    rw [Int.fdiv_eq_ediv_of_nonneg _ (by decide)]
    change m.seconds = d.toDays * 86400 + s - 0 at hseconds
    omega
  unfold InYears date
  rw [hday, Date.ofDays_toDays hreal]
  exact hyear

theorem inYears_of_ofText? (h : ofText? cs = some m) : m.InYears := by
  unfold ofText? at h
  dsimp only at h
  cases hstamp : ofStamp? (Text.trim cs) with
  | some m' =>
    rw [hstamp] at h
    cases h
    exact inYears_of_ofStamp? hstamp
  | none =>
    rw [hstamp] at h
    exact inYears_of_ofLoose? h

theorem inYears_of_ofMilliseconds? {n : Int} (h : ofMilliseconds? n = some m) : m.InYears := by
  unfold ofMilliseconds? at h
  dsimp only at h
  split at h
  · rename_i hyears
    cases h
    exact hyears
  · cases h

end Moment

end Reshape
