import Reshape.Operation.Dates
import Reshape.Proofs.Layouts
import Reshape.Proofs.Moments

/-!
# Dates in the default layout

The default layout writes the date of a moment and nothing of its time, `Moment.dateText`. Up to
9999 a year is written with four digits or behind a minus sign, and so it is read again; a later
year is written with more digits, of which only four are read: `Moment.ofText?_dateText`.
-/

namespace Reshape

namespace Moment

open Expression.Grammar (AllDigits Opens span_append)

variable {ds rest : List Char} {n w : Nat} {m : Moment} {d : Date}

/-! ## Fields -/

/-- A field is read in full where it cannot go on. -/
theorem upTo_append (hd : AllDigits ds) (hne : ds ≠ []) (hn : ds.length ≤ n)
    (hr : ds.length = n ∨ Opens (fun c => Digits.isDigit c = false) rest) :
    upTo n (ds ++ rest) = some (Digits.value ds, rest) := by
  have hstop : Opens (fun c => Digits.isDigit c = false) (rest.take (n - ds.length)) := by
    rcases hr with hr | hr
    · rw [hr, Nat.sub_self, List.take_zero]
      nofun
    · intro c hc
      rw [List.head?_take] at hc
      split at hc
      · cases hc
      · exact hr c hc
  have hread : ((ds ++ rest).take n).takeWhile Digits.isDigit = ds := by
    rw [List.take_append, List.take_of_length_le hn]
    exact (span_append hd hstop).1
  unfold upTo
  simp only [hread, List.isEmpty_eq_false_iff.2 hne, List.drop_left, Bool.false_eq_true, if_false]

theorem allDigits_padded (w n : Nat) : AllDigits (padded w n) :=
  (Layout.allDigits_replicate _).append (Layout.allDigits_ofNat n)

theorem padded_ne_nil (w n : Nat) : padded w n ≠ [] :=
  List.append_ne_nil_of_right_ne_nil _ (Digits.ofNat_ne_nil n)

theorem value_padded (w n : Nat) : Digits.value (padded w n) = n := by
  rw [padded, Digits.value_replicate_append, Digits.value_ofNat]

theorem length_padded (hw : w ≠ 0) (hn : n < 10 ^ w) : (padded w n).length = w := by
  have hlog : Nat.log 10 n < w := Nat.log_lt_of_lt_pow' hw hn
  rw [padded, List.length_append, List.length_replicate, Digits.length_ofNat]
  omega

theorem le_length_padded (hn : 10 ^ w ≤ n) : w < (padded w n).length := by
  have hlog : w ≤ Nat.log 10 n := Nat.le_log_of_pow_le (by decide) hn
  rw [padded, List.length_append, List.length_replicate, Digits.length_ofNat]
  omega

theorem looseField_padded (hn : n < 100) : looseField (padded 2 n ++ rest) = some (n, rest) := by
  have hlength : (padded 2 n).length = 2 := length_padded (by decide) hn
  obtain ⟨c, cs, hcs⟩ := List.exists_cons_of_ne_nil (padded_ne_nil 2 n)
  have hc : Text.isBlank c = false :=
    (Scan.ordinary_of_isDigit (allDigits_padded 2 n c (by simp [hcs]))).1
  unfold looseField
  rw [Text.trimStart_of_head? (c := c) (by simp [hcs]) hc,
    upTo_append (allDigits_padded 2 n) (padded_ne_nil 2 n) hlength.le (.inl hlength), value_padded]

/-! ## Dates -/

theorem looseYear_of_digit {c : Char} (hc : Digits.isDigit c = true) (cs : List Char) :
    looseYear (c :: cs) = (upTo 4 (c :: cs)).map fun (y, rest) => ((y : Int), rest) := by
  have hstart : Text.trimStart (c :: cs) = c :: cs :=
    Text.trimStart_of_head? rfl (Scan.ordinary_of_isDigit hc).1
  unfold looseYear
  rw [hstart]
  split
  · rename_i h
    cases h
    cases hc
  · rename_i h
    cases h
    cases hc
  · rfl

theorem looseYear_before (y : Nat) (hr : Opens (fun c => Digits.isDigit c = false) rest) :
    looseYear ('-' :: (padded 3 y ++ rest)) = some (-(y : Int), rest) := by
  have hstart : Text.trimStart ('-' :: (padded 3 y ++ rest)) = '-' :: (padded 3 y ++ rest) :=
    Text.trimStart_of_head? rfl (by decide)
  unfold looseYear
  rw [hstart]
  show (upTo (padded 3 y ++ rest).length (padded 3 y ++ rest)).map _ = _
  rw [upTo_append (allDigits_padded 3 y) (padded_ne_nil 3 y) (by simp) (.inr hr), value_padded]
  rfl

/-- Four digits are read without a sign, and no more than four. -/
theorem looseYear_four (hd : AllDigits ds) (hn : ds.length = 4) :
    looseYear (ds ++ rest) = some ((Digits.value ds : Int), rest) := by
  have hread : upTo 4 (ds ++ rest) = some (Digits.value ds, rest) :=
    upTo_append hd (by rintro rfl; cases hn) hn.le (.inl hn)
  obtain ⟨c, cs, rfl⟩ := List.exists_cons_of_length_eq_add_one hn
  rw [List.cons_append, looseYear_of_digit (hd c List.mem_cons_self), ← List.cons_append, hread]
  rfl

/-- The text of a date in the default layout. -/
def dateText (d : Date) : List Char :=
  yearText d.year ++ '-' :: (padded 2 d.month ++ '-' :: padded 2 d.day)

theorem looseDate_dateText (hy : d.year ≤ 9999) (hm : d.month < 100) (hd : d.day < 100) :
    looseDate (dateText d) = some (d, []) := by
  obtain ⟨year, month, day⟩ := d
  dsimp only at hy hm hd
  have hyear : ∀ cs, looseYear (yearText year ++ '-' :: cs) = some (year, '-' :: cs) := by
    intro cs
    have hmark : Opens (fun c => Digits.isDigit c = false) ('-' :: cs) := by
      rintro _ ⟨⟩
      rfl
    unfold yearText
    split
    · rw [List.cons_append, looseYear_before _ hmark]
      congr 2
      omega
    · rw [looseYear_four (allDigits_padded 4 _) (length_padded (by decide) (by omega)),
        value_padded]
      congr 2
      omega
  have hday : looseField (padded 2 day) = some (day, []) := by
    rw [← List.append_nil (padded 2 day)]
    exact looseField_padded hd
  unfold looseDate dateText
  simp only [hyear, bind, Option.bind, mark, if_true, looseField_padded hm, hday]

/-- A year of five digits or more would have to bear a sign. -/
theorem looseDate_dateText_late (hy : 9999 < d.year) : looseDate (dateText d) = none := by
  obtain ⟨ds, hds, hd, hlong⟩ : ∃ ds, yearText d.year = ds ∧ AllDigits ds ∧ 4 < ds.length :=
    ⟨_, if_neg (by omega), allDigits_padded 4 _, le_length_padded (by omega)⟩
  obtain ⟨c, cs, hcs⟩ := List.exists_cons_of_ne_nil (l := ds.drop 4) (by simpa using hlong)
  have hc : Digits.isDigit c = true := hd c (List.mem_of_mem_drop (hcs ▸ List.mem_cons_self))
  have hread (rest : List Char) : looseYear (ds ++ rest)
      = some ((Digits.value (ds.take 4) : Int), c :: (cs ++ rest)) := by
    have hfour : looseYear (ds.take 4 ++ (ds.drop 4 ++ rest)) = _ :=
      looseYear_four (fun c hc => hd c (List.mem_of_mem_take hc)) (by simpa using hlong.le)
    rw [← List.append_assoc, List.take_append_drop, hcs] at hfour
    exact hfour
  have hmark : '-' ≠ c := by
    rintro rfl
    cases hc
  unfold looseDate dateText
  simp only [hds, hread, bind, Option.bind, mark, hmark, if_false]

/-! ## The layout -/

theorem render_of_token? {layout part : List Char}
    (h : m.token? layout = some (part, rest)) : m.render layout = part ++ m.render rest := by
  rw [render]
  split
  · rename_i part' rest' h'
    cases h.symm.trans h'
    rfl
  · rename_i h'
    cases h.symm.trans h'

theorem render_of_no_token {c : Char} {layout : List Char}
    (h : m.token? (c :: layout) = none) : m.render (c :: layout) = c :: m.render layout := by
  rw [render]
  split
  · rename_i h'
    cases h.symm.trans h'
  · rfl

theorem render_defaultLayout (m : Moment) : m.render defaultLayout = dateText m.date := by
  have hend : m.render [] = [] := by
    rw [render]
    rfl
  unfold defaultLayout dateText
  rw [render_of_token? rfl, render_of_no_token rfl, render_of_token? rfl, render_of_no_token rfl,
    render_of_token? rfl, hend, List.append_nil]

theorem mem_dateText {c : Char} (h : c ∈ dateText d) : Digits.isDigit c = true ∨ c = '-' := by
  have hyear : c ∈ yearText d.year → Digits.isDigit c = true ∨ c = '-' := by
    unfold yearText
    split
    · intro h
      rcases List.mem_cons.1 h with rfl | h
      · exact .inr rfl
      · exact .inl (allDigits_padded _ _ c h)
    · exact fun h => .inl (allDigits_padded _ _ c h)
  simp only [dateText, List.mem_append, List.mem_cons] at h
  rcases h with h | rfl | h | rfl | h
  · exact hyear h
  · exact .inr rfl
  · exact .inl (allDigits_padded _ _ c h)
  · exact .inr rfl
  · exact .inl (allDigits_padded _ _ c h)

theorem trim_dateText (d : Date) : Text.trim (dateText d) = dateText d := by
  refine Text.trim_of_tight (Scan.tight_of_ordinary (fun c hc => ?_) ?_)
  · rcases mem_dateText hc with h | rfl
    · exact Scan.ordinary_of_isDigit h
    · decide
  · simp [dateText]

theorem ofStamp?_dateText (d : Date) : ofStamp? (dateText d) = none := by
  by_contra h
  obtain ⟨m, hm⟩ := Option.ne_none_iff_exists'.1 h
  obtain ⟨⟨c, hc, hmark⟩, -⟩ := parts_of_ofStamp? hm
  rcases mem_dateText hc with h | rfl
  · rcases hmark with rfl | rfl | rfl <;> cases h
  · rcases hmark with h | h | h <;> cases h

/-- A date is read from its text, unless its year has more digits than are read without a sign. -/
theorem ofText?_dateText (hd : d.isReal = true)
    (hy : Date.firstYear ≤ d.year ∧ d.year ≤ Date.lastYear) :
    ofText? (dateText d) = if d.year ≤ 9999 then some ⟨d.toDays * 86400⟩ else none := by
  obtain ⟨hmonth, hday⟩ := Date.isReal_iff.1 hd
  have hlength : Date.monthLength d.year d.month ≤ 31 := by
    unfold Date.monthLength
    split <;> try split
    all_goals decide
  unfold ofText?
  dsimp only
  rw [trim_dateText, ofStamp?_dateText]
  show ofLoose? (dateText d) = _
  unfold ofLoose?
  split
  · rename_i hfour
    rw [looseDate_dateText hfour (by omega) (by omega)]
    show make? d.year d.month d.day 0 0 0 0 = _
    unfold make?
    rw [if_pos ⟨hd, hy.1, hy.2, by decide⟩]
    simp [ofParts]
  · rename_i hfour
    rw [looseDate_dateText_late (by omega)]
    rfl

theorem date_midnight (days : Int) : (⟨days * 86400⟩ : Moment).date = .ofDays days := by
  unfold date
  rw [Int.mul_fdiv_cancel _ (by decide)]

end Moment

namespace Operation

theorem moment?_string (s : String) : moment? (.string s) = Moment.ofText? s.toList := rfl

/-- The moments that documents stand for fall in the years there are. -/
theorem inYears_of_moment? {v : Document} {m : Moment} (h : moment? v = some m) : m.InYears := by
  unfold moment? at h
  split at h
  · exact Moment.inYears_of_ofMilliseconds? h
  · exact Moment.inYears_of_ofText? h
  · cases h

theorem formatDate_default {c : Call} (h : c.document 1 = .null) :
    formatDate c = .ok (((moment? (c.document 0)).map fun m =>
      .string (String.ofList (Moment.dateText m.date))).getD .null) := by
  unfold formatDate
  cases hm : moment? (c.document 0) with
  | none => rfl
  | some m =>
    simp only [h, Moment.render_defaultLayout]
    rfl

/-- A date that is written in the default layout is read back as the same date, if its year is
written with four digits or a sign; a later year is not read. -/
theorem default_dates_read_back {c c' : Call} {d : String} (hc : c.document 1 = .null)
    (hd : formatDate c = .ok (.string d)) (hc' : c'.document 0 = .string d)
    (hdefault : c'.document 1 = .null) :
    ∃ m, moment? (c.document 0) = some m ∧
      formatDate c' = .ok (if m.date.year ≤ 9999 then .string d else .null) := by
  rw [formatDate_default hc] at hd
  cases hm : moment? (c.document 0) with
  | none =>
    rw [hm] at hd
    cases hd
  | some m =>
    rw [hm] at hd
    have htext : String.ofList (Moment.dateText m.date) = d :=
      Document.string.inj (Except.ok.inj hd)
    have hread : moment? (c'.document 0)
        = if m.date.year ≤ 9999 then some ⟨m.date.toDays * 86400⟩ else none := by
      rw [hc', ← htext, moment?_string, String.toList_ofList]
      exact Moment.ofText?_dateText (Date.isReal_ofDays _) (inYears_of_moment? hm)
    refine ⟨m, rfl, ?_⟩
    rw [formatDate_default hdefault, hread]
    have hday : (⟨m.date.toDays * 86400⟩ : Moment).date = m.date := by
      rw [Moment.date_midnight, Moment.date, Date.toDays_ofDays]
    split
    · rw [Option.map_some, Option.getD_some, hday, htext]
    · rfl

/-- The first day of the year 10000, whose text is not read. -/
theorem late_date_is_not_read :
    let call (v : Document) : Call := ⟨[.json v], .null⟩
    formatDate (call (.whole 253402300800000)) = .ok (.string "10000-01-01") ∧
      formatDate (call (.string "10000-01-01")) = .ok .null := by
  decide +kernel

/-- An hour after the year 0 began in one place, the year before it ends in Greenwich. -/
theorem default_dates_read_back_before_zero :
    let call (v : Document) : Call := ⟨[.json v], .null⟩
    let v : Document := .string "0000-01-01T00:30:00+01:00"
    formatDate (call v) = .ok (.string "-001-12-31") ∧
      ∃ m, moment? v = some m ∧ m.date.year ≤ 9999 ∧
        formatDate (call (.string "-001-12-31")) = .ok (.string "-001-12-31") := by
  intro call v
  have hd : formatDate (call v) = .ok (.string "-001-12-31") := by decide +kernel
  have hv : moment? v = some ⟨-62167219200 - 1800⟩ := by decide +kernel
  obtain ⟨m, hm, hread⟩ :=
    @default_dates_read_back (call v) (call (.string "-001-12-31")) _ rfl hd rfl rfl
  cases hv.symm.trans hm
  exact ⟨hd, _, hm, by decide +kernel, hread⟩

end Operation

end Reshape
