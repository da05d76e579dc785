import Reshape.Decimal.Layout
import Reshape.Proofs.Numerals
import Reshape.Proofs.ShortestDecimal

/-!
# The numerals that a layout writes

The text of a decimal spells a numeral for the same number, with at most some zeros more:
`Layout.exists_spells`. A layout that keeps the point never writes one that looks whole.
-/

namespace Reshape

namespace Digits

theorem value_append (as bs : List Char) :
    value (as ++ bs) = value as * 10 ^ bs.length + value bs := by
  induction bs using List.reverseRecOn with
  | nil => simp [value]
  | append_singleton bs b ih =>
    rw [← List.append_assoc, value_concat, value_concat, ih, List.length_append, List.length_singleton,
      Nat.pow_succ]
    ring

theorem value_replicate (n : Nat) : value (List.replicate n '0') = 0 := by
  induction n with
  | zero => rfl
  | succ n ih =>
    rw [List.replicate_succ', value_concat, ih]
    rfl

theorem value_append_replicate (cs : List Char) (n : Nat) :
    value (cs ++ List.replicate n '0') = value cs * 10 ^ n := by
  rw [value_append, value_replicate, List.length_replicate, Nat.add_zero]

theorem value_replicate_append (n : Nat) (cs : List Char) :
    value (List.replicate n '0' ++ cs) = value cs := by
  rw [value_append, value_replicate, Nat.zero_mul, Nat.zero_add]

end Digits

namespace Expression.Grammar

theorem AllDigits.append {as bs : List Char} (ha : AllDigits as) (hb : AllDigits bs) :
    AllDigits (as ++ bs) := List.forall_mem_append.2 ⟨ha, hb⟩

theorem Spells.minus {cs : List Char} {n : Numeral} (h : Spells cs n) (hs : n.sign = none) :
    Spells ('-' :: cs) { n with sign := some '-' } := by
  obtain ⟨hsign, hw, hf, hx, hne⟩ := h
  obtain rfl : _ = none := hs
  cases hsign
  exact .mk .minus hw hf hx hne

end Expression.Grammar

namespace Layout

open Expression.Grammar

theorem allDigits_ofNat (n : Nat) : AllDigits (Digits.ofNat n) :=
  fun _ hc => Digits.isDigit_of_mem_ofNat hc

theorem allDigits_replicate (n : Nat) : AllDigits (List.replicate n '0') := by
  intro c hc
  rw [List.eq_of_mem_replicate hc]
  rfl

/-- The text spells a numeral without sign, which does not look whole, for the absolute
value with some zeros behind its digits. -/
inductive Writes (d : Decimal) : List Char → Prop where
  | mk {cs : List Char} {n : Numeral} (zeros : Nat) (h : Spells cs n) (hs : n.sign = none)
      (hw : n.isWhole = false)
      (hv : Digits.value (n.whole ++ n.fraction.getD []) = d.digits * 10 ^ zeros)
      (he : n.exponentValue - (n.fraction.getD []).length = d.exponent - zeros) : Writes d cs

theorem writes_pointed {d : Decimal} {whole fraction : List Char} (zeros : Nat)
    (hw : AllDigits whole) (hf : AllDigits fraction) (hne : whole ≠ [] ∨ fraction ≠ [])
    (hv : Digits.value (whole ++ fraction) = d.digits * 10 ^ zeros)
    (he : -(fraction.length : Int) = d.exponent - zeros) : Writes d (whole ++ '.' :: fraction) := by
  have hspells := Spells.mk .none hw (.some hf) .none (hne.imp id fun h => ⟨_, rfl, h⟩)
  rw [List.nil_append, List.append_nil] at hspells
  refine .mk zeros hspells rfl rfl hv ?_
  simpa only [Numeral.exponentValue, Option.getD_some, Int.zero_sub] using he

/-- In places the point stands behind the units, and there is always one. -/
theorem writes_inPlaces (d : Decimal) {ds : List Char} (hds : AllDigits ds) (hne : ds ≠ [])
    (hvalue : Digits.value ds = d.digits) :
    Writes d (inPlaces true ds (d.exponent + ds.length - 1)) := by
  have hlength := List.length_pos_of_ne_nil hne
  generalize htop : d.exponent + (ds.length : Int) - 1 = top
  unfold inPlaces
  by_cases hneg : top < 0
  · rw [if_pos hneg]
    have hfraction := (allDigits_replicate (-top - 1).toNat).append hds
    refine writes_pointed 0 (allDigits_replicate 1) hfraction (.inl (List.cons_ne_nil _ _)) ?_ ?_
    · rw [Digits.value_replicate_append, Digits.value_replicate_append, hvalue, Nat.pow_zero,
        Nat.mul_one]
    · rw [List.length_append, List.length_replicate]
      omega
  · rw [if_neg hneg]
    dsimp only
    generalize hwide : (top + 1).toNat = wide
    split
    · rename_i hdrop
      have hle : ds.length ≤ wide := List.drop_eq_nil_iff.1 hdrop
      rw [List.take_of_length_le hle]
      have hwhole := hds.append (allDigits_replicate (wide - ds.length))
      refine writes_pointed (wide - ds.length + 1) hwhole (allDigits_replicate 1)
        (.inl (List.append_ne_nil_of_left_ne_nil hne _)) ?_ ?_
      · rw [List.append_assoc, ← List.replicate_succ', Digits.value_append_replicate, hvalue]
      · rw [List.length_singleton]
        omega
    · rename_i hdrop
      have hlt : wide < ds.length := Nat.lt_of_not_le fun hle => hdrop (List.drop_eq_nil_iff.2 hle)
      rw [Nat.sub_eq_zero_of_le hlt.le, List.replicate_zero, List.append_nil]
      have hwhole : AllDigits (ds.take wide) := fun c hc => hds c (List.mem_of_mem_take hc)
      have hfraction : AllDigits (ds.drop wide) := fun c hc => hds c (List.mem_of_mem_drop hc)
      refine writes_pointed 0 hwhole hfraction (.inr hdrop) ?_ ?_
      · rw [List.take_append_drop, hvalue, Nat.pow_zero, Nat.mul_one]
      · rw [List.length_drop]
        omega

theorem exists_exponent (top : Int) :
    ∃ sign, Exponent ((if top < 0 then ['e', '-'] else ['e', '+']) ++ Digits.ofNat top.natAbs)
        (some (sign, Digits.ofNat top.natAbs)) ∧
      ∀ whole fraction, Numeral.exponentValue
        ⟨none, whole, fraction, some (sign, Digits.ofNat top.natAbs)⟩ = top := by
  have hds := allDigits_ofNat top.natAbs
  have hne := Digits.ofNat_ne_nil top.natAbs
  by_cases hneg : top < 0
  · rw [if_pos hneg]
    refine ⟨some '-', .some (.inl rfl) .minus hds hne, fun _ _ => ?_⟩
    show -(Digits.value (Digits.ofNat top.natAbs) : Int) = top
    rw [Digits.value_ofNat]
    omega
  · rw [if_neg hneg]
    refine ⟨some '+', .some (.inl rfl) .plus hds hne, fun _ _ => ?_⟩
    show (Digits.value (Digits.ofNat top.natAbs) : Int) = top
    rw [Digits.value_ofNat]
    omega

/-- With an exponent the point stands behind the first digit, if there are more. -/
theorem writes_withExponent (d : Decimal) {ds : List Char} (hds : AllDigits ds) (hne : ds ≠ [])
    (hvalue : Digits.value ds = d.digits) :
    Writes d (withExponent ds (d.exponent + ds.length - 1)) := by
  generalize htop : d.exponent + (ds.length : Int) - 1 = top
  obtain ⟨sign, hexponent, hexponentValue⟩ := exists_exponent top
  unfold withExponent
  dsimp only
  split
  · exact absurd rfl hne
  · rename_i c
    have hspells := Spells.mk .none hds .none hexponent (.inl hne)
    refine .mk 0 hspells rfl rfl ?_ ?_
    · show Digits.value [c] = _
      rw [hvalue, Nat.pow_zero, Nat.mul_one]
    · rw [hexponentValue, ← htop]
      simp
  · rename_i c fraction _
    have hfirst : AllDigits [c] := fun x hx => hds x (List.mem_cons.2 (.inl (List.mem_singleton.1 hx)))
    have hfraction : Fraction _ _ := .some fun x hx => hds x (List.mem_cons_of_mem c hx)
    have hspells := Spells.mk .none hfirst hfraction hexponent (.inl (List.cons_ne_nil _ _))
    refine .mk 0 (by simpa using hspells) rfl rfl ?_ ?_
    · show Digits.value (c :: fraction) = _
      rw [hvalue, Nat.pow_zero, Nat.mul_one]
    · rw [hexponentValue, ← htop]
      simp only [Option.getD_some, List.length_cons]
      omega

/-- A layout that keeps the point writes the number, in a numeral that does not look
whole. -/
theorem exists_spells {l : Layout} (hl : l.keepsPoint = true) (d : Decimal) :
    ∃ n zeros, Spells (l.decimal d) n ∧ n.isWhole = false ∧ n.toDecimal = d.widen zeros := by
  have hds := allDigits_ofNat d.digits
  have hvalue := Digits.value_ofNat d.digits
  have hne := Digits.ofNat_ne_nil d.digits
  have hwrites : Writes d (l.unsigned (Digits.ofNat d.digits)
      (d.exponent + (Digits.ofNat d.digits).length - 1)) := by
    unfold unsigned
    rw [hl]
    split
    · exact writes_inPlaces d hds hne hvalue
    · split
      · exact writes_inPlaces d hds hne hvalue
      · exact writes_withExponent d hds hne hvalue
  unfold decimal
  dsimp only
  generalize l.unsigned _ _ = body at hwrites ⊢
  obtain @⟨n, zeros, hspells, hs, hw, hv, he⟩ := hwrites
  by_cases hnegative : d.negative = true
  · rw [if_pos hnegative]
    refine ⟨_, zeros, hspells.minus hs, hw, ?_⟩
    rw [Decimal.widen, ← hv, ← he, hnegative]
    rfl
  · rw [if_neg hnegative]
    refine ⟨n, zeros, hspells, hw, ?_⟩
    rw [Decimal.widen, ← hv, ← he, Bool.eq_false_iff.2 hnegative, Numeral.toDecimal,
      Numeral.isNegative, hs]
    rfl

/-- The text of a double spells a numeral that does not look whole and is rounded to the
double. -/
theorem exists_spells_text {l : Layout} (hl : l.keepsPoint = true) (d : Double) :
    ∃ n, Spells (l.text d) n ∧ n.isWhole = false ∧ n.toDecimal.toExtended = .finite d := by
  obtain ⟨n, zeros, hspells, hw, hn⟩ := exists_spells hl (d.shortest l.tie)
  refine ⟨n, hspells, hw, ?_⟩
  rw [hn, Decimal.toExtended_widen, Double.toExtended_shortest]

end Layout

end Reshape
