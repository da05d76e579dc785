import Mathlib.Data.List.TakeDrop
import Reshape.Proofs.Grammar
import Reshape.Proofs.Splitting

/-!
# Numerals as the grammar has them

`Numeral.scan` uses up a text with a loose numeral exactly when the text spells that
numeral, `spells_iff`. Each part is taken in full and no more because the part after
it starts with another character. `number?` is decided by the numeral then.
-/

namespace Reshape

namespace Expression

namespace Grammar

variable {cs rest : List Char}

/-- The first character, if there is one, is as said. -/
def Opens (P : Char → Prop) (cs : List Char) : Prop := ∀ c ∈ cs.head?, P c

theorem Opens.append {P : Char → Prop} {as bs : List Char} (ha : Opens P as) (hb : Opens P bs) :
    Opens P (as ++ bs) := by
  cases as with
  | nil => exact hb
  | cons a as => exact ha

theorem Opens.mono {P Q : Char → Prop} (h : Opens P cs) (hpq : ∀ c, P c → Q c) : Opens Q cs :=
  fun c hc => hpq c (h c hc)

theorem opens_of_forall {P : Char → Prop} (h : ∀ c ∈ cs, P c) : Opens P cs :=
  fun c hc => h c (List.mem_of_mem_head? hc)

/-- The longest run of a class of characters ends where another character follows. -/
theorem span_append {p : Char → Bool} {as : List Char} (h : ∀ c ∈ as, p c = true)
    (hr : Opens (fun c => p c = false) rest) :
    (as ++ rest).takeWhile p = as ∧ (as ++ rest).dropWhile p = rest := by
  have hrest : rest.takeWhile p = [] ∧ rest.dropWhile p = rest := by
    cases rest with
    | nil => exact ⟨rfl, rfl⟩
    | cons c cs =>
      have hc : ¬ p c = true := by simp [hr c rfl]
      exact ⟨List.takeWhile_cons_of_neg hc, List.dropWhile_cons_of_neg hc⟩
  rw [List.takeWhile_append_of_pos h, List.dropWhile_append_of_pos h, hrest.1, hrest.2,
    List.append_nil]
  exact ⟨rfl, rfl⟩

/-! ## The parts -/

theorem sign_takeSign (cs : List Char) :
    ∃ s, Sign s (Numeral.takeSign cs).1 ∧ cs = s ++ (Numeral.takeSign cs).2 := by
  unfold Numeral.takeSign
  split
  · exact ⟨_, .plus, rfl⟩
  · exact ⟨_, .minus, rfl⟩
  · exact ⟨_, .none, rfl⟩

theorem takeSign_append {s : List Char} {sign : Option Char} (h : Sign s sign)
    (hr : Opens (fun c => c ∉ ['+', '-']) rest) :
    Numeral.takeSign (s ++ rest) = (sign, rest) := by
  cases h with
  | plus => rfl
  | minus => rfl
  | none =>
    show Numeral.takeSign rest = (none, rest)
    unfold Numeral.takeSign
    split
    · exact absurd (by decide) (hr _ rfl)
    · exact absurd (by decide) (hr _ rfl)
    · rfl

theorem takeDigits_eq (cs : List Char) :
    Numeral.takeDigits cs = (cs.takeWhile Digits.isDigit, cs.dropWhile Digits.isDigit) :=
  List.span_eq_takeWhile_dropWhile _ cs

theorem digits_takeDigits (cs : List Char) :
    AllDigits (Numeral.takeDigits cs).1
      ∧ cs = (Numeral.takeDigits cs).1 ++ (Numeral.takeDigits cs).2 := by
  rw [takeDigits_eq]
  exact ⟨fun c hc => List.mem_takeWhile_imp hc, List.takeWhile_append_dropWhile.symm⟩

theorem takeDigits_append {ds : List Char} (h : AllDigits ds)
    (hr : Opens (fun c => Digits.isDigit c = false) rest) :
    Numeral.takeDigits (ds ++ rest) = (ds, rest) := by
  obtain ⟨htake, hdrop⟩ := span_append h hr
  rw [takeDigits_eq, htake, hdrop]

theorem fraction_takeFraction (cs : List Char) :
    ∃ f, Fraction f (Numeral.takeFraction cs).1 ∧ cs = f ++ (Numeral.takeFraction cs).2 := by
  unfold Numeral.takeFraction
  split
  · rename_i cs
    obtain ⟨hd, hcs⟩ := digits_takeDigits cs
    exact ⟨_, .some hd, congrArg _ hcs⟩
  · exact ⟨_, .none, rfl⟩

theorem takeFraction_append {f : List Char} {fraction : Option (List Char)}
    (h : Fraction f fraction) (hr : Opens (fun c => c = 'e' ∨ c = 'E') rest) :
    Numeral.takeFraction (f ++ rest) = (fraction, rest) := by
  cases h with
  | none =>
    show Numeral.takeFraction rest = (none, rest)
    unfold Numeral.takeFraction
    split
    · exact absurd (hr _ rfl) (by decide)
    · rfl
  | some hd =>
    have hdigit : Opens (fun c => Digits.isDigit c = false) rest := hr.mono (by
      rintro c (rfl | rfl) <;> rfl)
    rw [List.cons_append, Numeral.takeFraction, takeDigits_append hd hdigit]

theorem exponent_of_takeExponent {exponent : Option (Option Char × List Char)}
    (h : Numeral.takeExponent cs = (exponent, []))
    (hfull : ∀ sign ds, exponent = some (sign, ds) → ds ≠ []) : Exponent cs exponent := by
  unfold Numeral.takeExponent at h
  split at h
  · rename_i c cs
    split at h
    · rename_i hc
      obtain ⟨s, hs, hcs⟩ := sign_takeSign cs
      obtain ⟨hd, hrest⟩ := digits_takeDigits (Numeral.takeSign cs).2
      simp only [Prod.mk.injEq] at h
      obtain ⟨rfl, hnil⟩ := h
      rw [hnil, List.append_nil] at hrest
      have htext : cs = s ++ (Numeral.takeDigits (Numeral.takeSign cs).2).1 := by rwa [← hrest]
      have hx := Exponent.some hc hs hd (hfull _ _ rfl)
      rwa [← htext] at hx
    · cases h
  · cases h
    exact .none

theorem takeExponent_eq {exponent : Option (Option Char × List Char)} (h : Exponent cs exponent) :
    Numeral.takeExponent cs = (exponent, []) := by
  cases h with
  | none => rfl
  | @some c s ds sign hc hs hd hne =>
    have hopen : Opens (fun c => c ∉ ['+', '-']) ds :=
      opens_of_forall fun c hc => Text.not_mem_of_all_not (by decide) (hd c hc)
    have htake : Numeral.takeDigits ds = (ds, []) := by
      have hend : Opens (fun c => Digits.isDigit c = false) [] := nofun
      simpa using takeDigits_append hd hend
    simp only [Numeral.takeExponent, if_pos hc, takeSign_append hs hopen, htake]

/-! ## The numeral -/

theorem opens_exponent {exponent : Option (Option Char × List Char)} (h : Exponent cs exponent) :
    Opens (fun c => c = 'e' ∨ c = 'E') cs := by
  cases h with
  | none => nofun
  | some hc => exact fun _ he => Option.some.inj he ▸ hc

theorem opens_fraction {f x : List Char} {fraction : Option (List Char)}
    {exponent : Option (Option Char × List Char)} (hf : Fraction f fraction)
    (hx : Exponent x exponent) : Opens (fun c => c ∈ ['.', 'e', 'E']) (f ++ x) := by
  refine Opens.append ?_ ((opens_exponent hx).mono fun c hc => by simp [hc])
  cases hf with
  | none => nofun
  | some => exact fun _ he => Option.some.inj he ▸ by simp

theorem exponentIsFull_iff {n : Numeral} :
    n.exponentIsFull = true ↔ ∀ sign ds, n.exponent = some (sign, ds) → ds ≠ [] := by
  unfold Numeral.exponentIsFull
  split
  · rename_i sign h
    simp [h]
  · rename_i h
    simp only [true_iff]
    rintro sign _ he rfl
    exact h sign he

theorem isLoose_iff {n : Numeral} :
    n.isLoose = true ↔ (n.whole ≠ [] ∨ ∃ ds, n.fraction = some ds ∧ ds ≠ []) ∧
      ∀ sign ds, n.exponent = some (sign, ds) → ds ≠ [] := by
  unfold Numeral.isLoose
  rw [Bool.and_eq_true, exponentIsFull_iff]
  cases n.fraction <;> simp

theorem Exponent.full {exponent : Option (Option Char × List Char)} (h : Exponent cs exponent) :
    ∀ sign ds, exponent = Option.some (sign, ds) → ds ≠ [] := by
  cases h with
  | none => nofun
  | some _ _ _ hne =>
    rintro _ _ ⟨⟩
    exact hne

/-- The scan uses up the texts of the grammar, and no others. -/
theorem spells_iff {n : Numeral} :
    Spells cs n ↔ Numeral.scan cs = (n, []) ∧ n.isLoose = true := by
  constructor
  · rintro ⟨hs, hw, hf, hx, hne⟩
    have hopen := opens_fraction hf hx
    have hpoint (c : Char) (hc : c ∈ ['.', 'e', 'E']) :
        c ∉ ['+', '-'] ∧ Digits.isDigit c = false := by
      simp only [List.mem_cons, List.not_mem_nil, or_false] at hc
      rcases hc with rfl | rfl | rfl
      · decide
      · decide
      · decide
    have hsign := Opens.append (P := fun c => c ∉ ['+', '-'])
      (opens_of_forall fun c hc => Text.not_mem_of_all_not (by decide) (hw c hc))
      (hopen.mono fun c hc => (hpoint c hc).1)
    have hdigit := hopen.mono fun c hc => (hpoint c hc).2
    refine ⟨?_, isLoose_iff.2 ⟨hne, hx.full⟩⟩
    unfold Numeral.scan
    rw [takeSign_append hs hsign]
    dsimp only
    rw [takeDigits_append hw hdigit]
    dsimp only
    rw [takeFraction_append hf (opens_exponent hx)]
    dsimp only
    rw [takeExponent_eq hx]
  · rintro ⟨hscan, hloose⟩
    obtain ⟨s, hs, hcs⟩ := sign_takeSign cs
    obtain ⟨hw, hds⟩ := digits_takeDigits (Numeral.takeSign cs).2
    obtain ⟨f, hf, hfs⟩ := fraction_takeFraction (Numeral.takeDigits (Numeral.takeSign cs).2).2
    unfold Numeral.scan at hscan
    simp only [Prod.mk.injEq] at hscan
    obtain ⟨rfl, hnil⟩ := hscan
    obtain ⟨hne, hfull⟩ := isLoose_iff.1 hloose
    have hx := exponent_of_takeExponent (Prod.ext rfl hnil) hfull
    have hspells := Spells.mk hs hw hf hx hne
    rwa [← hfs, ← hds, ← hcs] at hspells

/-! ## Numbers -/

theorem isWord_iff {n : Numeral} {k : Int} :
    IsWord n k ↔ (n.isWhole && fitsSigned n.toInt) = true ∧ k = n.toInt := by
  have hfits : fitsSigned n.toInt = true
      ↔ -(Nat.pow 2 63 : Nat) ≤ n.toInt ∧ n.toInt < (Nat.pow 2 63 : Nat) :=
    Bool.and_eq_true_iff.trans (and_congr decide_eq_true_iff decide_eq_true_iff)
  simp only [Bool.and_eq_true, Numeral.isWhole, hfits, Option.isNone_iff_eq_none]
  constructor
  · rintro ⟨hf, hx, hlow, hhigh⟩
    exact ⟨⟨⟨hf, hx⟩, hlow, hhigh⟩, rfl⟩
  · rintro ⟨⟨⟨hf, hx⟩, hlow, hhigh⟩, rfl⟩
    exact ⟨hf, hx, hlow, hhigh⟩

theorem number?_of_spells {n : Numeral} (h : Spells cs n) :
    number? cs = if n.isWhole && fitsSigned n.toInt then some (.ok (.whole n.toInt))
      else match n.toDecimal.toExtended with
        | .finite d => some (.ok (.double d))
        | _ => some (.error (.numberOutOfRange cs)) := by
  obtain ⟨hscan, hloose⟩ := spells_iff.1 h
  unfold number?
  rw [hscan]
  exact if_pos (by simp [hloose])

/-- Only a spelled numeral can be a number. -/
theorem spells_of_number? {r : Except Fault Number} (h : number? cs = some r) :
    ∃ n, Spells cs n := by
  unfold number? at h
  dsimp only at h
  split at h
  · rename_i hc
    rw [Bool.and_eq_true, List.isEmpty_iff] at hc
    exact ⟨_, spells_iff.2 ⟨Prod.ext rfl hc.1, hc.2⟩⟩
  · cases h

theorem number?_eq_ok_iff {k : Number} : number? cs = some (.ok k) ↔ IsNumber cs k := by
  constructor
  · intro h
    obtain ⟨n, hn⟩ := spells_of_number? h
    rw [number?_of_spells hn] at h
    split at h
    · rename_i hw
      cases h
      exact .word hn (isWord_iff.2 ⟨hw, rfl⟩)
    · rename_i hw
      split at h
      · rename_i d hd
        cases h
        exact .double hn (fun k hk => hw (isWord_iff.1 hk).1) hd
      · cases h
  · rintro (⟨hn, hk⟩ | ⟨hn, hk, hd⟩)
    · obtain ⟨hw, rfl⟩ := isWord_iff.1 hk
      rw [number?_of_spells hn, if_pos hw]
    · rw [number?_of_spells hn, if_neg fun hw => hk _ (isWord_iff.2 ⟨hw, rfl⟩), hd]

/-- A text that spells nothing is no number. -/
theorem number?_eq_none (h : ∀ n, ¬ Spells cs n) : number? cs = none := by
  cases hr : number? cs with
  | none => rfl
  | some r =>
    obtain ⟨n, hn⟩ := spells_of_number? hr
    exact absurd hn (h n)

/-! ## Characters of numerals -/

/-- The characters of numerals. -/
def IsNumeralChar (c : Char) : Prop := Digits.isDigit c = true ∨ c ∈ ['+', '-', '.', 'e', 'E']

instance : DecidablePred IsNumeralChar := fun _ => inferInstanceAs (Decidable (_ ∨ _))

theorem Sign.isNumeralChar {sign : Option Char} (h : Sign cs sign) :
    ∀ c ∈ cs, IsNumeralChar c := by
  cases h <;> simp [IsNumeralChar]

theorem Spells.isNumeralChar {n : Numeral} (h : Spells cs n) : ∀ c ∈ cs, IsNumeralChar c := by
  obtain ⟨hs, hw, hf, hx, -⟩ := h
  simp only [List.forall_mem_append]
  refine ⟨hs.isNumeralChar, fun c hc => .inl (hw c hc), ?_, ?_⟩
  · cases hf with
    | none => nofun
    | some hd => exact List.forall_mem_cons.2 ⟨by simp [IsNumeralChar], fun c hc => .inl (hd c hc)⟩
  · cases hx with
    | none => nofun
    | some hc hs hd _ =>
      refine List.forall_mem_cons.2 ⟨.inr (by simp [hc]), ?_⟩
      exact List.forall_mem_append.2 ⟨hs.isNumeralChar, fun c hc => .inl (hd c hc)⟩

/-- A numeral starts with a digit, a sign or a point. -/
theorem Spells.exists_head {n : Numeral} (h : Spells cs n) :
    ∃ c ∈ cs.head?, Digits.isDigit c = true ∨ c ∈ ['+', '-', '.'] := by
  obtain ⟨hs, hw, hf, hx, hne⟩ := h
  cases hs with
  | plus => exact ⟨_, rfl, .inr (by decide)⟩
  | minus => exact ⟨_, rfl, .inr (by decide)⟩
  | none =>
    rename_i w f x fraction exponent
    cases w with
    | cons c cs => exact ⟨c, rfl, .inl (hw c (List.mem_cons_self ..))⟩
    | nil =>
      cases hf with
      | some => exact ⟨_, rfl, .inr (by decide)⟩
      | none => simp at hne

end Grammar

end Expression

end Reshape
