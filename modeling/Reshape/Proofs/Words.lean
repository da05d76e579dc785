import Mathlib.Data.Bool.AllAny
import Reshape.Proofs.SelectorGrammar

/-!
# Words that a scan passes over

Names, quoted strings and selectors hold no separator that counts, and no blank at
either end. Each is what the reader of terms makes of it: `identifier?_append`,
`stringBody_append`, `Selector.read_source`.
-/

namespace Reshape

namespace Text

/-! ## Characters of names -/

/-- No code point lies in both tables. -/
def apart (as bs : List (Nat × Nat)) : Bool :=
  as.all fun a => bs.all fun b => a.2.blt b.1 || b.2.blt a.1

theorem not_inRanges_of_apart {as bs : List (Nat × Nat)} (h : apart as bs = true) {c : Char}
    (hc : inRanges as c = true) : inRanges bs c = false := by
  obtain ⟨a, ha, hac⟩ := List.any_eq_true.1 hc
  refine List.any_eq_false.2 fun b hb hbc => ?_
  have hab := List.all_eq_true.1 (List.all_eq_true.1 h a ha) b hb
  simp only [Bool.and_eq_true, Bool.or_eq_true, decide_eq_true_eq, Nat.blt_eq] at hac hbc hab
  omega

/-- The visible ASCII characters and the tables of the other names. -/
def nameRanges : List (Nat × Nat) :=
  (0x21, 0x7e) :: (letterRanges ++ (decimalRanges ++ otherNumberRanges))

theorem apart_nameRanges : apart nameRanges blankRanges = true := by decide +kernel

theorem isAlpha_iff (c : Char) : c.isAlpha = true ↔
    (65 ≤ c.toNat ∧ c.toNat ≤ 90) ∨ (97 ≤ c.toNat ∧ c.toNat ≤ 122) := by
  have hupper : c.isUpper = true ↔ 65 ≤ c.toNat ∧ c.toNat ≤ 90 := decide_eq_true_iff
  have hlower : c.isLower = true ↔ 97 ≤ c.toNat ∧ c.toNat ≤ 122 :=
    Bool.and_eq_true_iff.trans (and_congr decide_eq_true_iff decide_eq_true_iff)
  exact Bool.or_eq_true_iff.trans (or_congr hupper hlower)

theorem inRanges_nameRanges {c : Char} (h : isNameChar c = true) : inRanges nameRanges c = true := by
  simp only [isNameChar, isAlphanumeric, isLetter, isNumeric, Bool.or_eq_true, beq_iff_eq] at h
  simp only [nameRanges, inRanges, List.any_cons, List.any_append, Bool.or_eq_true] at h ⊢
  rcases h with (((h | h) | h | h) | rfl) | rfl
  · left
    have hc := (isAlpha_iff c).1 h
    simp only [Bool.and_eq_true, decide_eq_true_eq]
    omega
  · exact .inr (.inl h)
  · exact .inr (.inr (.inl h))
  · exact .inr (.inr (.inr h))
  · exact .inl (by decide)
  · exact .inl (by decide)

theorem not_isBlank_of_isNameChar {c : Char} (h : isNameChar c = true) : isBlank c = false :=
  not_inRanges_of_apart apart_nameRanges (inRanges_nameRanges h)

theorem not_special_of_isNameChar {c : Char} (h : isNameChar c = true) : c ∉ Scan.special :=
  not_mem_of_all_not (by decide +kernel) h

theorem isNameChar_of_isIdentifierRest {c : Char} (h : isIdentifierRest c = true) :
    isNameChar c = true := by
  unfold isNameChar
  rw [Bool.or_eq_true]
  exact .inl h

theorem isIdentifierRest_of_isIdentifierStart {c : Char} (h : isIdentifierStart c = true) :
    isIdentifierRest c = true := by
  simp only [isIdentifierStart, isIdentifierRest, isAlphanumeric, isLetter, Bool.or_eq_true] at h ⊢
  exact h.imp (fun h => .inl (.inl h)) id

end Text

/-! ## Texts of ordinary characters -/

namespace Scan

open Text (Tight)

variable {separator : Char}

/-- Neither blank nor looked at by a scan. -/
def Ordinary (c : Char) : Prop := Text.isBlank c = false ∧ c ∉ special

instance (c : Char) : Decidable (Ordinary c) := inferInstanceAs (Decidable (_ ∧ _))

theorem ordinary_of_isNameChar {c : Char} (h : Text.isNameChar c = true) : Ordinary c :=
  ⟨Text.not_isBlank_of_isNameChar h, Text.not_special_of_isNameChar h⟩

theorem isDigit_iff (c : Char) : Digits.isDigit c = true ↔ 48 ≤ c.toNat ∧ c.toNat ≤ 57 :=
  Bool.and_eq_true_iff.trans (and_congr decide_eq_true_iff decide_eq_true_iff)

theorem ordinary_of_isDigit {c : Char} (h : Digits.isDigit c = true) : Ordinary c := by
  constructor
  · refine Text.not_inRanges_of_apart Text.apart_nameRanges ?_
    have hdigit := (isDigit_iff c).1 h
    simp only [Text.nameRanges, Text.inRanges, List.any_cons, Bool.or_eq_true, Bool.and_eq_true,
      decide_eq_true_eq]
    omega
  · exact Text.not_mem_of_all_not (by decide) h

theorem ordinary_of_all {cs : List Char} (h : (cs.all fun c => decide (Ordinary c)) = true) :
    ∀ c ∈ cs, Ordinary c := List.all_iff_forall_prop.1 h

theorem tight_of_ordinary {cs : List Char} (h : ∀ c ∈ cs, Ordinary c) (hne : cs ≠ []) :
    Tight cs :=
  ⟨⟨_, List.head?_eq_some_head hne, (h _ (List.head_mem hne)).1⟩,
    _, List.getLast?_eq_some_getLast hne, (h _ (List.getLast_mem hne)).1⟩

theorem unbroken_of_ordinary (hs : separator ∈ special) {cs : List Char}
    (h : ∀ c ∈ cs, Ordinary c) : Unbroken separator cs :=
  skim?_of_not_special hs (fun c hc => (h c hc).2) 0

end Scan

namespace Expression

namespace Grammar

open Text (Tight)
open Scan (Unbroken Ordinary)

/-! ## Names -/

theorem Name.ne_nil {f : List Char} (h : Name f) : f ≠ [] := by
  cases h
  exact List.cons_ne_nil _ _

theorem Name.isIdentifierRest {f : List Char} (h : Name f) :
    ∀ c ∈ f, Text.isIdentifierRest c = true := by
  obtain ⟨hc, hcs⟩ := h
  exact List.forall_mem_cons.2 ⟨Text.isIdentifierRest_of_isIdentifierStart hc, hcs⟩

theorem Name.ordinary {f : List Char} (h : Name f) : ∀ c ∈ f, Ordinary c := fun c hc =>
  Scan.ordinary_of_isNameChar (Text.isNameChar_of_isIdentifierRest (h.isIdentifierRest c hc))

theorem name_of_identifier? {cs f rest : List Char} (h : identifier? cs = some (f, rest)) :
    Name f ∧ cs = f ++ rest := by
  unfold identifier? at h
  split at h
  · cases h
  · split at h
    · rename_i hc
      cases h
      exact ⟨.mk hc fun x hx => List.mem_takeWhile_imp hx,
        congrArg _ List.takeWhile_append_dropWhile.symm⟩
    · cases h

/-- An identifier is read up to the character that cannot go on in it. -/
theorem identifier?_append {f rest : List Char} (h : Name f)
    (hr : Opens (fun c => Text.isIdentifierRest c = false) rest) :
    identifier? (f ++ rest) = some (f, rest) := by
  obtain ⟨hc, hcs⟩ := h
  obtain ⟨htake, hdrop⟩ := span_append hcs hr
  rw [List.cons_append, identifier?, if_pos hc, htake, hdrop]

/-! ## Quoted strings -/

theorem escape_iff {c x : Char} : Escape c x ↔ x = unescape c := by
  constructor
  · rintro (_ | _ | _ | h)
    · rfl
    · rfl
    · rfl
    · simp only [List.mem_cons, List.not_mem_nil, or_false, not_or] at h
      simp [unescape, h]
  · rintro rfl
    unfold unescape
    split
    · rename_i hc
      exact hc ▸ .lineBreak
    · split
      · rename_i hc
        exact hc ▸ .tab
      · split
        · rename_i hc
          exact hc ▸ .carriageReturn
        · exact .other (by simp [*])

theorem stringBody_cons {quote c : Char} (hb : c ≠ '\\') (cs : List Char) :
    stringBody quote (c :: cs)
      = if c = quote then if cs.isEmpty then .ok [] else .error (.textAfterString cs)
        else (stringBody quote cs).map (c :: ·) := by
  rw [stringBody]
  · exact fun h _ => hb h
  · exact fun _ _ h _ => hb h

/-- Up to the quote that ends it, a string is read as what it stands for. -/
theorem stringBody_append {quote : Char} (hq : quote ≠ '\\') {body s : List Char}
    (h : Quoted quote body s) : stringBody quote (body ++ [quote]) = .ok s := by
  induction h with
  | nil =>
    rw [List.nil_append, stringBody_cons hq, if_pos rfl]
    rfl
  | plain hc hb _ ih =>
    rw [List.cons_append, stringBody_cons hb, if_neg hc, ih]
    rfl
  | escaped hx _ ih =>
    rw [List.cons_append, List.cons_append, stringBody, ih, escape_iff.1 hx]
    rfl

theorem quoted_of_stringBody {quote : Char} (hq : quote ≠ '\\') {cs s : List Char}
    (h : stringBody quote cs = .ok s) : ∃ body, cs = body ++ [quote] ∧ Quoted quote body s := by
  induction cs using stringBody.induct quote generalizing s with
  | case1 => cases h
  | case2 => cases h
  | case3 c cs ih =>
    obtain ⟨t, ht, rfl⟩ := map_eq_ok_iff.1 h
    obtain ⟨body, rfl, hbody⟩ := ih ht
    exact ⟨'\\' :: c :: body, rfl, .escaped (escape_iff.2 rfl) hbody⟩
  | case4 cs hend =>
    obtain rfl := List.isEmpty_iff.1 hend
    rw [stringBody_cons hq, if_pos rfl] at h
    cases h
    exact ⟨[], rfl, .nil⟩
  | case5 cs hend =>
    rw [stringBody_cons hq, if_pos rfl, if_neg hend] at h
    cases h
  | case6 c cs hnil hcons hc ih =>
    have hb : c ≠ '\\' := by
      intro hb
      cases cs with
      | nil => exact hnil hb rfl
      | cons d ds => exact hcons d ds hb rfl
    rw [stringBody_cons hb, if_neg hc] at h
    obtain ⟨t, ht, rfl⟩ := map_eq_ok_iff.1 h
    obtain ⟨body, rfl, hbody⟩ := ih ht
    exact ⟨c :: body, rfl, .plain hc hb hbody⟩

/-- Within quotes no separator counts. -/
theorem skim?_quoted {separator quote : Char} {body s : List Char} (h : Quoted quote body s)
    (depth : Nat) :
    Scan.skim? separator ⟨.within quote, depth⟩ body = some ⟨.within quote, depth⟩ := by
  induction h with
  | nil => rfl
  | @plain c body s hc hb _ ih =>
    have hnext : Scan.next? ⟨.within quote, depth⟩ c = some ⟨.within quote, depth⟩ := by
      simp [Scan.next?, hc, hb]
    rw [Scan.skim?, if_neg (by simp [Scan.isTop]), hnext]
    exact ih
  | escaped _ _ ih =>
    rw [Scan.skim?, if_neg (by simp [Scan.isTop])]
    show Scan.skim? separator ⟨.afterBackslash quote, depth⟩ _ = _
    rw [Scan.skim?, if_neg (by simp [Scan.isTop])]
    exact ih

theorem unbroken_string {separator quote : Char} (hs : separator ≠ quote)
    (hq : quote = '\'' ∨ quote = '"') {body s : List Char} (h : Quoted quote body s) :
    Unbroken separator (quote :: (body ++ [quote])) := by
  have hopen : Scan.next? Scan.start quote = some ⟨.within quote, 0⟩ := by
    simp [Scan.next?, Scan.start, hq]
  have hclose : Scan.skim? separator ⟨.within quote, 0⟩ [quote] = some Scan.start := by
    rw [Scan.skim?, if_neg (by simp [Scan.isTop])]
    rcases hq with rfl | rfl <;> rfl
  unfold Unbroken
  rw [Scan.skim?, if_neg fun h => hs h.1.symm, hopen]
  show Scan.skim? separator _ (body ++ [quote]) = _
  rw [Scan.skim?_append, skim?_quoted h]
  exact hclose

theorem tight_string {quote : Char} (hq : quote = '\'' ∨ quote = '"') (body : List Char) :
    Tight (quote :: (body ++ [quote])) := by
  have hb : Text.isBlank quote = false := by
    rcases hq with rfl | rfl <;> decide
  refine ⟨⟨quote, rfl, hb⟩, quote, ?_, hb⟩
  rw [← List.cons_append, List.getLast?_concat]
  rfl

end Grammar

end Expression

/-! ## Selectors -/

namespace Selector

open Text (Tight)
open Scan (Ordinary)

variable {steps : List Step} {cs text : List Char}

theorem ordinary_of_spells {step : Step} (h : step.Spells text) : ∀ c ∈ text, Ordinary c := by
  cases h with
  | property h =>
    exact List.forall_mem_cons.2 ⟨by decide, fun c hc => Scan.ordinary_of_isNameChar (h c hc)⟩
  | index h =>
    refine List.forall_mem_cons.2 ⟨by decide, List.forall_mem_append.2 ⟨?_, ?_⟩⟩
    · exact fun c hc => Scan.ordinary_of_isDigit (h c hc)
    · exact Scan.ordinary_of_all (by decide)
  | every => exact Scan.ordinary_of_all (by decide)

theorem SpellsSteps.ordinary (h : SpellsSteps steps cs) : ∀ c ∈ cs, Ordinary c := by
  induction h with
  | nil => nofun
  | cons h _ _ ih => exact List.forall_mem_append.2 ⟨ordinary_of_spells h, ih⟩

theorem Spells.ordinary (h : Spells steps cs) : ∀ c ∈ cs, Ordinary c := by
  obtain ⟨h⟩ := h
  exact List.forall_mem_cons.2 ⟨by decide, h.ordinary⟩

/-- The text of a selector has no blanks around it. -/
theorem Spells.tight (h : Spells steps cs) : Tight cs := by
  refine Scan.tight_of_ordinary h.ordinary ?_
  obtain ⟨h⟩ := h
  exact List.cons_ne_nil _ _

/-- A selector is read from the text that it keeps, which starts with a dollar sign and
has ordinary characters only. -/
theorem read_source {text : String} {path : Selector} (h : read text = .ok path) :
    path.source.toList = Text.trim text.toList ∧ path.source.toList.head? = some '$' ∧
      (∀ c ∈ path.source.toList, Ordinary c) ∧ read path.source = .ok path := by
  obtain ⟨hsource, hspells⟩ := read_eq_ok_iff.1 h
  rw [← hsource] at hspells
  refine ⟨hsource, ?_, hspells.ordinary, read_eq_ok_iff.2 ?_⟩
  · generalize path.source.toList = cs at hspells
    cases hspells
    rfl
  · rw [Text.trim_of_tight hspells.tight]
    exact ⟨rfl, hspells⟩

end Selector

end Reshape
