import Mathlib.Data.List.Induction
import Reshape.Proofs.Words

/-!
# Selectors and their texts

Steps are written as a text that reads as the same steps, if they can be written at all. The
text that a selector was read from is that text, up to leading zeros of its indexes. Together
with the grammar this makes selectors and their texts correspond: `Selector.text_corresponds`.
-/

namespace Reshape

open Expression.Grammar (AllDigits Opens)

/-! ## Digits without leading zeros -/

namespace Digits

theorem digit_valueOf {c : Char} (h : isDigit c = true) : digit (valueOf c) = c := by
  obtain ⟨hlow, hhigh⟩ := (Scan.isDigit_iff c).1 h
  have hcode : 48 + (c.toNat - 48) % 10 = c.toNat := by omega
  unfold digit valueOf
  rw [hcode, Char.ofNat_toNat]

theorem valueOf_lt {c : Char} (h : isDigit c = true) : valueOf c < 10 := by
  obtain ⟨-, hhigh⟩ := (Scan.isDigit_iff c).1 h
  unfold valueOf
  omega

theorem digit_add (n k : Nat) : digit (10 * n + k) = digit k := by
  unfold digit
  rw [Nat.mul_add_mod]

theorem ofNat_value_singleton {c : Char} (h : isDigit c = true) : ofNat (value [c]) = [c] := by
  have hvalue : value [c] = valueOf c := by simp [value]
  rw [hvalue, ofNat, if_pos (valueOf_lt h), digit_valueOf h]

theorem value_zero_cons (cs : List Char) : value ('0' :: cs) = value cs := rfl

/-- Digits that do not start with a zero are what is written for their value. -/
theorem ofNat_value {c : Char} {cs : List Char} (h : AllDigits (c :: cs)) (hc : c ≠ '0') :
    ofNat (value (c :: cs)) = c :: cs := by
  induction cs using List.reverseRecOn with
  | nil => exact ofNat_value_singleton (h c (.head _))
  | append_singleton cs d ih =>
    rw [← List.cons_append] at h ⊢
    obtain ⟨hcs, hd⟩ := List.forall_mem_append.1 h
    have hdigit := hd d (List.mem_singleton.2 rfl)
    have hrest := ih hcs
    have hpos : value (c :: cs) ≠ 0 := by
      intro hzero
      rw [hzero, ofNat] at hrest
      exact hc (List.cons.inj hrest).1.symm
    have hlast := valueOf_lt hdigit
    have hdiv : (10 * value (c :: cs) + valueOf d) / 10 = value (c :: cs) := by omega
    rw [value_concat, ofNat, if_neg (by omega), hdiv, hrest, digit_add, digit_valueOf hdigit]

end Digits

/-- There is a text for the step: a name has characters, all of them name characters, and an
index has 64 bits. -/
def Step.CanBeWritten : Step → Prop
  | .property name => name ≠ "" ∧ ∀ c ∈ name.toList, Text.isNameChar c = true
  | .index n => n < 2 ^ 64
  | .every => True

namespace Selector

variable {step : Step} {steps : List Step} {cs text : List Char}

/-- The text without the zeros that stand before another digit, directly behind a bracket or
behind such zeros. -/
def withoutZeros (behindBracket : Bool) : List Char → List Char
  | [] => []
  | c :: cs =>
    if behindBracket && c == '0' && cs.head?.any Digits.isDigit then withoutZeros true cs
    else c :: withoutZeros (c == '[') cs

/-! ## Printing what was read -/

theorem withoutZeros_append (h : '[' ∉ cs) (rest : List Char) :
    withoutZeros false (cs ++ rest) = cs ++ withoutZeros false rest := by
  induction cs with
  | nil => rfl
  | cons c cs ih =>
    obtain ⟨hc, hcs⟩ := not_or.1 (mt List.mem_cons.2 h)
    have hplain : (c == '[') = false := beq_false_of_ne (Ne.symm hc)
    rw [List.cons_append, withoutZeros, Bool.false_and, Bool.false_and, if_neg Bool.false_ne_true,
      hplain, ih hcs, List.cons_append]

theorem bracket_not_mem_of_allDigits (h : AllDigits cs) : '[' ∉ cs :=
  fun hc => absurd (h _ hc) (by decide)

theorem withoutZeros_digits {ds : List Char} (h : AllDigits ds) (hne : ds ≠ [])
    (rest : List Char) :
    withoutZeros true (ds ++ ']' :: rest)
      = Digits.ofNat (Digits.value ds) ++ ']' :: withoutZeros false rest := by
  have hclose : withoutZeros false (']' :: rest) = ']' :: withoutZeros false rest := rfl
  induction ds with
  | nil => exact absurd rfl hne
  | cons d ds ih =>
    have hds : AllDigits ds := fun c hc => h c (.tail _ hc)
    have hplain : (d == '[') = false :=
      beq_false_of_ne fun hd => bracket_not_mem_of_allDigits h (hd ▸ .head _)
    rw [List.cons_append, withoutZeros]
    by_cases hzero : d = '0' ∧ ds ≠ []
    · obtain ⟨rfl, hds'⟩ := hzero
      obtain ⟨e, es, rfl⟩ := List.exists_cons_of_ne_nil hds'
      rw [if_pos, ih hds hds', Digits.value_zero_cons]
      simpa using h e (.tail _ (.head _))
    · have hwritten : Digits.ofNat (Digits.value (d :: ds)) = d :: ds := by
        by_cases hd : d = '0'
        · obtain rfl : ds = [] := by
            by_contra hds'
            exact hzero ⟨hd, hds'⟩
          exact Digits.ofNat_value_singleton (h d (.head _))
        · exact Digits.ofNat_value h hd
      rw [if_neg, hplain, withoutZeros_append (bracket_not_mem_of_allDigits hds), hclose, hwritten,
        List.cons_append]
      rintro hdrop
      simp only [Bool.true_and, Bool.and_eq_true, beq_iff_eq] at hdrop
      obtain ⟨rfl, hnext⟩ := hdrop
      cases ds with
      | nil => cases hnext
      | cons e es => exact hzero ⟨rfl, List.cons_ne_nil _ _⟩

theorem withoutZeros_step (h : step.Spells text) (rest : List Char) :
    withoutZeros false (text ++ rest) = step.render ++ withoutZeros false rest := by
  cases h with
  | @property name h =>
    have hplain : '[' ∉ '.' :: name := by
      refine mt List.mem_cons.1 (not_or.2 ⟨by decide, fun hc => ?_⟩)
      exact absurd (h _ hc) (by decide +kernel)
    rw [withoutZeros_append hplain, Step.render, String.toList_ofList]
  | index h hne =>
    have hopen : ∀ cs, withoutZeros false ('[' :: cs) = '[' :: withoutZeros true cs := fun _ => rfl
    rw [List.cons_append, hopen, List.append_assoc, List.singleton_append,
      withoutZeros_digits h hne, Step.render]
    simp
  | every => rfl

theorem withoutZeros_steps (h : SpellsSteps steps cs) :
    withoutZeros false cs = steps.flatMap Step.render := by
  induction h with
  | nil => rfl
  | cons h _ _ ih => rw [withoutZeros_step h, ih, List.flatMap_cons]

theorem withoutZeros_of_spells (h : Spells steps cs) : withoutZeros false cs = renderSteps steps := by
  obtain ⟨h⟩ := h
  exact congrArg _ (withoutZeros_steps h)

/-! ## Reading what was printed -/

theorem spells_render (h : step.CanBeWritten) : step.Spells step.render := by
  cases step with
  | property name =>
    have hspells := Step.Spells.property h.2 (mt String.toList_eq_nil_iff.1 h.1)
    rwa [String.ofList_toList] at hspells
  | index n =>
    have hspells := Step.Spells.index (fun _ hc => Digits.isDigit_of_mem_ofNat hc) (Digits.ofNat_ne_nil n)
      (by rwa [Digits.value_ofNat])
    rwa [Digits.value_ofNat] at hspells
  | every => exact .every

theorem canBeWritten_of_spells (h : step.Spells text) : step.CanBeWritten := by
  cases h with
  | property h hne =>
    refine ⟨fun hnil => hne ?_, by rwa [String.toList_ofList]⟩
    rw [← String.toList_eq_nil_iff, String.toList_ofList] at hnil
    exact hnil
  | index _ _ hlt => exact hlt
  | every => trivial

theorem canBeWritten_of_spellsSteps (h : SpellsSteps steps cs) :
    ∀ step ∈ steps, step.CanBeWritten := by
  induction h with
  | nil => nofun
  | cons h _ _ ih => exact List.forall_mem_cons.2 ⟨canBeWritten_of_spells h, ih⟩

theorem canBeWritten_of_read {path : Selector} {source : String} (h : read source = .ok path) :
    ∀ step ∈ path.steps, step.CanBeWritten := by
  obtain ⟨-, hspells⟩ := read_eq_ok_iff.1 h
  generalize Text.trim source.toList = cs at hspells
  obtain ⟨hsteps⟩ := hspells
  exact canBeWritten_of_spellsSteps hsteps

/-- A name ends before any step that is printed behind it. -/
theorem opens_render (steps : List Step) :
    Opens (fun c => Text.isNameChar c = false) (steps.flatMap Step.render) := by
  cases steps with
  | nil => nofun
  | cons step steps =>
    rw [List.flatMap_cons]
    cases step <;> rintro c ⟨⟩ <;> decide +kernel

theorem spells_renderSteps (h : ∀ step ∈ steps, step.CanBeWritten) :
    Spells steps (renderSteps steps) := by
  refine .mk ?_
  induction steps with
  | nil => exact .nil
  | cons step steps ih =>
    obtain ⟨hstep, hsteps⟩ := List.forall_mem_cons.1 h
    rw [List.flatMap_cons]
    exact .cons (spells_render hstep) (fun _ _ => opens_render steps) (ih hsteps)

theorem read_renderSteps_iff :
    read (String.ofList (renderSteps steps)) = .ok ⟨String.ofList (renderSteps steps), steps⟩
      ↔ ∀ step ∈ steps, step.CanBeWritten := by
  rw [read_eq_ok_iff]
  constructor
  · rintro ⟨-, h⟩
    generalize Text.trim _ = cs at h
    obtain ⟨h⟩ := h
    exact canBeWritten_of_spellsSteps h
  · intro h
    have hspells := spells_renderSteps h
    rw [String.toList_ofList, Text.trim_of_tight hspells.tight]
    exact ⟨rfl, hspells⟩

/-- A text is a selector just if it is in the grammar, blanks around it aside, and then it has
the steps that it writes. Steps are read back from what is printed for them just if they can
be written, and what is printed for the steps of a text is the text without leading zeros. -/
theorem text_corresponds :
    (∀ (text : String) (path : Selector), read text = .ok path ↔
      path.source.toList = Text.trim text.toList ∧
        Spells path.steps (Text.trim text.toList)) ∧
    (∀ steps : List Step, read (String.ofList (renderSteps steps))
        = .ok ⟨String.ofList (renderSteps steps), steps⟩ ↔ ∀ step ∈ steps, step.CanBeWritten) ∧
    ∀ (text : String) (path : Selector), read text = .ok path →
      renderSteps path.steps = withoutZeros false (Text.trim text.toList) := by
  refine ⟨fun _ _ => read_eq_ok_iff, fun _ => read_renderSteps_iff, ?_⟩
  intro text path h
  exact (withoutZeros_of_spells (read_eq_ok_iff.1 h).2).symm

theorem text_corresponds_padded :
    read " $.a[007][*] " = .ok ⟨"$.a[007][*]", [.property "a", .index 7, .every]⟩ ∧
      renderSteps [.property "a", .index 7, .every]
        = withoutZeros false (Text.trim " $.a[007][*] ".toList) := by
  have h : read " $.a[007][*] " = .ok ⟨"$.a[007][*]", [.property "a", .index 7, .every]⟩ := by
    decide +kernel
  exact ⟨h, text_corresponds.2.2 _ _ h⟩

end Selector

end Reshape
