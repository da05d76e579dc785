import Mathlib.Algebra.Group.Nat.Defs
import Reshape.Proofs.Numerals

/-!
# The grammar of selectors

`Selector.Spells` relates a text to the steps that it writes, without saying how to read it:

    Selector := '$' Step*
    Step     := '.' Name | '[' Digits ']' | '[*]'

A name is as long as it can be, and an index has 64 bits. Reading succeeds just on these texts:
`Selector.read_eq_ok_iff`.
-/

namespace Reshape

open Expression.Grammar (AllDigits Opens span_append)

/-! ## The grammar -/

/-- The text of one step. -/
inductive Step.Spells : Step → List Char → Prop where
  | property {name : List Char} (h : ∀ c ∈ name, Text.isNameChar c = true) (hne : name ≠ []) :
      Spells (.property (String.ofList name)) ('.' :: name)
  | index {ds : List Char} (h : AllDigits ds) (hne : ds ≠ []) (hlt : Digits.value ds < 2 ^ 64) :
      Spells (.index (Digits.value ds)) ('[' :: (ds ++ [']']))
  | every : Spells .every ['[', '*', ']']

/-- A step may end before this text: a name does not go on in it. -/
def Step.EndsBefore (step : Step) (rest : List Char) : Prop :=
  ∀ name, step = .property name → Opens (fun c => Text.isNameChar c = false) rest

inductive Selector.SpellsSteps : List Step → List Char → Prop where
  | nil : SpellsSteps [] []
  | cons {step : Step} {steps : List Step} {text rest : List Char} (h : step.Spells text)
      (hend : step.EndsBefore rest) (hrest : SpellsSteps steps rest) :
      SpellsSteps (step :: steps) (text ++ rest)

/-- The text of a selector. -/
inductive Selector.Spells : List Step → List Char → Prop where
  | mk {steps : List Step} {rest : List Char} (h : SpellsSteps steps rest) :
      Spells steps ('$' :: rest)

namespace Selector

variable {step : Step} {steps : List Step} {cs text rest : List Char}

/-! ## Reading one step -/

theorem opens_bracket (rest : List Char) :
    Opens (fun c => Digits.isDigit c = false) (']' :: rest) := by
  rintro c ⟨⟩
  rfl

theorem readStep?_of_spells (h : step.Spells text) (hend : step.EndsBefore rest) :
    readStep? (text ++ rest) = some (step, rest) := by
  cases h with
  | property h hne =>
    obtain ⟨htake, hdrop⟩ := span_append h (hend _ rfl)
    rw [List.cons_append, readStep?, htake, hdrop, if_neg]
    rwa [List.isEmpty_iff]
  | index h hne hlt =>
    obtain ⟨htake, hdrop⟩ := span_append h (opens_bracket rest)
    obtain ⟨d, ds, rfl⟩ := List.exists_cons_of_ne_nil hne
    rw [List.cons_append, List.append_assoc, List.singleton_append, readStep?, htake, hdrop]
    · exact if_pos hlt
    · intro cs hcs
      obtain rfl : d = '*' := (List.cons.inj hcs).1
      exact absurd (h '*' (.head _)) (by decide)
  | every => rfl

theorem spells_of_readStep? (h : readStep? cs = some (step, rest)) :
    ∃ text, step.Spells text ∧ step.EndsBefore rest ∧ cs = text ++ rest := by
  unfold readStep? at h
  split at h
  · rename_i cs
    split at h
    · cases h
    · rename_i hne
      cases h
      refine ⟨_, .property (fun c hc => List.mem_takeWhile_imp hc) (mt List.isEmpty_iff.2 hne),
        ?_, ?_⟩
      · rintro _ - c hc
        have hnot := List.head?_dropWhile_not Text.isNameChar cs
        rwa [Option.mem_def.1 hc] at hnot
      · rw [List.cons_append, List.takeWhile_append_dropWhile]
  · cases h
    exact ⟨_, .every, nofun, rfl⟩
  · rename_i cs _
    split at h
    · rename_i d ds behind hw hr
      split at h
      · rename_i hlt
        cases h
        have hds : AllDigits (d :: ds) := fun c hc => List.mem_takeWhile_imp (hw ▸ hc)
        refine ⟨_, .index hds (List.cons_ne_nil _ _) hlt, nofun, ?_⟩
        rw [List.cons_append, List.append_assoc, List.singleton_append, ← hr, ← hw,
          List.takeWhile_append_dropWhile]
      · cases h
    · cases h
  · cases h

/-! ## Reading steps to the end -/

theorem readSteps_nil : readSteps [] = .ok [] := by
  rw [readSteps]
  rfl

theorem readSteps_of_readStep? (h : readStep? cs = some (step, rest)) :
    readSteps cs = (readSteps rest).map (step :: ·) := by
  have hne : ¬ cs.isEmpty = true := by
    intro hnil
    rw [List.isEmpty_iff.1 hnil] at h
    cases h
  rw [readSteps, if_neg hne]
  split
  · rename_i hnone
    cases hnone.symm.trans h
  · rename_i hsome
    cases hsome.symm.trans h
    cases readSteps rest <;> rfl

theorem readSteps_eq_ok_iff : readSteps cs = .ok steps ↔ SpellsSteps steps cs := by
  constructor
  · intro h
    induction cs using readSteps.induct generalizing steps with
    | case1 cs hend =>
      obtain rfl := List.isEmpty_iff.1 hend
      cases readSteps_nil.symm.trans h
      exact .nil
    | case2 cs hend hnone =>
      rw [readSteps, if_neg hend] at h
      split at h
      · cases h
      · rename_i hsome
        cases hnone.symm.trans hsome
    | case3 cs hend step rest hs _ tail hrest ih | case4 cs hend step rest hs _ left hrest ih => 
      rw [readSteps_of_readStep? hs] at h
      obtain ⟨tail, htail, rfl⟩ := map_eq_ok_iff.1 h
      obtain ⟨text, htext, hends, rfl⟩ := spells_of_readStep? hs
      exact .cons htext hends (ih htail)
  · intro h
    induction h with
    | nil => exact readSteps_nil
    | cons h hend _ ih => rw [readSteps_of_readStep? (readStep?_of_spells h hend), ih]; rfl

/-- A text is read as a selector just if it is one, blanks around it aside. The selector keeps
that text and its steps. -/
theorem read_eq_ok_iff {text : String} {path : Selector} :
    read text = .ok path ↔
      path.source.toList = Text.trim text.toList ∧ Spells path.steps (Text.trim text.toList) := by
  unfold read
  dsimp only
  split
  · rename_i rest hcs
    rw [hcs]
    constructor
    · intro h
      split at h
      · rename_i steps hsteps
        cases h
        exact ⟨String.toList_ofList, .mk (readSteps_eq_ok_iff.1 hsteps)⟩
      · cases h
    · rintro ⟨hsource, ⟨hsteps⟩⟩
      rw [readSteps_eq_ok_iff.2 hsteps, ← hsource, String.ofList_toList]
  · rename_i hno
    constructor
    · intro h
      cases h
    · rintro ⟨-, h⟩
      generalize Text.trim text.toList = cs at h hno
      cases h
      exact absurd rfl (hno _)

end Selector

end Reshape
