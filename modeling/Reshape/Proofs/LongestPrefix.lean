import Mathlib.Algebra.BigOperators.Group.List.Basic
import Mathlib.Algebra.GroupWithZero.Nat
import Reshape.Proofs.SelectorGrammar

/-!
# Where reading a selector stops

What has been read of a text that is refused is a selector: `exists_steps_of_error`. No longer
part from the start is one, since reading a part of the text goes on at least to its end:
`length_le_of_error`. So the position in the refusal is the end of the longest selector that
the text starts with, `refusal_exact`.
-/

namespace Reshape

namespace Text

theorem byteCount_eq_sum (cs : List Char) : byteCount cs = (cs.map Char.utf8Size).sum := by
  unfold byteCount
  rw [List.sum_eq_foldl, List.foldl_map]

theorem byteCount_append (as bs : List Char) :
    byteCount (as ++ bs) = byteCount as + byteCount bs := by
  rw [byteCount_eq_sum, byteCount_eq_sum, byteCount_eq_sum, List.map_append, List.sum_append]

theorem byteCount_pos {cs : List Char} (h : cs ≠ []) : 0 < byteCount cs := by
  obtain ⟨c, cs, rfl⟩ := List.exists_cons_of_ne_nil h
  rw [byteCount_eq_sum, List.map_cons, List.sum_cons]
  exact Nat.add_pos_left c.utf8Size_pos _

end Text

theorem Step.EndsBefore.of_append {step : Step} {as bs : List Char}
    (h : step.EndsBefore (as ++ bs)) : step.EndsBefore as := by
  intro name hname c hc
  refine h name hname c ?_
  rw [List.head?_append, Option.mem_def.1 hc]
  exact Option.mem_some_self c

namespace Selector

open Expression.Grammar (Opens)

variable {step : Step} {steps : List Step} {cs text rest left : List Char}

/-! ## Nothing is read that is no selector -/

theorem exists_steps_of_error (h : readSteps cs = .error left) :
    left ≠ [] ∧ ∃ good steps, cs = good ++ left ∧ SpellsSteps steps good := by
  induction cs using readSteps.induct with
  | case1 cs hend =>
    obtain rfl := List.isEmpty_iff.1 hend
    cases readSteps_nil.symm.trans h
  | case2 cs hend hnone =>
    rw [readSteps, if_neg hend] at h
    split at h
    · cases h
      exact ⟨mt List.isEmpty_iff.2 hend, [], [], rfl, .nil⟩
    · rename_i hsome
      cases hnone.symm.trans hsome
  | case3 cs hend step rest hs _ tail hrest ih | case4 cs hend step rest hs _ tail hrest ih =>
    rw [readSteps_of_readStep? hs, map_eq_error_iff] at h
    obtain ⟨hleft, good, steps, rfl, hgood⟩ := ih h
    obtain ⟨text, htext, hends, rfl⟩ := spells_of_readStep? hs
    refine ⟨hleft, text ++ good, step :: steps, ?_, .cons htext hends.of_append hgood⟩
    rw [List.append_assoc]

theorem length_le_of_readSteps (h : readSteps cs = .error left) : left.length ≤ cs.length := by
  obtain ⟨-, good, -, rfl, -⟩ := exists_steps_of_error h
  rw [List.length_append]
  exact Nat.le_add_left _ _

/-! ## Nothing that is one is left unread -/

theorem readStep?_name {name : List Char} (h : ∀ c ∈ name, Text.isNameChar c = true)
    (hne : name ≠ []) (rest : List Char) :
    readStep? ('.' :: (name ++ rest))
      = some (.property (String.ofList (name ++ rest.takeWhile Text.isNameChar)),
          rest.dropWhile Text.isNameChar) := by
  rw [readStep?, List.takeWhile_append_of_pos h, List.dropWhile_append_of_pos h, if_neg]
  rw [List.isEmpty_iff]
  exact List.append_ne_nil_of_left_ne_nil hne _

/-- Reading a text that starts with the text of steps goes on at least to the end of these. -/
theorem length_le_of_error (h : SpellsSteps steps cs)
    (hleft : readSteps (cs ++ rest) = .error left) : left.length ≤ rest.length := by
  induction h with
  | nil => exact length_le_of_readSteps hleft
  | @cons step steps text tail hstep hend hrest ih =>
    rw [List.append_assoc] at hleft
    by_cases hends : step.EndsBefore (tail ++ rest)
    · rw [readSteps_of_readStep? (readStep?_of_spells hstep hends), map_eq_error_iff] at hleft
      exact ih hleft
    · cases hstep with
      | @property name hname hne =>
        obtain rfl : tail = [] := by
          cases tail with
          | nil => rfl
          | cons c tail =>
            refine absurd ?_ hends
            rintro _ ⟨⟩
            exact hend _ rfl
        rw [List.cons_append, List.nil_append,
          readSteps_of_readStep? (readStep?_name hname hne rest), map_eq_error_iff] at hleft
        exact (length_le_of_readSteps hleft).trans (List.dropWhile_sublist _).length_le
      | index => exact absurd nofun hends
      | every => exact absurd nofun hends

/-- The text in front of what is left is the longest selector in its place. -/
theorem longest_of_error (h : readSteps cs = .error left) :
    left ≠ [] ∧ ∃ good, cs = good ++ left ∧ (∃ steps, Spells steps ('$' :: good)) ∧
      ∀ longer, longer <+: '$' :: cs → ('$' :: good).length < longer.length →
        ¬ ∃ steps, Spells steps longer := by
  obtain ⟨hleft, good, steps, rfl, hgood⟩ := exists_steps_of_error h
  refine ⟨hleft, good, rfl, ⟨steps, .mk hgood⟩, ?_⟩
  rintro longer ⟨rest, hrest⟩ hlength ⟨steps', hlonger⟩
  cases hlonger with
  | @mk part hpart =>
    have hsame : part ++ rest = good ++ left := (List.cons.inj hrest).2
    have hle : left.length ≤ rest.length := length_le_of_error hpart (hsame ▸ h)
    have hlengths := congrArg List.length hsame
    simp only [List.length_append, List.length_cons] at hlengths hlength
    omega

/-- A text that is no selector is refused at its start if it does not start with a dollar sign,
blanks aside. Else it is refused at the end of the longest selector that it starts with, which is
not all of it. Positions count bytes. -/
theorem refusal_exact {text : String} {e : Error} (h : read text = .error e) :
    let t := Text.trim text.toList
    ∃ position fault, e = .unreadable (String.ofList t) position fault ∧
      (t.head? ≠ some '$' → position = 0) ∧
      (t.head? = some '$' → 0 < position ∧ position < Text.byteCount t ∧
        ∃ good left, t = good ++ left ∧ position = Text.byteCount good ∧
          (∃ steps, Spells steps good) ∧
          ∀ longer, longer <+: t → good.length < longer.length →
            ¬ ∃ steps, Spells steps longer) := by
  intro t
  unfold read at h
  dsimp only at h
  split at h
  · rename_i path ht
    change t = '$' :: path at ht
    split at h
    · cases h
    · rename_i left herror
      obtain rfl := Except.error.inj h
      obtain ⟨hleft, good, rfl, hgood, hlongest⟩ := longest_of_error herror
      have hposition : Text.byteCount t - Text.byteCount left = Text.byteCount ('$' :: good) := by
        rw [ht, ← List.cons_append, Text.byteCount_append, Nat.add_sub_cancel_right]
      refine ⟨_, _, rfl, fun hno => absurd (by rw [ht]; rfl) hno, fun _ => ?_⟩
      rw [hposition]
      refine ⟨Text.byteCount_pos (List.cons_ne_nil _ _), ?_, '$' :: good, left, ht, rfl, hgood,
        ht ▸ hlongest⟩
      rw [ht, ← List.cons_append, Text.byteCount_append]
      exact Nat.lt_add_of_pos_right (Text.byteCount_pos hleft)
  · rename_i hno
    obtain rfl := Except.error.inj h
    refine ⟨0, .noRoot, rfl, fun _ => rfl, fun hdollar => ?_⟩
    obtain ⟨path, ht⟩ := List.head?_eq_some_iff.1 hdollar
    exact absurd ht (hno path)

/-- Behind a letter of two bytes, a step without a name. -/
theorem refusal_exact_bytes :
    let e : Error := .unreadable "$.é.[" 4 (.nameBefore '[')
    read " $.é.[ " = .error e ∧ ∃ position fault, e = .unreadable "$.é.[" position fault ∧
      ∃ good left, "$.é.[".toList = good ++ left ∧ position = Text.byteCount good ∧
        ∃ steps, Spells steps good := by
  intro e
  have h : read " $.é.[ " = .error e := by decide +kernel
  have htrim : Text.trim " $.é.[ ".toList = "$.é.[".toList := by decide +kernel
  obtain ⟨position, fault, he, -, hdollar⟩ := refusal_exact h
  rw [htrim] at he hdollar
  rw [String.ofList_toList] at he
  obtain ⟨-, -, good, left, ht, hposition, hgood, -⟩ := hdollar rfl
  exact ⟨h, position, fault, he, good, left, ht, hposition, hgood⟩

end Selector

end Reshape
