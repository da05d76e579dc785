import Reshape.Proofs.DocumentText
import Reshape.Proofs.GroupFindings
import Reshape.Proofs.Reporting
import Reshape.Proofs.Sameness

/-!
# Duplicate items

Items are taken for duplicates if they have the same text, and so if they are the same document in
all: an order of entries or the sign of a zero keeps apart what `Document.identical` does not. What
is said about duplicates adds at most one finding to others that do not depend on it:
`duplicate_items_exact`.
-/

namespace Reshape

namespace Schema

/-- Two items at different places are related. -/
def Repeats (same : Document → Document → Prop) (ds : List Document) : Prop :=
  ∃ (i j : Nat) (a b : Document), i < j ∧ ds[i]? = some a ∧ ds[j]? = some b ∧ same a b

def withoutUnique (es : List (String × Document)) : Document :=
  .object (es.filter fun e => e.1 ≠ "uniqueItems")

/-- A schema does not end at a type that arrays do not have. -/
def allowsArrays (es : List (String × Document)) : Bool :=
  (text? es "type").all (· == "array")

variable {w : Vocabulary} {path : Position} {es : List (String × Document)} {ds : List Document}

/-! ## Items with the same text -/

theorem hasTwice_iff {ss : List String} : hasTwice ss = true ↔ ¬ ss.Nodup := by
  induction ss with
  | nil => simp [hasTwice]
  | cons s ss ih => simp [hasTwice, ih, imp_iff_not_or]

theorem repeats_iff {same : Document → Document → Prop} :
    Repeats same ds ↔ ¬ ds.Pairwise fun a b => ¬ same a b := by
  rw [List.pairwise_iff_getElem]
  simp only [not_forall, not_not]
  constructor
  · rintro ⟨i, j, a, b, hij, ha, hb, hsame⟩
    obtain ⟨hi, rfl⟩ := List.getElem?_eq_some_iff.1 ha
    obtain ⟨hj, rfl⟩ := List.getElem?_eq_some_iff.1 hb
    exact ⟨i, j, hi, hj, hij, hsame⟩
  · rintro ⟨i, j, hi, hj, hij, hsame⟩
    exact ⟨i, j, ds[i], ds[j], hij, List.getElem?_eq_getElem hi, List.getElem?_eq_getElem hj,
      hsame⟩

theorem hasTwice_text_iff_not_nodup : hasTwice (ds.map Document.text) = true ↔ ¬ ds.Nodup := by
  rw [hasTwice_iff, List.nodup_map_iff fun _ _ => Document.text_injective]

theorem hasTwice_text_iff : hasTwice (ds.map Document.text) = true ↔ Repeats (· = ·) ds := by
  rw [hasTwice_text_iff_not_nodup, repeats_iff, ← List.nodup_iff_pairwise_ne]

/-! ## What is found in an array -/

theorem flag_withoutUnique :
    flag (es.filter fun e => e.1 ≠ "uniqueItems") "uniqueItems" = false := by
  rw [flag, Document.find?_filter es (fun key => key ≠ "uniqueItems"), if_neg (by simp)]
  rfl

theorem agreeOutside_withoutUnique :
    AgreeOutside .uniqueItems es (es.filter fun e => e.1 ≠ "uniqueItems") := by
  intro key hkey
  have hne : key ≠ "uniqueItems" := fun heq => hkey (heq ▸ List.mem_singleton_self _)
  rw [Document.find?_filter es (fun key => key ≠ "uniqueItems"), if_pos (by simpa using hne)]

theorem goesOn_array (es : List (String × Document)) (ds : List Document) :
    goesOn es (.array ds) = allowsArrays es := by
  have harray (name : String) : hasType name (.array ds) = (name == "array") := by
    unfold hasType
    split <;> simp_all
  simp only [goesOn, allowsArrays, harray]

/-- What is said about duplicates adds at most one finding to others that do not depend on it. -/
theorem check_uniqueItems (w : Vocabulary) (path : Position) (ds : List Document)
    (h : flag es "uniqueItems" = true) :
    ∃ before after : List Finding,
      check w path (ofDocument (withoutUnique es)) (.array ds) = before ++ after ∧
      check w path (ofDocument (.object es)) (.array ds)
        = before ++ (if allowsArrays es then
            reportIf (hasTwice (ds.map Document.text)) path .duplicateItems else []) ++ after := by
  obtain ⟨before, after, hcheck⟩ :=
    check_around (g := .uniqueItems) (v := .array ds) (by decide) w path es rfl
  have hwith : KeywordGroup.uniqueItems.rules es = [.uniqueItems] := if_pos h
  have hwithout : KeywordGroup.uniqueItems.rules (es.filter fun e => e.1 ≠ "uniqueItems") = [] :=
    if_neg (by rw [flag_withoutUnique]; exact Bool.false_ne_true)
  refine ⟨before, after, ?_, ?_⟩
  · rw [withoutUnique, hcheck _ agreeOutside_withoutUnique, hwithout, checkRules, ite_self,
      List.append_nil]
  · rw [hcheck es fun _ _ => rfl, goesOn_array, hwith]
    simp only [checkRules, checkRule, checkValue, stops, Bool.false_and, Bool.false_eq_true,
      if_false, List.append_nil]

/-! ## Which items are the same -/

theorem Repeats.imp {same same' : Document → Document → Prop}
    (h : ∀ a ∈ ds, ∀ b ∈ ds, same a b → same' a b) (hds : Repeats same ds) : Repeats same' ds := by
  obtain ⟨i, j, a, b, hij, ha, hb, hsame⟩ := hds
  exact ⟨i, j, a, b, hij, ha, hb,
    h a (List.mem_of_getElem? ha) b (List.mem_of_getElem? hb) hsame⟩

/-- A schema that wants its items unique adds one violation at the array if two items are equal
and its type lets arrays pass. All else that is found does not depend on it. Equal items with
distinct keys are identical. Identical items are equal if their keys are in order and none of their
zeros is negative. -/
theorem duplicate_items_exact (w : Vocabulary) (path : String) (es : List (String × Document))
    (ds : List Document) (found : List Violation) (h : flag es "uniqueItems" = true) :
    (∃ before after : List Violation,
      collect w path (ofDocument (withoutUnique es)) (.array ds) found
        = found ++ (before ++ after) ∧
      (allowsArrays es = true ∧ Repeats (· = ·) ds →
        collect w path (ofDocument (.object es)) (.array ds) found
          = found ++ (before ++ ⟨path, "Array has duplicate items but uniqueItems is true"⟩
              :: after)) ∧
      (¬ (allowsArrays es = true ∧ Repeats (· = ·) ds) →
        collect w path (ofDocument (.object es)) (.array ds) found
          = found ++ (before ++ after))) ∧
    ((∀ d ∈ ds, d.DistinctKeys) → Repeats (· = ·) ds →
      Repeats (fun a b => a.identical b = true) ds) ∧
    ((∀ d ∈ ds, d.Canonical) →
      (Repeats (· = ·) ds ↔ Repeats (fun a b => a.identical b = true) ds)) := by
  refine ⟨?_, fun hkeys => Repeats.imp ?_, fun hcanonical => ⟨Repeats.imp ?_, Repeats.imp ?_⟩⟩
  · obtain ⟨before, after, hwithout, hwith⟩ := check_uniqueItems w [] ds h
    refine ⟨before.map (Finding.below path), after.map (Finding.below path), ?_, ?_, ?_⟩
    · rw [collect_eq, hwithout, List.map_append]
    · rintro ⟨harrays, hrepeats⟩
      rw [collect_eq, hwith, if_pos harrays, hasTwice_text_iff.2 hrepeats]
      simp only [reportIf, if_true, List.map_append, List.append_assoc]
      rfl
    · intro hnone
      have hnothing : (if allowsArrays es then
          reportIf (hasTwice (ds.map Document.text)) [] .duplicateItems else []) = [] := by
        by_cases harrays : allowsArrays es = true
        · have hfresh : ¬ hasTwice (ds.map Document.text) = true := fun htwice =>
            hnone ⟨harrays, hasTwice_text_iff.1 htwice⟩
          rw [if_pos harrays, reportIf, if_neg hfresh]
        · rw [if_neg harrays]
      rw [collect_eq, hwith, hnothing, List.append_nil, List.map_append]
  · rintro a ha _ _ rfl
    exact Document.identical_refl (hkeys a ha)
  · rintro a ha _ _ rfl
    exact Document.identical_refl (hcanonical a ha).distinctKeys
  · exact fun a ha b hb => (Document.identical_iff_eq (hcanonical a ha) (hcanonical b hb)).1

/-- A number that comes twice is reported. -/
theorem duplicate_items_exact_number :
    let es := [("uniqueItems", Document.bool true), ("type", Document.string "array")]
    let ds := [Document.whole 1, .null, .whole 1]
    flag es "uniqueItems" = true ∧ allowsArrays es = true ∧ Repeats (· = ·) ds ∧
      Repeats (fun a b => a.identical b = true) ds ∧
      ∃ before after : List Violation,
        collect (.standard (fun _ => "") false) "$" (ofDocument (withoutUnique es)) (.array ds) []
          = before ++ after ∧
        collect (.standard (fun _ => "") false) "$" (ofDocument (.object es)) (.array ds) []
          = before ++ ⟨"$", "Array has duplicate items but uniqueItems is true"⟩ :: after := by
  intro es ds
  have hrepeats : Repeats (· = ·) ds := ⟨0, 2, .whole 1, .whole 1, by decide, rfl, rfl, rfl⟩
  have hcanonical : ∀ d ∈ ds, d.Canonical :=
    List.forall_mem_cons.2 ⟨.number trivial, List.forall_mem_cons.2 ⟨.null,
      List.forall_mem_singleton.2 (.number trivial)⟩⟩
  obtain ⟨⟨before, after, hwithout, hwith, -⟩, -, hidentical⟩ :=
    duplicate_items_exact (.standard (fun _ => "") false) "$" es ds [] rfl
  exact ⟨rfl, rfl, hrepeats, (hidentical hcanonical).1 hrepeats, before, after, hwithout,
    hwith ⟨rfl, hrepeats⟩⟩

/-- Two objects with the same entries in another order are no duplicates, while one is accepted
as the constant that the other is. -/
theorem reordered_items_are_no_duplicates :
    let es := [("uniqueItems", Document.bool true)]
    let a := Document.object [("a", .whole 1), ("b", .whole 2)]
    let b := Document.object [("b", .whole 2), ("a", .whole 1)]
    Repeats (fun a b => a.identical b = true) [a, b] ∧
      (ofDocument (.object [("const", a)])).violations (fun _ => "") false b = [] ∧
      (ofDocument (.object es)).violations (fun _ => "") false (.array [a, b]) = [] := by
  intro es a b
  have hconst : ofDocument (.object [("const", a)])
      = .node false [.const a, .entries [] [] .open] := by
    rw [ofDocument_object]
    rfl
  have hunique : ofDocument (.object es) = .node false [.uniqueItems, .entries [] [] .open] := by
    rw [ofDocument_object]
    rfl
  refine ⟨⟨0, 1, a, b, by decide, rfl, rfl, by decide⟩, ?_, ?_⟩
  · rw [hconst]
    decide +kernel
  · rw [hunique]
    decide +kernel

end Schema

end Reshape
