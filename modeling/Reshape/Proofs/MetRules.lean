import Reshape.Schema.Check

/-!
# Rules that are met

Each rule of the schema language says one thing about a document. A node is met just if it is
passed over for null or all its rules are met, although the check may stop before the end.
-/

namespace Reshape

namespace Schema

variable {w : Vocabulary} {path : Position}

theorem reportIf_eq_nil {broken : Bool} {cause : Finding.Cause} :
    reportIf broken path cause = [] ↔ broken = false := by
  unfold reportIf
  cases broken <;> simp

/-- A list of rules is met if each of them is, although the check may stop before the end. -/
theorem checkRules_eq_nil {rules : List (Rule Schema)} {v : Document} :
    checkRules w path rules v = [] ↔ ∀ r ∈ rules, checkRule w path r v = [] := by
  induction rules with
  | nil => simp [checkRules]
  | cons r rules ih =>
    rw [List.forall_mem_cons, ← ih, checkRules]
    by_cases h : checkRule w path r v = []
    · simp [h]
    · split <;> simp [h]

theorem check_node_eq_nil {nullable : Bool} {rules : List (Rule Schema)} {v : Document} :
    check w path (.node nullable rules) v = []
      ↔ (nullable = true ∧ v.isNull = true) ∨ ∀ r ∈ rules, checkRule w path r v = [] := by
  unfold check
  rw [← checkRules_eq_nil, ← Bool.and_eq_true]
  split <;> simp [*]

/-- A node that is not for null has to be met as a whole. -/
theorem check_rules_eq_nil {rules : List (Rule Schema)} {v : Document} :
    check w path (.node false rules) v = []
      ↔ ∀ r ∈ rules, checkRule w path r v = [] := by
  simp [check_node_eq_nil]

theorem checkRule_items_eq_nil {s : Schema} {ds : List Document} :
    checkRule w path (.items s) (.array ds) = []
      ↔ ∀ i d, ds[i]? = some d → check w (path ++ [.item i]) s d = [] := by
  unfold checkRule
  rw [List.flatten_eq_nil_iff]
  constructor
  · intro h i d hd
    refine h _ (List.mem_iff_getElem?.2 ⟨i, ?_⟩)
    rw [List.getElem?_mapIdx, hd]
    rfl
  · intro h found hf
    obtain ⟨i, hi⟩ := List.mem_iff_getElem?.1 hf
    rw [List.getElem?_mapIdx] at hi
    obtain ⟨d, hd, rfl⟩ := Option.map_eq_some_iff.1 hi
    exact h i d hd

theorem checkProperties_eq_nil {properties : List (String × Schema)}
    {es : List (String × Document)} :
    checkProperties w path properties es = []
      ↔ ∀ p ∈ properties, ∀ d, Document.find? es p.1 = some d →
        check w (path ++ [.member p.1]) p.2 d = [] := by
  induction properties with
  | nil => simp [checkProperties]
  | cons p properties ih =>
    unfold checkProperties
    rw [List.append_eq_nil_iff, ih, List.forall_mem_cons]
    cases Document.find? es p.1 <;> simp

/-- Entries that are listed one by one, and no others. -/
theorem checkRule_listed_eq_nil {properties : List (String × Schema)}
    {es : List (String × Document)} :
    checkRule w path (.entries properties [] .forbidden) (.object es) = []
      ↔ (∀ p ∈ properties, ∀ d, Document.find? es p.1 = some d →
          check w (path ++ [.member p.1]) p.2 d = []) ∧
        ∀ e ∈ es, e.1 ∈ properties.map Prod.fst := by
  unfold checkRule
  simp only [List.append_eq_nil_iff, checkProperties_eq_nil, badPatterns, List.flatMap_nil,
    checkPatterns, and_true]
  refine and_congr_right fun _ => ?_
  unfold checkExtraEntries unlisted
  simp only [List.any_nil, Bool.not_false, List.flatMap_eq_nil_iff, List.mem_filter,
    reportIf_eq_nil]
  simp [List.mem_map]

theorem checkRule_required_eq_nil {keys : List String} {es : List (String × Document)} :
    checkRule w path (.required keys) (.object es) = []
      ↔ ∀ key ∈ keys, ∃ d, Document.find? es key = some d := by
  unfold checkRule checkValue
  simp only [List.flatMap_eq_nil_iff, reportIf_eq_nil, Option.isNone_eq_false_iff,
    Option.isSome_iff_exists]

theorem checkRule_type_eq_nil {name : String} {v : Document} :
    checkRule w path (.type name) v = [] ↔ hasType name v = true := by
  simp [checkRule, checkValue, reportIf_eq_nil]

theorem checkRule_typeAmong_eq_nil {names : List String} {v : Document} :
    checkRule w path (.typeAmong names) v = [] ↔ ∃ name ∈ names, hasType name v = true := by
  simp [checkRule, checkValue, reportIf_eq_nil]

theorem checkRule_minLength_eq_nil {n : Nat} {s : String} :
    checkRule w path (.minLength n) (.string s) = [] ↔ n ≤ s.toList.length := by
  simp [checkRule, checkValue, reportIf_eq_nil]

theorem checkAll_eq_nil {ss : List Schema} {v : Document} :
    checkAll w path ss v = [] ↔ ∀ s ∈ ss, check w path s v = [] := by
  induction ss with
  | nil => simp [checkAll]
  | cons s ss ih => rw [checkAll, List.append_eq_nil_iff, ih, List.forall_mem_cons]

theorem checkRule_open {v : Document} :
    checkRule w path (.entries [] [] .open) v = [] := by
  cases v <;> simp [checkRule, checkProperties, badPatterns, checkPatterns, checkExtraEntries,
    checkValue]

end Schema

end Reshape
