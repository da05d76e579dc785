import Reshape.Operation.Sequences
import Reshape.Proofs.DuplicateItems

/-!
# First occurrences

Items are told apart by their text, and no two documents have one text. So of the items that are one
document in all, the first one is kept and no other item is lost, `Operation.distinctFrom_eq`, and a
schema that wants its items unique reports an array just if two of them are one document:
`duplicates_are_one_document`.
-/

namespace Reshape

namespace Operation

/-- The items before which no equal one stands. -/
def firstOccurrences (items : List Document) : List Document :=
  (items.zipIdx.filter fun p => p.1 ∉ items.take p.2).map Prod.fst

theorem distinctFrom_eq (seen : List String) (items : List Document) :
    distinctFrom seen items
      = (items.zipIdx.filter fun p => p.1.text ∉ seen ∧ p.1 ∉ items.take p.2).map Prod.fst := by
  induction items generalizing seen with
  | nil => rfl
  | cons d rest ih =>
    have hrest (seen' : List String) (h : ∀ e : Document, e.text ∉ seen' ↔ e.text ∉ seen ∧ e ≠ d) :
        distinctFrom seen' rest = (((rest.zipIdx.map (Prod.map id (· + 1))).filter fun p =>
          p.1.text ∉ seen ∧ p.1 ∉ (d :: rest).take p.2).map Prod.fst) := by
      rw [ih, List.filter_map, List.map_map]
      refine congrArg _ (List.filter_congr fun p _ => ?_)
      simp [h, and_assoc]
    rw [List.zipIdx_cons', distinctFrom]
    by_cases hd : d.text ∈ seen
    · rw [if_pos hd, List.filter_cons_of_neg (by simpa using hd)]
      refine hrest seen fun e => ⟨fun he => ⟨he, ?_⟩, And.left⟩
      rintro rfl
      exact he hd
    · rw [if_neg hd, List.filter_cons_of_pos (by simpa using hd), List.map_cons]
      refine congrArg (d :: ·) (hrest _ fun e => ?_)
      rw [List.mem_cons, not_or, and_comm]
      exact and_congr_right fun _ => not_congr ⟨Document.text_injective, congrArg Document.text⟩

theorem unique_eq (items : List Document) (others : List Argument) (root : Document) :
    unique ⟨.json (.array items) :: others, root⟩ = .ok (.array (firstOccurrences items)) := by
  show Except.ok (Document.array (distinctFrom [] items)) = _
  rw [distinctFrom_eq, firstOccurrences]
  simp

end Operation

namespace Schema

variable {ds : List Document}

theorem map_below_duplicates (es : List (String × Document)) (path : String) :
    (if allowsArrays es then
        reportIf (hasTwice (ds.map Document.text)) [] .duplicateItems else []).map
        (Finding.below path)
      = if allowsArrays es = true ∧ ¬ ds.Nodup then
          [⟨path, "Array has duplicate items but uniqueItems is true"⟩] else [] := by
  by_cases harrays : allowsArrays es = true
  · by_cases hnodup : ds.Nodup
    · have hfresh : ¬ hasTwice (ds.map Document.text) = true := fun htwice =>
        hasTwice_text_iff_not_nodup.1 htwice hnodup
      rw [if_pos harrays, reportIf, if_neg hfresh, if_neg fun h => h.2 hnodup]
      rfl
    · rw [if_pos harrays, reportIf, if_pos (hasTwice_text_iff_not_nodup.2 hnodup),
        if_pos ⟨harrays, hnodup⟩]
      rfl
  · rw [if_neg harrays, if_neg fun h => harrays h.1]
    rfl

end Schema

/-- Of the items of an array, those stay to which no earlier item is equal. Equal documents agree in
all: also in whether a number is whole, in the sign of a zero and in the order of entries. A schema
that wants its items unique adds a violation at the array, to others that do not depend on it, just
if two items are equal and its type lets arrays pass. -/
theorem duplicates_are_one_document (items : List Document) (others : List Argument)
    (root : Document) (w : Schema.Vocabulary) (path : String) (es : List (String × Document))
    (found : List Violation) (h : Schema.flag es "uniqueItems" = true) :
    Operation.unique ⟨.json (.array items) :: others, root⟩
      = .ok (.array (Operation.firstOccurrences items)) ∧
    ∃ before after : List Violation,
      Schema.collect w path (Schema.ofDocument (Schema.withoutUnique es)) (.array items) found
        = found ++ (before ++ after) ∧
      Schema.collect w path (Schema.ofDocument (.object es)) (.array items) found
        = found ++ (before ++ (if Schema.allowsArrays es = true ∧ ¬ items.Nodup then
            [⟨path, "Array has duplicate items but uniqueItems is true"⟩] else []) ++ after) := by
  obtain ⟨before, after, hwithout, hwith⟩ := Schema.check_uniqueItems w [] items h
  refine ⟨Operation.unique_eq items others root, before.map (Finding.below path),
    after.map (Finding.below path), ?_, ?_⟩
  · rw [Schema.collect_eq, hwithout, List.map_append]
  · rw [Schema.collect_eq, hwith, List.map_append, List.map_append,
      Schema.map_below_duplicates es path]

/-- Items with like texts, of which the last one only is the same as another one. -/
theorem duplicates_are_one_document_alike :
    let zero (negative : Bool) : Document := .number (.double ⟨negative, 0, by decide⟩)
    let alike : List Document := [zero false, zero true, .whole 0, .string "0",
      .array [.string "a", .string "b"], .array [.string "a\",\"b"],
      .object [("a", .null), ("b", .null)], .object [("b", .null), ("a", .null)]]
    let es := [("uniqueItems", Document.bool true)]
    Schema.flag es "uniqueItems" = true ∧
      Operation.unique ⟨[.json (.array (alike ++ [zero true]))], .null⟩ = .ok (.array alike) ∧
      ∃ before after : List Violation,
        Schema.collect (.standard (fun _ => "") false) "$"
            (Schema.ofDocument (Schema.withoutUnique es)) (.array (alike ++ [zero true])) []
          = before ++ after ∧
        Schema.collect (.standard (fun _ => "") false) "$" (Schema.ofDocument (.object es))
            (.array (alike ++ [zero true])) []
          = before ++ ⟨"$", "Array has duplicate items but uniqueItems is true"⟩ :: after := by
  intro zero alike es
  obtain ⟨hunique, before, after, hwithout, hwith⟩ := duplicates_are_one_document
    (alike ++ [zero true]) [] .null (.standard (fun _ => "") false) "$" es [] rfl
  have hfirst : Operation.firstOccurrences (alike ++ [zero true]) = alike := by decide
  have htwice : Schema.allowsArrays es = true ∧ ¬ (alike ++ [zero true]).Nodup := by decide
  refine ⟨rfl, hfirst ▸ hunique, before, after, hwithout, ?_⟩
  rw [hwith, if_pos htwice, List.nil_append, List.append_assoc]
  rfl

end Reshape
