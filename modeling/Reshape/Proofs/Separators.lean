import Reshape.Operation.Words
import Reshape.Proofs.Splitting

/-!
# Parts between separators

A text is cut where the word stands first, `Text.length_le_of_cutAt?`, so that the parts of a text
that is split are free of the separator, `Text.not_infix_of_mem_split`. With the separator between
them again they make up the text, `Text.join_split`, and with another text between them they make up
the one where that text has taken the place of each separator, `Text.replace_eq_join`.
-/

namespace Reshape

namespace Text

variable {word cs before rest : List Char}

/-! ## Where a text is cut -/

/-- Nothing is cut off just if the word stands nowhere. -/
theorem cutAt?_eq_none_iff : cutAt? word cs = none ↔ ¬ word <:+: cs := by
  induction cs with
  | nil =>
    rw [List.infix_nil, cutAt?, Option.map_eq_none_iff]
    cases word <;> simp [after?]
  | cons c cs ih =>
    have hstart : after? word (c :: cs) = none ↔ ¬ word <+: c :: cs := by
      rw [Option.eq_none_iff_forall_ne_some, List.prefix_iff_exists_append_eq, not_exists]
      exact forall_congr' fun rest => not_congr (after?_eq_some_iff.trans eq_comm)
    rw [List.infix_cons_iff, not_or, ← hstart, ← ih, cutAt?]
    cases after? word (c :: cs) <;> simp

theorem hasWord_iff : hasWord word cs = true ↔ word <:+: cs := by
  rw [hasWord, ← not_iff_not, ← cutAt?_eq_none_iff, Bool.not_eq_true, Option.isSome_eq_false_iff,
    Option.isNone_iff_eq_none]

theorem length_le_of_cutAt? (h : cutAt? word cs = some (before, rest)) {left right : List Char}
    (hcs : cs = left ++ word ++ right) : before.length ≤ left.length := by
  induction cs generalizing before left with
  | nil =>
    obtain ⟨r, -, hp⟩ := Option.map_eq_some_iff.1 h
    cases hp
    exact Nat.zero_le _
  | cons c cs ih =>
    simp only [cutAt?] at h
    split at h
    · cases h
      exact Nat.zero_le _
    · rename_i hnone
      obtain ⟨⟨b, r⟩, hb, hp⟩ := Option.map_eq_some_iff.1 h
      cases hp
      cases left with
      | nil =>
        have hsome : after? word (c :: cs) = some right := after?_eq_some_iff.2 hcs
        cases hnone.symm.trans hsome
      | cons l left => exact Nat.succ_le_succ (ih hb (List.cons.inj hcs).2)

theorem not_infix_of_cutAt? (hw : word ≠ []) (h : cutAt? word cs = some (before, rest)) :
    ¬ word <:+: before := by
  rintro ⟨left, right, rfl⟩
  have hcs : cs = left ++ word ++ (right ++ word ++ rest) := by
    rw [eq_of_cutAt? h]
    simp only [List.append_assoc]
  have hle := length_le_of_cutAt? h hcs
  have hpos := List.length_pos_iff.2 hw
  simp only [List.length_append] at hle
  omega

/-! ## Splitting -/

theorem split_ne_nil (hw : word ≠ []) (cs : List Char) : split word cs ≠ [] := by
  rw [split, dif_neg hw]
  split <;> exact List.cons_ne_nil _ _

theorem not_infix_of_mem_split (hw : word ≠ []) :
    ∀ part ∈ split word cs, ¬ word <:+: part := by
  fun_induction split word cs with
  | case1 cs hnil => exact absurd hnil hw
  | case2 cs _ hnone => exact List.forall_mem_singleton.2 (cutAt?_eq_none_iff.1 hnone)
  | case3 cs _ before rest hcut _ ih =>
    exact List.forall_mem_cons.2 ⟨not_infix_of_cutAt? hw hcut, ih⟩

theorem join_singletons (cs : List Char) : join [] (cs.map fun c => [c]) = cs := by
  induction cs with
  | nil => rfl
  | cons c cs ih =>
    cases cs with
    | nil => rfl
    | cons d cs => exact congrArg (c :: ·) ih

/-- The parts with the separator between them are the text. -/
theorem join_split (word cs : List Char) : join word (split word cs) = cs := by
  fun_induction split word cs with
  | case1 cs hnil =>
    rw [hnil]
    exact join_singletons cs
  | case2 cs _ _ => rfl
  | case3 cs hw before rest hcut _ ih =>
    rw [join_cons word before (split_ne_nil hw rest), ih, ← List.append_assoc]
    exact (eq_of_cutAt? hcut).symm

/-- Another text stands just where the parts met. -/
theorem replace_eq_join (hw : word ≠ []) (other cs : List Char) :
    replace word other cs = join other (split word cs) := by
  fun_induction split word cs with
  | case1 cs hnil => exact absurd hnil hw
  | case2 cs _ hnone =>
    rw [replace, dif_neg hw]
    split
    · rfl
    · rename_i hcut
      cases hnone.symm.trans hcut
  | case3 cs _ before rest hcut _ ih =>
    rw [join_cons other before (split_ne_nil hw rest), ← ih, replace, dif_neg hw]
    split
    · rename_i hnone
      cases hcut.symm.trans hnone
    · rename_i hcut'
      cases hcut.symm.trans hcut'
      exact List.append_assoc ..

end Text

namespace Operation

variable {root : Document}

theorem split_texts (s separator : String) :
    split ⟨[.json (.string s), .json (.string separator)], root⟩
      = .ok (.array ((Text.split separator.toList s.toList).map ofCharacters)) := rfl

theorem join_texts (parts : List (List Char)) (separator : String) :
    join ⟨[.json (.array (parts.map ofCharacters)), .json (.string separator)], root⟩
      = .ok (ofCharacters (Text.join separator.toList parts)) := by
  have hparts : (parts.map ofCharacters).map characters = parts := by
    rw [List.map_map]
    exact List.map_id'' (fun _ => String.toList_ofList) parts
  show Except.ok (ofCharacters (Text.join separator.toList ((parts.map ofCharacters).map characters)))
    = _
  rw [hparts]

theorem replace_texts (s other : String) {word : String} (hw : word.toList ≠ []) :
    replace ⟨[.json (.string s), .json (.string word), .json (.string other)], root⟩
      = .ok (ofCharacters (Text.replace word.toList other.toList s.toList)) := by
  unfold replace
  split
  · rename_i h
    cases h
  · split
    · rename_i h
      exact absurd h hw
    · rfl

theorem contains_texts (part word : String) :
    contains ⟨[.json (.string part), .json (.string word)], root⟩
      = .ok (.bool (Text.hasWord word.toList part.toList)) := rfl

end Operation

/-- A string that is split gives strings, which make it up again when they are joined with the
same separator, an empty one included. Around another separator, none of them contains it, and
joining them with any text gives what replacing the separator by that text does. -/
theorem split_join_replace_agree (s separator : String) (root : Document) :
    ∃ parts : List String,
      Operation.split ⟨[.json (.string s), .json (.string separator)], root⟩
        = .ok (.array (parts.map .string)) ∧
      Operation.join ⟨[.json (.array (parts.map .string)), .json (.string separator)], root⟩
        = .ok (.string s) ∧
      (separator ≠ "" →
        (∀ part ∈ parts, ¬ separator.toList <:+: part.toList ∧
          Operation.contains ⟨[.json (.string part), .json (.string separator)], root⟩
            = .ok (.bool false)) ∧
        ∀ other : String, ∃ text : String,
          Operation.replace
              ⟨[.json (.string s), .json (.string separator), .json (.string other)], root⟩
            = .ok (.string text) ∧
          Operation.join ⟨[.json (.array (parts.map .string)), .json (.string other)], root⟩
            = .ok (.string text)) := by
  have hparts : ((Text.split separator.toList s.toList).map String.ofList).map Document.string
      = (Text.split separator.toList s.toList).map Operation.ofCharacters := List.map_map
  refine ⟨(Text.split separator.toList s.toList).map String.ofList, ?_, ?_, fun hseparator => ?_⟩
  · rw [hparts, Operation.split_texts]
  · rw [hparts, Operation.join_texts, Text.join_split, Operation.ofCharacters,
      String.ofList_toList]
  · have hword : separator.toList ≠ [] := fun h => hseparator (String.toList_eq_nil_iff.1 h)
    refine ⟨List.forall_mem_map.2 fun part hpart => ?_, fun other => ?_⟩
    · rw [String.toList_ofList, Operation.contains_texts, String.toList_ofList]
      have hfree := Text.not_infix_of_mem_split hword part hpart
      refine ⟨hfree, ?_⟩
      rw [Bool.eq_false_iff.2 fun h => hfree (Text.hasWord_iff.1 h)]
    · refine ⟨String.ofList (Text.join other.toList (Text.split separator.toList s.toList)), ?_, ?_⟩
      · rw [Operation.replace_texts s other hword, Text.replace_eq_join hword]
        rfl
      · rw [hparts, Operation.join_texts]
        rfl

/-- Places of the separator that overlap, one behind the other and before a part of it. -/
theorem split_join_replace_agree_overlapping :
    let parts : List Document := [.string "b", .string "", .string "ca"]
    "aa" ≠ "" ∧
      Operation.split ⟨[.json (.string "baaaaca"), .json (.string "aa")], .null⟩
        = .ok (.array parts) ∧
      Operation.join ⟨[.json (.array parts), .json (.string "aa")], .null⟩
        = .ok (.string "baaaaca") ∧
      Operation.contains ⟨[.json (.string "ca"), .json (.string "aa")], .null⟩
        = .ok (.bool false) ∧
      Operation.replace ⟨[.json (.string "baaaaca"), .json (.string "aa"), .json (.string "-")], .null⟩
        = .ok (.string "b--ca") := by
  intro parts
  have hne : "aa" ≠ "" := by decide
  obtain ⟨texts, hsplit, hjoin, hrest⟩ := split_join_replace_agree "baaaaca" "aa" .null
  have hcut : Text.split "aa".toList "baaaaca".toList = [['b'], [], ['c', 'a']] := by
    decide +kernel
  have htexts : parts = texts.map .string := by
    rw [Operation.split_texts, hcut] at hsplit
    exact Document.array.inj (Except.ok.inj hsplit)
  rw [← htexts] at hsplit hjoin
  obtain ⟨hfree, hreplace⟩ := hrest hne
  obtain ⟨text, hreplaced, hjoined⟩ := hreplace "-"
  have hdashes : Operation.join ⟨[.json (.array parts), .json (.string "-")], .null⟩
      = .ok (.string "b--ca") := by decide +kernel
  rw [← htexts, hdashes] at hjoined
  refine ⟨hne, hsplit, hjoin, ?_, hreplaced.trans hjoined.symm⟩
  have hmem : Document.string "ca" ∈ texts.map .string := htexts ▸ by decide
  obtain ⟨part, hpart, hca⟩ := List.mem_map.1 hmem
  exact Document.string.inj hca ▸ (hfree part hpart).2

end Reshape
