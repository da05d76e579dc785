import Reshape.Proofs.GroupFindings

/-!
# Entries that are no property

What a schema says about additional properties adds findings to others that do not depend on it,
`check_withExtra`. Where additional properties are forbidden, an entry is one if it is no property
and matches no pattern. Where there is a schema for them, the patterns are not asked.
-/

namespace Reshape

namespace Schema

/-- A schema that says this about additional properties. -/
def withExtra (d : Document) (es : List (String × Document)) : Document :=
  .object (("additionalProperties", d) :: es)

def isProperty (es : List (String × Document)) (key : String) : Bool :=
  (schemasUnder es "properties").any fun p => p.1 == key

def isPatterned (w : Vocabulary) (es : List (String × Document)) (key : String) : Bool :=
  (schemasUnder es "patternProperties").any fun p => w.finds (.ofString p.1) key

/-- A schema does not end at a type that objects do not have. -/
def allowsObjects (es : List (String × Document)) : Bool :=
  (text? es "type").all (· == "object")

variable {w : Vocabulary} {path : Position} {es fs : List (String × Document)}

/-! ## What is found in an object -/

theorem find?_withExtra {key : String} (d : Document) (hkey : key ≠ "additionalProperties") :
    Document.find? (("additionalProperties", d) :: es) key = Document.find? es key := by
  unfold Document.find?
  rw [List.find?_cons_of_neg (by simpa using hkey.symm)]

theorem agreeOutside_withExtra (d : Document) :
    AgreeOutside .properties es (("additionalProperties", d) :: es) :=
  fun _ hkey => find?_withExtra d fun heq => hkey (heq ▸ by decide)

/-- The rule on entries is the only one of its group that depends on what is said. -/
theorem KeywordGroup.rules_withExtra (d : Document) :
    properties.rules (("additionalProperties", d) :: es)
      = requiredRules es ++ [.entries (schemasUnder es "properties")
          (patternsUnder es "patternProperties") (extra (some d))] := by
  simp only [rules, requiredRules, entryRule, schemasUnder, patternsUnder,
    find?_withExtra d (by decide : "required" ≠ "additionalProperties"),
    find?_withExtra d (by decide : "properties" ≠ "additionalProperties"),
    find?_withExtra d (by decide : "patternProperties" ≠ "additionalProperties")]
  rfl

/-- The group finds what it finds for open entries, and the rest behind that. -/
theorem checkRules_withExtra (w : Vocabulary) (path : Position)
    (es fs : List (String × Document)) :
    ∃ before : List Finding, ∀ d : Document,
      checkRules w path (KeywordGroup.properties.rules (("additionalProperties", d) :: es))
          (.object fs)
        = before ++ checkExtraEntries w path (patternsUnder es "patternProperties")
            (extra (some d)) (unlisted (schemasUnder es "properties") fs) := by
  have hgo : ∀ r ∈ requiredRules es, stops r = true → checkRule w path r (.object fs) = [] := by
    intro r hr hs
    have hr : r ∈ KeywordGroup.properties.rules es := List.mem_append_left _ hr
    rw [KeywordGroup.stops_of_mem_rules (by decide) hr] at hs
    cases hs
  refine ⟨checkRules w path (requiredRules es) (.object fs)
      ++ checkRule w path (.entries (schemasUnder es "properties")
          (patternsUnder es "patternProperties") .open) (.object fs), fun d => ?_⟩
  rw [KeywordGroup.rules_withExtra, checkRules_append _ hgo]
  simp only [checkRules, stops, checkRule, checkExtraEntries, Bool.false_and, Bool.false_eq_true,
    if_false, List.append_assoc, List.append_nil]

theorem goesOn_object (es fs : List (String × Document)) :
    goesOn es (.object fs) = allowsObjects es := by
  have hobject (name : String) : hasType name (.object fs) = (name == "object") := by
    unfold hasType
    split <;> simp_all
  simp only [goesOn, allowsObjects, hobject]

/-- What is said about additional properties adds its findings to others that do not depend on
it. -/
theorem check_withExtra (w : Vocabulary) (path : Position) (es fs : List (String × Document)) :
    ∃ before after : List Finding, ∀ d : Document,
      check w path (ofDocument (withExtra d es)) (.object fs)
        = before ++ (if allowsObjects es then
            checkExtraEntries w path (patternsUnder es "patternProperties") (extra (some d))
              (unlisted (schemasUnder es "properties") fs)
          else []) ++ after := by
  obtain ⟨before, after, hcheck⟩ :=
    check_around (g := .properties) (v := .object fs) (by decide) w path es rfl
  obtain ⟨inner, hrules⟩ := checkRules_withExtra w path es fs
  refine ⟨before ++ if allowsObjects es then inner else [], after, fun d => ?_⟩
  rw [withExtra, hcheck _ (agreeOutside_withExtra d), goesOn_object, hrules]
  cases allowsObjects es with
  | false => simp only [Bool.false_eq_true, if_false, List.append_nil]
  | true => simp only [if_true, List.append_assoc]

/-! ## Which entries are judged -/

theorem unlisted_eq (es fs : List (String × Document)) :
    unlisted (schemasUnder es "properties") fs = fs.filter fun e => !isProperty es e.1 := rfl

theorem any_patternsUnder (key : String) :
    ((patternsUnder es "patternProperties").any fun p => w.finds p.1 key) = isPatterned w es key :=
  List.any_map

theorem map_below_forbidden (w : Vocabulary) (path : String)
    (patterns : List (WrittenPattern × Schema)) (fs : List (String × Document)) :
    (checkExtraEntries w [] patterns .forbidden fs).map (Finding.below path)
      = (fs.filter fun e => !(patterns.any fun p => w.finds p.1 e.1)).map fun e =>
          ⟨path ++ (Branch.member e.1).text, Finding.Cause.extraEntry.message⟩ := by
  unfold checkExtraEntries
  induction fs with
  | nil => rfl
  | cons e fs ih =>
    rw [List.flatMap_cons, List.map_append, ih, List.filter_cons]
    cases patterns.any fun p => w.finds p.1 e.1 <;> rfl

theorem map_below_schema (w : Vocabulary) (path : String)
    (patterns : List (WrittenPattern × Schema)) (s : Schema) (fs : List (String × Document)) :
    (checkExtraEntries w [] patterns (.schema s) fs).map (Finding.below path)
      = fs.flatMap fun e =>
          (s.violationsIn w e.2).map (Violation.movedTo (path ++ (Branch.member e.1).text)) := by
  unfold checkExtraEntries
  rw [List.map_flatMap]
  refine List.flatMap_congr fun e _ => ?_
  rw [movedTo_violationsIn, map_below_check]
  rfl

/-- Additional properties that are forbidden are the entries that are no property and match no
pattern. A schema for additional properties is for all entries that are no property, those that
match a pattern too. All else that is found does not depend on what is said about them. -/
theorem extra_entries_exact (w : Vocabulary) (path : String) (es fs : List (String × Document))
    (found : List Violation) :
    ∃ before after : List Violation,
      collect w path (ofDocument (withExtra (.bool true) es)) (.object fs) found
        = found ++ (before ++ after) ∧
      collect w path (ofDocument (withExtra (.bool false) es)) (.object fs) found
        = found ++ (before ++ (if allowsObjects es then
            (fs.filter fun e => !isProperty es e.1 && !isPatterned w es e.1).map fun e =>
              ⟨path ++ (Branch.member e.1).text, Finding.Cause.extraEntry.message⟩
          else []) ++ after) ∧
      ∀ s : List (String × Document),
        collect w path (ofDocument (withExtra (.object s) es)) (.object fs) found
          = found ++ (before ++ (if allowsObjects es then
              (fs.filter fun e => !isProperty es e.1).flatMap fun e =>
                ((ofDocument (.object s)).violationsIn w e.2).map
                  (Violation.movedTo (path ++ (Branch.member e.1).text))
            else []) ++ after) := by
  obtain ⟨before, after, hcheck⟩ := check_withExtra w [] es fs
  refine ⟨before.map (Finding.below path), after.map (Finding.below path), ?_, ?_, fun s => ?_⟩
  all_goals
    rw [collect_eq, hcheck, List.map_append, List.map_append, apply_ite (List.map _)]
    simp only [extra]
  · simp [checkExtraEntries]
  · rw [map_below_forbidden, unlisted_eq, List.filter_filter]
    simp only [any_patternsUnder, Bool.and_comm, List.map_nil]
  · rw [map_below_schema, unlisted_eq, List.map_nil]

/-- An entry that matches a pattern is no additional property where these are forbidden, but is
checked against a schema for them. -/
theorem extra_schema_is_for_patterned :
    let es := [("patternProperties", Document.object [("^x-", .object [])])]
    let d := Document.object [("x-a", .whole 1)]
    isPatterned (.standard (fun _ => "") false) es "x-a" = true ∧
      (ofDocument (withExtra (.bool false) es)).violations (fun _ => "") false d = [] ∧
      (ofDocument (withExtra (.object [("type", .string "string")]) es)).violations (fun _ => "")
          false d
        = [⟨"$.x-a", "Type mismatch: expected string"⟩] := by
  intro es d
  have hfinds : (Vocabulary.standard (fun _ => "") false).finds (.ofString "^x-") "x-a" = true := by
    decide +kernel
  have hopen : ofDocument (.object []) = .node false [.entries [] [] .open] := by
    rw [ofDocument_object]
    rfl
  have htext : ofDocument (.object [("type", .string "string")])
      = .node false [.type "string", .entries [] [] .open] := by
    rw [ofDocument_object]
    rfl
  have hnode (x : Document) : ofDocument (withExtra x es)
      = .node false [.entries [] [(.ofString "^x-", .node false [.entries [] [] .open])]
          (extra (some x))] := by
    rw [withExtra, ofDocument_object, ← hopen]
    rfl
  refine ⟨?_, ?_, ?_⟩
  · show ([("^x-", ofDocument (.object []))].any
      fun p => (Vocabulary.standard (fun _ => "") false).finds (.ofString p.1) "x-a") = true
    simpa using hfinds
  · rw [hnode]
    decide +kernel
  · rw [hnode, extra, htext]
    decide +kernel

end Schema

end Reshape
