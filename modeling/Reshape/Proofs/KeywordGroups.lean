import Reshape.Proofs.MetRules
import Reshape.Proofs.Reporting

/-!
# Keyword groups of a schema

The keywords of a schema fall into groups. A group's rules are read from its own keywords alone,
`KeywordGroup.rules_congr`, and a node has the rules of all groups one after the other,
`ofDocument_object`. So a document meets a node just if it meets each group on its own.
-/

namespace Reshape

theorem Document.find?_filter (es : List (String × Document)) (wanted : String → Bool)
    (key : String) :
    find? (es.filter fun e => wanted e.1) key
      = if wanted key then find? es key else none := by
  unfold find?
  rw [List.find?_filter]
  split
  case isTrue hkey =>
    congr 1
    refine congrArg (List.find? · es) (funext fun e => ?_)
    by_cases he : e.1 = key <;> simp [he, hkey]
  case isFalse hkey =>
    rw [Option.map_eq_none_iff, List.find?_eq_none]
    intro e _
    by_cases he : e.1 = key <;> simp [he, hkey]

namespace Schema

/-- The keywords that say one thing together. -/
inductive KeywordGroup where
  | type | enum | const
  | minLength | maxLength | pattern | format
  | minimum | maximum | exclusiveMinimum | exclusiveMaximum | multipleOf
  | minItems | maxItems | uniqueItems | items
  | properties
  | oneOf | anyOf | allOf
  deriving DecidableEq

namespace KeywordGroup

def keys : KeywordGroup → List String
  | type => ["type"]
  | enum => ["enum"]
  | const => ["const"]
  | minLength => ["minLength"]
  | maxLength => ["maxLength"]
  | pattern => ["pattern"]
  | format => ["format"]
  | minimum => ["minimum"]
  | maximum => ["maximum"]
  | exclusiveMinimum => ["exclusiveMinimum"]
  | exclusiveMaximum => ["exclusiveMaximum"]
  | multipleOf => ["multipleOf"]
  | minItems => ["minItems"]
  | maxItems => ["maxItems"]
  | uniqueItems => ["uniqueItems"]
  | items => ["items", "additionalItems"]
  | properties => ["properties", "required", "patternProperties", "additionalProperties"]
  | oneOf => ["oneOf"]
  | anyOf => ["anyOf"]
  | allOf => ["allOf"]

def all : List KeywordGroup := [type, enum, const, minLength, maxLength, pattern, format, minimum,
  maximum, exclusiveMinimum, exclusiveMaximum, multipleOf, minItems, maxItems, uniqueItems, items,
  properties, oneOf, anyOf, allOf]

theorem mem_all (g : KeywordGroup) : g ∈ all := by cases g <;> decide

/-- What is left of a schema that keeps one group. -/
def part (g : KeywordGroup) (es : List (String × Document)) : Document :=
  .object (es.filter fun e => e.1 ∈ g.keys)

end KeywordGroup

/-- A schema of what the groups of another one say, each on its own. -/
def partsOf (es : List (String × Document)) : Document :=
  .object (es.filter (fun e => e.1 == "nullable")
    ++ [("allOf", .array (KeywordGroup.all.map fun g => g.part es))])

/-! ## The rules of a group -/

def choiceRules (rule : List Schema → Rule Schema) (es : List (String × Document)) (key : String) :
    List (Rule Schema) :=
  match Document.find? es key with
  | some (.array ds) => [rule (ds.map ofDocument)]
  | _ => []

def schemasUnder (es : List (String × Document)) (key : String) : List (String × Schema) :=
  match Document.find? es key with
  | some (.object fs) => fs.map fun e => (e.1, ofDocument e.2)
  | _ => []

def extra : Option Document → Extra Schema
  | some (.bool false) => .forbidden
  | some (.object es) => .schema (ofDocument (.object es))
  | _ => .open

def itemRules (es : List (String × Document)) : List (Rule Schema) :=
  match Document.find? es "items" with
  | some (.array ds) =>
    [.tuple (ds.map ofDocument) (extra (Document.find? es "additionalItems"))]
  | some d => [.items (ofDocument d)]
  | none => []

def patternsUnder (es : List (String × Document)) (key : String) :
    List (WrittenPattern × Schema) :=
  (schemasUnder es key).map fun (p, s) => (.ofString p, s)

def entryRule (es : List (String × Document)) : Rule Schema :=
  .entries (schemasUnder es "properties") (patternsUnder es "patternProperties")
    (extra (Document.find? es "additionalProperties"))

/-- The rules that a schema has from a group. -/
def KeywordGroup.rules (es : List (String × Document)) : KeywordGroup → List (Rule Schema)
  | type => typeRules es
  | enum => enumRules es
  | const => constRules es
  | minLength => ((count? es "minLength").map Rule.minLength).toList
  | maxLength => ((count? es "maxLength").map Rule.maxLength).toList
  | pattern => ((text? es "pattern").map fun s => Rule.pattern (.ofString s)).toList
  | format => ((text? es "format").map Rule.format).toList
  | minimum => ((bound? es "minimum").map Rule.minimum).toList
  | maximum => ((bound? es "maximum").map Rule.maximum).toList
  | exclusiveMinimum => ((bound? es "exclusiveMinimum").map Rule.exclusiveMinimum).toList
  | exclusiveMaximum => ((bound? es "exclusiveMaximum").map Rule.exclusiveMaximum).toList
  | multipleOf => ((bound? es "multipleOf").map Rule.multipleOf).toList
  | minItems => ((count? es "minItems").map Rule.minItems).toList
  | maxItems => ((count? es "maxItems").map Rule.maxItems).toList
  | uniqueItems => if flag es "uniqueItems" then [.uniqueItems] else []
  | items => itemRules es
  | properties => requiredRules es ++ [entryRule es]
  | oneOf => choiceRules .oneOf es "oneOf"
  | anyOf => choiceRules .anyOf es "anyOf"
  | allOf => choiceRules .allOf es "allOf"

/-- The rules of all groups, in the order in which a node holds them. -/
theorem KeywordGroup.flatMap_rules (es : List (String × Document)) :
    KeywordGroup.all.flatMap (KeywordGroup.rules es)
      = typeRules es ++ enumRules es ++ constRules es ++ stringRules es ++ numberRules es
        ++ arraySizeRules es ++ itemRules es ++ requiredRules es ++ [entryRule es]
        ++ choiceRules .oneOf es "oneOf" ++ choiceRules .anyOf es "anyOf"
        ++ choiceRules .allOf es "allOf" := by
  simp only [all, List.flatMap_cons, List.flatMap_nil, rules, stringRules, numberRules,
    arraySizeRules, List.append_assoc, List.append_nil]

theorem ofDocument_object (es : List (String × Document)) :
    ofDocument (.object es)
      = .node (flag es "nullable") (KeywordGroup.all.flatMap (KeywordGroup.rules es)) := by
  rw [ofDocument, KeywordGroup.flatMap_rules]
  simp only [List.attach_map_val]
  congr 7
  -- each piece depends on what is found under its key, whatever that is; patterns are read from
  -- an object of schemas, as properties are
  any_goals refine congrArg (List.map _) ?_
  · unfold itemRules
    generalize Document.find? es "items" = found
    generalize Document.find? es "additionalItems" = behind
    rcases found with - | - | - | - | - | ds | fs
    case some.array => rcases behind with - | - | (- | -) | - | - | ds | fs <;> rfl
    all_goals rfl
  any_goals
    unfold schemasUnder
    generalize Document.find? es _ = found
    rcases found with - | - | - | - | - | ds | fs
    case some.object =>
      exact List.attach_map_val (f := fun e : String × Document => (e.1, ofDocument e.2))
    all_goals rfl
  · generalize Document.find? es "additionalProperties" = found
    rcases found with - | - | (- | -) | - | - | ds | fs <;> rfl
  all_goals
    unfold choiceRules
    generalize Document.find? es _ = found
    rcases found with - | - | - | - | - | ds | fs <;> rfl

/-! ## Groups on their own -/

namespace KeywordGroup

variable {es fs : List (String × Document)} {g h : KeywordGroup}

theorem eq_of_mem_keys {key : String} (hg : key ∈ g.keys) (hh : key ∈ h.keys) : g = h := by
  have all_disjoint : ∀ g ∈ all, ∀ h ∈ all, g = h ∨ ∀ key ∈ g.keys, key ∉ h.keys := by
    decide +kernel
  rcases all_disjoint g (mem_all g) h (mem_all h) with rfl | hdisjoint
  · rfl
  · exact absurd hh (hdisjoint key hg)

theorem nullable_not_mem_keys : "nullable" ∉ g.keys := by
  have all_without : ∀ g ∈ all, "nullable" ∉ g.keys := by decide +kernel
  exact all_without g (mem_all g)

/-- The rules of a group are read from its own keywords. -/
theorem rules_congr (hfind : ∀ key ∈ g.keys, Document.find? es key = Document.find? fs key) :
    g.rules es = g.rules fs := by
  cases g <;> simp only [keys, List.forall_mem_cons, List.not_mem_nil, false_implies,
    implies_true, and_true] at hfind
  case uniqueItems =>
    have hflag : flag es "uniqueItems" = flag fs "uniqueItems" := by simp only [flag, hfind]
    simp only [rules, hflag]
  all_goals
    simp only [rules, typeRules, enumRules, constRules, count?, text?, bound?, itemRules,
      requiredRules, entryRule, choiceRules, schemasUnder, patternsUnder, hfind]

/-- A schema with one group has its rules, and of the others those of no keyword. -/
theorem rules_filter (es : List (String × Document)) (g h : KeywordGroup) :
    h.rules (es.filter fun e => e.1 ∈ g.keys) = h.rules (if h = g then es else []) := by
  refine rules_congr fun key hkey => ?_
  rw [Document.find?_filter es (fun key => key ∈ g.keys) key]
  by_cases hg : key ∈ g.keys
  · rw [if_pos (decide_eq_true hg), if_pos (eq_of_mem_keys hkey hg)]
  · have hne : h ≠ g := fun heq => hg (heq ▸ hkey)
    rw [if_neg (by simpa using hg), if_neg hne]
    rfl

end KeywordGroup

variable {w : Vocabulary} {path : Position}

theorem KeywordGroup.rules_nil_met (g : KeywordGroup) (v : Document) :
    ∀ r ∈ g.rules [], checkRule w path r v = [] := by
  intro r hr
  cases g
  case properties =>
    have hr : r = .entries [] [] .open := by simpa [rules, requiredRules, entryRule, schemasUnder,
      patternsUnder, Document.find?, extra] using hr
    exact hr ▸ checkRule_open
  all_goals cases hr

/-- A document meets what is left of a schema just if it meets the rules of that group. -/
theorem check_part_eq_nil {g : KeywordGroup} {es : List (String × Document)} {v : Document} :
    check w path (ofDocument (g.part es)) v = []
      ↔ ∀ r ∈ g.rules es, checkRule w path r v = [] := by
  have hflag : flag (es.filter fun e => e.1 ∈ g.keys) "nullable" = false := by
    rw [flag, Document.find?_filter es (fun key => key ∈ g.keys), if_neg (by
      simpa using KeywordGroup.nullable_not_mem_keys)]
    rfl
  rw [KeywordGroup.part, ofDocument_object, hflag, check_rules_eq_nil]
  simp only [List.mem_flatMap, KeywordGroup.mem_all, true_and, KeywordGroup.rules_filter,
    forall_exists_index]
  constructor
  · intro hmet r hr
    exact hmet r g (by rwa [if_pos rfl])
  · intro hmet r h hr
    by_cases heq : h = g
    · rw [if_pos heq, heq] at hr
      exact hmet r hr
    · rw [if_neg heq] at hr
      exact h.rules_nil_met v r hr

theorem find?_nullable_allOf (es : List (String × Document)) (d : Document) (key : String) :
    Document.find? (es.filter (fun e => e.1 == "nullable") ++ [("allOf", d)]) key
      = if key = "nullable" then Document.find? es key
        else if key = "allOf" then some d else none := by
  have hflag := Document.find?_filter es (· == "nullable") key
  have hall : Document.find? [("allOf", d)] key = if key = "allOf" then some d else none := by
    by_cases h : "allOf" = key <;> simp [Document.find?, h, eq_comm (a := key)]
  unfold Document.find? at hflag hall ⊢
  rw [List.find?_append, Option.map_or, hflag, hall]
  by_cases h : key = "nullable" <;> simp [h]

theorem KeywordGroup.rules_nullable_allOf (es : List (String × Document)) (ds : List Document)
    (g : KeywordGroup) :
    g.rules (es.filter (fun e => e.1 == "nullable") ++ [("allOf", .array ds)])
      = if g = allOf then [.allOf (ds.map ofDocument)] else g.rules [] := by
  split
  case isTrue h =>
    rw [h, rules, choiceRules, find?_nullable_allOf, if_neg (by decide), if_pos rfl]
  case isFalse h =>
    refine rules_congr fun key hkey => ?_
    have hnullable : key ≠ "nullable" := fun heq => nullable_not_mem_keys (heq ▸ hkey)
    have hall : key ≠ "allOf" := fun heq =>
      h (eq_of_mem_keys hkey (heq ▸ List.mem_singleton_self key))
    rw [find?_nullable_allOf, if_neg hnullable, if_neg hall]
    rfl

/-- A document meets the schema of the parts just if it may be null and is, or meets each part. -/
theorem check_partsOf_eq_nil {es : List (String × Document)} {v : Document} :
    check w path (ofDocument (partsOf es)) v = []
      ↔ (flag es "nullable" = true ∧ v.isNull = true)
        ∨ ∀ g : KeywordGroup, check w path (ofDocument (g.part es)) v = [] := by
  have hflag : flag (es.filter (fun e => e.1 == "nullable")
      ++ [("allOf", .array (KeywordGroup.all.map fun g => g.part es))]) "nullable"
        = flag es "nullable" := by
    rw [flag, find?_nullable_allOf, if_pos rfl, flag]
  rw [partsOf, ofDocument_object, hflag, check_node_eq_nil]
  refine or_congr_right ?_
  simp only [List.mem_flatMap, KeywordGroup.mem_all, true_and, forall_exists_index,
    KeywordGroup.rules_nullable_allOf]
  constructor
  · intro hmet g
    have hall := hmet (.allOf (KeywordGroup.all.map fun g => ofDocument (g.part es))) .allOf
      (by simp [Function.comp_def])
    rw [checkRule, checkAll_eq_nil] at hall
    exact hall _ (List.mem_map_of_mem (KeywordGroup.mem_all g))
  · intro hmet r h hr
    split at hr
    case isTrue =>
      cases List.mem_singleton.1 hr
      rw [checkRule, checkAll_eq_nil]
      simpa using fun g _ => hmet g
    case isFalse => exact h.rules_nil_met v r hr

/-- A document meets a schema just if it may be null and is, or meets each part of it. -/
theorem check_object_eq_nil {es : List (String × Document)} {v : Document} :
    check w path (ofDocument (.object es)) v = []
      ↔ (flag es "nullable" = true ∧ v.isNull = true)
        ∨ ∀ g : KeywordGroup, check w path (ofDocument (g.part es)) v = [] := by
  rw [ofDocument_object, check_node_eq_nil]
  refine or_congr_right ?_
  simp only [check_part_eq_nil, List.mem_flatMap, KeywordGroup.mem_all, true_and]
  exact ⟨fun h g r hr => h r ⟨g, hr⟩, fun h r ⟨g, hr⟩ => h g r hr⟩

/-- A schema of keywords accepts null if it says so, and else what each of its groups accepts. The
schema of its parts accepts the same. -/
theorem node_is_conjunction (w : Vocabulary) (es : List (String × Document)) (v : Document) :
    ((ofDocument (.object es)).violationsIn w v = []
      ↔ (v = .null ∧ Document.find? es "nullable" = some (.bool true))
        ∨ ∀ g : KeywordGroup, (ofDocument (g.part es)).violationsIn w v = []) ∧
    ((ofDocument (.object es)).violationsIn w v = []
      ↔ (ofDocument (partsOf es)).violationsIn w v = []) := by
  have hnull : (flag es "nullable" = true ∧ v.isNull = true)
      ↔ (v = .null ∧ Document.find? es "nullable" = some (.bool true)) := by
    rw [flag, beq_iff_eq, and_comm]
    cases v <;> simp [Document.isNull]
  have hnode := @check_object_eq_nil w [] es v
  have hparts := @check_partsOf_eq_nil w [] es v
  simp only [check_eq_nil_iff, hnull] at hnode hparts
  exact ⟨hnode, hnode.trans hparts.symm⟩

end Schema

end Reshape
