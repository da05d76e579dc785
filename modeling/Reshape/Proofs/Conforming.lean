import Reshape.Proofs.Faults
import Reshape.Proofs.MetRules
import Reshape.Proofs.Reporting

/-!
# Documents that meet the schema of specifications

Each rule of the schema language that the schema of specifications is written in says one
thing about a document. Put together, they say that a document is an object of a list of
templates and a root, and then it can be read as a specification.
-/

namespace Reshape

namespace Spec

open Schema

/-! ## The schemas that are described -/

theorem ofDocument_anyKind : Schema.ofDocument anyKind = .node false [
    .typeAmong ["object", "array", "string", "number", "boolean", "null"],
    .entries [] [] .open] := by
  unfold anyKind
  rw [Schema.ofDocument]
  rfl

theorem ofDocument_nonemptyText : Schema.ofDocument nonemptyText = .node false [
    .type "string", .minLength 1, .entries [] [] .open] := by
  unfold nonemptyText
  rw [Schema.ofDocument]
  rfl

theorem ofDocument_templateSchema : Schema.ofDocument templateSchema = .node false [
    .type "object", .required ["output"],
    .entries [("name", .ofDocument nonemptyText), ("match", .ofDocument nonemptyText),
      ("output", .ofDocument anyKind)] [] .forbidden] := by
  unfold templateSchema
  rw [Schema.ofDocument]
  rfl

theorem ofDocument_templates :
    Schema.ofDocument (.object [("type", .string "array"), ("items", templateSchema)])
      = .node false [.type "array", .items (.ofDocument templateSchema), .entries [] [] .open] := by
  rw [Schema.ofDocument]
  rfl

theorem schema_eq : schema = .node false [
    .type "object", .required ["templates", "root"],
    .entries [
      ("templates", .ofDocument (.object [("type", .string "array"), ("items", templateSchema)])),
      ("root", .ofDocument anyKind)] [] .forbidden] := by
  unfold schema schemaDocument
  rw [Schema.ofDocument]
  rfl

/-! ## Documents that are accepted -/

theorem exists_find?_iff {es : List (String × Document)} {key : String} :
    (∃ d, Document.find? es key = some d) ↔ key ∈ es.map Prod.fst := by
  unfold Document.find?
  rw [← Option.isSome_iff_exists, Option.isSome_map, List.find?_isSome]
  simp

/-- A text that is not empty. -/
def IsName (d : Document) : Prop := ∃ s, d = .string s ∧ s ≠ ""

/-- The entries of a template in a specification. -/
structure TemplateEntries (es : List (String × Document)) : Prop where
  keys : ∀ e ∈ es, e.1 ∈ ["name", "match", "output"]
  name : ∀ d, Document.find? es "name" = some d → IsName d
  picks : ∀ d, Document.find? es "match" = some d → IsName d
  output : ∃ d, Document.find? es "output" = some d

/-- An object of a body and of what a template may have beside it. -/
def IsTemplate (d : Document) : Prop := ∃ es, d = .object es ∧ TemplateEntries es

/-- The entries of a specification: a list of templates and a root, and no others. -/
structure SpecEntries (es : List (String × Document)) : Prop where
  keys : ∀ key, key ∈ es.map Prod.fst ↔ key = "templates" ∨ key = "root"
  templates : ∃ ds, Document.find? es "templates" = some (.array ds) ∧ ∀ d ∈ ds, IsTemplate d

/-- An object of a list of templates and a root. -/
def IsSpecification (d : Document) : Prop := ∃ es, d = .object es ∧ SpecEntries es

variable {w : Vocabulary} {path : Position} {d : Document}

theorem check_anyKind : check w path (.ofDocument anyKind) d = [] := by
  rw [ofDocument_anyKind, check_rules_eq_nil]
  simp only [List.forall_mem_cons, checkRule_open, checkRule_typeAmong_eq_nil]
  cases d <;> simp [hasType]

theorem check_nonemptyText_eq_nil :
    check w path (.ofDocument nonemptyText) d = [] ↔ IsName d := by
  rw [ofDocument_nonemptyText, check_rules_eq_nil]
  simp only [List.forall_mem_cons, checkRule_open, checkRule_type_eq_nil]
  unfold IsName
  cases d with
  | string s =>
    have hlength : 1 ≤ s.toList.length ↔ s ≠ "" := by
      rw [Nat.succ_le_iff, List.length_pos_iff, Ne, String.toList_eq_nil_iff]
    rw [checkRule_minLength_eq_nil, hlength]
    constructor
    · rintro ⟨-, hs, -⟩
      exact ⟨s, rfl, hs⟩
    · rintro ⟨_, ⟨⟩, hs⟩
      exact ⟨rfl, hs, trivial, nofun⟩
  | _ => exact ⟨fun h => absurd h.1 Bool.false_ne_true, nofun⟩

theorem check_templateSchema_eq_nil :
    check w path (.ofDocument templateSchema) d = [] ↔ IsTemplate d := by
  rw [ofDocument_templateSchema, check_rules_eq_nil]
  simp only [List.forall_mem_cons, checkRule_type_eq_nil]
  unfold IsTemplate
  cases d with
  | object es =>
    simp only [checkRule_required_eq_nil, checkRule_listed_eq_nil, List.forall_mem_cons,
      check_anyKind, check_nonemptyText_eq_nil]
    constructor
    · rintro ⟨-, ⟨ho, -⟩, ⟨⟨hn, hp, -⟩, hk⟩, -⟩
      exact ⟨es, rfl, hk, hn, hp, ho⟩
    · rintro ⟨_, ⟨⟩, hk, hn, hp, ho⟩
      exact ⟨rfl, ⟨ho, nofun⟩, ⟨⟨hn, hp, fun _ _ => trivial, nofun⟩, hk⟩, nofun⟩
  | _ => exact ⟨fun h => absurd h.1 Bool.false_ne_true, nofun⟩

theorem check_templates_eq_nil :
    check w path
        (.ofDocument (.object [("type", .string "array"), ("items", templateSchema)])) d = []
      ↔ ∃ ds, d = .array ds ∧ ∀ t ∈ ds, IsTemplate t := by
  rw [ofDocument_templates, check_rules_eq_nil]
  simp only [List.forall_mem_cons, checkRule_type_eq_nil, checkRule_open]
  cases d with
  | array ds =>
    simp only [checkRule_items_eq_nil, check_templateSchema_eq_nil, List.mem_iff_getElem?]
    constructor
    · rintro ⟨-, h, -⟩
      exact ⟨ds, rfl, fun t ⟨i, hi⟩ => h i t hi⟩
    · rintro ⟨_, ⟨⟩, h⟩
      exact ⟨rfl, fun i t hi => h t ⟨i, hi⟩, trivial, by simp⟩
  | _ => exact ⟨fun h => absurd h.1 Bool.false_ne_true, nofun⟩

/-- What the keys of a specification are, said by what may be there and what has to be. -/
theorem keys_iff {es : List (String × Document)} :
    (∀ key, key ∈ es.map Prod.fst ↔ key = "templates" ∨ key = "root")
      ↔ (∀ e ∈ es, e.1 ∈ ["templates", "root"]) ∧
        (∃ d, Document.find? es "templates" = some d) ∧ ∃ d, Document.find? es "root" = some d := by
  rw [exists_find?_iff, exists_find?_iff]
  constructor
  · intro h
    refine ⟨fun e he => ?_, (h _).2 (.inl rfl), (h _).2 (.inr rfl)⟩
    simpa using (h e.1).1 (List.mem_map_of_mem he)
  · rintro ⟨h, ht, hr⟩ key
    constructor
    · intro hkey
      obtain ⟨e, he, rfl⟩ := List.mem_map.1 hkey
      simpa using h e he
    · rintro (rfl | rfl)
      · exact ht
      · exact hr

theorem check_schema_eq_nil : check w path schema d = [] ↔ IsSpecification d := by
  rw [schema_eq, check_rules_eq_nil]
  simp only [List.forall_mem_cons, checkRule_type_eq_nil]
  unfold IsSpecification
  cases d with
  | object es =>
    simp only [checkRule_required_eq_nil, checkRule_listed_eq_nil, List.forall_mem_cons,
      check_anyKind, check_templates_eq_nil]
    constructor
    · rintro ⟨-, ⟨⟨d, hd⟩, hr, -⟩, ⟨⟨ht, -⟩, hk⟩, -⟩
      obtain ⟨ds, rfl, h⟩ := ht d hd
      exact ⟨es, rfl, keys_iff.2 ⟨hk, ⟨_, hd⟩, hr⟩, ds, hd, h⟩
    · rintro ⟨_, ⟨⟩, hk, ds, hds, h⟩
      obtain ⟨hk, ht, hr⟩ := keys_iff.1 hk
      refine ⟨rfl, ⟨ht, hr, nofun⟩, ⟨⟨?_, fun _ _ => trivial, nofun⟩, hk⟩, nofun⟩
      intro d hd
      obtain rfl := Option.some.inj (hds.symm.trans hd)
      exact ⟨ds, rfl, h⟩
  | _ => exact ⟨fun h => absurd h.1 Bool.false_ne_true, nofun⟩

/-! ## Reading what is accepted -/

theorem optionalText?_of_name {source : Option Document} (h : ∀ d, source = some d → IsName d) :
    ∃ text, TemplateSource.optionalText? source = some text := by
  cases source with
  | none => exact ⟨none, rfl⟩
  | some d =>
    obtain ⟨s, rfl, -⟩ := h d rfl
    exact ⟨some s, rfl⟩

theorem IsTemplate.read (h : IsTemplate d) : ∃ t, TemplateSource.ofDocument? d = some t := by
  obtain ⟨es, rfl, h⟩ := h
  obtain ⟨name, hn⟩ := optionalText?_of_name h.name
  obtain ⟨picks, hp⟩ := optionalText?_of_name h.picks
  obtain ⟨output, ho⟩ := h.output
  refine ⟨⟨name, picks, output⟩, ?_⟩
  unfold TemplateSource.ofDocument?
  dsimp only
  rw [hn, hp, ho]
  rfl

theorem IsSpecification.read (h : IsSpecification d) :
    ∃ source, SpecSource.ofDocument? d = some source := by
  obtain ⟨es, rfl, h⟩ := h
  obtain ⟨ds, hds, ht⟩ := h.templates
  obtain ⟨-, -, root, hr⟩ := keys_iff.1 h.keys
  obtain ⟨ts, hts⟩ := exists_mapM_of_forall fun t hmem => (ht t hmem).read
  refine ⟨⟨ts, root⟩, ?_⟩
  unfold SpecSource.ofDocument?
  dsimp only
  rw [hds, hr]
  simp [SpecSource.templates?, hts]

theorem violations_schema_eq_nil {explain : String → String} {anyFormat : Bool} :
    schema.violations explain anyFormat d = [] ↔ IsSpecification d := by
  unfold violations
  rw [← check_eq_nil_iff (p := []), check_schema_eq_nil]

/-- The check that is made unless another one is given. -/
theorem conformance_ok_iff : conformance d = .ok () ↔ IsSpecification d := by
  rw [← violations_schema_eq_nil]
  unfold conformance
  split
  · exact ⟨fun _ => ‹_›, fun _ => rfl⟩
  · exact ⟨nofun, fun h => absurd h ‹_›⟩

theorem FirstFault.ne_malformed {l : Location} {e : Error} (h : FirstFault l d e) :
    e ≠ .malformed := by
  induction h with
  | item _ _ ih | entry _ _ _ _ ih => exact ih
  | _ => exact nofun

theorem ofSource_ne_malformed (source : SpecSource) : ofSource source ≠ .error .malformed := by
  intro h
  cases (ofSource_error_iff source .malformed).1 h with
  | template _ _ _ h =>
    cases h with
    | output _ h => exact h.ne_malformed rfl
  | root _ _ h => exact h.ne_malformed rfl

/-- The schema of specifications is broken by nothing but documents that are no specification.
What meets it can be read, so that compiling never fails for the form of the document. -/
theorem schema_exact (raw : Document) :
    (∀ explain anyFormat, schema.violations explain anyFormat raw = [] ↔ IsSpecification raw) ∧
      (conformance raw = .ok () → ∃ source, SpecSource.ofDocument? raw = some source) ∧
      compile raw ≠ .error .malformed := by
  refine ⟨fun _ _ => violations_schema_eq_nil, fun h => (conformance_ok_iff.1 h).read, ?_⟩
  intro h
  unfold compile compileWith at h
  split at h
  · cases h
  · rename_i hc
    obtain ⟨source, hs⟩ := (conformance_ok_iff.1 hc).read
    rw [hs] at h
    exact ofSource_ne_malformed source h

end Spec

end Reshape
