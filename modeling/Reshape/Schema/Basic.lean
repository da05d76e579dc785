import Reshape.Document.Position
import Reshape.Pattern.Reader

/-!
# Schemas

A schema says which documents are accepted. It is a verdict, or a node of rules
that all have to hold. A rule about one kind of documents says nothing about the
others. `Schema.ofDocument` reads the schema that a document describes; entries
it does not know, or that have another form than expected, are passed over.
-/

namespace Reshape

/-- A pattern as written, with its meaning if it has one. -/
structure WrittenPattern where
  source : String
  pattern : Option Pattern
  deriving DecidableEq, Repr

def WrittenPattern.ofString (source : String) : WrittenPattern :=
  ⟨source, Pattern.read? source.toList⟩

/-- What holds for the items or entries that no other rule is about. -/
inductive Extra (σ : Type) where
  | open
  | forbidden
  | schema (s : σ)
  deriving Repr

inductive Rule (σ : Type) where
  | type (name : String)
  | typeAmong (names : List String)
  | enum (options : List Document)
  | const (value : Document)
  | minLength (n : Nat)
  | maxLength (n : Nat)
  | pattern (p : WrittenPattern)
  | format (name : String)
  | minimum (bound : Number)
  | maximum (bound : Number)
  | exclusiveMinimum (bound : Number)
  | exclusiveMaximum (bound : Number)
  | multipleOf (step : Number)
  | minItems (n : Nat)
  | maxItems (n : Nat)
  | uniqueItems
  | items (s : σ)
  | tuple (ss : List σ) (extra : Extra σ)
  | required (keys : List String)
  | entries (properties : List (String × σ)) (patterns : List (WrittenPattern × σ))
      (extra : Extra σ)
  | oneOf (options : List σ)
  | anyOf (options : List σ)
  | allOf (all : List σ)
  deriving Repr

inductive Schema where
  | verdict (accepts : Bool)
  | node (nullable : Bool) (rules : List (Rule Schema))
  deriving Repr

namespace Schema

/-! ## Entries of a node -/

def strings (ds : List Document) : List String :=
  ds.filterMap fun
    | .string s => some s
    | _ => none

def text? (es : List (String × Document)) (key : String) : Option String :=
  match Document.find? es key with
  | some (.string s) => some s
  | _ => none

def count? (es : List (String × Document)) (key : String) : Option Nat :=
  match Document.find? es key with
  | some (.number n) => n.toNat?
  | _ => none

def bound? (es : List (String × Document)) (key : String) : Option Number :=
  match Document.find? es key with
  | some (.number n) => some n
  | _ => none

def flag (es : List (String × Document)) (key : String) : Bool :=
  Document.find? es key == some (.bool true)

/-! ## Rules without schemas inside -/

def typeRules (es : List (String × Document)) : List (Rule Schema) :=
  match Document.find? es "type" with
  | some (.string name) => [.type name]
  | some (.array names) => [.typeAmong (strings names)]
  | _ => []

def enumRules (es : List (String × Document)) : List (Rule Schema) :=
  match Document.find? es "enum" with
  | some (.array options) => [.enum options]
  | _ => []

def constRules (es : List (String × Document)) : List (Rule Schema) :=
  ((Document.find? es "const").map Rule.const).toList

def stringRules (es : List (String × Document)) : List (Rule Schema) :=
  ((count? es "minLength").map Rule.minLength).toList
    ++ ((count? es "maxLength").map Rule.maxLength).toList
    ++ ((text? es "pattern").map fun s => Rule.pattern (.ofString s)).toList
    ++ ((text? es "format").map Rule.format).toList

def numberRules (es : List (String × Document)) : List (Rule Schema) :=
  ((bound? es "minimum").map Rule.minimum).toList
    ++ ((bound? es "maximum").map Rule.maximum).toList
    ++ ((bound? es "exclusiveMinimum").map Rule.exclusiveMinimum).toList
    ++ ((bound? es "exclusiveMaximum").map Rule.exclusiveMaximum).toList
    ++ ((bound? es "multipleOf").map Rule.multipleOf).toList

def arraySizeRules (es : List (String × Document)) : List (Rule Schema) :=
  ((count? es "minItems").map Rule.minItems).toList
    ++ ((count? es "maxItems").map Rule.maxItems).toList
    ++ if flag es "uniqueItems" then [.uniqueItems] else []

def requiredRules (es : List (String × Document)) : List (Rule Schema) :=
  match Document.find? es "required" with
  | some (.array keys) => [.required (strings keys)]
  | _ => []

/-! ## Schemas of documents -/

theorem size_lt_of_find?_array {es : List (String × Document)} {key : String}
    {ds : List Document} {d : Document} (h : Document.find? es key = some (.array ds))
    (hd : d ∈ ds) : d.size < (Document.object es).size :=
  Nat.lt_trans (Document.size_lt_of_mem hd) (Document.size_lt_of_find? h)

theorem size_lt_of_find?_object {es fs : List (String × Document)} {key : String}
    {e : String × Document} (h : Document.find? es key = some (.object fs)) (he : e ∈ fs) :
    e.2.size < (Document.object es).size := by
  have h₁ := Document.size_lt_of_find? h
  have h₂ := Document.size_le_entrySizes he
  simp only [Document.size] at h₁ ⊢
  omega

/-- The schema that a document describes. -/
def ofDocument : Document → Schema
  | .bool accepts => .verdict accepts
  | .object es =>
    let inArray (key : String) (rule : List Schema → Rule Schema) : List (Rule Schema) :=
      match h : Document.find? es key with
      | some (.array ds) => [rule (ds.attach.map fun ⟨d, hd⟩ =>
          have := size_lt_of_find?_array h hd
          ofDocument d)]
      | _ => []
    let inObject (key : String) : List (String × Schema) :=
      match h : Document.find? es key with
      | some (.object fs) => fs.attach.map fun ⟨e, he⟩ =>
          have := size_lt_of_find?_object h he
          (e.1, ofDocument e.2)
      | _ => []
    let extra (key : String) : Extra Schema :=
      match h : Document.find? es key with
      | some (.bool false) => .forbidden
      | some (.object fs) =>
          have := Document.size_lt_of_find? h
          .schema (ofDocument (.object fs))
      | _ => .open
    let itemRules : List (Rule Schema) :=
      match h : Document.find? es "items" with
      | some (.array ds) => [.tuple (ds.attach.map fun ⟨d, hd⟩ =>
          have := size_lt_of_find?_array h hd
          ofDocument d) (extra "additionalItems")]
      | some d =>
          have := Document.size_lt_of_find? h
          [.items (ofDocument d)]
      | none => []
    .node (flag es "nullable")
      (typeRules es ++ enumRules es ++ constRules es ++ stringRules es ++ numberRules es
        ++ arraySizeRules es ++ itemRules ++ requiredRules es
        ++ [.entries (inObject "properties")
            ((inObject "patternProperties").map fun (p, s) => (.ofString p, s))
            (extra "additionalProperties")]
        ++ inArray "oneOf" .oneOf ++ inArray "anyOf" .anyOf ++ inArray "allOf" .allOf)
  | _ => .verdict true
termination_by d => d.size

end Schema

end Reshape
