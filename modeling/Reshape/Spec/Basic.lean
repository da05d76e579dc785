import Reshape.Spec.Location
import Reshape.Spec.Output

/-!
# Compiled specifications

A `Spec` holds templates and a root body, with all selectors and expressions
read, and the warnings about them.
-/

namespace Reshape

/-- A template; one without a name is never applied. -/
structure Template where
  name : Option String
  /-- Selects the nodes that the template offers itself for. -/
  picks : Option Selector
  output : Output
  deriving Repr

namespace Spec

inductive Warning where
  | ignoredKeys (location : Location) (beside : String) (keys : List String)
  | unknownTemplate (name : String) (location : Location)
  deriving DecidableEq, Repr

def Warning.message : Warning → String
  | ignoredKeys location beside keys =>
    location.text ++ ": keys ignored next to \"" ++ beside ++ "\": " ++ ", ".intercalate keys
  | unknownTemplate name location =>
    "apply references unknown template \"" ++ name ++ "\" (at " ++ location.text ++ ")"

end Spec

structure Spec where
  templates : List Template
  root : Output
  warnings : List Spec.Warning
  deriving Repr

namespace Spec

def names (s : Spec) : List String := s.templates.filterMap Template.name

def template? (s : Spec) (name : String) : Option Template :=
  s.templates.find? fun t => t.name == some name

theorem mem_names_of_template? {s : Spec} {name : String} {t : Template}
    (h : s.template? name = some t) : name ∈ s.names := by
  have hm := List.mem_of_find?_eq_some h
  have hn : t.name = some name := by simpa using List.find?_some h
  exact List.mem_filterMap.2 ⟨t, hm, hn⟩

theorem exists_template?_of_mem_names {s : Spec} {name : String} (h : name ∈ s.names) :
    ∃ t, s.template? name = some t := by
  obtain ⟨t, ht, hn⟩ := List.mem_filterMap.1 h
  exact Option.isSome_iff_exists.1 (List.find?_isSome.2 ⟨t, ht, by simp [hn]⟩)

/-! ## Description -/

def templateDocument (index : Nat) (t : Template) : Document :=
  .object ([("index", .ofNat index)]
    ++ (t.name.map fun n => ("name", Document.string n)).toList
    ++ (t.picks.map fun p => ("match", Document.string p.source)).toList
    ++ [("output", t.output.toDocument)])

/-- The specification as a document, stamped with the time of its compilation. -/
def toDocument (s : Spec) (compiledAt : String) : Document := .object [
  ("meta", .object [
    ("templateCount", .ofNat s.templates.length),
    ("warnings", .array (s.warnings.map fun w => .string w.message)),
    ("compiledAt", .string compiledAt)]),
  ("templates", .array (s.templates.mapIdx templateDocument)),
  ("root", s.root.toDocument)]

end Spec

end Reshape
