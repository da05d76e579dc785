import Reshape.Document.Reader
import Reshape.Expression.Reader
import Reshape.Selector.Reader
import Reshape.Spec.Basic
import Reshape.Spec.Conformance
import Reshape.Spec.Source

/-!
# Compiling specifications

`Spec.compile` checks a specification document, reads all selectors and
expressions in it and reports the first fault: a name given twice before all
else, then the faults in the order of the templates and the root, each depth
first. The warnings are collected apart from the reading: `ignoredKeys` walks
the document, `Output.targets` the compiled body.
-/

namespace Reshape

namespace Spec

inductive Error where
  | notJson (error : ReadError)
  | nonconforming (violations : List Violation)
  | malformed
  | badSelector (location : Location) (error : Selector.Error)
  | badExpression (location : Location) (error : Expression.ReadError)
  | notSelector (location : Location) (found : Document.Kind)
  | duplicateTemplate (name : String) (location first : Location)
  deriving DecidableEq, Repr

def Error.message : Error → String
  | notJson error => "Template specification is not valid JSON: " ++ error.message
  | nonconforming violations =>
    "Template specification failed validation: " ++ Violation.report violations
  | malformed => "Invalid node at $: expected templates and a root"
  | badSelector location error =>
    "Invalid selector at " ++ location.text ++ ": " ++ error.message
  | badExpression location error =>
    "Invalid expression at " ++ location.text ++ ": " ++ error.message
  | notSelector location found =>
    "Invalid node at " ++ location.text ++ ": expected a selector string, found " ++ found.name
  | duplicateTemplate name location first =>
    "Duplicate template name \"" ++ name ++ "\" at " ++ location.text ++ " (first defined at "
      ++ first.text ++ ")"

/-! ## Bodies -/

inductive ObjectForm where
  | expression (source : String)
  | apply (template : String) (source : Option Document)
  | entries

/-- What an object in a body says; an expression comes before a template. -/
def ObjectForm.of (es : List (String × Document)) : ObjectForm :=
  match Document.find? es "expr" with
  | some (.string source) => .expression source
  | _ =>
    match Document.find? es "apply" with
    | some (.string template) => .apply template (Document.find? es "from")
    | _ => .entries

namespace ObjectForm

variable {es : List (String × Document)}

theorem of_expression {text : String} (h : Document.find? es "expr" = some (.string text)) :
    ObjectForm.of es = .expression text := by
  unfold ObjectForm.of
  rw [h]

theorem of_apply {name : String} (he : ∀ text, Document.find? es "expr" ≠ some (.string text))
    (h : Document.find? es "apply" = some (.string name)) :
    ObjectForm.of es = .apply name (Document.find? es "from") := by
  unfold ObjectForm.of
  rw [h]
  split
  · exact absurd ‹_› (he _)
  · rfl

theorem of_entries (he : ∀ text, Document.find? es "expr" ≠ some (.string text))
    (h : ∀ name, Document.find? es "apply" ≠ some (.string name)) :
    ObjectForm.of es = .entries := by
  unfold ObjectForm.of
  split
  · exact absurd ‹_› (he _)
  · split
    · exact absurd ‹_› (h _)
    · rfl

end ObjectForm

def readSelector (location : Location) (source : String) : Except Error Selector :=
  (Selector.read source).mapError (.badSelector location)

def readSource (location : Location) : Option Document → Except Error (Option Selector)
  | none => .ok none
  | some (.string s) => (readSelector location s).map some
  | some d => .error (.notSelector location d.kind)

mutual

def readOutput (location : Location) : Document → Except Error Output
  | .string s =>
    if Selector.looksLikeOne s then (readSelector location s).map .selector
    else .ok (.literal (.string s))
  | .array ds => (readItems location 0 ds).map .array
  | .object es =>
    match ObjectForm.of es with
    | .expression source =>
      match Expression.read source with
      | .ok e => .ok (.expression source e)
      | .error e => .error (.badExpression location e)
    | .apply template source =>
      (readSource (location.member "from") source).map (.apply template)
    | .entries => (readEntries location es).map .object
  | .null => .ok (.literal .null)
  | .bool b => .ok (.literal (.bool b))
  | .number n => .ok (.literal (.number n))

def readItems (location : Location) (i : Nat) : List Document → Except Error (List Output)
  | [] => .ok []
  | d :: ds => do
    let o ← readOutput (location.item i) d
    let os ← readItems location (i + 1) ds
    return o :: os

def readEntries (location : Location) :
    List (String × Document) → Except Error (List (String × Output))
  | [] => .ok []
  | (key, d) :: es => do
    let o ← readOutput (location.member key) d
    let os ← readEntries location es
    return (key, o) :: os

end

/-! ## Warnings -/

/-- The keys of an object beside those that its form knows. -/
def ignored (location : Location) (known : String) (others : List String)
    (es : List (String × Document)) : List Warning :=
  let keys := (es.map Prod.fst).filter fun k => k != known && k ∉ others
  if ", ".intercalate keys == "" then [] else [.ignoredKeys location known keys]

mutual

def ignoredKeys (location : Location) : Document → List Warning
  | .array ds => ignoredInItems location 0 ds
  | .object es =>
    match ObjectForm.of es with
    | .expression _ => ignored location "expr" [] es
    | .apply _ _ => ignored location "apply" ["from"] es
    | .entries => ignoredInEntries location es
  | _ => []

def ignoredInItems (location : Location) (i : Nat) : List Document → List Warning
  | [] => []
  | d :: ds => ignoredKeys (location.item i) d ++ ignoredInItems location (i + 1) ds

def ignoredInEntries (location : Location) : List (String × Document) → List Warning
  | [] => []
  | (key, d) :: es => ignoredKeys (location.member key) d ++ ignoredInEntries location es

end

end Spec

namespace Output

mutual

/-- The templates that a body applies, with the places where it does. -/
def targets (location : Location) : Output → List (String × Location)
  | apply template _ => [(template, location)]
  | object entries => entryTargets location entries
  | array items => itemTargets location 0 items
  | _ => []

def itemTargets (location : Location) (i : Nat) : List Output → List (String × Location)
  | [] => []
  | o :: os => o.targets (location.item i) ++ itemTargets location (i + 1) os

def entryTargets (location : Location) : List (String × Output) → List (String × Location)
  | [] => []
  | (key, o) :: os => o.targets (location.member key) ++ entryTargets location os

end

end Output

namespace Spec

/-- The first of the entries of each name. -/
def firstOfEach (seen : List String) : List (String × Location) → List (String × Location)
  | [] => []
  | (name, location) :: rest =>
    if name ∈ seen then firstOfEach seen rest
    else (name, location) :: firstOfEach (name :: seen) rest

def unknownTargets (known : List String) (targets : List (String × Location)) : List Warning :=
  ((firstOfEach [] targets).filter fun (name, _) => name ∉ known).map fun (name, location) =>
    .unknownTemplate name location

/-! ## Templates -/

/-- The templates with the locations of theirs. -/
def located (ts : List TemplateSource) : List (Location × TemplateSource) :=
  ts.mapIdx fun i t => (.ofTemplate i t.name, t)

theorem map_snd_located (ts : List TemplateSource) : (located ts).map Prod.snd = ts := by
  refine List.ext_getElem? fun i => ?_
  simp only [located, List.getElem?_map, List.getElem?_mapIdx, Option.map_map, Function.comp_def,
    Option.map_id']

/-- The first template whose name has come before. -/
def duplicate? (seen : List (String × Location)) : List (Location × TemplateSource) → Option Error
  | [] => none
  | (location, t) :: rest =>
    match t.name with
    | none => duplicate? seen rest
    | some name =>
      match seen.find? fun e => e.1 == name with
      | some (_, first) => some (.duplicateTemplate name location first)
      | none => duplicate? ((name, location) :: seen) rest

/-- Reads a template: what it picks, then its body. -/
def readTemplate (location : Location) (t : TemplateSource) : Except Error Template := do
  let picks ← match t.picks with
    | none => pure none
    | some source => (readSelector (location.member "match") source).map some
  let output ← readOutput (location.member "output") t.output
  return ⟨t.name, picks, output⟩

def readTemplates : List (Location × TemplateSource) → Except Error (List Template)
  | [] => .ok []
  | (location, t) :: rest => do
    let template ← readTemplate location t
    let templates ← readTemplates rest
    return template :: templates

def allIgnoredKeys (source : SpecSource) : List Warning :=
  (located source.templates).flatMap (fun (l, t) => ignoredKeys (l.member "output") t.output)
    ++ ignoredKeys .root source.root

def allTargets (templates : List Template) (root : Output) : List (String × Location) :=
  (templates.mapIdx fun i t =>
    t.output.targets ((Location.ofTemplate i t.name).member "output")).flatten
    ++ root.targets .root

def ofSource (source : SpecSource) : Except Error Spec := do
  match duplicate? [] (located source.templates) with
  | some e => throw e
  | none => pure ()
  let templates ← readTemplates (located source.templates)
  let root ← readOutput .root source.root
  let names := templates.filterMap Template.name
  return ⟨templates, root,
    allIgnoredKeys source ++ unknownTargets names (allTargets templates root)⟩

/-- Compiles a specification document that passes a check. -/
def compileWith (check : Conformance) (d : Document) : Except Error Spec :=
  match check d with
  | .error violations => .error (.nonconforming violations)
  | .ok () =>
    match SpecSource.ofDocument? d with
    | none => .error .malformed
    | some source => ofSource source

def compile (d : Document) : Except Error Spec := compileWith conformance d

def compileTextWith (check : Conformance) (text : String) : Except Error Spec :=
  match Document.read text with
  | .error e => .error (.notJson e)
  | .ok d => compileWith check d

def compileText (text : String) : Except Error Spec := compileTextWith conformance text

end Spec

end Reshape
