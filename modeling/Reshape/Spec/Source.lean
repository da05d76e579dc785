import Reshape.Document.Basic

/-!
# Specifications as written

`SpecSource` is the content of a specification document before its selectors
and expressions are read: an object with the entries `templates` and `root`, or
an array of the two. Entries of other names are passed over.
-/

namespace Reshape

structure TemplateSource where
  name : Option String
  picks : Option String
  output : Document
  deriving DecidableEq, Repr

structure SpecSource where
  templates : List TemplateSource
  root : Document
  deriving DecidableEq, Repr

namespace TemplateSource

/-- A text that may be missing or null. -/
def optionalText? : Option Document → Option (Option String)
  | none => some none
  | some .null => some none
  | some (.string s) => some (some s)
  | some _ => none

def ofDocument? : Document → Option TemplateSource
  | .object es => do
    let name ← optionalText? (Document.find? es "name")
    let picks ← optionalText? (Document.find? es "match")
    let output ← Document.find? es "output"
    some ⟨name, picks, output⟩
  | .array [name, picks, output] => do
    some ⟨← optionalText? (some name), ← optionalText? (some picks), output⟩
  | _ => none

end TemplateSource

namespace SpecSource

def templates? : Document → Option (List TemplateSource)
  | .array ds => ds.mapM TemplateSource.ofDocument?
  | _ => none

def ofDocument? : Document → Option SpecSource
  | .object es => do
    let templates ← templates? (← Document.find? es "templates")
    let root ← Document.find? es "root"
    some ⟨templates, root⟩
  | .array [templates, root] => do some ⟨← templates? templates, root⟩
  | _ => none

end SpecSource

end Reshape
