import Reshape.Expression.Basic
import Reshape.Selector.Basic

/-!
# Output nodes

The body of a template is an `Output`: constants, selectors and expressions to
evaluate, templates to apply, and the objects and arrays around them.
-/

namespace Reshape

inductive Output where
  | literal (value : Document)
  | selector (path : Selector)
  | expression (source : String) (e : Expression)
  /-- Applies a template to what a selector finds, or to the current node. -/
  | apply (template : String) (source : Option Selector)
  | object (entries : List (String × Output))
  | array (items : List Output)
  deriving Repr

namespace Output

/-- A node of a kind with its parts. -/
def described (kind : String) (parts : List (String × Document)) : Document :=
  .object (("kind", .string kind) :: parts)

mutual

def toDocument : Output → Document
  | literal value => described "literal" [("value", value)]
  | selector path => described "selector" [("selector", .string path.source)]
  | expression source e =>
    described "expr" [("source", .string source), ("ast", e.toDocument)]
  | apply template none => described "apply" [("template", .string template)]
  | apply template (some path) =>
    described "apply" [("template", .string template), ("from", .string path.source)]
  | object entries => described "object" [("entries", .object (entryDocuments entries))]
  | array items => described "array" [("items", .array (itemDocuments items))]

def entryDocuments : List (String × Output) → List (String × Document)
  | [] => []
  | (key, o) :: rest => (key, o.toDocument) :: entryDocuments rest

def itemDocuments : List Output → List Document
  | [] => []
  | o :: rest => o.toDocument :: itemDocuments rest

end

end Output

end Reshape
