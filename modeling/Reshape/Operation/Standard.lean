import Reshape.Operation.Choices
import Reshape.Operation.Dates
import Reshape.Operation.Numbers
import Reshape.Operation.Sequences
import Reshape.Operation.Words
import Reshape.Selector.Reader
import Reshape.Selector.Walk

/-!
# The standard registry

All operations that expressions can use without registering any, among them the
two that look beyond the arguments' values: `root` and `get`.
-/

namespace Reshape

namespace Operation

def root : Operation := fun c => .ok c.root

def get : Operation := fun c =>
  match c.document 1 with
  | .string source =>
    ((Selector.read source).bind fun s => s.find (c.document 0)).mapError Selector.Error.message
  | d => .error ("get: selector must be a string, got " ++ d.kind.name)

def paths : List (String × Operation) := [("root", root), ("get", get)]

end Operation

/-- The registry of all standard operations; `present` is the text of the present
moment. -/
def Registry.standard (present : String) : Registry :=
  .ofList (Operation.words ++ Operation.numbers ++ Operation.choices ++ Operation.sequences
    ++ Operation.dates present ++ Operation.paths)

end Reshape
