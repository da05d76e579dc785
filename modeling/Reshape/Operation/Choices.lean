import Reshape.Document.Coercion
import Reshape.Operation.Basic

/-!
# Operations that test and choose

Defaults, comparisons, the connectives and the tests for a kind of document.
-/

namespace Reshape

namespace Operation

def orDefault : Operation := fun c =>
  .ok (match c.document 0 with
    | .null => c.document 1
    | d => d)

def coalesce : Operation := fun c =>
  .ok ((c.documents.find? fun d => !d.isNull).getD .null)

def equals : Operation := fun c =>
  match c.documents with
  | [a, b] => .ok (.bool (a.equivalent b))
  | ds => .error ("equals: expected 2 arguments, got " ++ decimalText ds.length)

def not : Operation := fun c => .ok (.bool (!(c.document 0).truthy))

def and : Operation := fun c => .ok (.bool (c.documents.all Document.truthy))

def or : Operation := fun c => .ok (.bool (c.documents.any Document.truthy))

/-- Accepts some orders of the first two arguments. -/
def ordered (accept : Ordering → Bool) : Operation := fun c =>
  .ok (.bool (((c.document 0).compare? (c.document 1)).any accept))

def gt : Operation := ordered (· == .gt)

def gte : Operation := ordered (· != .lt)

def lt : Operation := ordered (· == .lt)

def lte : Operation := ordered (· != .gt)

def ifThenElse : Operation := fun c =>
  .ok (if (c.document 0).truthy then c.document 1 else c.document 2)

def isKind (kind : Document.Kind) : Operation := fun c =>
  .ok (.bool ((c.document 0).kind == kind))

def choices : List (String × Operation) := [
  ("default", orDefault), ("coalesce", coalesce), ("equals", equals), ("not", not),
  ("and", and), ("or", or), ("gt", gt), ("gte", gte), ("lt", lt), ("lte", lte),
  ("if", ifThenElse), ("isArray", isKind .array), ("isObject", isKind .object),
  ("isString", isKind .string), ("isNumber", isKind .number), ("isBoolean", isKind .boolean),
  ("isNull", isKind .null)]

end Operation

end Reshape
