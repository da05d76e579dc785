import Reshape.Schema.Report

/-!
# The schema of specifications

The schema that a specification has to meet before it is compiled, as a document
and as the default check.
-/

namespace Reshape

namespace Spec

def anyKind : Document :=
  .object [("type", .array [.string "object", .string "array", .string "string",
    .string "number", .string "boolean", .string "null"])]

def nonemptyText : Document :=
  .object [("type", .string "string"), ("minLength", .whole 1)]

def templateSchema : Document := .object [
  ("type", .string "object"),
  ("additionalProperties", .bool false),
  ("properties", .object [("name", nonemptyText), ("match", nonemptyText), ("output", anyKind)]),
  ("required", .array [.string "output"])]

def schemaDocument : Document := .object [
  ("$schema", .string "http://json-schema.org/draft-07/schema#"),
  ("title", .string "jsonx template specification"),
  ("type", .string "object"),
  ("additionalProperties", .bool false),
  ("properties", .object [
    ("templates", .object [("type", .string "array"), ("items", templateSchema)]),
    ("root", anyKind)]),
  ("required", .array [.string "templates", .string "root"])]

def schema : Schema := .ofDocument schemaDocument

/-- A check that a specification has to pass: it lets it pass or names violations. -/
abbrev Conformance := Document → Except (List Violation) Unit

/-- Passes what breaks nothing of the schema of specifications, which has no patterns. -/
def conformance : Conformance := fun d =>
  match schema.violations (fun _ => "") false d with
  | [] => .ok ()
  | vs => .error vs

def unchecked : Conformance := fun _ => .ok ()

end Spec

end Reshape
