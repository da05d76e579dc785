import Reshape.Decimal.Layout
import Reshape.Document.Position
import Reshape.Document.Printer
import Reshape.Schema.Basic

/-!
# Violations

A `Finding` is a rule that a node of a document breaks. A `Violation` is its
report: the path of the node and a message.
-/

namespace Reshape

inductive Finding.Cause where
  | forbidden
  | wrongType (expected : String)
  | noneOfTypes (expected : List String)
  | notInEnum (options : List Document)
  | notConst (value : Document)
  | tooShort (least : Nat)
  | tooLong (most : Nat)
  | badPattern (source explanation : String)
  | noMatch (source : String)
  | wrongFormat (name : String)
  | unknownFormat (name : String)
  | belowMinimum (bound : Number)
  | aboveMaximum (bound : Number)
  | notAbove (bound : Number)
  | notBelow (bound : Number)
  | notMultiple (step : Number)
  | tooFewItems (least : Nat)
  | tooManyItems (most : Nat)
  | duplicateItems
  | extraItems
  | missing
  | extraEntry
  | notExactlyOne (matched : Nat)
  | noneOfAny
  deriving DecidableEq, Repr

structure Finding where
  path : Position
  cause : Finding.Cause
  deriving DecidableEq, Repr

/-- Bounds are written out in places, without the point of a whole number. -/
def Schema.boundLayout : Layout := ⟨none, false, .up⟩

/-- The text of a bound, which is compared as a double. -/
def Schema.boundText (n : Number) : String :=
  match n.toExtended with
  | .finite d => String.ofList (boundLayout.text d)
  | .infinite negative => if negative then "-inf" else "inf"
  | .undefined => "NaN"

def Finding.Cause.message : Finding.Cause → String
  | forbidden => "Schema explicitly forbids this value"
  | wrongType expected => "Type mismatch: expected " ++ expected
  | noneOfTypes expected =>
    "Type mismatch: expected one of [" ++ ", ".intercalate expected ++ "]"
  | notInEnum options => "Value not in enum: " ++ (Document.array options).text
  | notConst value => "Value does not equal const " ++ value.text
  | tooShort least => "String shorter than minLength " ++ decimalText least
  | tooLong most => "String longer than maxLength " ++ decimalText most
  | badPattern source explanation => "Invalid pattern " ++ source ++ ": " ++ explanation
  | noMatch source => "String does not match pattern " ++ source
  | wrongFormat name => "String does not match format " ++ name
  | unknownFormat name => "Unknown format " ++ name
  | belowMinimum bound => "Number less than minimum " ++ Schema.boundText bound
  | aboveMaximum bound => "Number greater than maximum " ++ Schema.boundText bound
  | notAbove bound => "Number <= exclusiveMinimum " ++ Schema.boundText bound
  | notBelow bound => "Number >= exclusiveMaximum " ++ Schema.boundText bound
  | notMultiple step => "Number is not a multipleOf " ++ Schema.boundText step
  | tooFewItems least => "Array has fewer items than minItems " ++ decimalText least
  | tooManyItems most => "Array has more items than maxItems " ++ decimalText most
  | duplicateItems => "Array has duplicate items but uniqueItems is true"
  | extraItems => "Additional array items are not allowed"
  | missing => "Required property missing"
  | extraEntry => "Additional property not allowed"
  | notExactlyOne matched =>
    "Value must match exactly one schema in oneOf (matched " ++ decimalText matched ++ ")"
  | noneOfAny => "Value must match at least one schema in anyOf"

structure Violation where
  path : String
  message : String
  deriving DecidableEq, Repr

/-- The report of a finding below a node that stands at a path. -/
def Finding.below (start : String) (f : Finding) : Violation :=
  ⟨f.path.textFrom start, f.cause.message⟩

def Violation.text (v : Violation) : String := v.path ++ ": " ++ v.message

namespace Violation

def headline (vs : List Violation) : String :=
  "Document does not conform to schema (" ++ decimalText vs.length ++ " violation(s))"

def report (vs : List Violation) : String :=
  headline vs ++ ": " ++ "; ".intercalate (vs.map Violation.text)

end Violation

end Reshape
