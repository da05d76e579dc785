import Reshape.Calendar.Layout
import Reshape.Calendar.Reader
import Reshape.Document.Coercion
import Reshape.Operation.Basic

/-!
# Operations on dates

Reading a moment from a document and writing it in a layout. The present moment
is a text that the caller of the library supplies.
-/

namespace Reshape

namespace Operation

/-- The moment that a document stands for: a number counts milliseconds. -/
def moment? : Document → Option Moment
  | .number n => Moment.ofMilliseconds? n.toExtended.toInt64
  | .string s => Moment.ofText? s.toList
  | _ => none

def formatDate : Operation := fun c =>
  .ok (match moment? (c.document 0) with
    | none => .null
    | some m =>
      let layout := match c.document 1 with
        | .null => Moment.defaultLayout
        | d => d.plainText.toList
      .string (String.ofList (m.render layout)))

def now (present : String) : Operation := fun _ => .ok (.string present)

def dates (present : String) : List (String × Operation) :=
  [("formatDate", formatDate), ("now", now present)]

end Operation

end Reshape
