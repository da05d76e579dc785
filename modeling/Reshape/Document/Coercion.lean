import Reshape.Document.Printer
import Reshape.Document.Equality
import Reshape.Text.Blank

/-!
# Documents as truth values, texts and numbers

What an operation sees in a document of another kind than it works on, and the
order of two documents.
-/

namespace Reshape

namespace Document

def truthy : Document → Bool
  | .null => false
  | .bool b => b
  | .number (.whole n) => n != 0
  | .number (.double d) => !d.isZero
  | .string s => !s.isEmpty
  | .array _ => true
  | .object _ => true

def plainText : Document → String
  | .null => ""
  | .string s => s
  | d => d.text

/-- Numbers, the strings that read as numbers, and one or zero for a truth value. -/
def toNumber? : Document → Option Extended
  | .number n => some n.toExtended
  | .string s => Extended.ofText? (Text.trim s.toList)
  | .bool b => some (.ofNat (if b then 1 else 0))
  | _ => none

/-- Strings compare by their characters, all else as numbers. -/
def compare? (a b : Document) : Option Ordering :=
  match a, b with
  | .string s, .string t => some (compare s t)
  | a, b => do (← a.toNumber?).compare? (← b.toNumber?)

def precedes (a b : Document) : Bool := a.compare? b == some .lt

def isNull : Document → Bool
  | .null => true
  | _ => false

end Document

end Reshape
