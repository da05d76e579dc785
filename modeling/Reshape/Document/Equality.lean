import Reshape.Document.Basic

/-!
# Sameness of documents

Two documents are the same if they have the same content, where the order of an
object's entries does not count. How numbers compare is a parameter:
`Document.identical` keeps whole numbers and doubles apart, `Document.equivalent`
compares all numbers by their value as doubles.
-/

namespace Reshape

namespace Document

mutual

/-- The same content up to the order of entries, numbers compared as given. -/
def sameBy (numbers : Number → Number → Bool) : Document → Document → Bool
  | .null, .null => true
  | .bool a, .bool b => a == b
  | .number a, .number b => numbers a b
  | .string a, .string b => a == b
  | .array as, .array bs => sameItems numbers as bs
  | .object as, .object bs => as.length == bs.length && sameEntries numbers as bs
  | _, _ => false

def sameItems (numbers : Number → Number → Bool) : List Document → List Document → Bool
  | [], [] => true
  | a :: as, b :: bs => sameBy numbers a b && sameItems numbers as bs
  | _, _ => false

def sameEntries (numbers : Number → Number → Bool) :
    List (String × Document) → List (String × Document) → Bool
  | [], _ => true
  | (key, a) :: as, bs =>
    (match find? bs key with
      | some b => sameBy numbers a b
      | none => false) && sameEntries numbers as bs

end

/-- The same content; whole numbers and doubles are different. -/
def identical : Document → Document → Bool := sameBy Number.identical

def equivalent : Document → Document → Bool :=
  sameBy fun a b => a.toExtended.same b.toExtended

end Document

end Reshape
