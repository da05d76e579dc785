import Reshape.Document.Coercion
import Reshape.Operation.Basic
import Reshape.Text.Case
import Reshape.Text.Search

/-!
# Operations on text

Joining, cutting and searching strings. All of them count characters by code
points, and see other documents as text.
-/

namespace Reshape

namespace Operation

def characters (d : Document) : List Char := d.plainText.toList

def ofCharacters (cs : List Char) : Document := .string (String.ofList cs)

def concat : Operation := fun c => .ok (ofCharacters (c.documents.flatMap characters))

def join : Operation := fun c =>
  let separator := match c.document 1 with
    | .null => [',']
    | d => characters d
  .ok (match c.document 0 with
    | .array items => ofCharacters (Text.join separator (items.map characters))
    | _ => .string "")

/-- Changes the text of the first argument; null stays null. -/
def onText (f : List Char → List Char) : Operation := fun c =>
  .ok (match c.document 0 with
    | .null => .null
    | d => ofCharacters (f (characters d)))

def uppercase : Operation := onText Text.upper

def lowercase : Operation := onText Text.lower

def trim : Operation := onText Text.trim

/-- A number as a count of characters: its whole part, zero if it is negative
or no number. -/
def countOf (d : Document) : Nat :=
  (Extended.max (d.toNumber?.getD (.ofNat 0)) (.ofNat 0)).toCount

/-- The characters from a start on, all of them or so many. -/
def substring : Operation := fun c =>
  .ok (match c.document 0 with
    | .null => .null
    | d =>
      let rest := (characters d).drop (countOf (c.document 1))
      match c.document 2 with
      | .null => ofCharacters rest
      | n => ofCharacters (rest.take (countOf n)))

def split : Operation := fun c =>
  .ok (match c.document 0 with
    | .null => .null
    | d => .array ((Text.split (characters (c.document 1)) (characters d)).map ofCharacters))

def replace : Operation := fun c =>
  match c.document 0 with
  | .null => .ok .null
  | d =>
    match characters (c.document 1) with
    | [] => .error "replace: search text must not be empty"
    | word => .ok (ofCharacters (Text.replace word (characters (c.document 2)) (characters d)))

def contains : Operation := fun c =>
  let wanted := c.document 1
  .ok (.bool (match c.document 0 with
    | .array items => items.any fun item => item.equivalent wanted
    | .string s => Text.hasWord (characters wanted) s.toList
    | _ => false))

def startsWith : Operation := fun c =>
  .ok (.bool (match c.document 0 with
    | .string s => (characters (c.document 1)).isPrefixOf s.toList
    | _ => false))

def endsWith : Operation := fun c =>
  .ok (.bool (match c.document 0 with
    | .string s => (characters (c.document 1)).isSuffixOf s.toList
    | _ => false))

def toText : Operation := fun c => .ok (.string (c.document 0).plainText)

def words : List (String × Operation) := [
  ("concat", concat), ("join", join), ("uppercase", uppercase), ("lowercase", lowercase),
  ("trim", trim), ("substring", substring), ("split", split), ("replace", replace),
  ("contains", contains), ("startsWith", startsWith), ("endsWith", endsWith),
  ("toString", toText)]

end Operation

end Reshape
