import Reshape.Document.Coercion
import Reshape.Operation.Basic

/-!
# Operations on arrays and objects

Items and entries, orders of items, and the three operations that apply another
one to each item: `mapItems`, `filterItems` and `findItem`.
-/

namespace Reshape

namespace Operation

def length : Operation := fun c =>
  .ok (.ofNat (match c.document 0 with
    | .array items => items.length
    | .string s => s.toList.length
    | .object entries => entries.length
    | _ => 0))

def pick (f : List Document → Option Document) : Operation := fun c =>
  .ok (match c.document 0 with
    | .array items => (f items).getD .null
    | _ => .null)

def first : Operation := pick List.head?

def last : Operation := pick List.getLast?

def ofEntries (f : String × Document → Document) : Operation := fun c =>
  .ok (.array (match c.document 0 with
    | .object entries => entries.map f
    | _ => []))

def keys : Operation := ofEntries fun e => .string e.1

def values : Operation := ofEntries fun e => e.2

def reverse : Operation := fun c =>
  .ok (match c.document 0 with
    | .array items => .array items.reverse
    | .string s => .string (String.ofList s.toList.reverse)
    | _ => .null)

/-! ## Sorting -/

/-- Puts a document into a sequence, given backwards: behind all that it does
not precede. -/
def insertBack (d : Document) : List Document → List Document
  | [] => [d]
  | e :: rest => if d.precedes e then e :: insertBack d rest else d :: e :: rest

/-- Sorts by inserting each item in turn; equal items keep their order. -/
def sorted (items : List Document) : List Document :=
  (items.foldl (fun done d => insertBack d done) []).reverse

def sort : Operation := fun c =>
  match c.document 0 with
  | .array items => .ok (.array (sorted items))
  | .null => .ok .null
  | d => .error ("sort: expected an array, got " ++ d.kind.name)

def distinctFrom (seen : List String) : List Document → List Document
  | [] => []
  | d :: rest =>
    if d.text ∈ seen then distinctFrom seen rest
    else d :: distinctFrom (d.text :: seen) rest

def unique : Operation := fun c =>
  .ok (match c.document 0 with
    | .array items => .array (distinctFrom [] items)
    | _ => .null)

def flatten : Operation := fun c =>
  .ok (match c.document 0 with
    | .array items => .array (items.flatMap fun
        | .array inner => inner
        | d => [d])
    | _ => .null)

/-! ## Applying an operation to each item -/

/-- The items that a traversal is given, and the operation that it applies to them. It hands on
the root that it is handed itself. -/
def itemsAndFunction (c : Call) (name : String) :
    Except String (List Document × (Document → Except String Document)) := do
  let items ← match c.document 0 with
    | .array items => pure items
    | .null => pure []
    | d => .error (name ++ ": expected an array, got " ++ d.kind.name)
  match c.function? 1 with
  | none => .error (name ++ ": second argument must name a function")
  | some (callee, apply) =>
    return (items, fun d => (apply [d] c.root).mapError fun message => callee ++ ": " ++ message)

def mapAll (f : Document → Except String Document) :
    List Document → Except String (List Document)
  | [] => .ok []
  | d :: rest => do
    let e ← f d
    return e :: (← mapAll f rest)

def filterAll (f : Document → Except String Document) :
    List Document → Except String (List Document)
  | [] => .ok []
  | d :: rest => do
    let keep ← f d
    let kept ← filterAll f rest
    return if keep.truthy then d :: kept else kept

/-- The first item with a truthy result; the items after it are not tried. -/
def findFirst (f : Document → Except String Document) : List Document → Except String Document
  | [] => .ok .null
  | d :: rest => do
    let found ← f d
    if found.truthy then return d else findFirst f rest

def mapItems : Operation := fun c => do
  let (items, f) ← itemsAndFunction c "map"
  return .array (← mapAll f items)

def filterItems : Operation := fun c => do
  let (items, f) ← itemsAndFunction c "filter"
  return .array (← filterAll f items)

def findItem : Operation := fun c => do
  let (items, f) ← itemsAndFunction c "find"
  findFirst f items

def sequences : List (String × Operation) := [
  ("length", length), ("first", first), ("last", last), ("keys", keys), ("values", values),
  ("reverse", reverse), ("sort", sort), ("unique", unique), ("flatten", flatten),
  ("map", mapItems), ("filter", filterItems), ("find", findItem)]

end Operation

end Reshape
