import Reshape.Document.Coercion
import Reshape.Double.Arithmetic
import Reshape.Operation.Basic

/-!
# Operations on numbers

Arithmetic is that of doubles. A result that is no finite number is null.
-/

namespace Reshape

namespace Operation

def numberAt (c : Call) (i : Nat) (name : String) : Except String Extended :=
  match (c.document i).toNumber? with
  | some x => .ok x
  | none =>
    .error (name ++ ": argument " ++ decimalText (i + 1) ++ " (" ++ (c.document i).text
      ++ ") is not a number")

def foldNumbers (name : String) (start : Extended) (f : Extended → Extended → Extended) :
    Operation := fun c => do
  let xs ← (List.range c.arguments.length).mapM fun i => numberAt c i name
  return .ofExtended (xs.foldl f start)

def ofTwo (name : String) (f : Extended → Extended → Extended) : Operation := fun c => do
  let x ← numberAt c 0 name
  let y ← numberAt c 1 name
  return .ofExtended (f x y)

def ofOne (name : String) (f : Extended → Extended) : Operation := fun c => do
  return .ofExtended (f (← numberAt c 0 name))

def add : Operation := foldNumbers "add" (.ofNat 0) (· + ·)

def subtract : Operation := ofTwo "subtract" (· - ·)

def multiply : Operation := foldNumbers "multiply" (.ofNat 1) (· * ·)

/-- A division by zero has no finite result and gives null. -/
def divide : Operation := ofTwo "divide" (· / ·)

def modulo : Operation := ofTwo "mod" Extended.remainder

/-- Scales by a power of ten, rounds halves away from zero, and scales back. -/
def round : Operation := fun c => do
  let x ← numberAt c 0 "round"
  let digits ← match c.document 1 with
    | .null => pure 0
    | _ => (numberAt c 1 "round").map Extended.toInt32
  let factor := (Extended.ofNat 10).power digits
  return .ofExtended ((x * factor).rounded / factor)

def floor : Operation := ofOne "floor" Extended.floor

def ceil : Operation := ofOne "ceil" Extended.ceil

def abs : Operation := ofOne "abs" Extended.abs

/-- The numbers among the arguments, or among the items of a single array. -/
def numbersIn (c : Call) : List Extended :=
  let given := match c.documents with
    | [.array items] => items
    | ds => ds
  given.filterMap fun
    | .number n => some n.toExtended
    | _ => none

/-- The outermost of the numbers; null if there are none. -/
def extreme (f : Extended → Extended → Extended) : Operation := fun c =>
  .ok (match numbersIn c with
    | [] => .null
    | x :: xs => .ofExtended (xs.foldl f x))

def max : Operation := extreme Extended.max

def min : Operation := extreme Extended.min

def sum : Operation := fun c => .ok (.ofExtended ((numbersIn c).foldl (· + ·) (.ofNat 0)))

def toNumber : Operation := fun c =>
  .ok (((c.document 0).toNumber?.map Document.ofExtended).getD .null)

def numbers : List (String × Operation) := [
  ("toNumber", toNumber), ("add", add), ("subtract", subtract), ("multiply", multiply),
  ("divide", divide), ("mod", modulo), ("round", round), ("floor", floor), ("ceil", ceil),
  ("abs", abs), ("max", max), ("min", min), ("sum", sum)]

end Operation

end Reshape
