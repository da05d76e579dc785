import Reshape.Decimal.Layout
import Reshape.Decimal.Numeral
import Reshape.Double.Scaling
import Reshape.Double.Whole

/-!
# Numbers of documents

A number is a whole number, which reading keeps within 64 bits, or a finite
double. The two kinds stay apart: `Number.identical` never equates them, and
`Number.toExtended` is the common ground on which they are compared by value.
-/

namespace Reshape

inductive Number where
  | whole (n : Int)
  | double (d : Double)
  deriving DecidableEq, Repr, Inhabited

namespace Number

/-- Document text writes the exponents from -5 to 15 in places, keeps the point
of a whole number, and sends a tie to the even neighbour. -/
def layout : Layout := ⟨some (-5, 15), true, .toEven⟩

def render : Number → List Char
  | whole n => Digits.ofInt n
  | double d => layout.text d

def toExtended : Number → Extended
  | whole n => Extended.ofInt n
  | double d => .finite d

/-- The same kind and the same value; the two zeros are one value. -/
def identical : Number → Number → Bool
  | whole a, whole b => a == b
  | double a, double b => a.key == b.key
  | _, _ => false

def toNat? : Number → Option Nat
  | whole n => if 0 ≤ n then some n.toNat else none
  | double _ => none

/-- Whole numbers that are kept as such: signed or unsigned in 64 bits. -/
def fitsWord (n : Int) : Bool := -(Nat.pow 2 63 : Nat) ≤ n && n < (Nat.pow 2 64 : Nat)

def ofWord? (negative : Bool) (word : Nat) (power : Int) : Option Double := do
  let d ← (Extended.ofNat word).finite?
  let d ← d.scaled power
  return if negative then d.neg else d

/-- The number that a document's numeral stands for. A numeral without point and
exponent is a whole number while it fits 64 bits, and minus zero is a double. Where the
number is out of range, the digits after the place that shows it are given back. -/
def ofNumeral (n : Numeral) : Except (List Char) Number :=
  if n.isWhole && fitsWord n.toInt && !(n.isNegative && n.toInt == 0) then .ok (whole n.toInt)
  else
    let (word, places) := n.word
    let (power, left) := Digits.takeBelow (Nat.pow 2 31) 0 n.exponentDigits
    let result :=
      if left.isEmpty then
        ofWord? n.isNegative word (if n.exponentIsNegative then places - power else places + power)
      else if word = 0 ∨ n.exponentIsNegative then ofWord? n.isNegative 0 0
      else none
    match result with
    | some d => .ok (double d)
    | none => .error (left.drop 1)

end Number

/-- A calculated value as a number: whole while it is integral and below
`2 ^ 53`, where doubles still tell neighbours apart; none if not finite. -/
def Extended.toNumber? : Extended → Option Number
  | .finite d =>
    if d.isWhole && d.wholeAbs < Nat.pow 2 53 then some (.whole d.truncated) else some (.double d)
  | _ => none

end Reshape
