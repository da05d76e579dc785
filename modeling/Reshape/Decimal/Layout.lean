import Reshape.Decimal.Shortest

/-!
# Layouts of decimal numbers

A `Layout` says how the digits of a double are set: which exponents are written
out in places, whether a whole number keeps its point, and which way an exact
tie between two shortest decimals goes. `Layout.text` sets a double in it.
-/

namespace Reshape

structure Layout where
  /-- The exponents of the leading digit that are written in places; without
  bounds all are. -/
  positional : Option (Int × Int)
  /-- A whole number ends in ".0". -/
  keepsPoint : Bool
  tie : Tie
  deriving DecidableEq, Repr

namespace Layout

/-- The digits with the point after the place of the units. -/
def inPlaces (keepsPoint : Bool) (digits : List Char) (top : Int) : List Char :=
  if top < 0 then
    '0' :: '.' :: (List.replicate (-top - 1).toNat '0' ++ digits)
  else
    let wide := (top + 1).toNat
    let whole := digits.take wide ++ List.replicate (wide - digits.length) '0'
    match digits.drop wide with
    | [] => if keepsPoint then whole ++ ['.', '0'] else whole
    | fraction => whole ++ '.' :: fraction

/-- One digit before the point and the exponent, always signed, at the end. -/
def withExponent (digits : List Char) (top : Int) : List Char :=
  let mark := if top < 0 then ['e', '-'] else ['e', '+']
  match digits with
  | [] => []
  | [d] => d :: (mark ++ Digits.ofNat top.natAbs)
  | d :: fraction => d :: '.' :: (fraction ++ mark ++ Digits.ofNat top.natAbs)

def unsigned (l : Layout) (digits : List Char) (top : Int) : List Char :=
  match l.positional with
  | none => inPlaces l.keepsPoint digits top
  | some (low, high) =>
    if low ≤ top ∧ top ≤ high then inPlaces l.keepsPoint digits top
    else withExponent digits top

def decimal (l : Layout) (d : Decimal) : List Char :=
  let digits := Digits.ofNat d.digits
  let body := l.unsigned digits (d.exponent + digits.length - 1)
  if d.negative then '-' :: body else body

def text (l : Layout) (d : Double) : List Char := l.decimal (d.shortest l.tie)

end Layout

end Reshape
