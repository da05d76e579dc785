import Reshape.Double.Basic

/-!
# Rounding exact values to doubles

`Extended.ofRatio` is the double nearest to a quotient of natural numbers, ties
to the even neighbour, infinite from half a place above the greatest finite
double. `Double.roundDiv` is the rounded division that it rests on.
-/

namespace Reshape

/-- Which way an exact tie between two neighbours goes. -/
inductive Tie where
  | toEven
  | up
  deriving DecidableEq, Repr

def Tie.roundDiv (tie : Tie) (num den : Nat) : Nat :=
  let low := num / den
  let twice := 2 * (num % den)
  if twice < den then low
  else if den < twice then low + 1
  else match tie with
    | .toEven => low + low % 2
    | .up => low + 1

def belowPower (num den : Nat) (k : Int) : Bool :=
  if 0 ≤ k then num < den * Nat.pow 2 k.toNat else num * Nat.pow 2 (-k).toNat < den

namespace Double

def leadingBit (num den : Nat) : Int :=
  let rough : Int := (num.log2 : Int) - den.log2
  if belowPower num den rough then rough - 1 else rough

/-- The exponent of the last place that a double keeps of `num / den`. -/
def lastPlace (num den : Nat) : Int := max (leadingBit num den - 52) (-1074)

/-- The magnitude nearest to `num / den`; the carry of a significand that
rounds up to the next power of two runs into the exponent as it should. -/
def nearestMagnitude (num den : Nat) : Nat :=
  let place := lastPlace num den
  let significand :=
    if 0 ≤ place then Tie.toEven.roundDiv num (den * Nat.pow 2 place.toNat)
    else Tie.toEven.roundDiv (num * Nat.pow 2 (-place).toNat) den
  significand + (place + 1074).toNat * hiddenBit

end Double

namespace Extended

def ofRatio (negative : Bool) (num den : Nat) : Extended :=
  let magnitude := if num = 0 then 0 else Double.nearestMagnitude num den
  if h : magnitude < Double.ceiling then finite ⟨negative, magnitude, h⟩
  else infinite negative

def ofInt (n : Int) : Extended := ofRatio (n < 0) n.natAbs 1

def ofNat (n : Nat) : Extended := ofRatio false n 1

end Extended

end Reshape
