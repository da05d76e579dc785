/-!
# Finite doubles and their extension

`Double` is a finite IEEE double: a sign and a magnitude, the 63 bits below
the sign. Its value is `±significand · 2 ^ scale`. `Extended` adds the two
infinities and the undefined result, which calculations may reach and
documents never hold. `Double.key` orders the doubles: the magnitudes grow with
the values, so the signed magnitude is an order key on which both zeros agree.
-/

namespace Reshape

/-- The place above the digits that a magnitude shows, where the leading digit of
a significand stands unless the exponent is the least. -/
def Double.hiddenBit : Nat := Nat.pow 2 52

/-- The magnitude of infinity, just above the finite ones. -/
def Double.ceiling : Nat := 0x7FF * Double.hiddenBit

structure Double where
  negative : Bool
  magnitude : Nat
  magnitude_lt : magnitude < Double.ceiling
  deriving DecidableEq, Repr

inductive Extended where
  | finite (d : Double)
  | infinite (negative : Bool)
  | undefined
  deriving DecidableEq, Repr

namespace Double

def zero : Double := ⟨false, 0, by decide⟩

instance : Inhabited Double := ⟨zero⟩

/-- The whole number that `2 ^ scale` multiplies. -/
def significand (d : Double) : Nat :=
  if d.magnitude < hiddenBit then d.magnitude else d.magnitude % hiddenBit + hiddenBit

/-- The exponent of the last place kept. -/
def scale (d : Double) : Int :=
  if d.magnitude < hiddenBit then -1074 else (d.magnitude / hiddenBit : Nat) - 1075

def ratio (d : Double) : Nat × Nat :=
  if 0 ≤ d.scale then (d.significand * Nat.pow 2 d.scale.toNat, 1)
  else (d.significand, Nat.pow 2 (-d.scale).toNat)

def isZero (d : Double) : Bool := d.magnitude == 0

/-- Grows with the value; both zeros have key 0. -/
def key (d : Double) : Int :=
  if d.negative then -(d.magnitude : Int) else d.magnitude

def neg (d : Double) : Double := ⟨!d.negative, d.magnitude, d.magnitude_lt⟩

def abs (d : Double) : Double := ⟨false, d.magnitude, d.magnitude_lt⟩

end Double

namespace Extended

/-- Equal as numbers: the zeros are one, and the undefined equals nothing. -/
def same : Extended → Extended → Bool
  | finite a, finite b => a.key == b.key
  | infinite a, infinite b => a == b
  | _, _ => false

def key? : Extended → Option Int
  | finite d => some d.key
  | infinite negative => some (if negative then -(Double.ceiling : Int) else Double.ceiling)
  | undefined => none

def compare? (a b : Extended) : Option Ordering := do
  let x ← a.key?
  let y ← b.key?
  return compare x y

def lt (a b : Extended) : Bool := a.compare? b == some .lt

def le (a b : Extended) : Bool := a.compare? b == some .lt || a.compare? b == some .eq

def finite? : Extended → Option Double
  | finite d => some d
  | _ => none

def neg : Extended → Extended
  | finite d => finite d.neg
  | infinite negative => infinite (!negative)
  | undefined => undefined

def abs : Extended → Extended
  | finite d => finite d.abs
  | infinite _ => infinite false
  | undefined => undefined

/-- The greater of two numbers; an undefined one gives way to the other. -/
def max (a b : Extended) : Extended :=
  match a, b with
  | undefined, b => b
  | a, undefined => a
  | a, b => if a.lt b then b else a

def min (a b : Extended) : Extended :=
  match a, b with
  | undefined, b => b
  | a, undefined => a
  | a, b => if b.lt a then b else a

end Extended

end Reshape
