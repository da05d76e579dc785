import Reshape.Double.Rounding

/-!
# Whole parts of doubles

The four ways to a whole number (`floor`, `ceiling`, `truncated`, and `rounded`
with halves away from zero), the remainder of an exact division, and the casts
to whole numbers of bounded size, which stop at the bounds.
-/

namespace Reshape

namespace Double

def wholeAbs (d : Double) : Nat := d.ratio.1 / d.ratio.2

def isWhole (d : Double) : Bool := d.ratio.1 % d.ratio.2 == 0

/-- The absolute value to the nearest whole number, halves up. -/
def nearestAbs (d : Double) : Nat := Tie.up.roundDiv d.ratio.1 d.ratio.2

def aboveAbs (d : Double) : Nat := if d.isWhole then d.wholeAbs else d.wholeAbs + 1

def truncated (d : Double) : Int :=
  if d.negative then -(d.wholeAbs : Int) else d.wholeAbs

end Double

namespace Extended

def withAbs (whole : Double → Nat) : Extended → Extended
  | finite d => ofRatio d.negative (whole d) 1
  | x => x

def floor : Extended → Extended :=
  withAbs fun d => if d.negative then d.aboveAbs else d.wholeAbs

def ceil : Extended → Extended :=
  withAbs fun d => if d.negative then d.wholeAbs else d.aboveAbs

/-- The nearest whole number, halves away from zero. -/
def rounded : Extended → Extended := withAbs Double.nearestAbs

/-- What is left of `a` after taking off `b` a whole number of times, with the
sign of `a`. -/
def remainder : Extended → Extended → Extended
  | finite a, finite b =>
    if b.isZero then undefined
    else
      let (p, q) := a.ratio
      let (r, s) := b.ratio
      ofRatio a.negative (p * s % (r * q)) (q * s)
  | finite a, infinite _ => finite a
  | _, _ => undefined

/-- The whole part, held within the bounds; the undefined counts as zero. -/
def toIntWithin (low high : Int) : Extended → Int
  | finite d => Max.max low (Min.min high d.truncated)
  | infinite negative => if negative then low else high
  | undefined => 0

def toInt64 : Extended → Int := toIntWithin (-(Nat.pow 2 63 : Nat)) (Nat.pow 2 63 - 1 : Nat)

def toInt32 : Extended → Int := toIntWithin (-(Nat.pow 2 31 : Nat)) (Nat.pow 2 31 - 1 : Nat)

def toCount (x : Extended) : Nat := (x.toIntWithin 0 (Nat.pow 2 64 - 1 : Nat)).toNat

end Extended

end Reshape
