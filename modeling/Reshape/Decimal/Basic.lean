import Reshape.Decimal.Digits
import Reshape.Double.Rounding

/-!
# Decimal numbers and the doubles nearest to them

A `Decimal` is a whole number of tens to a power; `Decimal.toExtended` rounds it
to the nearest double. Exponents far outside the doubles' range are answered
without computing the power.
-/

namespace Reshape

/-- The number `±digits · 10 ^ exponent`. -/
structure Decimal where
  negative : Bool
  digits : Nat
  exponent : Int
  deriving DecidableEq, Repr

namespace Decimal

def ratio (d : Decimal) : Nat × Nat :=
  if 0 ≤ d.exponent then (d.digits * Nat.pow 10 d.exponent.toNat, 1)
  else (d.digits, Nat.pow 10 (-d.exponent).toNat)

/-- The absolute value is below ten to this power. -/
def reach (d : Decimal) : Int := (Digits.ofNat d.digits).length + d.exponent

/-- The nearest double; at `10 ^ 310` and above infinite, below `10 ^ -330` zero. -/
def toExtended (d : Decimal) : Extended :=
  if d.digits = 0 ∨ d.reach < -330 then Extended.ofRatio d.negative 0 1
  else if 310 < d.reach then .infinite d.negative
  else Extended.ofRatio d.negative d.ratio.1 d.ratio.2

def trim (d : Decimal) : Decimal :=
  if h : d.digits ≠ 0 ∧ d.digits % 10 = 0 then
    trim ⟨d.negative, d.digits / 10, d.exponent + 1⟩
  else d
termination_by d.digits
decreasing_by omega

end Decimal

end Reshape
