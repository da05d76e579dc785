import Reshape.Double.Rounding

/-!
# Arithmetic on doubles

Sum, difference, product and quotient are those of IEEE arithmetic on the bit
patterns. `Extended.power` multiplies by repeated squaring.
-/

namespace Reshape

def Double.signBit : Nat := Nat.pow 2 63

namespace Extended

/-- The bit pattern; that of the undefined has the greatest digit behind the
exponent of infinity. -/
def toFloat : Extended → Float
  | finite d => Float.ofBits (UInt64.ofNat (d.magnitude + if d.negative then Double.signBit else 0))
  | infinite negative =>
    Float.ofBits (UInt64.ofNat (Double.ceiling + if negative then Double.signBit else 0))
  | undefined => Float.ofBits (UInt64.ofNat (Double.ceiling + Double.hiddenBit / 2))

def ofFloat (x : Float) : Extended :=
  let bits := x.toBits.toNat
  let negative : Bool := Double.signBit ≤ bits
  let magnitude := bits % Double.signBit
  if h : magnitude < Double.ceiling then finite ⟨negative, magnitude, h⟩
  else if magnitude = Double.ceiling then infinite negative
  else undefined

instance : Add Extended := ⟨fun a b => ofFloat (a.toFloat + b.toFloat)⟩
instance : Sub Extended := ⟨fun a b => ofFloat (a.toFloat - b.toFloat)⟩
instance : Mul Extended := ⟨fun a b => ofFloat (a.toFloat * b.toFloat)⟩
instance : Div Extended := ⟨fun a b => ofFloat (a.toFloat / b.toFloat)⟩

/-- `acc * base ^ n`, squaring the base for each binary digit of `n`. -/
def powerInto (acc base : Extended) (n : Nat) : Extended :=
  let acc := if n % 2 = 1 then acc * base else acc
  if h : n / 2 = 0 then acc else powerInto acc (base * base) (n / 2)
termination_by n
decreasing_by omega

/-- A power with a whole exponent; a negative one gives the reciprocal. -/
def power (base : Extended) (n : Int) : Extended :=
  let p := powerInto (ofNat 1) base n.natAbs
  if n < 0 then ofNat 1 / p else p

end Extended

end Reshape
