import Reshape.Double.Rounding

/-!
# Doubles times powers of ten

`Double.scaled` multiplies or divides by the double nearest to a power of ten and
rounds what comes out, in several steps if the power itself is no double. So it is
not always the nearest double that comes out.
-/

namespace Reshape

namespace Double

def times (a b : Double) : Extended :=
  .ofRatio (a.negative != b.negative) (a.ratio.1 * b.ratio.1) (a.ratio.2 * b.ratio.2)

def dividedBy (a b : Double) : Extended :=
  .ofRatio (a.negative != b.negative) (a.ratio.1 * b.ratio.2) (a.ratio.2 * b.ratio.1)

theorem nearestMagnitude_powerOfTen :
    ∀ k : Fin 309, nearestMagnitude (Nat.pow 10 k) 1 < ceiling := by
  decide +kernel

/-- The double nearest to a power of ten, up to the greatest that is finite. -/
def powerOfTen (k : Fin 309) : Double :=
  ⟨false, nearestMagnitude (Nat.pow 10 k) 1, nearestMagnitude_powerOfTen k⟩

/-- The double times ten to a power; none if that is out of range. -/
def scaled (d : Double) (power : Int) : Option Double :=
  if h : power.natAbs < 309 then
    let ten := powerOfTen ⟨power.natAbs, h⟩
    (if 0 ≤ power then d.times ten else d.dividedBy ten).finite?
  else if d.isZero then some d
  else if 0 ≤ power then none
  else (d.dividedBy (powerOfTen 308)).finite?.bind fun e => e.scaled (power + 308)
termination_by power.natAbs
decreasing_by omega

end Double

end Reshape
