import Reshape.Decimal.Basic

/-!
# The shortest decimal that reads back

`Double.shortest` is the decimal with the fewest digits that rounds to the
given double, and of those with equally many the nearest. On the grid of `n`
significant digits only the two neighbours of the value can be nearest, so the
search tries them for one digit, two, and so on. `Double.exact` is the decimal
that equals the double; the search ends there if no grid before has an answer.
-/

namespace Reshape

namespace Double

def leadingPlace (num den : Nat) : Int :=
  let rough : Int := (Digits.ofNat num).length - (Digits.ofNat den).length
  let below : Bool :=
    if 0 ≤ rough then num < den * Nat.pow 10 rough.toNat else num * Nat.pow 10 (-rough).toNat < den
  if below then rough - 1 else rough

def inUnits (d : Double) (place : Int) : Nat × Nat :=
  let (num, den) := d.ratio
  if 0 ≤ place then (num, den * Nat.pow 10 place.toNat) else (num * Nat.pow 10 (-place).toNat, den)

/-- Of the two neighbours of the value among the multiples of `10 ^ place`,
those that read back as the double; the nearest one if both do. -/
def readsBackAt (d : Double) (tie : Tie) (place : Int) : Option Decimal :=
  let (num, den) := d.inUnits place
  let low : Decimal := ⟨d.negative, num / den, place⟩
  let high : Decimal := ⟨d.negative, num / den + 1, place⟩
  match decide (low.toExtended = .finite d), decide (high.toExtended = .finite d) with
  | true, true => some ⟨d.negative, tie.roundDiv num den, place⟩
  | true, false => some low
  | false, true => some high
  | false, false => none

def exact (d : Double) : Decimal :=
  if 0 ≤ d.scale then ⟨d.negative, d.significand * Nat.pow 2 d.scale.toNat, 0⟩
  else ⟨d.negative, d.significand * Nat.pow 5 (-d.scale).toNat, d.scale⟩

/-- The decimal of fewest digits that reads back as the double. -/
def shortest (d : Double) (tie : Tie) : Decimal :=
  if d.isZero then ⟨d.negative, 0, 0⟩
  else
    let top := leadingPlace d.ratio.1 d.ratio.2
    let found := (List.range 17).findSome? fun (n : Nat) => d.readsBackAt tie (top - n)
    (found.getD d.exact).trim

end Double

end Reshape
