/-!
# Ranges of code points

Character classes are lists of inclusive ranges of code points, case pairs are
lists of shifted runs.
-/

namespace Reshape

namespace Text

def inRanges (ranges : List (Nat × Nat)) (c : Char) : Bool :=
  ranges.any fun (low, high) => low ≤ c.toNat && c.toNat ≤ high

/-- The code points from `low` to `high` in steps, moved by a distance. -/
structure Shift where
  low : Nat
  high : Nat
  step : Nat
  distance : Int
  deriving DecidableEq, Repr

def Shift.covers (s : Shift) (n : Nat) : Bool :=
  s.low ≤ n && n ≤ s.high && (n - s.low) % s.step == 0

def shiftBy? (shifts : List Shift) (c : Char) : Option Char :=
  (shifts.find? fun s => s.covers c.toNat).map fun s =>
    Char.ofNat ((c.toNat : Int) + s.distance).toNat

end Text

end Reshape
