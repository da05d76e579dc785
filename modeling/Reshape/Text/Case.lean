import Reshape.Text.Case.Context
import Reshape.Text.Case.Mapping

/-!
# Capitals, small letters and case folding

`Text.upper` and `Text.lower` write a text in capitals or small letters of any
script. A capital sigma becomes the final small sigma at the end of a word.
`Text.foldMates` are the characters that differ from a given one in case only.
-/

namespace Reshape

namespace Text

def upperForm (c : Char) : List Char :=
  match upperExpansions.find? fun e => e.1 == c.toNat with
  | some (_, form) => form.map Char.ofNat
  | none => [(shiftBy? upperShifts c).getD c]

def lowerForm (c : Char) : List Char :=
  match lowerExpansions.find? fun e => e.1 == c.toNat with
  | some (_, form) => form.map Char.ofNat
  | none => [(shiftBy? lowerShifts c).getD c]

def upper (cs : List Char) : List Char := cs.flatMap upperForm

/-- The next character that is not passed over has case. -/
def nextIsCased (cs : List Char) : Bool :=
  ((cs.dropWhile isCaseIgnorable).head?.map isCased).getD false

/-- The small letters of a text; `before` is what precedes it, backwards. -/
def lowerFrom (before : List Char) : List Char → List Char
  | [] => []
  | c :: cs =>
    let form :=
      if c = 'Σ' then if nextIsCased before && !nextIsCased cs then ['ς'] else ['σ']
      else lowerForm c
    form ++ lowerFrom (c :: before) cs

def lower (cs : List Char) : List Char := lowerFrom [] cs

/-- The character that stands for all that differ in case only. -/
def fold (c : Char) : Char := (shiftBy? foldShifts c).getD c

def Shift.sources (s : Shift) (c : Char) : List Char :=
  let n := (c.toNat : Int) - s.distance
  if 0 ≤ n ∧ s.covers n.toNat then [Char.ofNat n.toNat] else []

def foldMates (c : Char) : List Char := fold c :: foldShifts.flatMap fun s => s.sources (fold c)

end Text

end Reshape
