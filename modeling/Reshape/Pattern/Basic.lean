import Reshape.Text.Case
import Reshape.Text.Blank
import Reshape.Text.Mark
import Reshape.Text.Name

/-!
# Patterns

A `Pattern` is a regular expression on characters. `Pattern.ends` gives all
positions where a match from a given position can end; `Pattern.isFound` asks
for a match anywhere. Greed does not matter for either.
-/

namespace Reshape

namespace Text

/-- A letter, mark, digit or connector of any script. -/
def isWordChar (c : Char) : Bool := isLetter c || isMark c || isDecimal c || isConnector c

end Text

inductive CharSet where
  | none
  | range (low high : Char) (anyCase : Bool)
  | decimal
  | blank
  | wordChar
  | complement (s : CharSet)
  | union (s t : CharSet)
  | intersection (s t : CharSet)
  deriving DecidableEq, Repr

namespace CharSet

def has : CharSet → Char → Bool
  | none, _ => false
  | range low high anyCase, c =>
    if anyCase then (Text.foldMates c).any fun d => low ≤ d && d ≤ high
    else low ≤ c && c ≤ high
  | decimal, c => Text.isDecimal c
  | blank, c => Text.isBlank c
  | wordChar, c => Text.isWordChar c
  | complement s, c => !s.has c
  | union s t, c => s.has c || t.has c
  | intersection s t, c => s.has c && t.has c

def all : CharSet := complement none

end CharSet

inductive Anchor where
  | textStart
  | textEnd
  | lineStart
  | lineEnd
  | wordEdge
  | noWordEdge
  | wordStart
  | wordEnd
  deriving DecidableEq, Repr

inductive Pattern where
  | empty
  | anchor (a : Anchor)
  | one (s : CharSet)
  | sequence (p q : Pattern)
  | choice (p q : Pattern)
  | repeated (p : Pattern) (low : Nat) (high : Option Nat)
  deriving DecidableEq, Repr

namespace Anchor

def holds (before after : Option Char) : Anchor → Bool
  | textStart => before.isNone
  | textEnd => after.isNone
  | lineStart => before.isNone || before == some '\n'
  | lineEnd => after.isNone || after == some '\n'
  | wordEdge => before.any Text.isWordChar != after.any Text.isWordChar
  | noWordEdge => before.any Text.isWordChar == after.any Text.isWordChar
  | wordStart => !before.any Text.isWordChar && after.any Text.isWordChar
  | wordEnd => before.any Text.isWordChar && !after.any Text.isWordChar

end Anchor

namespace Pattern

def merge (xs ys : List Nat) : List Nat :=
  ys.foldl (fun acc y => if acc.contains y then acc else acc ++ [y]) xs

/-- The positions that a step reaches from any of the given ones. -/
def advance (step : Nat → List Nat) (starts : List Nat) : List Nat :=
  starts.foldl (fun acc i => merge acc (step i)) []

def times (step : Nat → List Nat) : Nat → List Nat → List Nat
  | 0, starts => starts
  | n + 1, starts => times step n (advance step starts)

def upToTimes (step : Nat → List Nat) : Nat → List Nat → List Nat
  | 0, starts => starts
  | n + 1, starts => upToTimes step n (merge starts (advance step starts))

/-- The positions where a match that starts at a position can end. More steps
of a repetition than the text has characters reach no new position. -/
def ends (text : Array Char) : Pattern → Nat → List Nat
  | empty, i => [i]
  | anchor a, i =>
    if a.holds (if i = 0 then none else text[i - 1]?) text[i]? then [i] else []
  | one s, i =>
    match text[i]? with
    | some c => if s.has c then [i + 1] else []
    | none => []
  | sequence p q, i => advance (ends text q) (ends text p i)
  | choice p q, i => merge (ends text p i) (ends text q i)
  | repeated p low high, i =>
    let more := match high with
      | some high => Min.min (high - low) (text.size + 1)
      | none => text.size + 1
    upToTimes (ends text p) more (times (ends text p) low [i])

def isFound (p : Pattern) (cs : List Char) : Bool :=
  let text := cs.toArray
  (List.range (text.size + 1)).any fun i => !(p.ends text i).isEmpty

end Pattern

end Reshape
