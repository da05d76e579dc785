import Reshape.Calendar.Date
import Reshape.Text.Blank

/-!
# Reading moments

`Moment.ofStamp?` reads a full time stamp: a date, a time and its offset, all in
fields of fixed width. `Moment.ofText?` also reads times without an offset,
which are in Greenwich time, and dates alone; their fields may be shorter.
-/

namespace Reshape

namespace Moment

/-! ## Fields -/

def exactly (n : Nat) (cs : List Char) : Option (Nat × List Char) :=
  let ds := cs.take n
  if ds.length = n ∧ ds.all Digits.isDigit then some (Digits.value ds, cs.drop n) else none

def upTo (n : Nat) (cs : List Char) : Option (Nat × List Char) :=
  let ds := (cs.take n).takeWhile Digits.isDigit
  if ds.isEmpty then none else some (Digits.value ds, cs.drop ds.length)

def digits (cs : List Char) : Option (Nat × List Char) := upTo cs.length cs

def mark (c : Char) : List Char → Option (List Char)
  | d :: cs => if c = d then some cs else none
  | [] => none

def skipFraction : List Char → Option (List Char)
  | '.' :: cs => (digits cs).map Prod.snd
  | cs => some cs

def make? (year : Int) (month day hour minute second : Nat) (offset : Int) : Option Moment :=
  let date : Date := ⟨year, month, day⟩
  if date.isReal ∧ Date.firstYear ≤ year ∧ year ≤ Date.lastYear
    ∧ hour < 24 ∧ minute < 60 ∧ second ≤ 60
  then some (.ofParts date hour minute second offset)
  else none

/-! ## Time stamps -/

def offset : List Char → Option Int
  | ['Z'] => some 0
  | ['z'] => some 0
  | sign :: cs => do
    let factor : Int ← if sign = '+' then some 1
      else if sign = '-' ∨ sign = '−' then some (-1)
      else none
    let (hours, cs) ← exactly 2 cs
    let cs ← mark ':' cs
    let (minutes, cs) ← exactly 2 cs
    if cs.isEmpty ∧ hours < 24 ∧ minutes < 60 then
      some (factor * (hours * 3600 + minutes * 60 : Nat))
    else none
  | [] => none

/-- Reads a time stamp with fields of fixed width and an offset. -/
def ofStamp? (cs : List Char) : Option Moment := do
  let (year, cs) ← exactly 4 cs
  let (month, cs) ← exactly 2 (← mark '-' cs)
  let (day, cs) ← exactly 2 (← mark '-' cs)
  let cs ← match cs with
    | c :: cs => if c = 'T' ∨ c = 't' ∨ c = ' ' then some cs else none
    | [] => none
  let (hour, cs) ← exactly 2 cs
  let (minute, cs) ← exactly 2 (← mark ':' cs)
  let (second, cs) ← exactly 2 (← mark ':' cs)
  let cs ← skipFraction cs
  make? year month day hour minute second (← offset cs)

/-! ## Loose forms -/

/-- A year: up to four digits, or any number of them behind a sign. -/
def looseYear (cs : List Char) : Option (Int × List Char) :=
  match Text.trimStart cs with
  | '-' :: cs => (digits cs).map fun (y, rest) => (-(y : Int), rest)
  | '+' :: cs => (digits cs).map fun (y, rest) => ((y : Int), rest)
  | cs => (upTo 4 cs).map fun (y, rest) => ((y : Int), rest)

/-- One or two digits, with blanks before them. -/
def looseField (cs : List Char) : Option (Nat × List Char) := upTo 2 (Text.trimStart cs)

def looseDate (cs : List Char) : Option (Date × List Char) := do
  let (year, cs) ← looseYear cs
  let (month, cs) ← looseField (← mark '-' cs)
  let (day, cs) ← looseField (← mark '-' cs)
  some (⟨year, month, day⟩, cs)

def looseTime (date : Date) (cs : List Char) : Option Moment := do
  let (hour, cs) ← looseField cs
  let (minute, cs) ← looseField (← mark ':' cs)
  let (second, cs) ← looseField (← mark ':' cs)
  let cs ← skipFraction cs
  if cs.isEmpty then make? date.year date.month date.day hour minute second 0 else none

/-- Reads a date, or a date and a time, without an offset. -/
def ofLoose? (cs : List Char) : Option Moment := do
  let (date, rest) ← looseDate cs
  match rest with
  | [] => make? date.year date.month date.day 0 0 0 0
  | 'T' :: time => looseTime date time
  | time => looseTime date (Text.trimStart time)

/-- Reads a moment in any of the forms; blanks around it do not count. -/
def ofText? (cs : List Char) : Option Moment :=
  let cs := Text.trim cs
  (ofStamp? cs).orElse fun _ => ofLoose? cs

end Moment

end Reshape
