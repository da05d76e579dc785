import Reshape.Decimal.Digits

/-!
# Dates and moments

Days are counted from 1970-01-01 in the Gregorian calendar, extended to all
years. `Date.toDays` and `Date.ofDays` convert between counts and dates; a
`Moment` is a count of seconds.
-/

namespace Reshape

structure Date where
  year : Int
  month : Nat
  day : Nat
  deriving DecidableEq, Repr

namespace Date

def isLeap (year : Int) : Bool := year % 4 == 0 && (year % 100 != 0 || year % 400 == 0)

def monthLength (year : Int) : Nat → Nat
  | 2 => if isLeap year then 29 else 28
  | 4 => 30
  | 6 => 30
  | 9 => 30
  | 11 => 30
  | _ => 31

def isReal (d : Date) : Bool :=
  1 ≤ d.month && d.month ≤ 12 && 1 ≤ d.day && d.day ≤ monthLength d.year d.month

/-- The years that moments can fall in. -/
def firstYear : Int := -262143

def lastYear : Int := 262142

/-- The days before a month in a year that starts in March. -/
def daysBefore (monthFromMarch : Nat) : Nat := (153 * monthFromMarch + 2) / 5

/-- The number of the day, with 1970-01-01 as day 0. A year here starts in
March, so that the leap day is its last, and 400 years have 146097 days. -/
def toDays (d : Date) : Int :=
  let year := if d.month ≤ 2 then d.year - 1 else d.year
  let cycle := year.fdiv 400
  let yearOfCycle := year.fmod 400
  let dayOfYear := daysBefore ((d.month + 9) % 12) + d.day - 1
  cycle * 146097 + yearOfCycle * 365 + yearOfCycle / 4 - yearOfCycle / 100 + dayOfYear - 719468

def ofDays (days : Int) : Date :=
  let n := days + 719468
  let cycle := n.fdiv 146097
  let dayOfCycle := (n.fmod 146097).toNat
  let yearOfCycle :=
    (dayOfCycle - dayOfCycle / 1460 + dayOfCycle / 36524 - dayOfCycle / 146096) / 365
  let dayOfYear := dayOfCycle - (365 * yearOfCycle + yearOfCycle / 4 - yearOfCycle / 100)
  let monthFromMarch := (5 * dayOfYear + 2) / 153
  let month := if monthFromMarch < 10 then monthFromMarch + 3 else monthFromMarch - 9
  let year := cycle * 400 + yearOfCycle
  ⟨if month ≤ 2 then year + 1 else year, month, dayOfYear - daysBefore monthFromMarch + 1⟩

end Date

/-- Seconds since 1970-01-01T00:00:00Z. -/
structure Moment where
  seconds : Int
  deriving DecidableEq, Repr

namespace Moment

/-- The moment of a time of day, offset seconds east of Greenwich. A leap second
counts as the one before it. -/
def ofParts (date : Date) (hour minute second : Nat) (offset : Int) : Moment :=
  ⟨date.toDays * 86400 + (hour * 3600 + minute * 60 + Min.min second 59 : Nat) - offset⟩

def date (m : Moment) : Date := .ofDays (m.seconds.fdiv 86400)

def secondOfDay (m : Moment) : Nat := (m.seconds.fmod 86400).toNat

def hour (m : Moment) : Nat := m.secondOfDay / 3600

def minute (m : Moment) : Nat := m.secondOfDay / 60 % 60

def second (m : Moment) : Nat := m.secondOfDay % 60

def ofMilliseconds? (n : Int) : Option Moment :=
  let m : Moment := ⟨n.fdiv 1000⟩
  if Date.firstYear ≤ m.date.year ∧ m.date.year ≤ Date.lastYear then some m else none

end Moment

end Reshape
