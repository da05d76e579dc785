import Reshape.Decimal.Basic

/-!
# Numerals in text

`Numeral.scan` takes the longest piece of text that could be a number: a sign,
digits, a point with digits, a marked exponent. Each reader then accepts the
numerals of its own grammar: `Numeral.isLoose` is the grammar in which one side
of the point may be empty, `Numeral.isStrict` that of documents.
-/

namespace Reshape

structure Numeral where
  sign : Option Char
  whole : List Char
  fraction : Option (List Char)
  /-- The sign and the digits after the mark. -/
  exponent : Option (Option Char × List Char)
  deriving DecidableEq, Repr

namespace Numeral

def takeSign : List Char → Option Char × List Char
  | '+' :: cs => (some '+', cs)
  | '-' :: cs => (some '-', cs)
  | cs => (none, cs)

def takeDigits (cs : List Char) : List Char × List Char := cs.span Digits.isDigit

def takeFraction : List Char → Option (List Char) × List Char
  | '.' :: cs => let (ds, rest) := takeDigits cs; (some ds, rest)
  | cs => (none, cs)

def takeExponent : List Char → Option (Option Char × List Char) × List Char
  | c :: cs =>
    if c = 'e' ∨ c = 'E' then
      let (sign, rest) := takeSign cs
      let (ds, rest) := takeDigits rest
      (some (sign, ds), rest)
    else (none, c :: cs)
  | [] => (none, [])

/-- The longest start that looks like a number, and the rest. -/
def scan (cs : List Char) : Numeral × List Char :=
  let (sign, cs) := takeSign cs
  let (whole, cs) := takeDigits cs
  let (fraction, cs) := takeFraction cs
  let (exponent, cs) := takeExponent cs
  (⟨sign, whole, fraction, exponent⟩, cs)

def exponentIsFull (n : Numeral) : Bool :=
  match n.exponent with
  | some (_, []) => false
  | _ => true

/-- Digits on at least one side of the point, with either sign. -/
def isLoose (n : Numeral) : Bool :=
  (!n.whole.isEmpty || !(n.fraction.getD []).isEmpty) && n.exponentIsFull

/-- Digits on both sides of the point, no plus sign and no leading zero. -/
def isStrict (n : Numeral) : Bool :=
  n.sign != some '+' && !n.whole.isEmpty && (n.whole == ['0'] || n.whole.head? != some '0')
    && n.fraction != some [] && n.exponentIsFull

def isWhole (n : Numeral) : Bool := n.fraction.isNone && n.exponent.isNone

def isNegative (n : Numeral) : Bool := n.sign == some '-'

def toInt (n : Numeral) : Int :=
  if n.isNegative then -(Digits.value n.whole : Int) else Digits.value n.whole

/-- The digits on both sides of the point as a word of 64 bits, times ten to a power. The
digits that make it too great are left out. -/
def word (n : Numeral) : Nat × Int :=
  let fraction := n.fraction.getD []
  let (w, wholeLeft) := Digits.takeBelow (Nat.pow 2 64) 0 n.whole
  let (w, fractionLeft) := Digits.takeBelow (Nat.pow 2 64) w fraction
  (w, wholeLeft.length - ((fraction.length : Int) - fractionLeft.length))

def exponentIsNegative (n : Numeral) : Bool := n.exponent.any fun e => e.1 == some '-'

def exponentDigits (n : Numeral) : List Char := (n.exponent.map Prod.snd).getD []

def exponentValue (n : Numeral) : Int :=
  match n.exponent with
  | some (some '-', ds) => -(Digits.value ds : Int)
  | some (_, ds) => Digits.value ds
  | none => 0

def toDecimal (n : Numeral) : Decimal :=
  let fraction := n.fraction.getD []
  ⟨n.isNegative, Digits.value (n.whole ++ fraction), n.exponentValue - fraction.length⟩

end Numeral

/-- Reads a decimal number, an infinity or the undefined, in any case of
letters; the whole text must be used. -/
def Extended.ofText? (cs : List Char) : Option Extended :=
  let (n, rest) := Numeral.scan cs
  if rest.isEmpty ∧ n.isLoose then some n.toDecimal.toExtended
  else
    let (sign, word) := Numeral.takeSign cs
    let word := String.ofList (word.map Char.toLower)
    if word = "inf" ∨ word = "infinity" then some (.infinite (sign == some '-'))
    else if word = "nan" then some .undefined
    else none

end Reshape
