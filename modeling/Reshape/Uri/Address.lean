import Reshape.Decimal.Digits

/-!
# Numeric host addresses

`Uri.endsInNumber` tells which host names have to be addresses in four bytes,
`Uri.isFourByteAddress` which of them are. `Uri.isEightWordAddress` accepts the
addresses that stand in brackets.
-/

namespace Reshape

namespace Uri

def labels : List Char → List (List Char)
  | [] => [[]]
  | c :: cs =>
    match labels cs with
    | [] => [[]]
    | l :: ls => if c = '.' then [] :: l :: ls else (c :: l) :: ls

def hexValue? (c : Char) : Option Nat :=
  if Digits.isDigit c then some (c.toNat - 48)
  else if 'a' ≤ c ∧ c ≤ 'f' then some (c.toNat - 87)
  else if 'A' ≤ c ∧ c ≤ 'F' then some (c.toNat - 55)
  else none

def valueIn? (base : Nat) (cs : List Char) : Option Nat :=
  cs.foldlM (fun n c => (hexValue? c).bind fun d => if d < base then some (base * n + d) else none) 0

/-- A number in decimal, octal behind a zero, or hexadecimal behind `0x`. -/
def number? : List Char → Option Nat
  | [] => none
  | '0' :: 'x' :: cs => valueIn? 16 cs
  | '0' :: 'X' :: cs => valueIn? 16 cs
  | '0' :: c :: cs => valueIn? 8 (c :: cs)
  | cs => valueIn? 10 cs

def withoutEmptyEnd (parts : List (List Char)) : List (List Char) :=
  if parts.getLast? = some [] then parts.dropLast else parts

/-- The last part of a host name is a number. -/
def endsInNumber (host : List Char) : Bool :=
  match (withoutEmptyEnd (labels host)).getLast? with
  | none => false
  | some part => (!part.isEmpty && part.all Digits.isDigit) || (number? part).isSome

/-- Up to four numbers, of which the last fills the bytes that are left. -/
def isFourByteAddress (host : List Char) : Bool :=
  let parts := withoutEmptyEnd (labels host)
  match parts.mapM number? with
  | none => false
  | some ns =>
    match ns.getLast? with
    | none => false
    | some last =>
      parts.length ≤ 4 && ns.dropLast.all (· ≤ 255) && last < Nat.pow 256 (5 - parts.length)

def isWord (cs : List Char) : Bool :=
  !cs.isEmpty && cs.length ≤ 4 && cs.all fun c => (hexValue? c).isSome

def isByte (cs : List Char) : Bool :=
  !cs.isEmpty && cs.length ≤ 3 && cs.all Digits.isDigit
    && (cs.length == 1 || cs.head? != some '0') && Digits.value cs ≤ 255

def words : List Char → List (List Char)
  | [] => [[]]
  | c :: cs =>
    match words cs with
    | [] => [[]]
    | w :: ws => if c = ':' then [] :: w :: ws else (c :: w) :: ws

/-- How many words a run of parts makes; the last may be an address in bytes. -/
def wordCount? (lastMayBeBytes : Bool) : List (List Char) → Option Nat
  | [] => some 0
  | [w] =>
    if isWord w then some 1
    else if lastMayBeBytes ∧ (labels w).length = 4 ∧ (labels w).all isByte then some 2
    else none
  | w :: ws => if isWord w then (wordCount? lastMayBeBytes ws).map (· + 1) else none

def cutAtGap : List Char → Option (List Char × List Char)
  | ':' :: ':' :: cs => some ([], cs)
  | c :: cs => (cutAtGap cs).map fun (before, after) => (c :: before, after)
  | [] => none

/-- Eight words, or fewer with a gap of zeros between them. -/
def isEightWordAddress (cs : List Char) : Bool :=
  let parts (cs : List Char) : List (List Char) := if cs.isEmpty then [] else words cs
  match cutAtGap cs with
  | none => wordCount? true (parts cs) == some 8
  | some (before, after) =>
    match wordCount? false (parts before), wordCount? true (parts after) with
    | some m, some n => m + n ≤ 7
    | _, _ => false

end Uri

end Reshape
