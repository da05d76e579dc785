import Reshape.Text.Blank
import Reshape.Uri.Address

/-!
# Host names

The hosts that a URI may name. In the schemes of the web a host is unescaped,
its wide letters are narrowed, and it must not hold a delimiter; if it ends in a
number it must be an address. In other schemes a host is taken as written.
-/

namespace Reshape

namespace Uri

def isForbidden (c : Char) : Bool :=
  c ∈ ['\x00', '\t', '\n', '\r', ' ', '#', '/', ':', '<', '>', '?', '@', '[', '\\', ']', '^', '|']

def isForbiddenInName (c : Char) : Bool :=
  isForbidden c || c.toNat < 32 || c == '%' || c == '\x7f'

def unescape : List Char → List UInt8
  | '%' :: a :: b :: cs =>
    match hexValue? a, hexValue? b with
    | some x, some y => UInt8.ofNat (16 * x + y) :: unescape cs
    | _, _ => '%'.toNat.toUInt8 :: unescape (a :: b :: cs)
  | c :: cs => (String.singleton c).toUTF8.toList ++ unescape cs
  | [] => []

/-- Dropped from host names: the soft hyphen, joiners and selectors. -/
def isIgnored (c : Char) : Bool :=
  c.toNat == 0xAD || c.toNat == 0x200B || c.toNat == 0x2060 || c.toNat == 0x2064
    || c.toNat == 0xFEFF || (0xFE00 ≤ c.toNat && c.toNat ≤ 0xFE0F)

/-- A wide form as the ASCII character, and the full stops of other scripts as
dots. -/
def narrow (c : Char) : Char :=
  if 0xFF01 ≤ c.toNat ∧ c.toNat ≤ 0xFF5E then Char.ofNat (c.toNat - 0xFEE0)
  else if c.toNat = 0x3002 ∨ c.toNat = 0xFF61 then '.'
  else c

/-- No character of any script that a name may hold: blanks, controls, private
characters and those that are no characters. -/
def isUnnamable (c : Char) : Bool :=
  (128 ≤ c.toNat && Text.isBlank c) || (0x80 ≤ c.toNat && c.toNat ≤ 0x9F)
    || (0xE000 ≤ c.toNat && c.toNat ≤ 0xF8FF) || 0xF0000 ≤ c.toNat
    || (0xFDD0 ≤ c.toNat && c.toNat ≤ 0xFDEF) || 0xFFFE ≤ c.toNat % 0x10000
    || (0xFFF0 ≤ c.toNat && c.toNat ≤ 0xFFFD) || (0x2028 ≤ c.toNat && c.toNat ≤ 0x202E)

def name? (cs : List Char) : Option (List Char) := do
  let text ← String.fromUTF8? (ByteArray.mk (unescape cs).toArray)
  let name := (text.toList.filter fun c => !isIgnored c).map narrow
  if name.isEmpty ∨ name.any isForbiddenInName ∨ name.any isUnnamable then none
  else some name

def bracketed? : List Char → Option (List Char)
  | '[' :: cs => if cs.getLast? = some ']' then some cs.dropLast else none
  | _ => none

def isWebHost (cs : List Char) : Bool :=
  if cs.head? = some '[' then (bracketed? cs).any isEightWordAddress
  else match name? cs with
    | none => false
    | some name => !endsInNumber name || isFourByteAddress name

def isOpaqueHost (cs : List Char) : Bool :=
  if cs.head? = some '[' then (bracketed? cs).any isEightWordAddress
  else !cs.any isForbidden

end Uri

end Reshape
