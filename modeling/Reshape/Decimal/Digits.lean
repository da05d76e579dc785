/-!
# Decimal digits

The ten ASCII digits: `Digits.ofNat` writes a natural number in them, without
leading zeros, and `Digits.value` reads a digit sequence, which may have some.
-/

namespace Reshape

namespace Digits

def isDigit (c : Char) : Bool := '0' ≤ c && c ≤ '9'

def valueOf (c : Char) : Nat := c.toNat - 48

def digit (n : Nat) : Char := Char.ofNat (48 + n % 10)

def value (cs : List Char) : Nat := cs.foldl (fun n c => 10 * n + valueOf c) 0

/-- Adds digits to a number while it stays below a bound, and gives back the others. -/
def takeBelow (bound n : Nat) : List Char → Nat × List Char
  | [] => (n, [])
  | c :: cs =>
    let next := 10 * n + valueOf c
    if next < bound then takeBelow bound next cs else (n, c :: cs)

def ofNat (n : Nat) : List Char :=
  if n < 10 then [digit n] else ofNat (n / 10) ++ [digit n]

theorem digit_mem (n : Nat) :
    digit n ∈ ['0', '1', '2', '3', '4', '5', '6', '7', '8', '9'] := by
  have h : n % 10 < 10 := Nat.mod_lt _ (by decide)
  unfold digit
  generalize n % 10 = k at h
  match k, h with
  | 0, _ | 1, _ | 2, _ | 3, _ | 4, _ | 5, _ | 6, _ | 7, _ | 8, _ | 9, _ => decide

theorem isDigit_digit (n : Nat) : isDigit (digit n) = true := by
  have h := digit_mem n
  simp only [List.mem_cons, List.not_mem_nil, or_false] at h
  rcases h with h | h | h | h | h | h | h | h | h | h <;> rw [h] <;> decide

theorem valueOf_digit (n : Nat) : valueOf (digit n) = n % 10 := by
  have h : n % 10 < 10 := Nat.mod_lt _ (by decide)
  unfold digit valueOf
  generalize n % 10 = k at h
  match k, h with
  | 0, _ | 1, _ | 2, _ | 3, _ | 4, _ | 5, _ | 6, _ | 7, _ | 8, _ | 9, _ => decide

theorem value_concat (cs : List Char) (c : Char) :
    value (cs ++ [c]) = 10 * value cs + valueOf c := by
  simp [value]

/-- Writing is undone by reading. -/
theorem value_ofNat (n : Nat) : value (ofNat n) = n := by
  induction n using Nat.strongRecOn with
  | ind n ih =>
    rw [ofNat]
    split
    · simp [value, valueOf_digit]
      omega
    · rw [value_concat, ih (n / 10) (by omega), valueOf_digit]
      omega

theorem isDigit_of_mem_ofNat {n : Nat} {c : Char} (h : c ∈ ofNat n) : isDigit c = true := by
  induction n using Nat.strongRecOn with
  | ind n ih =>
    rw [ofNat] at h
    split at h
    · simp_all [isDigit_digit]
    · rcases List.mem_append.1 h with h | h
      · exact ih (n / 10) (by omega) h
      · simp_all [isDigit_digit]

theorem ofNat_ne_nil (n : Nat) : ofNat n ≠ [] := by
  rw [ofNat]
  split <;> simp

def ofInt (n : Int) : List Char :=
  if n < 0 then '-' :: ofNat n.natAbs else ofNat n.natAbs

end Digits

def decimalText (n : Nat) : String := String.ofList (Digits.ofNat n)

end Reshape
