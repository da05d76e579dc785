import Reshape.Selector.Basic

/-!
# Splitting expression text

Separators count only outside quotes and parentheses. `Scan` is what has to be
known about the text before a character to tell; `Scan.split` cuts a text at its
separators, and `Scan.close` finds the parenthesis that ends a call.
-/

namespace Reshape

inductive Expression.Fault where
  | emptyExpression
  | emptyStep
  | emptyTerm
  | emptyArgument (function : String)
  | strayClose (position : Nat)
  | openString
  | openParenthesis
  | openCall (function : String)
  | textAfterCall (function : String) (text : List Char)
  | textAfterString (text : List Char)
  | numberOutOfRange (text : List Char)
  | badSelector (error : Selector.Error)
  | unrecognized (text : List Char)
  deriving DecidableEq, Repr

def Expression.Fault.message : Expression.Fault → String
  | emptyExpression => "empty expression"
  | emptyStep => "empty pipe step"
  | emptyTerm => "empty term"
  | emptyArgument function => "empty argument in call to '" ++ function ++ "'"
  | strayClose position => "unbalanced ')' at position " ++ decimalText position
  | openString => "unterminated string literal"
  | openParenthesis => "missing ')'"
  | openCall function => "missing ')' in call to '" ++ function ++ "'"
  | textAfterCall function text =>
    "unexpected text '" ++ String.ofList text ++ "' after call to '" ++ function ++ "'"
  | textAfterString text => "unexpected text '" ++ String.ofList text ++ "' after string literal"
  | numberOutOfRange text => "number '" ++ String.ofList text ++ "' is out of range"
  | badSelector error => error.message
  | unrecognized text => "unrecognized term '" ++ String.ofList text ++ "'"

/-- Whether a character stands in a quoted string, and which quote ends it. -/
inductive Quoting where
  | plain
  | within (quote : Char)
  | afterBackslash (quote : Char)
  deriving DecidableEq, Repr

structure Scan where
  quoting : Quoting
  depth : Nat
  deriving DecidableEq, Repr

namespace Scan

def start : Scan := ⟨.plain, 0⟩

def isTop (s : Scan) : Bool := s.quoting == .plain && s.depth == 0

/-- After one more character; none at a parenthesis that closes nothing. -/
def next? (s : Scan) (c : Char) : Option Scan :=
  match s.quoting with
  | .afterBackslash q => some ⟨.within q, s.depth⟩
  | .within q =>
    if c = '\\' then some ⟨.afterBackslash q, s.depth⟩
    else if c = q then some ⟨.plain, s.depth⟩
    else some s
  | .plain =>
    if c = '\'' ∨ c = '"' then some ⟨.within c, s.depth⟩
    else if c = '(' then some ⟨.plain, s.depth + 1⟩
    else if c = ')' then
      match s.depth with
      | 0 => none
      | depth + 1 => some ⟨.plain, depth⟩
    else some s

def consFirst (c : Char) : List (List Char) → List (List Char)
  | [] => [[c]]
  | p :: ps => (c :: p) :: ps

/-- The parts between the separators, as they stand. The position is that of
the first character. -/
def splitFrom (separator : Char) (s : Scan) (position : Nat) :
    List Char → Except Expression.Fault (List (List Char))
  | [] =>
    if s.quoting ≠ .plain then .error .openString
    else if 0 < s.depth then .error .openParenthesis
    else .ok [[]]
  | c :: cs =>
    if c = separator ∧ s.isTop then
      (splitFrom separator s (position + c.utf8Size) cs).map ([] :: ·)
    else match s.next? c with
      | none => .error (.strayClose position)
      | some t => (splitFrom separator t (position + c.utf8Size) cs).map (consFirst c)

/-- The parts of a text between its separators, without the blanks around them. -/
def split (separator : Char) (cs : List Char) : Except Expression.Fault (List (List Char)) :=
  (splitFrom separator start 0 cs).map fun parts => parts.map Text.trim

/-- The text up to the parenthesis that closes the one open, and the rest. -/
def close (s : Scan) : List Char → Option (List Char × List Char)
  | [] => none
  | c :: cs =>
    if c = ')' ∧ s.quoting = .plain ∧ s.depth = 1 then some ([], cs)
    else match s.next? c with
      | none => none
      | some t => (close t cs).map fun (inner, rest) => (c :: inner, rest)

/-! ## Lengths -/

theorem length_le_of_mem_consFirst {c : Char} {n : Nat} {parts : List (List Char)}
    (h : ∀ p ∈ parts, p.length ≤ n) : ∀ p ∈ consFirst c parts, p.length ≤ n + 1 := by
  cases parts with
  | nil => simp [consFirst]
  | cons q qs =>
    intro p hp
    rcases List.mem_cons.1 hp with rfl | hp
    · simpa using h q (List.mem_cons_self ..)
    · have := h p (List.mem_cons_of_mem _ hp)
      omega

theorem length_le_of_splitFrom {separator : Char} {s : Scan} {position : Nat} {cs : List Char}
    {parts : List (List Char)} (h : splitFrom separator s position cs = .ok parts) :
    ∀ p ∈ parts, p.length ≤ cs.length := by
  induction cs generalizing s position parts with
  | nil =>
    simp only [splitFrom] at h
    split at h
    · cases h
    · split at h
      · cases h
      · cases h
        simp
  | cons c cs ih =>
    simp only [splitFrom] at h
    split at h
    · cases hs : splitFrom separator s (position + c.utf8Size) cs with
      | error e => simp [hs, Except.map] at h
      | ok rest =>
        simp only [hs, Except.map, Except.ok.injEq] at h
        subst h
        intro p hp
        rcases List.mem_cons.1 hp with rfl | hp
        · simp
        · have := ih hs p hp
          simp only [List.length_cons]
          omega
    · split at h
      · cases h
      · rename_i t _
        cases hs : splitFrom separator t (position + c.utf8Size) cs with
        | error e => simp [hs, Except.map] at h
        | ok rest =>
          simp only [hs, Except.map, Except.ok.injEq] at h
          subst h
          exact length_le_of_mem_consFirst (ih hs)

theorem length_trim_le (cs : List Char) : (Text.trim cs).length ≤ cs.length := by
  have h₁ := (List.dropWhile_sublist (l := cs) Text.isBlank).length_le
  have h₂ :=
    (List.dropWhile_sublist (l := (cs.dropWhile Text.isBlank).reverse) Text.isBlank).length_le
  simp only [Text.trim, Text.trimStart, Text.trimEnd, List.length_reverse] at *
  omega

theorem length_le_of_mem_split {separator : Char} {cs part : List Char} {parts : List (List Char)}
    (h : split separator cs = .ok parts) (hp : part ∈ parts) : part.length ≤ cs.length := by
  unfold split at h
  cases hs : splitFrom separator start 0 cs with
  | error e => simp [hs, Except.map] at h
  | ok raw =>
    simp only [hs, Except.map, Except.ok.injEq] at h
    subst h
    obtain ⟨p, hm, rfl⟩ := List.mem_map.1 hp
    exact Nat.le_trans (length_trim_le p) (length_le_of_splitFrom hs p hm)

theorem length_lt_of_close {s : Scan} {cs inner rest : List Char}
    (h : s.close cs = some (inner, rest)) : inner.length < cs.length := by
  induction cs generalizing s inner with
  | nil => simp [close] at h
  | cons c cs ih =>
    simp only [close] at h
    split at h
    · cases h
      simp
    · split at h
      · cases h
      · rename_i t _
        obtain ⟨⟨i, r⟩, hi, h⟩ := Option.map_eq_some_iff.1 h
        cases h
        have := ih hi
        simp only [List.length_cons]
        omega

end Scan

end Reshape
