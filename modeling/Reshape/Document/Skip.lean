import Reshape.Document.Reader

/-!
# Passing over values

`Document.skip` passes over a value that nobody asks for, and checks less than reading
does: containers nest to any depth, a number may be out of range, and an escape may
be half of a character.
-/

namespace Reshape

namespace Document

def skipEscape (cs : List Char) : Except Halt (Piece Unit cs) :=
  match cs with
  | [] => .error (.endInString, [])
  | c :: rest =>
    if c = 'u' then
      (hexUnit rest).map fun p => ⟨(), p.rest, Nat.lt_succ_of_lt p.shorter⟩
    else if (simpleEscape? c).isSome then .ok ⟨(), rest, Nat.lt_succ_self _⟩
    else .error (.badEscape, rest)

def skipString (cs : List Char) : Except Halt (Piece Unit cs) :=
  match cs with
  | [] => .error (.endInString, [])
  | '"' :: rest => .ok ⟨(), rest, Nat.lt_succ_self _⟩
  | '\\' :: rest =>
    (andThen (skipEscape rest) fun p => skipString p.rest).map fun p => p.widen (Nat.le_succ _)
  | c :: rest =>
    if c.toNat < 32 then .error (.controlCharacter, c :: rest)
    else (skipString rest).map fun p => p.widen (Nat.le_succ _)
termination_by cs.length
decreasing_by
  · have := p.shorter
    simp only [List.length_cons]
    omega
  · simp

def skipNumeral (cs : List Char) : Except Halt (Piece Unit cs) :=
  let (n, rest) := Numeral.scan cs
  if h : n.isStrict ∧ rest.length < cs.length then .ok ⟨(), rest, h.2⟩
  else .error (.badNumber, (numeralFault cs).2)

/-- What follows an opening bracket: the closing one, or more before it. -/
def emptyOr {α : Type} {cs : List Char} (empty : α) (close : Char) (fault : ReadFault)
    (more : Except Halt (Piece α cs)) : Except Halt (Piece α cs) :=
  match h : skipSpace cs with
  | [] => peeked fault []
  | c :: rest => if c = close then .ok ⟨empty, rest, length_le_of_skipSpace h⟩ else more

mutual

def skip (cs : List Char) : Except Halt (Piece Unit cs) :=
  match h : skipSpace cs with
  | [] => peeked .endInValue []
  | c :: rest =>
    have hr : rest.length < cs.length := length_le_of_skipSpace h
    if c = 'n' then (fixedWord () ['u', 'l', 'l'] c rest).map fun p => p.widen hr
    else if c = 't' then (fixedWord () ['r', 'u', 'e'] c rest).map fun p => p.widen hr
    else if c = 'f' then (fixedWord () ['a', 'l', 's', 'e'] c rest).map fun p => p.widen hr
    else if c = '"' then (skipString rest).map fun p => p.widen (Nat.le_of_lt hr)
    else if c = '[' then
      (emptyOr () ']' .endInList (skipItems rest)).map fun p => p.widen (Nat.le_of_lt hr)
    else if c = '\x7b' then
      (emptyOr () '\x7d' .endInObject (skipEntries rest)).map fun p => p.widen (Nat.le_of_lt hr)
    else if c = '-' ∨ Digits.isDigit c then (skipNumeral (c :: rest)).map fun p => p.widen hr
    else peeked .expectedValue (c :: rest)
termination_by (cs.length, 0)
decreasing_by all_goals exact Prod.Lex.left _ _ hr

def skipItems (cs : List Char) : Except Halt (Piece Unit cs) :=
  andThen (skip cs) fun item =>
    match h : skipSpace item.rest with
    | [] => peeked .endInList []
    | c :: rest =>
      have hr : rest.length < item.rest.length := length_le_of_skipSpace h
      if c = ']' then .ok ⟨(), rest, hr⟩
      else if c = ',' then (skipItems rest).map fun p => p.widen (Nat.le_of_lt hr)
      else peeked .expectedListEnd (c :: rest)
termination_by (cs.length, 1)
decreasing_by
  · exact Prod.Lex.right _ (by decide)
  · exact Prod.Lex.left _ _ (Nat.lt_trans hr item.shorter)

def skipEntries (cs : List Char) : Except Halt (Piece Unit cs) :=
  match h : skipSpace cs with
  | [] => peeked .endInObject []
  | q :: rest =>
    have hq : rest.length < cs.length := length_le_of_skipSpace h
    if q = '"' then
      (andThen (skipString rest) fun key => andThen (colon key.rest) fun mark =>
        andThen (skip mark.rest) fun member =>
          match hn : skipSpace member.rest with
          | [] => peeked .endInObject []
          | c :: after =>
            have hr : after.length < member.rest.length := length_le_of_skipSpace hn
            if c = '\x7d' then .ok ⟨(), after, hr⟩
            else if c = ',' then (skipEntries after).map fun p => p.widen (Nat.le_of_lt hr)
            else peeked .expectedObjectEnd (c :: after)).map fun p => p.widen (Nat.le_of_lt hq)
    else peeked .keyNotString (q :: rest)
termination_by (cs.length, 0)
decreasing_by
  all_goals
    have hmark := Nat.lt_trans mark.shorter (Nat.lt_trans key.shorter hq)
  · exact Prod.Lex.left _ _ hmark
  · exact Prod.Lex.left _ _ (Nat.lt_trans hr (Nat.lt_trans member.shorter hmark))

end

end Document

end Reshape
