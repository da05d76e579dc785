import Reshape.Document.Basic
import Reshape.Text.Place

/-!
# Reading documents

`Document.read` reads a JSON text as a document. The syntax is strict, a key
that comes twice keeps its first place and its last value, and containers nest
at most `Document.depthLimit` deep. A text that is no document is answered by a
`ReadError`: the fault and the place where reading stopped.
-/

namespace Reshape

inductive ReadFault where
  | endInValue | endInList | endInObject | endInString
  | expectedValue | expectedWord | expectedColon | expectedListEnd | expectedObjectEnd
  | badNumber | numberOutOfRange
  | badEscape | controlCharacter | loneSurrogate | endOfHex
  | keyNotString | trailingComma | trailingText | tooDeep
  /-- A fault of what the text says, in the words of whoever reads it. -/
  | misfit (words : String)
  deriving DecidableEq, Repr

def ReadFault.message : ReadFault → String
  | endInValue => "EOF while parsing a value"
  | endInList => "EOF while parsing a list"
  | endInObject => "EOF while parsing an object"
  | endInString => "EOF while parsing a string"
  | expectedValue => "expected value"
  | expectedWord => "expected ident"
  | expectedColon => "expected `:`"
  | expectedListEnd => "expected `,` or `]`"
  | expectedObjectEnd => "expected `,` or `\x7d`"
  | badNumber => "invalid number"
  | numberOutOfRange => "number out of range"
  | badEscape => "invalid escape"
  | controlCharacter => "control character (\\u0000-\\u001F) found while parsing a string"
  | loneSurrogate => "lone leading surrogate in hex escape"
  | endOfHex => "unexpected end of hex escape"
  | keyNotString => "key must be a string"
  | trailingComma => "trailing comma"
  | trailingText => "trailing characters"
  | tooDeep => "recursion limit exceeded"
  | misfit words => words

structure ReadError where
  fault : ReadFault
  line : Nat
  column : Nat
  deriving DecidableEq, Repr

def ReadError.message (e : ReadError) : String :=
  e.fault.message ++ " at line " ++ decimalText e.line ++ " column " ++ decimalText e.column

namespace Document

def depthLimit : Nat := 127

/-- A fault and the text that was left when it showed. -/
abbrev Halt := ReadFault × List Char

/-- A piece that was read, and a rest shorter than the text before it. -/
structure Piece (α : Type) (cs : List Char) where
  value : α
  rest : List Char
  shorter : rest.length < cs.length

def Piece.widen {α : Type} {cs ds : List Char} (p : Piece α cs) (h : cs.length ≤ ds.length) :
    Piece α ds :=
  ⟨p.value, p.rest, by have := p.shorter; omega⟩

def andThen {α β : Type} {cs : List Char} (x : Except Halt (Piece α cs))
    (next : (p : Piece α cs) → Except Halt (Piece β p.rest)) : Except Halt (Piece β cs) := do
  let p ← x
  let q ← next p
  return q.widen (Nat.le_of_lt p.shorter)

/-! ## Blanks -/

def isSpace (c : Char) : Bool := c = ' ' || c = '\n' || c = '\t' || c = '\r'

def skipSpace (cs : List Char) : List Char := cs.dropWhile isSpace

theorem length_skipSpace_le (cs : List Char) : (skipSpace cs).length ≤ cs.length :=
  (List.dropWhile_sublist isSpace).length_le

/-- The fault is seen by looking at the next character without taking it. -/
def peeked {α : Type} (fault : ReadFault) (cs : List Char) : Except Halt α :=
  .error (fault, cs.drop 1)

/-! ## Strings -/

def hexValue? (c : Char) : Option Nat :=
  if '0' ≤ c ∧ c ≤ '9' then some (c.toNat - 48)
  else if 'a' ≤ c ∧ c ≤ 'f' then some (c.toNat - 87)
  else if 'A' ≤ c ∧ c ≤ 'F' then some (c.toNat - 55)
  else none

def hexUnit (cs : List Char) : Except Halt (Piece Nat cs) :=
  match cs with
  | a :: b :: c :: d :: rest =>
    match hexValue? a, hexValue? b, hexValue? c, hexValue? d with
    | some a, some b, some c, some d =>
      .ok ⟨((a * 16 + b) * 16 + c) * 16 + d, rest, by simp only [List.length_cons]; omega⟩
    | _, _, _, _ => .error (.badEscape, rest)
  | _ => .error (.endInString, [])

/-- The character of a code unit, or of a pair of surrogates. -/
def unicodeEscape (cs : List Char) : Except Halt (Piece Char cs) := do
  let high ← hexUnit cs
  if 0xDC00 ≤ high.value ∧ high.value ≤ 0xDFFF then .error (.loneSurrogate, high.rest)
  else if 0xD800 ≤ high.value ∧ high.value ≤ 0xDBFF then
    match h : high.rest with
    | '\\' :: 'u' :: more =>
      let low ← hexUnit more
      if 0xDC00 ≤ low.value ∧ low.value ≤ 0xDFFF then
        return ⟨Char.ofNat (0x10000 + (high.value - 0xD800) * 0x400 + (low.value - 0xDC00)),
          low.rest, by
            have hr := high.shorter
            have := low.shorter
            rw [h, List.length_cons, List.length_cons] at hr
            omega⟩
      else .error (.loneSurrogate, low.rest)
    | '\\' :: _ :: more => .error (.endOfHex, more)
    | '\\' :: [] => .error (.endInString, [])
    | [] => .error (.endInString, [])
    | _ :: more => .error (.endOfHex, more)
  else return ⟨Char.ofNat high.value, high.rest, high.shorter⟩

def simpleEscape? : Char → Option Char
  | '"' => some '"'
  | '\\' => some '\\'
  | '/' => some '/'
  | 'b' => some '\x08'
  | 'f' => some '\x0c'
  | 'n' => some '\n'
  | 'r' => some '\r'
  | 't' => some '\t'
  | _ => none

def escaped (cs : List Char) : Except Halt (Piece Char cs) :=
  match cs with
  | [] => .error (.endInString, [])
  | c :: rest =>
    if c = 'u' then (unicodeEscape rest).map fun p => p.widen (by simp)
    else match simpleEscape? c with
      | some d => .ok ⟨d, rest, by simp⟩
      | none => .error (.badEscape, rest)

def stringBody (cs : List Char) : Except Halt (Piece (List Char) cs) :=
  match cs with
  | [] => .error (.endInString, [])
  | '"' :: rest => .ok ⟨[], rest, by simp⟩
  | '\\' :: rest => do
    let c ← escaped rest
    have := c.shorter
    let body ← stringBody c.rest
    have := body.shorter
    return ⟨c.value :: body.value, body.rest, by simp only [List.length_cons]; omega⟩
  | c :: rest =>
    if c.toNat < 32 then .error (.controlCharacter, rest)
    else do
      let body ← stringBody rest
      have := body.shorter
      return ⟨c :: body.value, body.rest, by simp only [List.length_cons]; omega⟩
termination_by cs.length
decreasing_by all_goals simp only [List.length_cons]; omega

/-! ## Numbers and words -/

/-- Where the first misspelling of a numeral shows. -/
def numeralFault (cs : List Char) : Halt :=
  let afterSign := if cs.head? = some '-' then cs.drop 1 else cs
  match afterSign with
  | '0' :: rest =>
    if (rest.head?.map Digits.isDigit).getD false then (.badNumber, rest.drop 1)
    else fractionFault rest
  | c :: rest =>
    if Digits.isDigit c then fractionFault (rest.dropWhile Digits.isDigit)
    else (.badNumber, rest)
  | [] => (.endInValue, [])
where
  fractionFault : List Char → Halt
    | '.' :: rest =>
      match rest with
      | [] => (.endInValue, [])
      | c :: more =>
        if Digits.isDigit c then exponentFault (more.dropWhile Digits.isDigit)
        else (.badNumber, more)
    | cs => exponentFault cs
  exponentFault : List Char → Halt
    | _ :: rest =>
      match (Numeral.takeSign rest).2 with
      | [] => (.endInValue, [])
      | _ :: more => (.badNumber, more)
    | [] => (.badNumber, [])

def numeral (cs : List Char) : Except Halt (Piece Document cs) :=
  let (n, rest) := Numeral.scan cs
  if n.isStrict then
    match Number.ofNumeral n with
    | .ok x =>
      if h : rest.length < cs.length then .ok ⟨.number x, rest, h⟩
      else .error (.badNumber, rest)
    | .error left => .error (.numberOutOfRange, left ++ rest)
  else .error (numeralFault cs)

def word {α : Type} (value : α) : List Char → (cs : List Char) → Except Halt (α × List Char)
  | [], cs => .ok (value, cs)
  | _ :: _, [] => .error (.endInValue, [])
  | w :: ws, c :: cs => if w = c then word value ws cs else .error (.expectedWord, cs)

theorem length_le_of_word {α : Type} {value v : α} {ws cs rest : List Char}
    (h : word value ws cs = .ok (v, rest)) : rest.length ≤ cs.length := by
  induction ws generalizing cs with
  | nil => simp only [word, Except.ok.injEq, Prod.mk.injEq] at h; simp [h.2]
  | cons w ws ih =>
    cases cs with
    | nil => simp [word] at h
    | cons c cs =>
      simp only [word] at h
      split at h
      · have := ih h
        simp only [List.length_cons]
        omega
      · simp at h

def fixedWord {α : Type} (value : α) (letters : List Char) (c : Char) (cs : List Char) :
    Except Halt (Piece α (c :: cs)) :=
  match h : word value letters cs with
  | .ok (v, rest) =>
    .ok ⟨v, rest, by have := length_le_of_word h; simp only [List.length_cons]; omega⟩
  | .error e => .error e

/-! ## Values -/

theorem length_le_of_skipSpace {cs rest : List Char} {c : Char} (h : skipSpace cs = c :: rest) :
    rest.length < cs.length := by
  have := length_skipSpace_le cs
  simp only [h, List.length_cons] at this
  omega

def colon (cs : List Char) : Except Halt (Piece Unit cs) :=
  match h : skipSpace cs with
  | ':' :: rest => .ok ⟨(), rest, length_le_of_skipSpace h⟩
  | [] => peeked .endInObject []
  | c :: rest => peeked .expectedColon (c :: rest)

/-- Entries with those of an earlier key put in its place. -/
def merge (es : List (String × Document)) : List (String × Document) :=
  es.foldl (fun before e => put before e.1 e.2) []

mutual

/-- A value, with room for so many nested containers. -/
def value (room : Nat) (cs : List Char) : Except Halt (Piece Document cs) :=
  match h : skipSpace cs with
  | [] => peeked .endInValue []
  | c :: rest =>
    have hr : rest.length < cs.length := length_le_of_skipSpace h
    if c = 'n' then (fixedWord .null ['u', 'l', 'l'] c rest).map fun p => p.widen hr
    else if c = 't' then (fixedWord (.bool true) ['r', 'u', 'e'] c rest).map fun p => p.widen hr
    else if c = 'f' then
      (fixedWord (.bool false) ['a', 'l', 's', 'e'] c rest).map fun p => p.widen hr
    else if c = '"' then do
      let body ← stringBody rest
      return ⟨.string (String.ofList body.value), body.rest, by have := body.shorter; omega⟩
    else if c = '[' then
      match room, hn : skipSpace rest with
      | 0, _ => peeked .tooDeep (c :: rest)
      | _ + 1, [] => peeked .endInList []
      | _ + 1, ']' :: after =>
        .ok ⟨.array [], after, by have := length_le_of_skipSpace hn; omega⟩
      | room + 1, _ => do
        let list ← items room rest
        return ⟨.array list.value, list.rest, by have := list.shorter; omega⟩
    else if c = '\x7b' then
      match room, hn : skipSpace rest with
      | 0, _ => peeked .tooDeep (c :: rest)
      | _ + 1, [] => peeked .endInObject []
      | _ + 1, '\x7d' :: after =>
        .ok ⟨.object [], after, by have := length_le_of_skipSpace hn; omega⟩
      | room + 1, _ => do
        let list ← entries room rest
        return ⟨.object (merge list.value), list.rest, by have := list.shorter; omega⟩
    else if c = '-' ∨ Digits.isDigit c then
      (numeral (c :: rest)).map fun p => p.widen hr
    else peeked .expectedValue (c :: rest)
termination_by (cs.length, 0)
decreasing_by all_goals exact Prod.Lex.left _ _ hr

def items (room : Nat) (cs : List Char) : Except Halt (Piece (List Document) cs) := do
  let item ← value room cs
  have hi := item.shorter
  match h : skipSpace item.rest with
  | [] => peeked .endInList []
  | c :: rest =>
    have hr : rest.length < cs.length := by have := length_le_of_skipSpace h; omega
    if c = ']' then return ⟨[item.value], rest, hr⟩
    else if c = ',' then
      if (skipSpace rest).head? = some ']' then peeked .trailingComma (skipSpace rest)
      else
        let more ← items room rest
        return ⟨item.value :: more.value, more.rest, by have := more.shorter; omega⟩
    else peeked .expectedListEnd (c :: rest)
termination_by (cs.length, 1)
decreasing_by
  · exact Prod.Lex.right _ (by decide)
  · exact Prod.Lex.left _ _ hr

def entries (room : Nat) (cs : List Char) : Except Halt (Piece (List (String × Document)) cs) :=
  match h : skipSpace cs with
  | [] => peeked .endInValue []
  | q :: rest =>
    if q = '"' then do
      let key ← stringBody rest
      let mark ← colon key.rest
      have hv : mark.rest.length < cs.length := by
        have := length_le_of_skipSpace h
        have := key.shorter
        have := mark.shorter
        omega
      let member ← value room mark.rest
      let entry := (String.ofList key.value, member.value)
      match hn : skipSpace member.rest with
      | [] => peeked .endInObject []
      | c :: after =>
        have hr : after.length < cs.length := by
          have := length_le_of_skipSpace hn
          have := member.shorter
          omega
        if c = '\x7d' then return ⟨[entry], after, hr⟩
        else if c = ',' then
          if (skipSpace after).head? = some '\x7d' then
            peeked .trailingComma (skipSpace after)
          else
            let more ← entries room after
            return ⟨entry :: more.value, more.rest, by have := more.shorter; omega⟩
        else peeked .expectedObjectEnd (c :: after)
    else peeked .keyNotString (q :: rest)
termination_by (cs.length, 0)
decreasing_by
  · exact Prod.Lex.left _ _ hv
  · exact Prod.Lex.left _ _ hr

end

/-- A piece and nothing behind it but blanks. -/
def toEnd {α : Type} {cs : List Char} (p : Piece α cs) : Except Halt α :=
  match skipSpace p.rest with
  | [] => .ok p.value
  | rest => peeked .trailingText rest

def errorAt (cs : List Char) : Halt → ReadError
  | (fault, rest) =>
    let used := cs.take (cs.length - rest.length)
    ⟨fault, Text.lineAfter used, Text.columnAfter used⟩

def readAll {α : Type} (reader : (cs : List Char) → Except Halt (Piece α cs)) (text : String) :
    Except ReadError α :=
  ((reader text.toList).bind toEnd).mapError (errorAt text.toList)

def readWithin (room : Nat) (text : String) : Except ReadError Document := readAll (value room) text

def read (text : String) : Except ReadError Document := readWithin depthLimit text

end Document

end Reshape
