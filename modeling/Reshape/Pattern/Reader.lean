import Reshape.Pattern.CharSetReader

/-!
# Reading patterns

A pattern is read from left to right with a stack of the groups that are open.
A text that is no pattern is refused: an unclosed group, set or count, an
operator with nothing to repeat, a reference back, a look ahead or behind.
-/

namespace Reshape

namespace Pattern

structure Group where
  /-- The choices before the last bar. -/
  choices : List Pattern
  /-- The parts since, the last one first. -/
  parts : List Pattern
  /-- The flags to go back to behind the group. -/
  outer : Flags

namespace Group

def inOrder (parts : List Pattern) : Pattern :=
  parts.foldl (fun q p => match q with | .empty => p | q => .sequence p q) .empty

def bar (g : Group) : Group := { g with choices := inOrder g.parts :: g.choices, parts := [] }

def close (g : Group) : Pattern :=
  g.choices.foldl (fun q p => .choice p q) (inOrder g.parts)

end Group

/-- The reading state: flags, the groups around, the group read now, the names
of groups so far. -/
structure State where
  flags : Flags
  around : List Group
  group : Group
  names : List (List Char)

namespace State

def start : State := ⟨⟨false, false, false⟩, [], ⟨[], [], ⟨false, false, false⟩⟩, []⟩

def push (s : State) (p : Pattern) : State :=
  { s with group := { s.group with parts := p :: s.group.parts } }

/-- Opens a group, whose flags may differ from those outside. -/
def openGroup (s : State) (flags : Flags) : State :=
  { s with flags := flags, around := s.group :: s.around, group := ⟨[], [], s.flags⟩ }

def closeGroup? (s : State) : Option State :=
  match s.around with
  | [] => none
  | g :: around =>
    some { s with flags := s.group.outer, around := around,
                  group := { g with parts := s.group.close :: g.parts } }

def repeatLast? (s : State) (low : Nat) (high : Option Nat) : Option State :=
  match s.group.parts with
  | [] => none
  | p :: parts => some { s with group := { s.group with parts := .repeated p low high :: parts } }

end State

/-! ## Pieces -/

/-- Flags up to a mark, with the mark that ends them. -/
def flags? (seen : List Char) (negated empty : Bool) (f : Flags) :
    List Char → Option (Flags × Char × List Char)
  | [] => none
  | c :: cs =>
    if c = ')' ∨ c = ':' then if negated ∧ empty then none else some (f, c, cs)
    else if c = '-' then if negated then none else flags? seen true true f cs
    else if c ∈ seen then none
    else if c = 'i' then flags? (c :: seen) negated false { f with anyCase := !negated } cs
    else if c = 'm' then flags? (c :: seen) negated false { f with manyLines := !negated } cs
    else if c = 's' then flags? (c :: seen) negated false { f with dotAll := !negated } cs
    else if c = 'U' ∨ c = 'u' then flags? (c :: seen) negated false f cs
    else none

def groupName? (cs : List Char) : Option (List Char × List Char) :=
  let name := cs.takeWhile (· ≠ '>')
  let fits : Bool := match name with
    | c :: rest => (c == '_' || Text.isLetter c)
        && rest.all fun d => d == '_' || d == '.' || d == '[' || d == ']' || Text.isAlphanumeric d
    | [] => false
  match cs.drop name.length with
  | _ :: rest => if fits then some (name, rest) else none
  | [] => none

def openNamed? (s : State) (cs : List Char) : Option (State × List Char) := do
  let (name, rest) ← groupName? cs
  if name ∈ s.names then none
  else some ({ s.openGroup s.flags with names := name :: s.names }, rest)

def group? (s : State) : List Char → Option (State × List Char)
  | '?' :: 'P' :: '<' :: cs => openNamed? s cs
  | '?' :: '<' :: '=' :: _ => none
  | '?' :: '<' :: '!' :: _ => none
  | '?' :: '<' :: cs => openNamed? s cs
  | '?' :: ')' :: _ => none
  | '?' :: cs => do
    let (flags, mark, rest) ← flags? [] false false s.flags cs
    if mark = ':' then some (s.openGroup flags, rest) else some ({ s with flags := flags }, rest)
  | cs => some (s.openGroup s.flags, cs)

def count? (cs : List Char) : Option (Nat × List Char) :=
  let cs := Text.trimStart cs
  let ds := cs.takeWhile Digits.isDigit
  if ds.isEmpty ∨ Nat.pow 2 32 ≤ Digits.value ds then none
  else some (Digits.value ds, Text.trimStart (cs.drop ds.length))

def counts? (cs : List Char) : Option (Nat × Option Nat × List Char) := do
  let (low, rest) ← count? cs
  match rest with
  | '\x7d' :: rest => some (low, some low, rest)
  | ',' :: '\x7d' :: rest => some (low, none, rest)
  | ',' :: rest =>
    let (high, rest) ← count? rest
    match rest with
    | '\x7d' :: rest => if low ≤ high then some (low, some high, rest) else none
    | _ => none
  | _ => none

/-- A question mark behind a repetition only changes its greed. -/
def skipLazy : List Char → List Char
  | '?' :: cs => cs
  | cs => cs

def dot (f : Flags) : CharSet :=
  if f.dotAll then .all else .complement (.range '\n' '\n' false)

def piece? (s : State) (c : Char) (cs : List Char) : Option (State × List Char) :=
  match c with
  | '(' => group? s cs
  | ')' => s.closeGroup?.map fun t => (t, cs)
  | '|' => some ({ s with group := s.group.bar }, cs)
  | '*' => (s.repeatLast? 0 none).map fun t => (t, skipLazy cs)
  | '+' => (s.repeatLast? 1 none).map fun t => (t, skipLazy cs)
  | '?' => (s.repeatLast? 0 (some 1)).map fun t => (t, skipLazy cs)
  | '\x7b' => do
    let (low, high, rest) ← counts? cs
    let t ← s.repeatLast? low high
    some (t, skipLazy rest)
  | '[' => (CharSet.bracketed? s.flags.anyCase cs).map fun (set, rest) => (s.push (.one set), rest)
  | '.' => some (s.push (.one (dot s.flags)), cs)
  | '^' => some (s.push (.anchor (if s.flags.manyLines then .lineStart else .textStart)), cs)
  | '$' => some (s.push (.anchor (if s.flags.manyLines then .lineEnd else .textEnd)), cs)
  | '\\' => (CharSet.escape? cs).map fun (e, rest) =>
    match e with
    | .char c => (s.push (.one (.single s.flags.anyCase c)), rest)
    | .set set => (s.push (.one set), rest)
    | .anchor a => (s.push (.anchor a), rest)
  | c => some (s.push (.one (.single s.flags.anyCase c)), cs)

/-- Reads pieces to the end of the text; fuel is the length of the text. -/
def pieces? : Nat → State → List Char → Option State
  | _, s, [] => some s
  | 0, _, _ :: _ => none
  | fuel + 1, s, c :: cs => do
    let (t, rest) ← piece? s c cs
    pieces? fuel t rest

def read? (cs : List Char) : Option Pattern := do
  let s ← pieces? cs.length .start cs
  if s.around.isEmpty then some s.group.close else none

end Pattern

end Reshape
