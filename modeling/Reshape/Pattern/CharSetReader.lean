import Reshape.Pattern.Basic
import Reshape.Decimal.Digits

/-!
# Reading sets of characters

Escapes behind a backslash, and sets in brackets: characters, ranges, escapes,
named ASCII classes, nested sets, and the operators `&&`, `--` and `~~`.
-/

namespace Reshape

structure Pattern.Flags where
  anyCase : Bool
  manyLines : Bool
  dotAll : Bool
  deriving DecidableEq, Repr

namespace CharSet

def single (anyCase : Bool) (c : Char) : CharSet := range c c anyCase

def ofRanges (anyCase : Bool) (rs : List (Char × Char)) : CharSet :=
  rs.foldl (fun s (a, b) => s.union (range a b anyCase)) none

inductive Escape where
  | char (c : Char)
  | set (s : CharSet)
  | anchor (a : Anchor)

def letterEscape? : Char → Option Escape
  | 'd' => some (.set .decimal)
  | 'D' => some (.set (.complement .decimal))
  | 's' => some (.set .blank)
  | 'S' => some (.set (.complement .blank))
  | 'w' => some (.set .wordChar)
  | 'W' => some (.set (.complement .wordChar))
  | 'a' => some (.char '\x07')
  | 'f' => some (.char '\x0c')
  | 't' => some (.char '\t')
  | 'n' => some (.char '\n')
  | 'r' => some (.char '\r')
  | 'v' => some (.char '\x0b')
  | 'A' => some (.anchor .textStart)
  | 'z' => some (.anchor .textEnd)
  | 'b' => some (.anchor .wordEdge)
  | 'B' => some (.anchor .noWordEdge)
  | '<' => some (.anchor .wordStart)
  | '>' => some (.anchor .wordEnd)
  | _ => Option.none

def hexDigit? (c : Char) : Option Nat :=
  if Digits.isDigit c then some (c.toNat - 48)
  else if 'a' ≤ c ∧ c ≤ 'f' then some (c.toNat - 87)
  else if 'A' ≤ c ∧ c ≤ 'F' then some (c.toNat - 55)
  else Option.none

def hexChar? (ds : List Char) : Option Char := do
  let n ← ds.foldlM (fun n c => (hexDigit? c).map fun d => 16 * n + d) 0
  if !ds.isEmpty ∧ n.isValidChar then some (Char.ofNat n) else Option.none

def codeEscape? (width : Nat) (cs : List Char) : Option (Char × List Char) :=
  match cs with
  | '\x7b' :: rest =>
    match rest.dropWhile (· ≠ '\x7d') with
    | _ :: after => (hexChar? (rest.takeWhile (· ≠ '\x7d'))).map fun c => (c, after)
    | [] => Option.none
  | cs => if cs.length < width then Option.none
    else (hexChar? (cs.take width)).map fun c => (c, cs.drop width)

/-- The escape at the start of a text, behind the backslash. -/
def escape? : List Char → Option (Escape × List Char)
  | [] => Option.none
  | c :: cs =>
    if c = 'x' then (codeEscape? 2 cs).map fun (c, rest) => (.char c, rest)
    else if c = 'u' then (codeEscape? 4 cs).map fun (c, rest) => (.char c, rest)
    else if c = 'U' then (codeEscape? 8 cs).map fun (c, rest) => (.char c, rest)
    else match letterEscape? c with
      | some e => some (e, cs)
      | Option.none =>
        if c.toNat < 128 ∧ !c.isAlphanum then some (.char c, cs) else Option.none

def named? (name : String) : Option (List (Char × Char)) :=
  match name with
  | "alnum" => some [('0', '9'), ('A', 'Z'), ('a', 'z')]
  | "alpha" => some [('A', 'Z'), ('a', 'z')]
  | "ascii" => some [('\x00', '\x7f')]
  | "blank" => some [('\t', '\t'), (' ', ' ')]
  | "cntrl" => some [('\x00', '\x1f'), ('\x7f', '\x7f')]
  | "digit" => some [('0', '9')]
  | "graph" => some [('!', '~')]
  | "lower" => some [('a', 'z')]
  | "print" => some [(' ', '~')]
  | "punct" => some [('!', '/'), (':', '@'), ('[', '\x60'), ('\x7b', '~')]
  | "space" => some [('\t', '\r'), (' ', ' ')]
  | "upper" => some [('A', 'Z')]
  | "word" => some [('0', '9'), ('A', 'Z'), ('a', 'z'), ('_', '_')]
  | "xdigit" => some [('0', '9'), ('A', 'F'), ('a', 'f')]
  | _ => Option.none

/-- A named class at the start of a text, behind `[:`. -/
def namedSet? (anyCase : Bool) (cs : List Char) : Option (CharSet × List Char) :=
  let (negated, cs) := match cs with
    | '^' :: rest => (true, rest)
    | cs => (false, cs)
  match cs.dropWhile Char.isAlpha with
  | ':' :: ']' :: rest =>
    (named? (String.ofList (cs.takeWhile Char.isAlpha))).map fun rs =>
      let s := ofRanges anyCase rs
      (if negated then s.complement else s, rest)
  | _ => Option.none

inductive Joint where
  | both
  | without
  | either
  deriving DecidableEq, Repr

def Joint.apply : Joint → CharSet → CharSet → CharSet
  | both, s, t => s.intersection t
  | without, s, t => s.intersection t.complement
  | either, s, t => (s.union t).intersection (s.intersection t).complement

/-- A set in brackets while it is read: what stands before the last operator,
and the union since. -/
structure Open where
  negated : Bool
  before : Option (CharSet × Joint)
  current : CharSet

namespace Open

def start (negated : Bool) : Open := ⟨negated, Option.none, CharSet.none⟩

def add (o : Open) (s : CharSet) : Open := { o with current := o.current.union s }

def joined (o : Open) : CharSet :=
  match o.before with
  | some (s, joint) => joint.apply s o.current
  | Option.none => o.current

def joint (o : Open) (j : Joint) : Open :=
  { o with before := some (o.joined, j), current := CharSet.none }

def close (o : Open) : CharSet := if o.negated then o.joined.complement else o.joined

end Open

/-- A caret, and the brackets and hyphens that stand for themselves at the start. -/
def openSet (anyCase : Bool) (cs : List Char) : Open × List Char :=
  let (negated, cs) := match cs with
    | '^' :: rest => (true, rest)
    | cs => (false, cs)
  let hyphens := cs.takeWhile (· = '-')
  let o := hyphens.foldl (fun o c => o.add (single anyCase c)) (start negated)
  match cs.drop hyphens.length with
  | ']' :: rest => if hyphens.isEmpty then (o.add (single anyCase ']'), rest) else (o, ']' :: rest)
  | rest => (o, rest)
where
  start := Open.start

def member? : List Char → Option (Escape × List Char)
  | [] => Option.none
  | '\\' :: cs => escape? cs
  | c :: cs => some (.char c, cs)

/-- Reads inside brackets until the outermost one closes. The stack holds the
sets that are open around the current one; fuel is the length of the text. -/
def insideBrackets (anyCase : Bool) : Nat → Open → List Open → List Char →
    Option (CharSet × List Char)
  | 0, _, _, _ => Option.none
  | fuel + 1, o, stack, cs =>
    match cs with
    | [] => Option.none
    | ']' :: rest =>
      match stack with
      | [] => some (o.close, rest)
      | outer :: stack => insideBrackets anyCase fuel (outer.add o.close) stack rest
    | '[' :: ':' :: rest =>
      match namedSet? anyCase rest with
      | some (s, rest) => insideBrackets anyCase fuel (o.add s) stack rest
      | Option.none =>
        let (inner, rest) := openSet anyCase (':' :: rest)
        insideBrackets anyCase fuel inner (o :: stack) rest
    | '[' :: rest =>
      let (inner, rest) := openSet anyCase rest
      insideBrackets anyCase fuel inner (o :: stack) rest
    | '&' :: '&' :: rest => insideBrackets anyCase fuel (o.joint .both) stack rest
    | '-' :: '-' :: rest => insideBrackets anyCase fuel (o.joint .without) stack rest
    | '~' :: '~' :: rest => insideBrackets anyCase fuel (o.joint .either) stack rest
    | cs =>
      match member? cs with
      | some (.set s, rest) => insideBrackets anyCase fuel (o.add s) stack rest
      | some (.char low, '-' :: rest) =>
        match rest with
        | ']' :: _ => insideBrackets anyCase fuel (o.add (single anyCase low)) stack ('-' :: rest)
        | '-' :: _ => insideBrackets anyCase fuel (o.add (single anyCase low)) stack ('-' :: rest)
        | _ =>
          match member? rest with
          | some (.char high, rest) =>
            if low ≤ high then
              insideBrackets anyCase fuel (o.add (range low high anyCase)) stack rest
            else Option.none
          | _ => Option.none
      | some (.char c, rest) => insideBrackets anyCase fuel (o.add (single anyCase c)) stack rest
      | _ => Option.none

def bracketed? (anyCase : Bool) (cs : List Char) : Option (CharSet × List Char) :=
  let (o, rest) := openSet anyCase cs
  insideBrackets anyCase (rest.length + 1) o [] rest

end CharSet

end Reshape
