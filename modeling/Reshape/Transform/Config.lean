import Reshape.Document.Printer
import Reshape.Document.Skip
import Reshape.Evaluation.Attempt

/-!
# Configurations

A `Config` holds what runs do unless they are told otherwise. Its written form
is an object with the keys `mode` and `maxDepth`, or an array of the two values
in this order; each of them may be missing. It is read straight from its text: a key
that is known must not come twice, and the values of other keys are passed over.
-/

namespace Reshape

structure Config where
  mode : Mode
  limit : Option Nat
  deriving DecidableEq, Repr

namespace Config

open Document (Halt Piece andThen emptyOr peeked skipSpace length_le_of_skipSpace)

def standard : Config := ⟨.permissive, none⟩

/-! ## Misfits -/

def describe : Number → String
  | .whole n => "integer `" ++ String.ofList (Digits.ofInt n) ++ "`"
  | .double d => "floating point `" ++ String.ofList ((⟨none, true, .up⟩ : Layout).text d) ++ "`"

/-- The fault of a value that is not of the kind that is expected. Of an array or an object no
more is seen than that it is one. -/
def misfit (expected : String) (cs : List Char) : Halt :=
  let found (words : String) : ReadFault :=
    .misfit ("invalid type: " ++ words ++ ", expected " ++ expected)
  match skipSpace cs with
  | '[' :: rest => (found "sequence", '[' :: rest)
  | '\x7b' :: rest => (found "map", '\x7b' :: rest)
  | cs =>
    match Document.value 0 cs with
    | .error halt => halt
    | .ok p =>
      let words := match p.value with
        | .bool b => "boolean `" ++ toString b ++ "`"
        | .number n => describe n
        | .string s => "string " ++ String.ofList (Document.quote s)
        | d => d.kind.name
      (found words, p.rest)

/-! ## Values -/

def readName (expected : String) (cs : List Char) : Except Halt (Piece String cs) :=
  match h : skipSpace cs with
  | '"' :: rest => (Document.stringBody rest).map fun p =>
    ⟨String.ofList p.value, p.rest, Nat.lt_trans p.shorter (length_le_of_skipSpace h)⟩
  | cs => .error (misfit expected cs)

def readModeName (cs : List Char) : Except Halt (Piece Mode cs) := do
  let p ← readName "variant identifier" cs
  match Mode.ofName? p.value with
  | some mode => return ⟨mode, p.rest, p.shorter⟩
  | none => .error (.misfit ("unknown variant `" ++ p.value
      ++ "`, expected `strict` or `permissive`"), p.rest)

def readNull (expected : String) (cs : List Char) : Except Halt (Piece Unit cs) :=
  match h : skipSpace cs with
  | 'n' :: rest =>
    (Document.fixedWord () ['u', 'l', 'l'] 'n' rest).map fun p => p.widen (length_le_of_skipSpace h)
  | cs => .error (misfit expected cs)

def readModeEnd (mode : Mode) (cs : List Char) : Except Halt (Piece Mode cs) :=
  match h : skipSpace cs with
  | [] => .error (.endInObject, [])
  | c :: rest =>
    if c = '\x7d' then .ok ⟨mode, rest, length_le_of_skipSpace h⟩
    else .error (.expectedValue, c :: rest)

/-- A mode is its name, or an object with null under its name. -/
def readMode (cs : List Char) : Except Halt (Piece Mode cs) :=
  match h : skipSpace cs with
  | [] => peeked .endInValue []
  | c :: rest =>
    have hr : rest.length < cs.length := length_le_of_skipSpace h
    if c = '"' then (readModeName (c :: rest)).map fun p => p.widen hr
    else if c = '\x7b' then
      andThen (.ok ⟨(), rest, hr⟩) fun brace => andThen (readModeName brace.rest) fun mode =>
        andThen (Document.colon mode.rest) fun mark =>
          andThen (readNull "unit" mark.rest) fun null => readModeEnd mode.value null.rest
    else peeked .expectedValue (c :: rest)

/-- A limit is a natural number of 64 bits; null is none. -/
def readLimit (cs : List Char) : Except Halt (Piece (Option Nat) cs) :=
  match h : skipSpace cs with
  | [] => peeked .endInValue []
  | c :: rest =>
    have hr : rest.length < cs.length := length_le_of_skipSpace h
    if c = 'n' then
      (Document.fixedWord none ['u', 'l', 'l'] c rest).map fun p => p.widen hr
    else
      match Document.value 0 (c :: rest) with
      | .ok ⟨.number (.whole n), after, ha⟩ =>
        if 0 ≤ n then .ok ⟨some n.toNat, after, Nat.lt_of_lt_of_le ha hr⟩
        else
          .error (.misfit ("invalid value: " ++ describe (.whole n) ++ ", expected usize"), after)
      | _ => .error (misfit "usize" (c :: rest))

/-! ## Objects and arrays -/

structure Fields where
  mode : Option Mode
  limit : Option (Option Nat)

def Fields.config (f : Fields) : Config :=
  ⟨f.mode.getD standard.mode, f.limit.getD standard.limit⟩

def readField (f : Fields) (key : String) (cs : List Char) : Except Halt (Piece Fields cs) :=
  if key = "mode" then field f.mode.isSome fun cs =>
    (readMode cs).map fun p => ⟨{ f with mode := some p.value }, p.rest, p.shorter⟩
  else if key = "maxDepth" then field f.limit.isSome fun cs =>
    (readLimit cs).map fun p => ⟨{ f with limit := some p.value }, p.rest, p.shorter⟩
  else field false fun cs => (Document.skip cs).map fun p => ⟨f, p.rest, p.shorter⟩
where
  field (known : Bool) (reader : (cs : List Char) → Except Halt (Piece Fields cs)) :
      Except Halt (Piece Fields cs) :=
    if known then
      let left := skipSpace cs
      .error (.misfit ("duplicate field `" ++ key ++ "`"),
        if left.head? = some '\x7d' then left.drop 1 else left)
    else andThen (Document.colon cs) fun mark => reader mark.rest

def readEntries (f : Fields) (cs : List Char) : Except Halt (Piece Fields cs) :=
  match h : skipSpace cs with
  | [] => peeked .endInValue []
  | q :: rest =>
    have hq : rest.length < cs.length := length_le_of_skipSpace h
    if q = '"' then
      (andThen (Document.stringBody rest) fun key =>
        andThen (readField f (String.ofList key.value) key.rest) fun p =>
          match hn : skipSpace p.rest with
          | [] => peeked .endInObject []
          | c :: after =>
            have hr : after.length < p.rest.length := length_le_of_skipSpace hn
            if c = '\x7d' then .ok ⟨p.value, after, hr⟩
            else if c = ',' then
              if (skipSpace after).head? = some '\x7d' then
                peeked .trailingComma (skipSpace after)
              else (readEntries p.value after).map fun q => q.widen (Nat.le_of_lt hr)
            else peeked .expectedObjectEnd (c :: after)).map fun p => p.widen (Nat.le_of_lt hq)
    else peeked .keyNotString (q :: rest)
termination_by cs.length
decreasing_by
  exact Nat.lt_trans hr (Nat.lt_trans p.shorter (Nat.lt_trans key.shorter hq))

/-- The closing bracket after as many values as there can be. -/
def readListEnd (c : Config) (cs : List Char) : Except Halt (Piece Config cs) :=
  match h : skipSpace cs with
  | [] => peeked .endInList []
  | ']' :: after => .ok ⟨c, after, length_le_of_skipSpace h⟩
  | ',' :: after =>
    if (skipSpace after).head? = some ']' then peeked .trailingComma (skipSpace after)
    else peeked .trailingText (skipSpace after)
  | rest => peeked .trailingText rest

def readItems (cs : List Char) : Except Halt (Piece Config cs) :=
  andThen (readMode cs) fun mode =>
    match h : skipSpace mode.rest with
    | [] => peeked .endInList []
    | c :: rest =>
      have hr : rest.length < mode.rest.length := length_le_of_skipSpace h
      if c = ']' then .ok ⟨⟨mode.value, standard.limit⟩, rest, hr⟩
      else if c = ',' then
        if (skipSpace rest).head? = some ']' then peeked .trailingComma (skipSpace rest)
        else
          (andThen (readLimit rest) fun limit =>
            readListEnd ⟨mode.value, limit.value⟩ limit.rest).map fun p =>
              p.widen (Nat.le_of_lt hr)
      else peeked .expectedListEnd (c :: rest)

def piece (cs : List Char) : Except Halt (Piece Config cs) :=
  match h : skipSpace cs with
  | [] => peeked .endInValue []
  | c :: rest =>
    have hr : rest.length < cs.length := length_le_of_skipSpace h
    if c = '\x7b' then
      (emptyOr standard '\x7d' .endInObject <| (readEntries ⟨none, none⟩ rest).map fun p =>
        ⟨p.value.config, p.rest, p.shorter⟩).map fun p => p.widen (Nat.le_of_lt hr)
    else if c = '[' then
      (emptyOr standard ']' .endInList (readItems rest)).map fun p => p.widen (Nat.le_of_lt hr)
    else .error (misfit "struct TransformerConfig" (c :: rest))

def read (text : String) : Except ReadError Config := Document.readAll piece text

/-- The written form; a limit that is not set is left out. -/
def toDocument (c : Config) : Document :=
  .object (("mode", .string c.mode.name)
    :: (c.limit.map fun limit => ("maxDepth", Document.ofNat limit)).toList)

end Config

end Reshape
