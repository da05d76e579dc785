import Reshape.Document.Basic

/-!
# Operations and their registry

An operation computes a document from the arguments of a call and the root
document, or fails with a message. An argument may also be absent, or be a
registered operation, which is handed over with its name. Whoever applies it hands
it the root. A `Registry` keeps operations under names, in the order of the names.
-/

namespace Reshape

inductive Argument where
  | absent
  | json (d : Document)
  | function (name : String) (apply : List Document → Document → Except String Document)

namespace Argument

/-- The document of an argument; null if it has none. -/
def document : Argument → Document
  | json d => d
  | _ => .null

end Argument

structure Call where
  arguments : List Argument
  root : Document

namespace Call

def document (c : Call) (i : Nat) : Document := (c.arguments[i]?.map Argument.document).getD .null

def documents (c : Call) : List Document := c.arguments.map Argument.document

def function? (c : Call) (i : Nat) :
    Option (String × (List Document → Document → Except String Document)) :=
  match c.arguments[i]? with
  | some (.function name apply) => some (name, apply)
  | _ => none

end Call

abbrev Operation := Call → Except String Document

/-- Operations under names, sorted by name. -/
structure Registry where
  entries : List (String × Operation)

namespace Registry

def empty : Registry := ⟨[]⟩

def find? (r : Registry) (name : String) : Option Operation :=
  (r.entries.find? fun e => e.1 == name).map Prod.snd

def contains (r : Registry) (name : String) : Bool := (r.find? name).isSome

/-- Puts an entry before the first greater name, in place of one of its name. -/
def place (name : String) (op : Operation) : List (String × Operation) → List (String × Operation)
  | [] => [(name, op)]
  | (n, o) :: rest =>
    if n = name then (name, op) :: rest
    else if name < n then (name, op) :: (n, o) :: rest
    else (n, o) :: place name op rest

def insert (r : Registry) (name : String) (op : Operation) : Registry :=
  ⟨place name op r.entries⟩

def erase (r : Registry) (name : String) : Registry := ⟨r.entries.filter fun e => e.1 != name⟩

def ofList (entries : List (String × Operation)) : Registry :=
  entries.foldl (fun r (name, op) => r.insert name op) empty

def names (r : Registry) : List String := r.entries.map Prod.fst

def size (r : Registry) : Nat := r.entries.length

def argument (r : Registry) (name : String) : Argument :=
  match r.find? name with
  | some op => .function name fun ds root => op ⟨ds.map .json, root⟩
  | none => .absent

/-! ## Description -/

/-- A character of a quoted name; what does not print is its code in braces. -/
def escaped (c : Char) : List Char :=
  match c with
  | '"' => ['\\', '"']
  | '\\' => ['\\', '\\']
  | '\t' => ['\\', 't']
  | '\n' => ['\\', 'n']
  | '\r' => ['\\', 'r']
  | '\x00' => ['\\', '0']
  | _ =>
    if c.toNat < 32 ∨ (127 ≤ c.toNat ∧ c.toNat < 160) then
      '\\' :: 'u' :: '\x7b' :: (Nat.toDigits 16 c.toNat ++ ['\x7d'])
    else [c]

def quoted (name : String) : String :=
  String.ofList ('"' :: (name.toList.flatMap escaped ++ ['"']))

def summary (r : Registry) : String :=
  "FunctionRegistry \x7b functions: [" ++ ", ".intercalate (r.names.map quoted) ++ "] \x7d"

end Registry

end Reshape
