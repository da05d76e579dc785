import Reshape.Document.Basic
import Reshape.Text.Search

/-!
# Document text

`Document.render` writes a document on one line without spaces, `Document.pretty`
with one entry a line and two spaces of indentation a level. Both keep the order
of entries, and escape in strings only the quote, the backslash and the control
characters below the space.
-/

namespace Reshape

namespace Document

def hexDigit (n : Nat) : Char :=
  if n % 16 < 10 then Char.ofNat (48 + n % 16) else Char.ofNat (87 + n % 16)

/-- A character inside a quoted string. -/
def escape (c : Char) : List Char :=
  if c = '"' then ['\\', '"']
  else if c = '\\' then ['\\', '\\']
  else if c = '\n' then ['\\', 'n']
  else if c = '\r' then ['\\', 'r']
  else if c = '\t' then ['\\', 't']
  else if c = '\x08' then ['\\', 'b']
  else if c = '\x0c' then ['\\', 'f']
  else if c.toNat < 32 then ['\\', 'u', '0', '0', hexDigit (c.toNat / 16), hexDigit c.toNat]
  else [c]

def quote (s : String) : List Char := '"' :: (s.toList.flatMap escape ++ ['"'])

mutual

def render : Document → List Char
  | .null => ['n', 'u', 'l', 'l']
  | .bool true => ['t', 'r', 'u', 'e']
  | .bool false => ['f', 'a', 'l', 's', 'e']
  | .number n => n.render
  | .string s => quote s
  | .array items => '[' :: (Text.join [','] (renderItems items) ++ [']'])
  | .object entries => '{' :: (Text.join [','] (renderEntries entries) ++ ['}'])

def renderItems : List Document → List (List Char)
  | [] => []
  | d :: rest => d.render :: renderItems rest

def renderEntries : List (String × Document) → List (List Char)
  | [] => []
  | (key, d) :: rest => (quote key ++ ':' :: d.render) :: renderEntries rest

end

def text (d : Document) : String := String.ofList d.render

def lineBreak (level : Nat) : List Char := '\n' :: List.replicate (2 * level) ' '

mutual

/-- The text with one entry a line, at a level of indentation. -/
def prettyAt (level : Nat) : Document → List Char
  | .array [] => ['[', ']']
  | .array (d :: rest) =>
    '[' :: (Text.join [','] (prettyItems (level + 1) (d :: rest)) ++ lineBreak level ++ [']'])
  | .object [] => ['{', '}']
  | .object (e :: rest) =>
    '{' :: (Text.join [','] (prettyEntries (level + 1) (e :: rest)) ++ lineBreak level ++ ['}'])
  | .null => render .null
  | .bool b => render (.bool b)
  | .number n => n.render
  | .string s => quote s

def prettyItems (level : Nat) : List Document → List (List Char)
  | [] => []
  | d :: rest => (lineBreak level ++ prettyAt level d) :: prettyItems level rest

def prettyEntries (level : Nat) : List (String × Document) → List (List Char)
  | [] => []
  | (key, d) :: rest =>
    (lineBreak level ++ quote key ++ ':' :: ' ' :: prettyAt level d) :: prettyEntries level rest

end

def pretty (d : Document) : String := String.ofList (prettyAt 0 d)

end Document

end Reshape
