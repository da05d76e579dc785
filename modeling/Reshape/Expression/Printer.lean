import Reshape.Document.Printer
import Reshape.Expression.Basic

/-!
# Expression text

`Expression.render` writes an expression so that it reads back: strings stand in
single quotes, with the backslash and the quote escaped.
-/

namespace Reshape

/-- A character inside single quotes. -/
def Literal.escape (c : Char) : List Char :=
  if c = '\\' then ['\\', '\\'] else if c = '\'' then ['\\', '\''] else [c]

def Literal.render : Literal → List Char
  | string s => '\'' :: (s.toList.flatMap Literal.escape ++ ['\''])
  | other => other.toDocument.render

namespace Expression

mutual

def render : Expression → List Char
  | literal value => value.render
  | selector path => path.source.toList
  | name identifier => identifier.toList
  | call function arguments =>
    function.toList ++ '(' :: (Text.join [',', ' '] (renderAll arguments) ++ [')'])
  | pipe steps => Text.join [' ', '|', ' '] (renderAll steps)

def renderAll : List Expression → List (List Char)
  | [] => []
  | e :: rest => e.render :: renderAll rest

end

def text (e : Expression) : String := String.ofList e.render

end Expression

end Reshape
