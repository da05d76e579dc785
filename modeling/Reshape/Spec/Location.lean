import Reshape.Document.Position

/-!
# Locations in a specification

Messages about a specification name the template, with its name if it has one,
or the root, and the path from there.
-/

namespace Reshape

structure Location where
  /-- Index and name of the template; none for the root. -/
  template : Option (Nat × Option String)
  path : Position
  deriving DecidableEq, Repr

namespace Location

def root : Location := ⟨none, []⟩

def ofTemplate (index : Nat) (name : Option String) : Location := ⟨some (index, name), []⟩

def member (l : Location) (key : String) : Location := { l with path := l.path ++ [.member key] }

def item (l : Location) (index : Nat) : Location := { l with path := l.path ++ [.item index] }

def text (l : Location) : String :=
  Position.textFrom (match l.template with
    | none => "root"
    | some (index, none) => "templates[" ++ decimalText index ++ "]"
    | some (index, some name) => "templates[" ++ decimalText index ++ "] \"" ++ name ++ "\"")
    l.path

end Location

end Reshape
