import Reshape.Document.Position
import Reshape.Text.Blank
import Reshape.Text.Name
import Reshape.Text.Place

/-!
# Selectors

A selector is a path into a document: `$`, then steps to a property, to an item
of an array, or `[*]`, which stays on an array. It keeps the text it was written
as. `Selector.Error` holds what can go wrong in reading and in following one.
-/

namespace Reshape

inductive Step where
  | property (name : String)
  | index (n : Nat)
  | every
  deriving DecidableEq, Repr

namespace Step

def render : Step → List Char
  | property name => '.' :: name.toList
  | index n => '[' :: (Digits.ofNat n ++ [']'])
  | every => ['[', '*', ']']

def text (s : Step) : String := String.ofList s.render

def expects : Step → String
  | property _ => "an object"
  | index _ => "an array"
  | every => "an array"

def branch? : Step → Option Branch
  | property name => some (.member name)
  | index n => some (.item n)
  | every => none

end Step

/-- A path into a document, with its text without the blanks around it. -/
structure Selector where
  source : String
  steps : List Step
  deriving DecidableEq, Repr

namespace Selector

def identity : Selector := ⟨"$", []⟩

def isIdentity (s : Selector) : Bool := s.steps.isEmpty

def renderSteps (steps : List Step) : List Char := '$' :: steps.flatMap Step.render

inductive Fault where
  | noRoot
  | nameAtEnd
  | nameBefore (c : Char)
  | openBracket
  | emptyBracket
  | bracketContent (content : List Char)
  | unexpected (c : Char)
  deriving DecidableEq, Repr

def Fault.message : Fault → String
  | noRoot => "selector must start with '$'"
  | nameAtEnd => "empty property name at end of selector"
  | nameBefore c => "empty property name before '" ++ String.ofList [c] ++ "'"
  | openBracket => "unterminated '['"
  | emptyBracket => "empty array index"
  | bracketContent content =>
    "unsupported bracket content [" ++ String.ofList content ++ "]; expected digits or '*'"
  | unexpected c => "unexpected character '" ++ String.ofList [c] ++ "'"

/-- What goes wrong in reading a selector or in following it. The steps are
those followed before the one that fails. -/
inductive Error where
  | unreadable (source : String) (position : Nat) (fault : Fault)
  | missingKey (source : String) (followed : List Step) (key : String)
  | outOfBounds (source : String) (followed : List Step) (index length : Nat)
  | mismatch (source : String) (followed : List Step) (step : Step) (found : Document.Kind)
  deriving DecidableEq, Repr

namespace Error

def failedAt (source : String) (followed : List Step) : String :=
  "Selector '" ++ source ++ "' failed at '" ++ String.ofList (renderSteps followed) ++ "': "

def message : Error → String
  | unreadable source position fault =>
    "Invalid selector '" ++ source ++ "' at position " ++ decimalText position ++ ": "
      ++ fault.message
  | missingKey source followed key => failedAt source followed ++ "no property '" ++ key ++ "'"
  | outOfBounds source followed index length =>
    failedAt source followed ++ "index " ++ decimalText index ++ " out of bounds (length "
      ++ decimalText length ++ ")"
  | mismatch source followed step found =>
    failedAt source followed ++ "'" ++ step.text ++ "' expects " ++ step.expects ++ ", found "
      ++ found.name

/-- The selector could not be read, rather than not be followed. -/
def isUnreadable : Error → Bool
  | unreadable .. => true
  | _ => false

end Error

end Selector

end Reshape
