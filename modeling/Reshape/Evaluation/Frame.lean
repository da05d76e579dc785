import Reshape.Evaluation.Attempt
import Reshape.Expression.Printer
import Reshape.Expression.Reader
import Reshape.Operation.Basic
import Reshape.Selector.Walk

/-!
# Evaluating expressions

A `Frame` holds what an expression can see: the node it stands at, the root
document and the registered operations. `Frame.evaluateRaw` evaluates one node
of an expression and lets its failure through; each argument of a call and each
whole expression is settled in the mode of the frame. A pipe is settled once.
-/

namespace Reshape

inductive Expression.Failure where
  | unreadable (error : Expression.ReadError)
  | selector (error : Selector.Error)
  | unknownFunction (callee : String)
  | function (callee text : String)
  | badStep (step : Expression)
  deriving DecidableEq, Repr

def Expression.Failure.message : Expression.Failure → String
  | unreadable error => error.message
  | selector error => error.message
  | unknownFunction callee => "Unknown function: " ++ callee
  | function callee text => "Function '" ++ callee ++ "' error: " ++ text
  | badStep step => "Pipe step '" ++ step.text ++ "' is not a function name or call"

structure Frame where
  mode : Mode
  registry : Registry
  root : Document
  current : Document

namespace Frame

open Expression

variable {m : Type → Type} [Settling m] [Failing Failure m]

def invoke (frame : Frame) (callee : String) (arguments : List Argument) : m Argument :=
  match frame.registry.find? callee with
  | none => fail (Failure.unknownFunction callee)
  | some op =>
    match op ⟨arguments, frame.root⟩ with
    | .ok d => pure (.json d)
    | .error text => fail (Failure.function callee text)

mutual

/-- Evaluates one node, its own failure unsettled. -/
def evaluateRaw (frame : Frame) : Expression → m Argument
  | .literal value => pure (.json value.toDocument)
  | .selector path =>
    match path.find frame.current with
    | .ok d => pure (.json d)
    | .error e => fail (Failure.selector e)
  | .name identifier => pure (frame.registry.argument identifier)
  | .call function arguments =>
    if frame.registry.contains function then do
      let values ← evaluateArguments frame arguments
      frame.invoke function values
    else fail (Failure.unknownFunction function)
  | .pipe [] => pure .absent
  | .pipe (first :: rest) => do
    let value ← evaluateRaw frame first
    evaluateSteps frame value rest

/-- Evaluates arguments in order, each settled. -/
def evaluateArguments (frame : Frame) : List Expression → m (List Argument)
  | [] => pure []
  | e :: rest => do
    let value ← settle frame.mode .absent (evaluateRaw frame e)
    let values ← evaluateArguments frame rest
    return value :: values

def evaluateSteps (frame : Frame) (value : Argument) : List Expression → m Argument
  | [] => pure value
  | .name identifier :: rest => do
    let next ← frame.invoke identifier [value]
    evaluateSteps frame next rest
  | .call function arguments :: rest =>
    if frame.registry.contains function then do
      let values ← evaluateArguments frame arguments
      let next ← frame.invoke function (value :: values)
      evaluateSteps frame next rest
    else fail (Failure.unknownFunction function)
  | step :: _ => fail (Failure.badStep step)

end

/-- Evaluates an expression. A function is no value, so naming one gives none. -/
def evaluate (frame : Frame) (e : Expression) : m (Option Document) := do
  match ← settle frame.mode .absent (evaluateRaw frame e) with
  | .json d => return some d
  | _ => return none

/-- Reads and evaluates an expression; a text that cannot be read is a failure
in both modes. -/
def evaluateText (frame : Frame) (text : String) : Attempt Failure (Option Document) :=
  match Expression.read text with
  | .ok e => frame.evaluate e
  | .error error => .fail (.unreadable error)

end Frame

end Reshape
