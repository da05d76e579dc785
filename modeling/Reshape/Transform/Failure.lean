import Reshape.Evaluation.Frame

/-!
# Failures of a run
-/

namespace Reshape

namespace Transform

inductive Failure where
  | selector (error : Selector.Error)
  | expression (failure : Expression.Failure)
  | unknownTemplate (name : String)
  | tooDeep (template : String) (depth limit : Nat)
  | cycle (template : String) (depth : Nat)
  deriving DecidableEq, Repr

def Failure.message : Failure → String
  | selector error => error.message
  | expression failure => failure.message
  | unknownTemplate name => "Unknown template: " ++ name
  | tooDeep template depth limit =>
    "Applying template \"" ++ template ++ "\" would reach depth " ++ decimalText depth
      ++ ", above the limit of " ++ decimalText limit
  | cycle template depth =>
    "Template \"" ++ template ++ "\" is applied to a node it is already applying to at depth "
      ++ decimalText depth

/-- Where a run can fail, an expression can. -/
instance {m : Type → Type} [Failing Failure m] : Failing Expression.Failure m where
  fail e := fail (Failure.expression e)

end Transform

end Reshape
