import Reshape.Selector.Basic

/-!
# Expressions

An expression is a literal, a selector, a name, a call of a named function or a
pipe of steps. `Expression.toDocument` describes one as a document.
-/

namespace Reshape

/-- A value that an expression can spell out. -/
inductive Literal where
  | null
  | bool (value : Bool)
  | number (value : Number)
  | string (value : String)
  deriving DecidableEq, Repr

def Literal.toDocument : Literal → Document
  | null => .null
  | bool b => .bool b
  | number n => .number n
  | string s => .string s

inductive Expression where
  | literal (value : Literal)
  | selector (path : Selector)
  | name (identifier : String)
  | call (function : String) (arguments : List Expression)
  /-- Each later step takes the value before it as its first argument. -/
  | pipe (steps : List Expression)
  deriving Repr

namespace Expression

/-! ## Description -/

def tagged (tag : String) (value : Document) : Document :=
  .object [("type", .string tag), ("value", value)]

mutual

def toDocument : Expression → Document
  | literal value => tagged "literal" value.toDocument
  | selector path => tagged "selector" (.string path.source)
  | name identifier => tagged "identifier" (.string identifier)
  | call function arguments =>
    tagged "call" (.object [("name", .string function), ("args", .array (toDocuments arguments))])
  | pipe steps => tagged "pipe" (.array (toDocuments steps))

def toDocuments : List Expression → List Document
  | [] => []
  | e :: rest => e.toDocument :: toDocuments rest

end

/-! ## Decidable equality -/

mutual

def decideEq : (a b : Expression) → Decidable (a = b)
  | literal a, literal b =>
    if h : a = b then isTrue (h ▸ rfl) else isFalse fun e => h (Expression.literal.inj e)
  | selector a, selector b =>
    if h : a = b then isTrue (h ▸ rfl) else isFalse fun e => h (Expression.selector.inj e)
  | name a, name b =>
    if h : a = b then isTrue (h ▸ rfl) else isFalse fun e => h (Expression.name.inj e)
  | call f as, call g bs =>
    match decEq f g, decideAllEq as bs with
    | isTrue h, isTrue t => isTrue (h ▸ t ▸ rfl)
    | isFalse h, _ => isFalse fun e => h (Expression.call.inj e).1
    | _, isFalse t => isFalse fun e => t (Expression.call.inj e).2
  | pipe as, pipe bs =>
    match decideAllEq as bs with
    | isTrue h => isTrue (h ▸ rfl)
    | isFalse h => isFalse fun e => h (Expression.pipe.inj e)
  | literal _, selector _ | literal _, name _ | literal _, call .. | literal _, pipe _
  | selector _, literal _ | selector _, name _ | selector _, call .. | selector _, pipe _
  | name _, literal _ | name _, selector _ | name _, call .. | name _, pipe _
  | call .., literal _ | call .., selector _ | call .., name _ | call .., pipe _
  | pipe _, literal _ | pipe _, selector _ | pipe _, name _ | pipe _, call .. => isFalse nofun

def decideAllEq : (as bs : List Expression) → Decidable (as = bs)
  | [], [] => isTrue rfl
  | [], _ :: _ | _ :: _, [] => isFalse nofun
  | a :: as, b :: bs =>
    match decideEq a b, decideAllEq as bs with
    | isTrue h, isTrue t => isTrue (h ▸ t ▸ rfl)
    | isFalse h, _ => isFalse fun e => h (List.cons.inj e).1
    | _, isFalse t => isFalse fun e => t (List.cons.inj e).2

end

instance : DecidableEq Expression := decideEq

end Expression

end Reshape
