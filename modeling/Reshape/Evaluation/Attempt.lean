/-!
# Attempts

Evaluations are written for every monad in which one can fail, `Failing`, and in
which the mode decides what becomes of a failure, `Settling`. They take place in
`Attempt`: a result or a failure, and the failures that were passed over on the
way to it, oldest first. A strict run stops at a failure, a permissive run notes
it and goes on without a value.
-/

namespace Reshape

inductive Mode where
  | strict
  | permissive
  deriving DecidableEq, Repr

namespace Mode

def name : Mode → String
  | strict => "strict"
  | permissive => "permissive"

def isStrict (m : Mode) : Bool := m == .strict

def ofName? (s : String) : Option Mode :=
  if s = "strict" then some .strict
  else if s = "permissive" then some .permissive
  else none

/-- A name that is no mode, with its ASCII letters small. -/
structure Unknown where
  name : String
  deriving DecidableEq, Repr

def Unknown.message (u : Unknown) : String :=
  "unknown mode '" ++ u.name ++ "', expected 'strict' or 'permissive'"

def parse (s : String) : Except Unknown Mode :=
  let small := String.ofList (s.toList.map Char.toLower)
  match ofName? small with
  | some m => .ok m
  | none => .error ⟨small⟩

end Mode

/-- A monad in which another value can take the place of a failure, as the mode says. -/
class Settling (m : Type → Type) extends Monad m where
  settle {α : Type} : Mode → α → m α → m α

class Failing (ε : Type) (m : Type → Type) where
  fail {α : Type} : ε → m α

export Settling (settle)
export Failing (fail)

/-- A result or a failure, and the failures passed over before it. -/
structure Attempt (ε α : Type) where
  result : Except ε α
  dropped : List ε

namespace Attempt

variable {ε α β : Type}

/-- The failures that were met: those passed over, then the one it ends with. -/
def failures (x : Attempt ε α) : List ε :=
  x.dropped ++ match x.result with
    | .ok _ => []
    | .error e => [e]

protected def pure (a : α) : Attempt ε α := ⟨.ok a, []⟩

protected def bind (x : Attempt ε α) (f : α → Attempt ε β) : Attempt ε β :=
  match x.result with
  | .ok a => ⟨(f a).result, x.dropped ++ (f a).dropped⟩
  | .error e => ⟨.error e, x.dropped⟩

protected def fail (e : ε) : Attempt ε α := ⟨.error e, []⟩

def ofExcept (x : Except ε α) : Attempt ε α := ⟨x, []⟩

/-- A permissive run notes a failure and takes the given value instead. -/
protected def settle (mode : Mode) (instead : α) (x : Attempt ε α) : Attempt ε α :=
  match mode, x.result with
  | .permissive, .error e => ⟨.ok instead, x.dropped ++ [e]⟩
  | _, _ => x

instance : Settling (Attempt ε) where
  pure := Attempt.pure
  bind := Attempt.bind
  settle := Attempt.settle

instance : Failing ε (Attempt ε) where
  fail := Attempt.fail

@[simp] theorem failures_ok (a : α) (dropped : List ε) :
    (⟨.ok a, dropped⟩ : Attempt ε α).failures = dropped :=
  List.append_nil _

theorem failures_append (x : Attempt ε α) (dropped : List ε) :
    (⟨x.result, dropped ++ x.dropped⟩ : Attempt ε α).failures = dropped ++ x.failures :=
  List.append_assoc ..

theorem failures_settle (mode : Mode) (a : α) (x : Attempt ε α) :
    (settle mode a x).failures = x.failures := by
  obtain ⟨result, dropped⟩ := x
  cases mode <;> cases result
  · rfl
  · rfl
  · exact List.append_nil _
  · rfl

end Attempt

end Reshape
