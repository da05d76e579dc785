import Reshape.CommandLine.Arguments
import Reshape.Spec.Compile
import Reshape.Transform.Transformer

/-!
# Outcomes of commands

A command reads files and comes to an `Outcome`: an exit status, what is printed
and, if it succeeds and is told to, a file to write. `Command.outcome` sees files
as a function of their paths; nothing else is touched.
-/

namespace Reshape

namespace CommandLine

/-- The text of a file, or the system's account of why it cannot be read. -/
abbrev Files := String → Except String String

inductive Failure where
  | configUnread (path account : String)
  | config (error : ReadError)
  | unread (path account : String)
  | notJson (error : ReadError)
  | compile (error : Spec.Error)
  | transform (failure : Transform.Failure)
  | unwritten (account : String)
  deriving DecidableEq, Repr

def unreadText (path account : String) : String :=
  "failed to read '" ++ path ++ "': " ++ account

def transformText (failure : Transform.Failure) : String :=
  "Transform failed: " ++ failure.message

def Failure.message : Failure → String
  | configUnread path account => "Configuration error: " ++ unreadText path account
  | config error => "Configuration error: " ++ error.message
  | unread path account => "I/O error: " ++ unreadText path account
  | notJson error => "JSON error: " ++ error.message
  | compile error => "Compilation failed: " ++ error.message
  | transform failure => transformText failure
  | unwritten account => "I/O error: " ++ account

structure Outcome where
  status : Nat
  printed : String
  complaint : String
  /-- The path and the text of the file to write. -/
  writes : Option (String × String)
  deriving DecidableEq, Repr

namespace Outcome

def line (s : String) : String := s ++ "\n"

def prints (text : String) : Outcome := ⟨0, text, "", none⟩

def failsAfter (printed : String) (failure : Failure) : Outcome :=
  ⟨1, printed, line ("error: " ++ failure.message), none⟩

def fails (failure : Failure) : Outcome := failsAfter "" failure

/-- A document goes to a file, if there is one, or is printed. -/
def emits (path : Option String) (d : Document) : Outcome :=
  match path with
  | some path => ⟨0, "", "", some (path, line d.pretty)⟩
  | none => prints (line d.pretty)

def ofExcept {α : Type} (f : α → Outcome) : Except Failure α → Outcome
  | .ok a => f a
  | .error failure => fails failure

end Outcome

/-! ## Reading files -/

def readConfig (files : Files) (path : String) : Except Failure Config := do
  let text ← (files path).mapError (.configUnread path)
  (Config.read text).mapError .config

def readDocument (files : Files) (path : String) : Except Failure Document := do
  let text ← (files path).mapError (.unread path)
  (Document.read text).mapError .notJson

def readSpec (files : Files) (path : String) : Except Failure Spec := do
  let d ← readDocument files path
  (Spec.compile d).mapError .compile

/-! ## Commands -/

/-- The configuration of a run, made strict on demand. -/
def configuration (files : Files) (path : Option String) (strict : Bool) :
    Except Failure Config := do
  let config ← path.elim (.ok .standard) (readConfig files)
  return if strict then { config with mode := .strict } else config

/-- Reads the configuration, the specification and the input, in this order, and
runs the specification. -/
def transformed (files : Files) (present template input : String) (strict : Bool)
    (start config : Option String) : Except Failure Document := do
  let config ← configuration files config strict
  let spec ← readSpec files template
  let d ← readDocument files input
  ((Transformer.mk (.standard present) config).run spec ⟨none, start⟩ d).result.mapError
    .transform

def validation (spec : Spec) : String :=
  Outcome.line ("OK: " ++ decimalText spec.templates.length ++ " template(s), "
      ++ decimalText spec.warnings.length ++ " warning(s)")
    ++ String.join (spec.warnings.map fun w => Outcome.line ("warning: " ++ w.message))

def titled (heading : String) (d : Document) : String :=
  Outcome.line ("=== " ++ heading ++ " ===") ++ Outcome.line d.pretty

def strictRun (present : String) (spec : Spec) (d : Document) : String :=
  match ((Transformer.standard present).run spec ⟨some .strict, none⟩ d).result with
  | .ok result => titled "result" result
  | .error failure => Outcome.line "=== failure ===" ++ Outcome.line failure.message

/-- All stages of a strict run; the documents are shown even if the first one
does not compile. -/
def stages (present : String) (template input : Document) : Outcome :=
  let shown := titled "template" template ++ titled "input" input
  match Spec.compile template with
  | .error error => .failsAfter shown (.compile error)
  | .ok spec => .prints (shown ++ titled "compiled" (spec.toDocument present)
      ++ strictRun present spec input)

def Command.outcome (files : Files) (present : String) : Command → Outcome
  | transform template input output strict start config =>
    .ofExcept (.emits output) (transformed files present template input strict start config)
  | validate template => .ofExcept (fun spec => .prints (validation spec)) (readSpec files template)
  | compile template output =>
    .ofExcept (fun spec => .emits output (spec.toDocument present)) (readSpec files template)
  | debug template input =>
    .ofExcept (fun (t, d) => stages present t d)
      (do return (← readDocument files template, ← readDocument files input))

end CommandLine

end Reshape
