import Reshape.Calendar.Stamp
import Reshape.CommandLine.Help
import Reshape.CommandLine.Outcome
import Std.Time.Format

/-!
# The command line program

Reads the files that a command names, asks for the outcome and carries it out.
-/

namespace Reshape

namespace CommandLine

/-- The system's account of an error, with its number where it has one. -/
def systemAccount : IO.Error → String
  | .noFileOrDirectory _ code _ => "No such file or directory (os error " ++ toString code ++ ")"
  | .permissionDenied _ code _ => "Permission denied (os error " ++ toString code ++ ")"
  | .inappropriateType _ code details => details ++ " (os error " ++ toString code ++ ")"
  | e => toString e

def readFile (path : String) : IO (Except String String) := do
  try return .ok (← IO.FS.readFile path)
  catch e => return .error (systemAccount e)

def presentStamp : IO String := do
  return Moment.stamp (← Std.Time.Timestamp.now).toMillisecondsSinceUnixEpoch.val

def finish (o : Outcome) : IO UInt32 := do
  IO.print o.printed
  IO.eprint o.complaint
  return o.status.toUInt32

def carryOut (o : Outcome) : IO UInt32 := do
  match o.writes with
  | none => finish o
  | some (path, text) =>
    let failure ← try IO.FS.writeFile path text; pure none
      catch e => pure (some (systemAccount e))
    match failure with
    | none => finish o
    | some account => finish (.fails (.unwritten account))

def runCommand (c : Command) : IO UInt32 := do
  let texts ← c.reads.mapM fun path => do return (path, ← readFile path)
  let files (path : String) := (texts.lookup path).getD (.error "")
  carryOut (c.outcome files (← presentStamp))

end CommandLine

end Reshape

open Reshape CommandLine in
/-- Runs the command that the arguments spell out, or says why there is none. -/
def main (arguments : List String) : IO UInt32 := do
  match Command.ofArguments arguments with
  | .ok c => runCommand c
  | .error (.help topic) => finish (.prints (helpText topic))
  | .error .version => finish (.prints (Outcome.line (name ++ " " ++ version)))
  | .error .misuse => finish ⟨2, "", helpText none, none⟩
