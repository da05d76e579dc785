import Reshape.CommandLine.Arguments

/-!
# Help

What is printed instead of running a command: help, the version, or a line about
a call that cannot be understood.
-/

namespace Reshape

namespace CommandLine

def name : String := "jsonx"

def version : String := "0.1.0"

def summaries : List (String × String) := [
  ("transform", "Transform an input document with a template specification"),
  ("validate", "Check that a template specification compiles"),
  ("compile", "Print the compiled form of a template specification"),
  ("debug", "Print the template, the input, the compiled form and the strict-mode result"),
  ("help", "Print this message or the help of the given subcommand(s)")]

def Flag.purpose (flag : Flag) : String :=
  match flag.name with
  | "output" => "Write the result here instead of stdout"
  | "strict" => "Abort on the first failure instead of degrading to absent values"
  | "start" => "Apply this template to the whole input instead of `root`"
  | "config" => "JSON transformer configuration (`mode`, `maxDepth`)"
  | _ => ""

/-- Spaces behind a text up to a width. -/
def filled (width : Nat) (s : String) : String :=
  s ++ String.ofList (List.replicate (width - s.length) ' ')

/-- A list of terms and their meanings in two columns. -/
def columns (rows : List (String × String)) : String :=
  let width := (rows.map fun r => r.1.length).foldl Max.max 0
  String.join (rows.map fun r => "  " ++ filled width r.1 ++ "  " ++ r.2 ++ "\n")

def Flag.text (flag : Flag) : String :=
  let letter := match flag.letter with
    | some c => "-" ++ c.toString ++ ", "
    | none => "    "
  let value := if flag.takes = .nothing then ""
    else " <" ++ String.ofList (flag.name.toList.map Char.toUpper) ++ ">"
  letter ++ "--" ++ flag.name ++ value

def usage (topic : String) (flags : List Flag) : String :=
  let needed := flags.filter fun f => f.name == "template" || f.name == "input"
  let optional := if needed.length < flags.length then " [OPTIONS]" else ""
  name ++ " " ++ topic ++ optional
    ++ String.join (needed.map fun f =>
      " --" ++ f.name ++ " <" ++ String.ofList (f.name.toList.map Char.toUpper) ++ ">")

/-- The help about all commands, or about one. -/
def helpText (topic : Option String) : String :=
  let about (topic : String) : String := (summaries.lookup topic).getD ""
  match topic with
  | none => "Declarative JSON-to-JSON transforms\n\nUsage: " ++ name
      ++ " <COMMAND>\n\nCommands:\n" ++ columns summaries ++ "\nOptions:\n"
      ++ columns [("-h, --help", "Print help"), ("-V, --version", "Print version")]
  | some topic =>
    match Command.flags.lookup topic with
    | none => about topic ++ "\n\nUsage: " ++ name ++ " " ++ topic ++ " [COMMAND]...\n"
    | some flags => about topic ++ "\n\nUsage: " ++ usage topic flags ++ "\n\nOptions:\n"
      ++ columns (flags.map (fun f => (f.text, f.purpose)) ++ [("-h, --help", "Print help")])

end CommandLine

end Reshape
