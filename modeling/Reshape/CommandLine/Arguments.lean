/-!
# Arguments of the command line

`Command.ofArguments` reads the arguments of a call as a `Command`. Arguments are
read from left to right, so that the first one that asks for help or does not
fit settles what happens.
-/

namespace Reshape

namespace CommandLine

/-! ## Flags -/

inductive Takes where
  | nothing
  | text
  /-- The path of a file, which is not empty. -/
  | path
  deriving DecidableEq, Repr

structure Flag where
  name : String
  letter : Option Char
  takes : Takes
  deriving DecidableEq, Repr

/-- Why no command is run. -/
inductive Stop where
  | misuse
  | help (topic : Option String)
  | version
  deriving DecidableEq, Repr

abbrev Given := List (String × String)

/-- What an argument looks like; a value may be attached to a flag. -/
inductive Form where
  | plain
  | endOfFlags
  | long (name : String) (value : Option String)
  | short (letter : Char) (value : Option String)
  deriving DecidableEq, Repr

def attached? (cs : List Char) : Option String :=
  match cs.dropWhile (· != '=') with
  | [] => none
  | _ :: value => some (String.ofList value)

def attachedToLetter? : List Char → Option String
  | [] => none
  | '=' :: value => some (String.ofList value)
  | value => some (String.ofList value)

def Form.of (argument : String) : Form :=
  match argument.toList with
  | ['-', '-'] => .endOfFlags
  | '-' :: '-' :: cs => .long (String.ofList (cs.takeWhile (· != '='))) (attached? cs)
  | '-' :: letter :: cs => .short letter (attachedToLetter? cs)
  | _ => .plain

/-- Whether an argument may be the value of the flag before it. -/
def isValue (argument : String) : Bool := Form.of argument == .plain

def Form.asksHelp : Form → Bool
  | long name value => name == "help" && value.isNone
  | short letter _ => letter == 'h'
  | _ => false

def Form.asksVersion : Form → Bool
  | long name value => name == "version" && value.isNone
  | short letter _ => letter == 'V'
  | _ => false

def Form.flag? (flags : List Flag) : Form → Option Flag
  | long name _ => flags.find? fun f => f.name == name
  | short letter _ => flags.find? fun f => f.letter == some letter
  | _ => none

def Form.value? : Form → Option String
  | long _ value => value
  | short _ value => value
  | _ => none

def give (flag : Flag) (value : String) (given : Given) : Except Stop Given :=
  if given.any fun g => g.1 == flag.name then .error .misuse
  else if flag.takes = .path ∧ value = "" then .error .misuse
  else .ok (given ++ [(flag.name, value)])

def readFlags (topic : String) (flags : List Flag) (given : Given) :
    List String → Except Stop Given
  | [] => .ok given
  | argument :: rest =>
    let form := Form.of argument
    if form = .endOfFlags ∧ rest = [] then .ok given
    else if form.asksHelp then .error (.help (some topic))
    else match form.flag? flags with
      | none => .error .misuse
      | some flag =>
        match flag.takes, form.value?, rest with
        | .nothing, none, rest => do readFlags topic flags (← give flag "" given) rest
        | .nothing, some _, _ => .error .misuse
        | _, some value, rest => do readFlags topic flags (← give flag value given) rest
        | _, none, value :: rest =>
          if isValue value then do
            readFlags topic flags (← give flag value given) rest
          else .error .misuse
        | _, none, [] => .error .misuse

/-! ## Commands -/

inductive Command where
  /-- Runs a specification on a document. -/
  | transform (template input : String) (output : Option String) (strict : Bool)
    (start config : Option String)
  /-- Compiles a specification and counts its warnings. -/
  | validate (template : String)
  /-- Compiles a specification and prints the result. -/
  | compile (template : String) (output : Option String)
  /-- Prints all stages of a strict run. -/
  | debug (template input : String)
  deriving DecidableEq, Repr

namespace Command

def templateFlag : Flag := ⟨"template", some 't', .path⟩
def inputFlag : Flag := ⟨"input", some 'i', .path⟩
def outputFlag : Flag := ⟨"output", some 'o', .path⟩

def flags : List (String × List Flag) := [
  ("transform", [templateFlag, inputFlag, outputFlag, ⟨"strict", none, .nothing⟩,
    ⟨"start", none, .text⟩, ⟨"config", none, .path⟩]),
  ("validate", [templateFlag]),
  ("compile", [templateFlag, outputFlag]),
  ("debug", [templateFlag, inputFlag])]

def required (given : Given) (name : String) : Except Stop String :=
  match given.lookup name with
  | some value => .ok value
  | none => .error .misuse

def ofGiven (name : String) (given : Given) : Except Stop Command :=
  match name with
  | "transform" => do
    return .transform (← required given "template") (← required given "input")
      (given.lookup "output") (given.lookup "strict").isSome (given.lookup "start")
      (given.lookup "config")
  | "validate" => do return .validate (← required given "template")
  | "compile" => do return .compile (← required given "template") (given.lookup "output")
  | "debug" => do return .debug (← required given "template") (← required given "input")
  | _ => .error .misuse

/-- What a call for help asks about. -/
def helpTopic : List String → Stop
  | [] => .help none
  | [name] =>
    if name = "help" ∨ (flags.lookup name).isSome then .help (some name) else .misuse
  | _ => .misuse

def ofArguments : List String → Except Stop Command
  | [] => .error .misuse
  | name :: rest =>
    match flags.lookup name with
    | some known => (readFlags name known [] rest).bind (ofGiven name)
    | none =>
      if name = "help" then .error (helpTopic rest)
      else if (Form.of name).asksHelp then .error (.help none)
      else if (Form.of name).asksVersion then .error .version
      else .error .misuse

/-- The files that a command reads, in order. -/
def reads : Command → List String
  | transform template input _ _ _ config => config.toList ++ [template, input]
  | validate template => [template]
  | compile template _ => [template]
  | debug template input => [template, input]

end Command

end CommandLine

end Reshape
