import Reshape.Uri.Host

/-!
# Absolute URIs

`Uri.isAbsolute` accepts the texts that name a resource without a base: a scheme
and what has to follow it. Only a missing scheme, a bad host and a bad port are
faults; any other character in a path, a query or a fragment can be escaped.
-/

namespace Reshape

namespace Uri

inductive SchemeKind where
  | web
  | file
  | other
  deriving DecidableEq, Repr

def SchemeKind.of (scheme : String) : SchemeKind :=
  if scheme = "file" then .file
  else if scheme ∈ ["http", "https", "ws", "wss", "ftp"] then .web
  else .other

def endsAuthority (kind : SchemeKind) (c : Char) : Bool :=
  c == '/' || c == '?' || c == '#' || (c == '\\' && kind != .other)

/-- The text behind the last of a character, if there is one, and that before. -/
def cutAtLast (mark : Char) (cs : List Char) : Option (List Char × List Char) :=
  if mark ∈ cs then
    let back := cs.reverse
    some (((back.dropWhile (· ≠ mark)).drop 1).reverse, (back.takeWhile (· ≠ mark)).reverse)
  else none

/-- The host at the start of a text, up to a colon outside brackets. -/
def takeHost : (inBrackets : Bool) → List Char → List Char × List Char
  | _, [] => ([], [])
  | inBrackets, c :: cs =>
    if c = ':' ∧ !inBrackets then ([], c :: cs)
    else
      let (host, rest) := takeHost (c == '[' || (inBrackets && c != ']')) cs
      (c :: host, rest)

def isPort (cs : List Char) : Bool := cs.all Digits.isDigit && Digits.value cs < Nat.pow 2 16

def isAuthority (kind : SchemeKind) (cs : List Char) (more : Bool) : Bool :=
  let (user, place) := match cutAtLast '@' cs with
    | some (user, place) => (some user, place)
    | none => (none, cs)
  let (host, port) := takeHost false place
  let named := user.any fun u => u.any (· ≠ ':')
  let nothingBehindUser : Bool := user == some [] && place.isEmpty && more
  if nothingBehindUser then false
  else if host.isEmpty then kind == .other && !named && port.isEmpty
  else
    let hostFits := if kind = .other then isOpaqueHost host else isWebHost host
    hostFits && (port.isEmpty || isPort (port.drop 1))

def isDrive : List Char → Bool
  | [c, d] => c.isAlpha && (d == ':' || d == '|')
  | _ => false

def isSlash (c : Char) : Bool := c == '/' || c == '\\'

def fits (kind : SchemeKind) (cs : List Char) : Bool :=
  let authority (cs : List Char) : Bool :=
    isAuthority kind (cs.takeWhile fun c => !endsAuthority kind c)
      (cs.any fun c => endsAuthority kind c)
  match kind with
  | .web => authority (cs.dropWhile isSlash)
  | .file =>
    match cs with
    | a :: b :: rest =>
      if isSlash a && isSlash b then
        let host := rest.takeWhile fun c => !endsAuthority .file c
        host.isEmpty || isDrive host || isWebHost host
      else true
    | _ => true
  | .other =>
    match cs with
    | '/' :: '/' :: rest => authority rest
    | _ => true

/-- Without the controls and spaces at the ends, and without tabs and line
breaks inside. -/
def cleaned (cs : List Char) : List Char :=
  let isEdge (c : Char) : Bool := c.toNat ≤ 32
  let core := (cs.dropWhile isEdge).reverse.dropWhile isEdge |>.reverse
  core.filter fun c => c != '\t' && c != '\n' && c != '\r'

/-- A text that names a resource without a base. -/
def isAbsolute (cs : List Char) : Bool :=
  let cs := cleaned cs
  let scheme := cs.takeWhile fun c => c.isAlphanum || c == '+' || c == '-' || c == '.'
  match scheme, cs.drop scheme.length with
  | c :: _, ':' :: rest =>
    c.isAlpha && fits (.of (String.ofList (scheme.map Char.toLower))) rest
  | _, _ => false

end Uri

end Reshape
