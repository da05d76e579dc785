import Reshape.Calendar.Reader
import Reshape.Document.Equality
import Reshape.Document.Coercion
import Reshape.Double.Arithmetic
import Reshape.Schema.Violation
import Reshape.Uri.Basic

/-!
# Checking documents against schemas

`Schema.check` lists what a document breaks, rule by rule and depth first. A
node stops at a type that does not fit; all other rules are checked even if one
before them is broken. What patterns and formats mean is a parameter, the
`Schema.Vocabulary`.
-/

namespace Reshape

namespace Schema

/-! ## Rules about single values -/

def hasType (name : String) (v : Document) : Bool :=
  match name, v with
  | "null", .null => true
  | "boolean", .bool _ => true
  | "string", .string _ => true
  | "number", .number _ => true
  | "integer", .number (.whole _) => true
  | "integer", .number (.double d) => d.isWhole
  | "array", .array _ => true
  | "object", .object _ => true
  | _, _ => false

/-- A name, an at sign and a name with a dot inside, without blanks. -/
def isEmail (cs : List Char) : Bool :=
  let user := cs.takeWhile (· ≠ '@')
  let domain := (cs.dropWhile (· ≠ '@')).drop 1
  !user.isEmpty && !cs.any Text.isBlank && '@' ∉ domain && '.' ∈ (domain.drop 1).dropLast

def hasFormat? (name : String) (s : String) : Option Bool :=
  match name with
  | "date-time" => some (Moment.ofStamp? s.toList).isSome
  | "email" => some (isEmail s.toList)
  | "uri" => some (Uri.isAbsolute s.toList)
  | _ => none

structure Vocabulary where
  /-- Whether a text matches a pattern, or why the pattern means nothing. -/
  pattern : WrittenPattern → Except String (String → Bool)
  /-- Whether a text has a named format; none if the format is not known. -/
  format? : String → String → Option Bool
  /-- A format that is not known is no finding. -/
  anyFormat : Bool

namespace Vocabulary

/-- Patterns are found anywhere in a text, and three formats are known. How a pattern
that means nothing is explained is left to the reader of patterns. -/
def standard (explain : String → String) (anyFormat : Bool) : Vocabulary where
  pattern p := match p.pattern with
    | some q => .ok fun s => q.isFound s.toList
    | none => .error (explain p.source)
  format? := hasFormat?
  anyFormat := anyFormat

/-- A text matches a pattern; none matches one that means nothing. -/
def finds (w : Vocabulary) (p : WrittenPattern) (s : String) : Bool :=
  match w.pattern p with
  | .ok matching => matching s
  | .error _ => false

end Vocabulary

/-- How far a quotient may be from a whole number. -/
def multipleTolerance : Extended := (⟨false, 1, -9⟩ : Decimal).toExtended

def isMultiple (n step : Extended) : Bool :=
  let q := n / step
  step.same (.ofNat 0) || !(multipleTolerance.lt (q - q.rounded).abs)

def hasTwice : List String → Bool
  | [] => false
  | s :: ss => s ∈ ss || hasTwice ss

def reportIf (broken : Bool) (path : Position) (cause : Finding.Cause) : List Finding :=
  if broken then [⟨path, cause⟩] else []

def checkValue (w : Vocabulary) (path : Position) : Rule Schema → Document → List Finding
  | .type name, v => reportIf (!hasType name v) path (.wrongType name)
  | .typeAmong names, v => reportIf (!names.any fun t => hasType t v) path (.noneOfTypes names)
  | .enum options, v => reportIf (!options.any fun o => o.identical v) path (.notInEnum options)
  | .const value, v => reportIf (!value.identical v) path (.notConst value)
  | .minLength n, .string s => reportIf (s.toList.length < n) path (.tooShort n)
  | .maxLength n, .string s => reportIf (n < s.toList.length) path (.tooLong n)
  | .pattern p, .string s =>
    match w.pattern p with
    | .error explanation => [⟨path, .badPattern p.source explanation⟩]
    | .ok matching => reportIf (!matching s) path (.noMatch p.source)
  | .format name, .string s =>
    match w.format? name s with
    | some fits => reportIf (!fits) path (.wrongFormat name)
    | none => reportIf (!w.anyFormat) path (.unknownFormat name)
  | .minimum b, .number n => reportIf (n.toExtended.lt b.toExtended) path (.belowMinimum b)
  | .maximum b, .number n => reportIf (b.toExtended.lt n.toExtended) path (.aboveMaximum b)
  | .exclusiveMinimum b, .number n => reportIf (n.toExtended.le b.toExtended) path (.notAbove b)
  | .exclusiveMaximum b, .number n => reportIf (b.toExtended.le n.toExtended) path (.notBelow b)
  | .multipleOf b, .number n =>
    reportIf (!isMultiple n.toExtended b.toExtended) path (.notMultiple b)
  | .minItems n, .array ds => reportIf (ds.length < n) path (.tooFewItems n)
  | .maxItems n, .array ds => reportIf (n < ds.length) path (.tooManyItems n)
  | .uniqueItems, .array ds => reportIf (hasTwice (ds.map Document.text)) path .duplicateItems
  | .required keys, .object es =>
    keys.flatMap fun key =>
      reportIf (Document.find? es key).isNone (path ++ [.member key]) .missing
  | _, _ => []

def unlisted (properties : List (String × Schema)) (es : List (String × Document)) :
    List (String × Document) :=
  es.filter fun e => !(properties.any fun p => p.1 == e.1)

def badPatterns (w : Vocabulary) (path : Position) (patterns : List (WrittenPattern × Schema)) :
    List Finding :=
  patterns.flatMap fun p =>
    match w.pattern p.1 with
    | .error explanation => [⟨path, .badPattern p.1.source explanation⟩]
    | .ok _ => []

/-- The node ends at a broken rule of this kind. -/
def stops : Rule Schema → Bool
  | .type _ => true
  | _ => false

/-! ## Rules with schemas inside -/

mutual

/-- What a document breaks of a schema; `path` is where the document stands. -/
def check (w : Vocabulary) (path : Position) : Schema → Document → List Finding
  | .verdict accepts, _ => reportIf (!accepts) path .forbidden
  | .node nullable rules, v =>
    if nullable && v.isNull then [] else checkRules w path rules v

def checkRules (w : Vocabulary) (path : Position) : List (Rule Schema) → Document → List Finding
  | [], _ => []
  | rule :: rest, v =>
    let found := checkRule w path rule v
    if stops rule && !found.isEmpty then found else found ++ checkRules w path rest v

def checkRule (w : Vocabulary) (path : Position) : Rule Schema → Document → List Finding
  | .items s, .array ds =>
    (ds.mapIdx fun i d => check w (path ++ [.item i]) s d).flatten
  | .tuple ss extra, .array ds =>
    checkTuple w path 0 ss ds ++ checkExtraItems w path ss.length extra ds
  | .entries properties patterns extra, .object es =>
    checkProperties w path properties es ++ badPatterns w path patterns
      ++ checkPatterns w path patterns es
      ++ checkExtraEntries w path patterns extra (unlisted properties es)
  | .oneOf options, v =>
    let matched := countPassing w path options v
    reportIf (matched != 1) path (.notExactlyOne matched)
  | .anyOf options, v =>
    reportIf (countPassing w path options v == 0) path .noneOfAny
  | .allOf all, v => checkAll w path all v
  | rule, v => checkValue w path rule v

def checkTuple (w : Vocabulary) (path : Position) (i : Nat) :
    List Schema → List Document → List Finding
  | s :: ss, d :: ds =>
    check w (path ++ [.item i]) s d ++ checkTuple w path (i + 1) ss ds
  | _, _ => []

def checkExtraItems (w : Vocabulary) (path : Position) (places : Nat) :
    Extra Schema → List Document → List Finding
  | .open, _ => []
  | .forbidden, ds => reportIf (places < ds.length) path .extraItems
  | .schema s, ds =>
    ((ds.drop places).mapIdx fun i d => check w (path ++ [.item (places + i)]) s d).flatten

def checkProperties (w : Vocabulary) (path : Position) :
    List (String × Schema) → List (String × Document) → List Finding
  | [], _ => []
  | (key, s) :: rest, es =>
    (match Document.find? es key with
      | some d => check w (path ++ [.member key]) s d
      | none => []) ++ checkProperties w path rest es

def checkPatterns (w : Vocabulary) (path : Position) :
    List (WrittenPattern × Schema) → List (String × Document) → List Finding
  | [], _ => []
  | (p, s) :: rest, es =>
    ((es.filter fun e => w.finds p e.1).flatMap fun e =>
      check w (path ++ [.member e.1]) s e.2) ++ checkPatterns w path rest es

/-- The entries that are no property. If they are forbidden, a key that matches
a pattern is no extra one; a schema is for all of them. -/
def checkExtraEntries (w : Vocabulary) (path : Position)
    (patterns : List (WrittenPattern × Schema)) :
    Extra Schema → List (String × Document) → List Finding
  | .open, _ => []
  | .forbidden, es => es.flatMap fun e =>
    reportIf (!(patterns.any fun p => w.finds p.1 e.1)) (path ++ [.member e.1]) .extraEntry
  | .schema s, es => es.flatMap fun e => check w (path ++ [.member e.1]) s e.2

def countPassing (w : Vocabulary) (path : Position) : List Schema → Document → Nat
  | [], _ => 0
  | s :: ss, v =>
    (if (check w path s v).isEmpty then 1 else 0) + countPassing w path ss v

def checkAll (w : Vocabulary) (path : Position) : List Schema → Document → List Finding
  | [], _ => []
  | s :: ss, v => check w path s v ++ checkAll w path ss v

end

end Schema

end Reshape
