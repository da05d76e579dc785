import Reshape.Schema.Check

/-!
# Reports on documents

`Schema.collect` goes over a document with a schema and puts each violation behind
those found already. An option of a choice is tried on the same list: what it adds
is taken off again, and the option is met if there is nothing to take off. What it
finds are the findings of `Schema.check`, as texts.
-/

namespace Reshape

namespace Schema

/-- Puts the findings below a node behind the violations found already. -/
def report (path : String) (findings : List Finding) (found : List Violation) : List Violation :=
  found ++ findings.map (Finding.below path)

/-- Whether a trial added nothing, and the list with all that it added taken off. -/
def tried (before after : List Violation) : Bool × List Violation :=
  (after.length == before.length, after.take before.length)

mutual

/-- The violations found already, and behind them those of a document that stands
at a path. -/
def collect (w : Vocabulary) (path : String) :
    Schema → Document → List Violation → List Violation
  | .verdict accepts, _, found => report path (reportIf (!accepts) [] .forbidden) found
  | .node nullable rules, v, found =>
    if nullable && v.isNull then found else collectRules w path rules v found

def collectRules (w : Vocabulary) (path : String) :
    List (Rule Schema) → Document → List Violation → List Violation
  | [], _, found => found
  | rule :: rest, v, found =>
    let after := collectRule w path rule v found
    if stops rule && after.length != found.length then after else collectRules w path rest v after

def collectRule (w : Vocabulary) (path : String) :
    Rule Schema → Document → List Violation → List Violation
  | .items s, .array ds, found =>
    ds.zipIdx.foldl (fun found (d, i) => collect w (path ++ (Branch.item i).text) s d found) found
  | .tuple ss extra, .array ds, found =>
    collectExtraItems w path ss.length extra ds (collectTuple w path 0 ss ds found)
  | .entries properties patterns extra, .object es, found =>
    let found := collectProperties w path properties es found
    let found := collectPatterns w path patterns es (report path (badPatterns w [] patterns) found)
    collectExtraEntries w path patterns extra (unlisted properties es) found
  | .oneOf options, v, found =>
    let (matched, found) := countMatching w path options v found
    report path (reportIf (matched != 1) [] (.notExactlyOne matched)) found
  | .anyOf options, v, found =>
    let (matched, found) := anyMatching w path options v found
    report path (reportIf (!matched) [] .noneOfAny) found
  | .allOf all, v, found => collectAll w path all v found
  | rule, v, found => report path (checkValue w [] rule v) found

def collectTuple (w : Vocabulary) (path : String) (i : Nat) :
    List Schema → List Document → List Violation → List Violation
  | s :: ss, d :: ds, found =>
    collectTuple w path (i + 1) ss ds (collect w (path ++ (Branch.item i).text) s d found)
  | _, _, found => found

def collectExtraItems (w : Vocabulary) (path : String) (places : Nat) :
    Extra Schema → List Document → List Violation → List Violation
  | .open, _, found => found
  | .forbidden, ds, found => report path (reportIf (places < ds.length) [] .extraItems) found
  | .schema s, ds, found =>
    (ds.drop places).zipIdx.foldl
      (fun found (d, i) => collect w (path ++ (Branch.item (places + i)).text) s d found) found

def collectProperties (w : Vocabulary) (path : String) :
    List (String × Schema) → List (String × Document) → List Violation → List Violation
  | [], _, found => found
  | (key, s) :: rest, es, found =>
    collectProperties w path rest es (match Document.find? es key with
      | some d => collect w (path ++ (Branch.member key).text) s d found
      | none => found)

def collectPatterns (w : Vocabulary) (path : String) :
    List (WrittenPattern × Schema) → List (String × Document) → List Violation → List Violation
  | [], _, found => found
  | (p, s) :: rest, es, found =>
    collectPatterns w path rest es ((es.filter fun e => w.finds p e.1).foldl
      (fun found e => collect w (path ++ (Branch.member e.1).text) s e.2 found) found)

def collectExtraEntries (w : Vocabulary) (path : String)
    (patterns : List (WrittenPattern × Schema)) :
    Extra Schema → List (String × Document) → List Violation → List Violation
  | .open, _, found => found
  | .forbidden, es, found =>
    report path (es.flatMap fun e =>
      reportIf (!(patterns.any fun p => w.finds p.1 e.1)) [.member e.1] .extraEntry) found
  | .schema s, es, found =>
    es.foldl (fun found e => collect w (path ++ (Branch.member e.1).text) s e.2 found) found

def countMatching (w : Vocabulary) (path : String) :
    List Schema → Document → List Violation → Nat × List Violation
  | [], _, found => (0, found)
  | s :: ss, v, found =>
    let (met, found) := tried found (collect w path s v found)
    let (matched, found) := countMatching w path ss v found
    (if met then matched + 1 else matched, found)

/-- Whether an option is met, and the list as it was before. Options behind one that
is met are not tried. -/
def anyMatching (w : Vocabulary) (path : String) :
    List Schema → Document → List Violation → Bool × List Violation
  | [], _, found => (false, found)
  | s :: ss, v, found =>
    let (met, found) := tried found (collect w path s v found)
    if met then (true, found) else anyMatching w path ss v found

def collectAll (w : Vocabulary) (path : String) :
    List Schema → Document → List Violation → List Violation
  | [], _, found => found
  | s :: ss, v, found => collectAll w path ss v (collect w path s v found)

end

def violationsIn (w : Vocabulary) (s : Schema) (d : Document) : List Violation :=
  s.collect w "$" d []

def violations (s : Schema) (explain : String → String) (anyFormat : Bool) (d : Document) :
    List Violation :=
  s.violationsIn (.standard explain anyFormat) d

end Schema

end Reshape
