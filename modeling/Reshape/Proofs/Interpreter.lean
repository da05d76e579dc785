import Reshape.Expression.Reader
import Reshape.Selector.Reader
import Reshape.Transform.Transformer

/-!
# Interpreting specifications as written

`Raw.interpret` evaluates a node of a specification document without compiling
the document: selectors and expressions are read where they are met, and templates
are looked up in the document. It serves as the reference for what a compiled
specification means.
-/

namespace Reshape

namespace Raw

/-- A part of a record: an entry of an object, or an item of an array. -/
def part? (key : String) (index : Nat) : Document → Option Document
  | .object es => Document.find? es key
  | .array ds => ds[index]?
  | _ => none

def templates (raw : Document) : List Document :=
  match part? "templates" 0 raw with
  | some (.array ts) => ts
  | _ => []

def root (raw : Document) : Document := (part? "root" 1 raw).getD .null

/-- The text that a part is, if it is there and a string. -/
def text? : Option Document → Option String
  | some (.string text) => some text
  | _ => none

def name? (t : Document) : Option String := text? (part? "name" 0 t)

def names (raw : Document) : List String := (templates raw).filterMap name?

def body? (raw : Document) (name : String) : Option Document :=
  ((templates raw).find? fun t => name? t == some name).bind (part? "output" 2)

theorem mem_names_of_body? {raw body : Document} {name : String}
    (h : body? raw name = some body) : name ∈ names raw := by
  obtain ⟨t, ht, -⟩ := Option.bind_eq_some_iff.1 h
  have hn : name? t = some name := by simpa using List.find?_some ht
  exact List.mem_filterMap.2 ⟨t, List.mem_of_find?_eq_some ht, hn⟩

/-- The body of a template, with its name. -/
structure Named (raw : Document) where
  name : String
  body : Document
  found : body? raw name = some body

def named? (raw : Document) (name : String) : Option (Named raw) :=
  match h : body? raw name with
  | some body => some ⟨name, body, h⟩
  | none => none

theorem named?_of_none {raw : Document} {name : String} (h : body? raw name = none) :
    named? raw name = none := by
  unfold named?
  split
  · rename_i hb
    cases h.symm.trans hb
  · rfl

theorem named?_of_some {raw body : Document} {name : String} (h : body? raw name = some body) :
    named? raw name = some ⟨name, body, h⟩ := by
  unfold named?
  split
  · rename_i b hb
    obtain rfl := Option.some.inj (h.symm.trans hb)
    rfl
  · rename_i hb
    cases h.symm.trans hb

/-- The selector for the source of an application, if there is a text for one. -/
def source : Option Document → Except Selector.Error (Option Selector)
  | some (.string text) => (Selector.read text).map some
  | _ => .ok none

open Transform

variable {m : Type → Type} [Settling m] [Failing Failure m] (c : Conditions) (raw : Document)

section Walk

variable (v : View) (apply : Named raw → Option (Reach v.place) → m (Option Document))

mutual

/-- Evaluates a node as written in a view. -/
def walk : Document → m (Option Document)
  | .string text =>
    if Selector.looksLikeOne text then
      match Selector.read text with
      | .ok path => do
        let found ← c.select path v.place
        return found.map fun q => q.1.node
      | .error e => fail (Failure.selector e)
    else pure (some (.string text))
  | .object es =>
    match Document.find? es "expr" with
    | some (.string text) =>
      match Expression.read text with
      | .ok e => (c.frame v).evaluate e
      | .error e => fail (Failure.expression (.unreadable e))
    | _ =>
      match Document.find? es "apply" with
      | some (.string name) =>
        match source (Document.find? es "from") with
        | .ok path => c.application name path (named? raw name) apply
        | .error e => fail (Failure.selector e)
      | _ => do
        let out ← walkEntries es
        return some (.object out)
  | .array ds => do
    let out ← walkItems ds
    return some (.array out)
  | d => pure (some d)

/-- Evaluates entries in order; those without a value are left out. -/
def walkEntries : List (String × Document) → m (List (String × Document))
  | [] => pure []
  | (key, d) :: rest => do
    let value ← walk d
    let out ← walkEntries rest
    match value with
    | some d => return (key, d) :: out
    | none => return out

/-- Evaluates items in order; null stands for those without a value. -/
def walkItems : List Document → m (List Document)
  | [] => pure []
  | d :: rest => do
    let value ← walk d
    let out ← walkItems rest
    return value.getD .null :: out

end

end Walk

def interpret (chain : Chain) (v : View) (d : Document) : m (Option Document) :=
  walk c raw v (fun k => c.applyAt (chain.length + 1) k.name fun q =>
    if h : (⟨k.name, q.1.position⟩ : Link) ∈ chain then
      c.settled (.cycle k.name (chain.length + 1))
    else interpret (⟨k.name, q.1.position⟩ :: chain) (v.goTo q.1) k.body) d
termination_by rank (names raw) chain v.place
decreasing_by exact rank_lt (mem_names_of_body? k.found) q h

def startBody (template : Option String) : m Document :=
  match template with
  | none => pure (root raw)
  | some name =>
    match body? raw name with
    | some body => pure body
    | none => fail (Failure.unknownTemplate name)

def start (template : Option String) (d : Document) : m Document := do
  let body ← startBody raw template
  let value ← interpret c raw [] (.ofDocument d) body
  return value.getD .null

end Raw

/-- Interprets a specification document on a document. -/
def Transformer.interpret (t : Transformer) (raw : Document) (options : RunOptions)
    (d : Document) : Attempt Transform.Failure Document :=
  Raw.start (t.conditions (options.mode.getD t.config.mode)) raw options.start d

end Reshape
