import Reshape.Spec.Basic
import Reshape.Transform.Application

/-!
# Running specifications

`Setting.body` evaluates an output node in a view. What it means to apply a
template there is a parameter of it, so that it recurs on the node alone.
`Setting.run` supplies the parameter: it refuses to apply a template to a node to
which it is being applied already, and otherwise evaluates the template's body
with the view at that node. So a run always ends.
-/

namespace Reshape

namespace Transform

structure Setting extends Conditions where
  spec : Spec

structure Known (s : Spec) where
  name : String
  template : Template
  found : s.template? name = some template

theorem Known.eq_of_name {spec : Spec} {k l : Known spec} (h : k.name = l.name) : k = l := by
  obtain ⟨name, t, hk⟩ := k
  obtain ⟨name', t', hl⟩ := l
  dsimp only at h
  subst h
  rw [hk] at hl
  cases hl
  rfl

namespace Setting

variable {m : Type → Type} [Settling m] [Failing Failure m] (s : Setting)

def known? (name : String) : Option (Known s.spec) :=
  match h : s.spec.template? name with
  | some t => some ⟨name, t, h⟩
  | none => none

theorem known?_of_none {s : Setting} {name : String} (h : s.spec.template? name = none) :
    s.known? name = none := by
  unfold known?
  split
  · rename_i ht
    cases h.symm.trans ht
  · rfl

theorem known?_of_some {s : Setting} {name : String} {t : Template}
    (h : s.spec.template? name = some t) : s.known? name = some ⟨name, t, h⟩ := by
  unfold known?
  split
  · rename_i t' ht
    obtain rfl := Option.some.inj (h.symm.trans ht)
    rfl
  · rename_i ht
    cases h.symm.trans ht

section Body

variable (v : View) (apply : Known s.spec → Option (Reach v.place) → m (Option Document))

mutual

/-- Evaluates a node in a view; `apply` applies a template to a source reached
from its place. No document is the absent value. -/
def body : Output → m (Option Document)
  | .literal value => pure (some value)
  | .selector path => do
    let found ← s.select path v.place
    return found.map fun q => q.1.node
  | .expression _ e => (s.frame v).evaluate e
  | .apply name path => s.application name path (s.known? name) apply
  | .object entries => do
    let es ← bodyEntries entries
    return some (.object es)
  | .array items => do
    let ds ← bodyItems items
    return some (.array ds)

/-- Evaluates entries in order; those without a value are left out. -/
def bodyEntries : List (String × Output) → m (List (String × Document))
  | [] => pure []
  | (key, o) :: rest => do
    let value ← body o
    let es ← bodyEntries rest
    match value with
    | some d => return (key, d) :: es
    | none => return es

/-- Evaluates items in order; null stands for those without a value. -/
def bodyItems : List Output → m (List Document)
  | [] => pure []
  | o :: rest => do
    let value ← body o
    let ds ← bodyItems rest
    return value.getD .null :: ds

end

end Body

def run (chain : Chain) (v : View) (o : Output) : m (Option Document) :=
  s.body v (fun k => s.applyAt (chain.length + 1) k.name fun q =>
    if h : (⟨k.name, q.1.position⟩ : Link) ∈ chain then
      s.settled (.cycle k.name (chain.length + 1))
    else run (⟨k.name, q.1.position⟩ :: chain) (v.goTo q.1) k.template.output) o
termination_by rank s.spec.names chain v.place
decreasing_by exact rank_lt (Spec.mem_names_of_template? k.found) q h

def startBody (template : Option String) : m Output :=
  match template with
  | none => pure s.spec.root
  | some name =>
    match s.spec.template? name with
    | some t => pure t.output
    | none => fail (Failure.unknownTemplate name)

/-- Evaluates the body to start with; without a value the result is null. -/
def startWith (evaluate : Output → m (Option Document)) (template : Option String) :
    m Document := do
  let o ← s.startBody template
  let value ← evaluate o
  return value.getD .null

def start (template : Option String) (d : Document) : m Document :=
  s.startWith (s.run [] (.ofDocument d)) template

end Setting

end Transform

end Reshape
