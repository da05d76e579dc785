import Reshape.Selector.Walk
import Reshape.Transform.Chain
import Reshape.Transform.Failure

/-!
# Applying templates

What a run does apart from its specification. `Conditions.application` finds the
source and the template of an application; `Conditions.applyAt` checks its depth
and applies the template to each node of the source. What happens at such a node
is a parameter of both. An application leads to a smaller node, or leaves fewer
names free at the same one: `rank_lt`.
-/

namespace Reshape

namespace Transform

structure Conditions where
  mode : Mode
  registry : Registry
  /-- The greatest depth of applications within each other, if there is one. -/
  limit : Option Nat

/-- What an output node sees: the place that it is evaluated at and the root document. -/
structure View where
  place : Place
  root : Document
  deriving DecidableEq, Repr

namespace View

def ofDocument (d : Document) : View := ⟨.root d, d⟩

def goTo (v : View) (p : Place) : View := { v with place := p }

end View

/-- A place that selectors lead to from another one: itself or one below it. -/
abbrev Reach (p : Place) := { q : Place // p.Reaches q }

def itemsWithin {p : Place} (q : Reach p) (ds : List Document) (h : q.1.node = .array ds) :
    List (Reach p) :=
  (q.1.items ds).attach.map fun ⟨r, hr⟩ => ⟨r, q.2.trans (Place.reaches_of_mem_items h hr)⟩

section Apply

variable {m : Type → Type} [Monad m] {p : Place}

def applyEach (enter : Reach p → m (Option Document)) : List (Reach p) → m (List Document)
  | [] => pure []
  | q :: rest => do
    let value ← enter q
    let ds ← applyEach enter rest
    return value.getD .null :: ds

/-- Applies a template to what its source is: to each item of an array, or to a
single node; nothing and null give the empty array. -/
def applyTo (enter : Reach p → m (Option Document)) :
    Option (Reach p) → m (Option Document)
  | none => pure (some (.array []))
  | some q =>
    match h : q.1.node with
    | .null => pure (some (.array []))
    | .array ds => do
      let out ← applyEach enter (itemsWithin q ds h)
      return some (.array out)
    | _ => enter q

end Apply

namespace Conditions

variable {m : Type → Type} [Settling m] [Failing Failure m] (c : Conditions) {p : Place}

def frame (v : View) : Frame := ⟨c.mode, c.registry, v.root, v.place.node⟩

def settled {α : Type} (failure : Failure) : m (Option α) := settle c.mode none (fail failure)

def select (path : Selector) (p : Place) : m (Option (Reach p)) :=
  match h : path.follow p with
  | .ok q => pure (some ⟨q, Selector.follow_reaches h⟩)
  | .error e => c.settled (.selector e)

def source (path : Option Selector) (p : Place) : m (Option (Reach p)) :=
  match path with
  | some path => c.select path p
  | none => pure (some ⟨p, .refl p⟩)

/-- An application within so many others is too deep. -/
def exceeds (depth : Nat) : Option Nat := c.limit.filter fun limit => limit < depth

def applyAt (depth : Nat) (name : String) (enter : Reach p → m (Option Document))
    (source : Option (Reach p)) : m (Option Document) :=
  match c.exceeds depth with
  | some limit => c.settled (.tooDeep name depth limit)
  | none => applyTo enter source

def application {κ : Type} (name : String) (path : Option Selector) (known : Option κ)
    (apply : κ → Option (Reach p) → m (Option Document)) : m (Option Document) := do
  let source ← c.source path p
  match known with
  | none => c.settled (.unknownTemplate name)
  | some k => apply k source

end Conditions

/-! ## Termination -/

/-- What is left to a run at a place within a chain: the size of the node, then
the number of names that are free there. -/
def rank (names : List String) (chain : Chain) (p : Place) : Nat × Nat :=
  (p.node.size, freeNames names chain p.position)

theorem rank_lt {names : List String} {name : String} {chain : Chain} {p : Place}
    (hn : name ∈ names) (q : Reach p) (h : (⟨name, q.1.position⟩ : Link) ∉ chain) :
    Prod.Lex (· < ·) (· < ·) (rank names (⟨name, q.1.position⟩ :: chain) q.1)
      (rank names chain p) := by
  unfold rank
  rcases q.2.eq_or_size_lt with hq | hq
  · rw [hq] at h ⊢
    exact Prod.Lex.right _ (freeNames_cons_lt hn h)
  · exact Prod.Lex.left _ _ hq

end Transform

end Reshape
