import Reshape.Selector.Walk
import Reshape.Spec.Basic

/-!
# Picking templates

A template with a selector offers itself for positions in a document: for the
one that the selector leads to or, if an array stands there, for those of its
items. Positions are compared and not nodes, so that of equal nodes only the one
that is meant finds the template.
-/

namespace Reshape

/-- The positions that a place stands for: those of the items of an array, or
its own. -/
def Place.offered (p : Place) : List Position :=
  match p.node with
  | .array ds => (p.items ds).map Place.position
  | _ => [p.position]

namespace Template

/-- The positions of a document for which a template offers itself. -/
def offers (t : Template) (d : Document) : List Position :=
  match t.picks with
  | none => []
  | some path =>
    match path.follow (.root d) with
    | .ok p => p.offered
    | .error _ => []

end Template

namespace Spec

def candidates (s : Spec) (d : Document) (p : Position) : List (Nat × Template) :=
  (s.templates.mapIdx Prod.mk).filter fun (_, t) => p ∈ t.offers d

def pick? (s : Spec) (d : Document) (p : Position) : Option (Nat × Template) :=
  (s.templates.mapIdx Prod.mk).find? fun (_, t) => p ∈ t.offers d

theorem pick?_eq_head? (s : Spec) (d : Document) (p : Position) :
    s.pick? d p = (s.candidates d p).head? :=
  List.head?_filter.symm

end Spec

end Reshape
