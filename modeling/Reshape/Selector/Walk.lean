import Reshape.Selector.Basic

/-!
# Following selectors

`Selector.follow` leads from a place to the place that the steps name, or fails
at the first step that does not fit the node it meets. A step goes down or, on
`[*]`, stays, so that a selector leads to a place below: `follow_reaches`.
-/

namespace Reshape

inductive Step.Misfit where
  | missingKey (key : String)
  | outOfBounds (index length : Nat)
  | mismatch (step : Step) (found : Document.Kind)
  deriving DecidableEq, Repr

def Step.follow (step : Step) (p : Place) : Except Step.Misfit Place :=
  match step, p.node with
  | .property name, .object entries =>
    match Document.find? entries name with
    | some d => .ok ⟨d, p.position ++ [.member name]⟩
    | none => .error (.missingKey name)
  | .index n, .array items =>
    match items[n]? with
    | some d => .ok ⟨d, p.position ++ [.item n]⟩
    | none => .error (.outOfBounds n items.length)
  | .every, .array _ => .ok p
  | step, d => .error (.mismatch step d.kind)

namespace Selector

def Error.ofMisfit (source : String) (followed : List Step) : Step.Misfit → Error
  | .missingKey key => .missingKey source followed key
  | .outOfBounds index length => .outOfBounds source followed index length
  | .mismatch step found => .mismatch source followed step found

/-- Follows the steps that are left after those followed already. -/
def followFrom (source : String) (followed : List Step) : List Step → Place → Except Error Place
  | [], p => .ok p
  | step :: steps, p =>
    match step.follow p with
    | .ok q => followFrom source (followed ++ [step]) steps q
    | .error misfit => .error (.ofMisfit source followed misfit)

def follow (s : Selector) (p : Place) : Except Error Place := followFrom s.source [] s.steps p

def find (s : Selector) (d : Document) : Except Error Document :=
  (s.follow (.root d)).map Place.node

end Selector

theorem Step.follow_reaches {step : Step} {p q : Place} (h : step.follow p = .ok q) :
    p.Reaches q := by
  unfold Step.follow at h
  split at h
  · rename_i entries hp
    split at h
    · rename_i d hd
      cases h
      exact .of_child (by rw [hp]; exact hd)
    · cases h
  · rename_i items hp
    split at h
    · rename_i d hd
      cases h
      exact .of_child (by rw [hp]; exact hd)
    · cases h
  · cases h
    exact .refl _
  · cases h

namespace Selector

theorem followFrom_reaches {source : String} {followed steps : List Step} {p q : Place}
    (h : followFrom source followed steps p = .ok q) : p.Reaches q := by
  induction steps generalizing followed p with
  | nil =>
    cases h
    exact .refl _
  | cons step steps ih =>
    simp only [followFrom] at h
    split at h
    · rename_i r hr
      exact (Step.follow_reaches hr).trans (ih h)
    · cases h

/-- A selector leads to a place at or below the one that it starts from. -/
theorem follow_reaches {s : Selector} {p q : Place} (h : s.follow p = .ok q) : p.Reaches q :=
  followFrom_reaches h

end Selector

end Reshape
