import Reshape.Proofs.Composition
import Reshape.Proofs.EmptySource
import Reshape.Proofs.StartTemplate

/-!
# Selectors as expressions

A selector stands in a body by itself, or it is the whole of an expression. The two are
settled at different places, and what cannot be followed is a different failure, but with
the same message. `Spec.bare` is the specification in which all such selectors stand by
themselves: a run of it passes over failures of the same messages and ends with the same
result, or with a failure of the same message, `start_sameWords`.
-/

namespace Reshape

/-! ## Bare selectors -/

namespace Output

mutual

/-- The body in which each expression that is a selector is that selector by itself. -/
def bare : Output → Output
  | .expression source e =>
    match e with
    | .selector path => .selector path
    | e => .expression source e
  | .object entries => .object (bareEntries entries)
  | .array items => .array (bareItems items)
  | .literal value => .literal value
  | .selector path => .selector path
  | .apply template source => .apply template source

def bareItems : List Output → List Output
  | [] => []
  | o :: os => o.bare :: bareItems os

def bareEntries : List (String × Output) → List (String × Output)
  | [] => []
  | (key, o) :: os => (key, o.bare) :: bareEntries os

end

end Output

def Template.bare (t : Template) : Template := { t with output := t.output.bare }

/-- The specification with bare selectors in all its bodies, and without its warnings. -/
def Spec.bare (s : Spec) : Spec := ⟨s.templates.map Template.bare, s.root.bare, []⟩

theorem Spec.template?_bare (s : Spec) (name : String) :
    s.bare.template? name = (s.template? name).map Template.bare := by
  unfold template? bare
  rw [List.find?_map]
  rfl

namespace Selector

theorem followFrom_within (source : String) (followed steps : List Step) (above : Position)
    (p : Place) : followFrom source followed steps (p.within above)
      = (followFrom source followed steps p).map (Place.within above) := by
  induction steps generalizing followed p with
  | nil => rfl
  | cons step steps ih =>
    rw [followFrom, followFrom, Step.follow_within]
    cases step.follow p with
    | ok q => exact ih _ q
    | error misfit => rfl

/-- What a selector finds in the node of a place stands where it leads from there. -/
theorem find_node (path : Selector) (p : Place) :
    path.find p.node = (path.follow p).map Place.node := by
  have h : path.follow ((Place.root p.node).within p.position)
      = (path.follow (.root p.node)).map (Place.within p.position) := followFrom_within ..
  rw [Place.within_root] at h
  rw [h]
  unfold find
  cases path.follow (.root p.node) <;> rfl

end Selector

namespace Transform

/-! ## The same messages -/

/-- The same result, or failures of the same message; and the failures that are passed over
have the same messages. -/
def SameWords : Relator (Attempt Failure) (Attempt Failure) :=
  fun _ x y => x.mapFailures Failure.message = y.mapFailures Failure.message

namespace SameWords

theorem sequential : SameWords.Sequential where
  pure _ := rfl
  bind := by
    intro α β x y f g hx hf
    unfold SameWords at hx ⊢
    rw [Attempt.mapFailures_bind, Attempt.mapFailures_bind, hx]
    exact congrArg _ (funext hf)

theorem expression (mode : Mode) : Expression.Agreement SameWords mode mode where
  toSequential := sequential
  fail _ := rfl
  settle := by
    intro α a x y h
    unfold SameWords at h ⊢
    rw [Attempt.mapFailures_settle, Attempt.mapFailures_settle, h]

theorem runAgreement (root : Document) (c : Conditions) : RunAgreement SameWords root c c where
  toAgreement := .ofExpression (expression c.mode) (fun _ => rfl) (fun _ => rfl) rfl
  limit := rfl
  tooDeep _ _ _ := rfl
  cycle _ _ := rfl

theorem cases {α : Type} {x y : Attempt Failure α} (h : SameWords α x y) :
    x.dropped.map Failure.message = y.dropped.map Failure.message ∧
      ((∃ a, x.result = .ok a ∧ y.result = .ok a) ∨
        ∃ e e', x.result = .error e ∧ y.result = .error e' ∧ e.message = e'.message) := by
  obtain ⟨result, dropped⟩ := x
  obtain ⟨result', dropped'⟩ := y
  injection h with hresult hdropped
  refine ⟨hdropped, ?_⟩
  cases result with
  | ok a =>
    cases result' with
    | ok b => exact .inl ⟨a, rfl, congrArg _ (Except.ok.inj hresult).symm⟩
    | error e => cases hresult
  | error e =>
    cases result' with
    | ok b => cases hresult
    | error e' => exact .inr ⟨e, e', rfl, rfl, Except.error.inj hresult⟩

end SameWords

/-- An expression that is a selector comes to what the selector comes to by itself. -/
theorem evaluate_selector_sameWords (c : Conditions) (v : View) (path : Selector) :
    SameWords _ ((c.frame v).evaluate (.selector path))
      (c.select path v.place >>= fun found => pure (found.map fun q => q.1.node)) := by
  have hfind : path.find (c.frame v).current = _ := path.find_node v.place
  unfold Frame.evaluate Frame.evaluateRaw
  rw [hfind]
  cases h : path.follow v.place with
  | ok q =>
    rw [select_of_ok h]
    show SameWords _ (settle c.mode _ ⟨.ok _, []⟩ >>= _) _
    rw [Attempt.settle_success]
    rfl
  | error e =>
    rw [select_of_error h]
    unfold Conditions.settled Conditions.frame
    cases c.mode <;> rfl

/-! ## Bodies -/

section Body

variable {c : Conditions} {spec spec' : Spec} {v : View}
  {apply : Known spec → Option (Reach v.place) → Attempt Failure (Option Document)}
  {apply' : Known spec' → Option (Reach v.place) → Attempt Failure (Option Document)}

mutual

theorem body_bare_sameWords
    (ha : ∀ name, LocalAgreement.AppliesAlike SameWords c c apply apply' name) (o : Output) :
    SameWords _ (Setting.body ⟨c, spec⟩ v apply o) (Setting.body ⟨c, spec'⟩ v apply' o.bare) := by
  match o with
  | .literal _ | .selector _ =>
    unfold Output.bare Setting.body
    rfl
  | .expression _ e =>
    unfold Output.bare
    cases e with
    | selector path =>
      unfold Setting.body
      exact evaluate_selector_sameWords c v path
    | _ =>
      unfold Setting.body
      rfl
  | .apply name path =>
    unfold Output.bare Setting.body
    exact ha name path
  | .object entries =>
    unfold Output.bare Setting.body
    exact SameWords.sequential.bind (bodyEntries_bare_sameWords ha entries) fun _ => rfl
  | .array items =>
    unfold Output.bare Setting.body
    exact SameWords.sequential.bind (bodyItems_bare_sameWords ha items) fun _ => rfl

theorem bodyEntries_bare_sameWords
    (ha : ∀ name, LocalAgreement.AppliesAlike SameWords c c apply apply' name)
    (es : List (String × Output)) :
    SameWords _ (Setting.bodyEntries ⟨c, spec⟩ v apply es)
      (Setting.bodyEntries ⟨c, spec'⟩ v apply' (Output.bareEntries es)) := by
  match es with
  | [] =>
    unfold Output.bareEntries Setting.bodyEntries
    rfl
  | (_, o) :: es =>
    unfold Output.bareEntries Setting.bodyEntries
    exact SameWords.sequential.bind (body_bare_sameWords ha o) fun _ =>
      SameWords.sequential.bind (bodyEntries_bare_sameWords ha es) fun _ => rfl

theorem bodyItems_bare_sameWords
    (ha : ∀ name, LocalAgreement.AppliesAlike SameWords c c apply apply' name)
    (os : List Output) :
    SameWords _ (Setting.bodyItems ⟨c, spec⟩ v apply os)
      (Setting.bodyItems ⟨c, spec'⟩ v apply' (Output.bareItems os)) := by
  match os with
  | [] =>
    unfold Output.bareItems Setting.bodyItems
    rfl
  | o :: os =>
    unfold Output.bareItems Setting.bodyItems
    exact SameWords.sequential.bind (body_bare_sameWords ha o) fun _ =>
      SameWords.sequential.bind (bodyItems_bare_sameWords ha os) fun _ => rfl

end

end Body

/-! ## Runs -/

section Run

variable (c : Conditions) (spec : Spec)

theorem run_bare_sameWords (chain : Chain) (v : View) (o : Output) :
    SameWords _ (Setting.run ⟨c, spec⟩ chain v o) (Setting.run ⟨c, spec.bare⟩ chain v o.bare) := by
  -- induction on what is left to the run of `spec`, which the other run only follows
  rw [Setting.run, Setting.run]
  refine body_bare_sameWords (fun name path => ?_) o
  unfold Conditions.application
  refine SameWords.sequential.bind rfl fun source => ?_
  have hbare := spec.template?_bare name
  cases hk : spec.template? name with
  | none =>
    rw [hk] at hbare
    rw [Setting.known?_of_none (s := ⟨c, spec⟩) hk,
      Setting.known?_of_none (s := ⟨c, spec.bare⟩) hbare]
    rfl
  | some t =>
    rw [hk] at hbare
    rw [Setting.known?_of_some (s := ⟨c, spec⟩) hk,
      Setting.known?_of_some (s := ⟨c, spec.bare⟩) hbare]
    refine (SameWords.runAgreement v.root c).applyAt_agree (fun q => ?_) _ name source
    split
    · rfl
    · exact run_bare_sameWords _ (v.goTo q.1) t.output
termination_by rank spec.names chain v.place
decreasing_by exact rank_lt (Spec.mem_names_of_template? hk) q ‹_›

/-- With bare selectors, a run gives the same result or a failure of the same message, and it
passes over failures of the same messages. -/
theorem start_sameWords (start : Option String) (d : Document) :
    SameWords _ (Setting.start ⟨c, spec⟩ start d) (Setting.start ⟨c, spec.bare⟩ start d) := by
  have hrun (o : Output) := run_bare_sameWords c spec [] (.ofDocument d) o
  have hbody (o : Output) : SameWords _
      (Setting.run ⟨c, spec⟩ [] (.ofDocument d) o >>= fun v => pure (v.getD .null))
      (Setting.run ⟨c, spec.bare⟩ [] (.ofDocument d) o.bare >>= fun v => pure (v.getD .null)) :=
    SameWords.sequential.bind (hrun o) fun _ => rfl
  cases start with
  | none => exact hbody spec.root
  | some name =>
    have hbare := spec.template?_bare name
    cases hk : spec.template? name with
    | none =>
      rw [hk] at hbare
      unfold Setting.start Setting.startWith Setting.startBody
      simp only [hk, hbare, Option.map_none]
      rfl
    | some t =>
      rw [hk] at hbare
      rw [start_template hk, start_template hbare]
      exact hbody t.output

end Run

end Transform

end Reshape
