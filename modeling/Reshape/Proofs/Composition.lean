import Reshape.Proofs.Following

/-!
# Selectors one behind the other

The text of a selector with that of another one behind it, less the second dollar sign, is a
selector: its steps are those of the one and then those of the other. It leads where the second
one leads from where the first one does, and it fails as the first of the two that fails:
`composition_exact`.
-/

namespace Reshape

/-! ## Documents within documents -/

/-- A place in a document as a place in the one that has this document at a position. -/
def Place.within (above : Position) (p : Place) : Place := ⟨p.node, above ++ p.position⟩

theorem Place.within_root (p : Place) : (Place.root p.node).within p.position = p := by
  unfold Place.within root
  rw [List.append_nil]

namespace Step

variable {step : Step} {steps : List Step} {p q : Place}

/-- Where a step leads does not depend on what is around the document. -/
theorem follow_within (step : Step) (above : Position) (p : Place) :
    step.follow (p.within above) = (step.follow p).map (Place.within above) := by
  obtain ⟨node, position⟩ := p
  have hbranch (d : Document) (b : Branch) :
      (Except.ok ⟨d, above ++ position ++ [b]⟩ : Except Misfit Place)
        = .ok ⟨d, above ++ (position ++ [b])⟩ := by rw [List.append_assoc]
  cases step with
  | property name =>
    cases node with
    | object entries =>
      dsimp only [follow, Place.within]
      cases Document.find? entries name with
      | none => rfl
      | some d => exact hbranch d (.member name)
    | _ => rfl
  | index i =>
    cases node with
    | array items =>
      dsimp only [follow, Place.within]
      cases items[i]? with
      | none => rfl
      | some d => exact hbranch d (.item i)
    | _ => rfl
  | every => cases node <;> rfl

theorem leads_within_iff (above : Position) (p : Place) :
    Leads steps (p.within above) q ↔ ∃ r, Leads steps p r ∧ q = r.within above := by
  constructor
  · intro h
    induction steps generalizing p with
    | nil =>
      cases h
      exact ⟨_, .nil _, rfl⟩
    | cons step steps ih =>
      cases h with
      | cons h hrest =>
        rw [follow_within] at h
        obtain ⟨p', hp', rfl⟩ := map_eq_ok_iff.1 h
        obtain ⟨r, hr, rfl⟩ := ih _ hrest
        exact ⟨r, .cons hp' hr, rfl⟩
  · rintro ⟨r, hr, rfl⟩
    induction hr with
    | nil => exact .nil _
    | cons h _ ih => exact .cons (by rw [follow_within, h]; rfl) ih

theorem leads_iff_root :
    Leads steps p q ↔ ∃ r, Leads steps (.root p.node) r ∧ q = r.within p.position := by
  have h : Leads steps ((Place.root p.node).within p.position) q ↔ _ := leads_within_iff _ _
  rwa [Place.within_root] at h

end Step

namespace Selector

open Expression.Grammar (Opens)
open Step (Leads)

variable {s t : Selector} {before after : List Step} {cs cs' : List Char}

/-! ## Texts one behind the other -/

theorem SpellsSteps.opens (h : SpellsSteps after cs) :
    Opens (fun c => Text.isNameChar c = false) cs := by
  cases h with
  | nil => nofun
  | cons h _ _ => cases h <;> rintro c ⟨⟩ <;> decide +kernel

theorem SpellsSteps.append (h : SpellsSteps before cs) (h' : SpellsSteps after cs') :
    SpellsSteps (before ++ after) (cs ++ cs') := by
  induction h with
  | nil => exact h'
  | cons hstep hend _ ih =>
    rw [List.append_assoc]
    exact .cons hstep (fun name hname => (hend name hname).append h'.opens) ih

/-- One selector and then another one: the text of the second goes on behind that of the first,
without its dollar sign. -/
def andThen (s t : Selector) : Selector :=
  ⟨s.source ++ String.ofList t.source.toList.tail, s.steps ++ t.steps⟩

theorem read_andThen {text text' : String} (hs : read text = .ok s) (ht : read text' = .ok t) :
    read (s.andThen t).source = .ok (s.andThen t) := by
  obtain ⟨hsource, hspells⟩ := read_eq_ok_iff.1 hs
  obtain ⟨hsource', hspells'⟩ := read_eq_ok_iff.1 ht
  rw [← hsource] at hspells
  rw [← hsource'] at hspells'
  have hjoined : Spells (s.andThen t).steps (s.andThen t).source.toList := by
    unfold andThen
    rw [String.toList_append, String.toList_ofList]
    generalize s.source.toList = cs at hspells
    generalize t.source.toList = cs' at hspells'
    obtain ⟨hsteps⟩ := hspells
    obtain ⟨hsteps'⟩ := hspells'
    exact .mk (hsteps.append hsteps')
  rw [read_eq_ok_iff, Text.trim_of_tight hjoined.tight]
  exact ⟨rfl, hjoined⟩

/-! ## Following one behind the other -/

variable {p q w : Place} {misfit : Step.Misfit}

theorem follow_andThen_eq_ok_iff : (s.andThen t).follow p = .ok q ↔
    ∃ w v, s.follow p = .ok w ∧ t.follow (.root w.node) = .ok v ∧ q = v.within w.position := by
  simp only [follow_eq_ok_iff, exists_and_left]
  refine Step.leads_append_iff.trans (exists_congr fun w => and_congr_right fun _ => ?_)
  exact Step.leads_iff_root

theorem follow_andThen_of_first_error (h : s.follow p = .error (.ofMisfit s.source before misfit)) :
    (s.andThen t).follow p = .error (.ofMisfit (s.andThen t).source before misfit) := by
  obtain ⟨before', step, after, w, misfit', hsteps, hbefore, hmisfit, he⟩ :=
    follow_eq_error_iff.1 h
  obtain ⟨-, rfl, rfl⟩ := Error.ofMisfit_inj he
  refine follow_eq_error_iff.2
    ⟨before, step, after ++ t.steps, w, misfit, ?_, hbefore, hmisfit, rfl⟩
  unfold andThen
  rw [hsteps, List.append_assoc, List.cons_append]

theorem follow_andThen_of_second_error (hs : s.follow p = .ok w)
    (h : t.follow (.root w.node) = .error (.ofMisfit t.source before misfit)) :
    (s.andThen t).follow p
      = .error (.ofMisfit (s.andThen t).source (s.steps ++ before) misfit) := by
  obtain ⟨before', step, after, v, misfit', hsteps, hbefore, hmisfit, he⟩ :=
    follow_eq_error_iff.1 h
  obtain ⟨-, rfl, rfl⟩ := Error.ofMisfit_inj he
  refine follow_eq_error_iff.2
    ⟨s.steps ++ before, step, after, v.within w.position, misfit, ?_, ?_, ?_, rfl⟩
  · unfold andThen
    rw [hsteps, List.append_assoc]
  · exact Step.leads_append_iff.2
      ⟨w, follow_eq_ok_iff.1 hs, Step.leads_iff_root.2 ⟨v, hbefore, rfl⟩⟩
  · rw [Step.follow_within, hmisfit]
    rfl

theorem follow_andThen_eq_error_iff {e : Error} : (s.andThen t).follow p = .error e ↔
    (∃ before misfit, s.follow p = .error (.ofMisfit s.source before misfit) ∧
      e = .ofMisfit (s.andThen t).source before misfit) ∨
    ∃ w before misfit, s.follow p = .ok w ∧
      t.follow (.root w.node) = .error (.ofMisfit t.source before misfit) ∧
      e = .ofMisfit (s.andThen t).source (s.steps ++ before) misfit := by
  constructor
  · intro h
    cases hs : s.follow p with
    | error e₁ =>
      obtain ⟨before, misfit, rfl⟩ := exists_misfit hs
      have hjoined := follow_andThen_of_first_error (t := t) hs
      exact .inl ⟨before, misfit, rfl, Except.error.inj (h.symm.trans hjoined)⟩
    | ok w =>
      cases ht : t.follow (.root w.node) with
      | error e₂ =>
        obtain ⟨before, misfit, rfl⟩ := exists_misfit ht
        have hjoined := follow_andThen_of_second_error hs ht
        exact .inr ⟨w, before, misfit, rfl, ht, Except.error.inj (h.symm.trans hjoined)⟩
      | ok v => cases h.symm.trans (follow_andThen_eq_ok_iff.2 ⟨w, v, hs, ht, rfl⟩)
  · rintro (⟨before, misfit, hs, rfl⟩ | ⟨w, before, misfit, hs, ht, rfl⟩)
    · exact follow_andThen_of_first_error hs
    · exact follow_andThen_of_second_error hs ht

/-- Two selectors that have been read, one behind the other, are read as the one that has the
steps of both. It leads to the place to which the second one leads in what the first one finds.
It fails as the first one does, or else as the second one does, with the steps of the first before
those that have been followed. -/
theorem composition_exact {text text' : String} {s t : Selector} (hs : read text = .ok s)
    (ht : read text' = .ok t) :
    (∃ rest, t.source.toList = '$' :: rest ∧
      (s.andThen t).source = s.source ++ String.ofList rest ∧
      (s.andThen t).steps = s.steps ++ t.steps ∧
      read (s.andThen t).source = .ok (s.andThen t)) ∧
    ∀ d : Document,
      (∀ q, (s.andThen t).follow (.root d) = .ok q ↔ ∃ w v, s.follow (.root d) = .ok w ∧
        t.follow (.root w.node) = .ok v ∧ q = ⟨v.node, w.position ++ v.position⟩) ∧
      ∀ e, (s.andThen t).follow (.root d) = .error e ↔
        (∃ before misfit, s.follow (.root d) = .error (.ofMisfit s.source before misfit) ∧
          e = .ofMisfit (s.andThen t).source before misfit) ∨
        ∃ w before misfit, s.follow (.root d) = .ok w ∧
          t.follow (.root w.node) = .error (.ofMisfit t.source before misfit) ∧
          e = .ofMisfit (s.andThen t).source (s.steps ++ before) misfit := by
  refine ⟨?_, fun d => ⟨fun q => follow_andThen_eq_ok_iff, fun e => follow_andThen_eq_error_iff⟩⟩
  obtain ⟨-, hdollar, -⟩ := read_source ht
  obtain ⟨rest, hrest⟩ := List.head?_eq_some_iff.1 hdollar
  refine ⟨rest, hrest, ?_, rfl, read_andThen hs ht⟩
  unfold andThen
  rw [hrest, List.tail_cons]

/-- Behind a name, an index that is out of bounds. -/
theorem composition_exact_bounds :
    let s : Selector := ⟨"$.a", [.property "a"]⟩
    let t : Selector := ⟨"$[*][07]", [.every, .index 7]⟩
    let d : Document := .object [("a", .array [.null])]
    (read "$.a" = .ok s ∧ read " $[*][07] " = .ok t) ∧
      read (s.andThen t).source = .ok (s.andThen t) ∧
      (s.andThen t).follow (.root d)
        = .error (.outOfBounds (s.andThen t).source [.property "a", .every] 7 1) := by
  intro s t d
  have hs : read "$.a" = .ok s := by decide +kernel
  have ht : read " $[*][07] " = .ok t := by decide +kernel
  obtain ⟨⟨rest, -, -, -, hread⟩, hfollow⟩ := composition_exact hs ht
  refine ⟨⟨hs, ht⟩, hread, ((hfollow d).2 _).2 (.inr ?_)⟩
  exact ⟨⟨.array [.null], [.member "a"]⟩, [.every], .outOfBounds 7 1, rfl, rfl, rfl⟩

end Selector

end Reshape
