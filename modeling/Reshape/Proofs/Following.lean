import Reshape.Proofs.SelectorText
import Reshape.Selector.Walk

/-!
# Where steps lead

`Leads` relates the two ends of a path of steps, whatever selector the steps are of. A selector
leads where its steps do, `follow_eq_ok_iff`, or some of its steps lead to a place where the next
one does not fit, `follow_eq_error_iff`. What a failure says of that place is true, and the path
that it prints is a selector that leads there: `failure_exact`.
-/

namespace Reshape

/-- The steps lead from one place to another. -/
inductive Step.Leads : List Step → Place → Place → Prop where
  | nil (p : Place) : Leads [] p p
  | cons {step : Step} {steps : List Step} {p q r : Place} (h : step.follow p = .ok q)
      (hrest : Leads steps q r) : Leads (step :: steps) p r

namespace Step

variable {step : Step} {before after steps : List Step} {p q r : Place}

theorem leads_append_iff : Leads (before ++ after) p r ↔ ∃ q, Leads before p q ∧ Leads after q r := by
  constructor
  · intro h
    induction before generalizing p with
    | nil => exact ⟨p, .nil p, h⟩
    | cons step before ih =>
      cases h with
      | cons h hrest =>
        obtain ⟨q, hbefore, hafter⟩ := ih hrest
        exact ⟨q, .cons h hbefore, hafter⟩
  · rintro ⟨q, hbefore, hafter⟩
    induction hbefore with
    | nil => exact hafter
    | cons h _ ih => exact .cons h (ih hafter)

theorem Leads.unique (hq : Leads steps p q) (hr : Leads steps p r) : q = r := by
  induction hq with
  | nil =>
    cases hr
    rfl
  | cons h _ ih =>
    cases hr with
    | cons h' hrest =>
      obtain rfl := Except.ok.inj (h.symm.trans h')
      exact ih hrest

/-- Steps that go on with one that does not fit lead nowhere. -/
theorem not_leads_of_error {misfit : Misfit} (hq : Leads before p q)
    (hstep : step.follow q = .error misfit) : ¬ Leads (before ++ step :: after) p r := by
  intro h
  obtain ⟨q', hq', hrest⟩ := leads_append_iff.1 h
  obtain rfl := hq.unique hq'
  cases hrest with
  | cons h _ => cases hstep.symm.trans h

/-- No longer part of the steps than that before the one that does not fit leads anywhere. -/
theorem not_leads_of_longer {misfit : Misfit} {longer : List Step} (hq : Leads before p q)
    (hstep : step.follow q = .error misfit) (hlonger : longer <+: before ++ step :: after)
    (hlength : before.length < longer.length) : ¬ Leads longer p r := by
  have hpart : before ++ [step] <+: before ++ step :: after :=
    ⟨after, by rw [List.append_assoc, List.singleton_append]⟩
  have hle : (before ++ [step]).length ≤ longer.length := by
    rw [List.length_append, List.length_singleton]
    exact hlength
  obtain ⟨more, rfl⟩ := List.prefix_of_prefix_length_le hpart hlonger hle
  rw [List.append_assoc, List.singleton_append]
  exact not_leads_of_error hq hstep

/-! ## Steps that do not fit -/

/-- The kind of node that a step goes on from. -/
def expectedKind : Step → Document.Kind
  | property _ => .object
  | index _ => .array
  | every => .array

theorem follow_eq_missingKey_iff {key : String} : step.follow p = .error (.missingKey key)
    ↔ step = .property key ∧ ∃ entries, p.node = .object entries ∧
      Document.find? entries key = none := by
  obtain ⟨node, position⟩ := p
  unfold follow
  constructor
  · intro h
    split at h
    · rename_i name entries hnode
      split at h
      · cases h
      · rename_i hnone
        cases h
        exact ⟨rfl, entries, hnode, hnone⟩
    · split at h <;> cases h
    · cases h
    · cases h
  · rintro ⟨rfl, entries, hnode, hnone⟩
    obtain rfl : node = .object entries := hnode
    simp only [hnone]

theorem follow_eq_outOfBounds_iff {i n : Nat} : step.follow p = .error (.outOfBounds i n)
    ↔ step = .index i ∧ ∃ items, p.node = .array items ∧ items.length = n ∧ n ≤ i := by
  obtain ⟨node, position⟩ := p
  unfold follow
  constructor
  · intro h
    split at h
    · split at h <;> cases h
    · rename_i items hnode
      split at h
      · cases h
      · rename_i hnone
        cases h
        exact ⟨rfl, items, hnode, rfl, List.getElem?_eq_none_iff.1 hnone⟩
    · cases h
    · cases h
  · rintro ⟨rfl, items, hnode, rfl, hi⟩
    obtain rfl : node = .array items := hnode
    simp only [List.getElem?_eq_none hi]

theorem follow_of_kind_ne (h : p.node.kind ≠ step.expectedKind) :
    step.follow p = .error (.mismatch step p.node.kind) := by
  unfold follow
  split
  · rename_i hnode
    exact absurd (congrArg Document.kind hnode) h
  · rename_i hnode
    exact absurd (congrArg Document.kind hnode) h
  · rename_i hnode
    exact absurd (congrArg Document.kind hnode) h
  · rfl

theorem follow_eq_mismatch_iff {step' : Step} {found : Document.Kind} :
    step.follow p = .error (.mismatch step' found)
      ↔ p.node.kind ≠ step.expectedKind ∧ step' = step ∧ found = p.node.kind := by
  constructor
  · intro h
    have hkind : p.node.kind ≠ step.expectedKind := by
      obtain ⟨node, position⟩ := p
      intro hkind
      cases step <;> cases node <;> cases hkind <;> simp only [follow, reduceCtorEq] at h
      all_goals split at h <;> cases h
    rw [follow_of_kind_ne hkind] at h
    cases h
    exact ⟨hkind, rfl, rfl⟩
  · rintro ⟨hkind, rfl, rfl⟩
    exact follow_of_kind_ne hkind

end Step

namespace Selector

open Step (Leads)

variable {s : Selector} {steps followed : List Step} {source : String} {p q : Place} {e : Error}

theorem followFrom_eq_ok_iff : followFrom source followed steps p = .ok q ↔ Leads steps p q := by
  induction steps generalizing followed p with
  | nil =>
    refine ⟨?_, ?_⟩
    · rintro ⟨⟩
      exact .nil _
    · rintro ⟨⟩
      rfl
  | cons step steps ih =>
    unfold followFrom
    split
    · rename_i r hr
      rw [ih]
      refine ⟨.cons hr, ?_⟩
      rintro (_ | ⟨h, hrest⟩)
      obtain rfl := Except.ok.inj (hr.symm.trans h)
      exact hrest
    · rename_i misfit hmisfit
      refine ⟨nofun, ?_⟩
      rintro (_ | ⟨h, hrest⟩)
      cases hmisfit.symm.trans h

theorem followFrom_eq_error_iff :
    followFrom source followed steps p = .error e ↔ ∃ before step after q misfit,
      steps = before ++ step :: after ∧ Leads before p q ∧ step.follow q = .error misfit ∧
        e = .ofMisfit source (followed ++ before) misfit := by
  induction steps generalizing followed p with
  | nil =>
    refine ⟨nofun, ?_⟩
    rintro ⟨before, step, after, q, misfit, hsteps, -⟩
    cases before <;> cases hsteps
  | cons step steps ih =>
    unfold followFrom
    split
    · rename_i r hr
      rw [ih]
      constructor
      · rintro ⟨before, step', after, q, misfit, rfl, hbefore, hmisfit, rfl⟩
        refine ⟨step :: before, step', after, q, misfit, rfl, .cons hr hbefore, hmisfit, ?_⟩
        rw [List.append_assoc, List.singleton_append]
      · rintro ⟨before, step', after, q, misfit, hsteps, hbefore, hmisfit, rfl⟩
        cases hbefore with
        | nil =>
          obtain ⟨rfl, rfl⟩ := List.cons.inj hsteps
          cases hr.symm.trans hmisfit
        | @cons _ before _ _ _ h hrest =>
          obtain ⟨rfl, rfl⟩ := List.cons.inj hsteps
          obtain rfl := Except.ok.inj (hr.symm.trans h)
          refine ⟨before, step', after, q, misfit, rfl, hrest, hmisfit, ?_⟩
          rw [List.append_assoc, List.singleton_append]
    · rename_i misfit hmisfit
      constructor
      · intro h
        cases h
        exact ⟨[], step, steps, _, misfit, rfl, .nil _, hmisfit, by rw [List.append_nil]⟩
      · rintro ⟨before, step', after, q, misfit', hsteps, hbefore, hmisfit', rfl⟩
        cases hbefore with
        | nil =>
          obtain ⟨rfl, rfl⟩ := List.cons.inj hsteps
          obtain rfl := Except.error.inj (hmisfit.symm.trans hmisfit')
          rw [List.append_nil]
        | cons h _ =>
          obtain ⟨rfl, -⟩ := List.cons.inj hsteps
          cases hmisfit.symm.trans h

theorem follow_eq_ok_iff : s.follow p = .ok q ↔ Leads s.steps p q := followFrom_eq_ok_iff

theorem follow_eq_error_iff : s.follow p = .error e ↔ ∃ before step after q misfit,
    s.steps = before ++ step :: after ∧ Leads before p q ∧ step.follow q = .error misfit ∧
      e = .ofMisfit s.source before misfit := followFrom_eq_error_iff

theorem exists_misfit (h : s.follow p = .error e) :
    ∃ before misfit, e = .ofMisfit s.source before misfit := by
  obtain ⟨before, -, -, -, misfit, -, -, -, he⟩ := follow_eq_error_iff.1 h
  exact ⟨before, misfit, he⟩

/-! ## Where a selector fails -/

def printed (steps : List Step) : Selector := ⟨String.ofList (renderSteps steps), steps⟩

theorem Error.ofMisfit_inj {source source' : String} {before before' : List Step}
    {misfit misfit' : Step.Misfit}
    (h : ofMisfit source before misfit = ofMisfit source' before' misfit') :
    source = source' ∧ before = before' ∧ misfit = misfit' := by
  cases misfit <;> cases misfit' <;> cases h <;> exact ⟨rfl, rfl, rfl⟩

/-- Each failure names the selector and prints the steps that have been followed. -/
theorem Error.message_ofMisfit (source : String) (before : List Step) (misfit : Step.Misfit) :
    ∃ complaint, (ofMisfit source before misfit).message = failedAt source before ++ complaint := by
  cases misfit with
  | missingKey key =>
    refine ⟨"no property '" ++ (key ++ "'"), ?_⟩
    simp only [← String.append_assoc]
    rfl
  | outOfBounds i n =>
    refine ⟨"index " ++ (decimalText i ++ (" out of bounds (length " ++ (decimalText n ++ ")"))), ?_⟩
    simp only [← String.append_assoc]
    rfl
  | mismatch step found =>
    refine ⟨"'" ++ (step.text ++ ("' expects " ++ (step.expects ++ (", found " ++ found.name)))), ?_⟩
    simp only [← String.append_assoc]
    rfl

/-- A selector that was read and fails on a document prints a path in its message. That path is a
selector itself, it leads to a place, and no longer part of the steps leads anywhere. What the
failure says is what is the case of the next step at that place. -/
theorem failure_exact {text : String} {s : Selector} (hread : read text = .ok s) {d : Document}
    {e : Error} (h : s.follow (.root d) = .error e) :
    ∃ (before : List Step) (step : Step) (after : List Step) (w : Place),
      s.steps = before ++ step :: after ∧
      (∃ complaint, e.message = Error.failedAt s.source before ++ complaint) ∧
      read (printed before).source = .ok (printed before) ∧
      (printed before).follow (.root d) = .ok w ∧
      (∀ longer, longer <+: s.steps → before.length < longer.length →
        ∀ q, (printed longer).follow (.root d) ≠ .ok q) ∧
      (∀ key, e = .missingKey s.source before key
        ↔ step = .property key ∧ ∃ entries, w.node = .object entries ∧
          Document.find? entries key = none) ∧
      (∀ i n, e = .outOfBounds s.source before i n
        ↔ step = .index i ∧ ∃ items, w.node = .array items ∧ items.length = n ∧ n ≤ i) ∧
      (e = .mismatch s.source before step w.node.kind ↔ w.node.kind ≠ step.expectedKind) ∧
      ((∃ key, e = .missingKey s.source before key) ∨
        (∃ i n, e = .outOfBounds s.source before i n) ∨
        e = .mismatch s.source before step w.node.kind) := by
  obtain ⟨before, step, after, w, misfit, hsteps, hbefore, hmisfit, rfl⟩ :=
    follow_eq_error_iff.1 h
  have hwritten : ∀ step ∈ before, step.CanBeWritten := by
    intro step hstep
    refine canBeWritten_of_read hread step ?_
    rw [hsteps]
    exact List.mem_append_left _ hstep
  have hdue (misfit' : Step.Misfit) : Error.ofMisfit s.source before misfit
      = .ofMisfit s.source before misfit' ↔ step.follow w = .error misfit' := by
    rw [hmisfit]
    refine ⟨fun h => ?_, fun h => ?_⟩
    · rw [(Error.ofMisfit_inj h).2.2]
    · rw [Except.error.inj h]
  refine ⟨before, step, after, w, hsteps, Error.message_ofMisfit _ _ _,
    read_renderSteps_iff.2 hwritten, follow_eq_ok_iff.2 hbefore, ?_, fun key => ?_, fun i n => ?_,
    ?_, ?_⟩
  · intro longer hlonger hlength q hq
    exact Step.not_leads_of_longer hbefore hmisfit (hsteps ▸ hlonger) hlength
      (follow_eq_ok_iff.1 hq)
  · exact (hdue (.missingKey key)).trans Step.follow_eq_missingKey_iff
  · exact (hdue (.outOfBounds i n)).trans Step.follow_eq_outOfBounds_iff
  · refine (hdue (.mismatch step w.node.kind)).trans (Step.follow_eq_mismatch_iff.trans ?_)
    exact and_iff_left ⟨rfl, rfl⟩
  · cases misfit with
    | missingKey key => exact .inl ⟨key, rfl⟩
    | outOfBounds i n => exact .inr (.inl ⟨i, n, rfl⟩)
    | mismatch step' found =>
      obtain ⟨-, rfl, rfl⟩ := Step.follow_eq_mismatch_iff.1 hmisfit
      exact .inr (.inr rfl)

/-- A missing key behind an index with a leading zero, which is printed without it. -/
theorem failure_exact_padded :
    let s : Selector := ⟨"$.a[*][01].b", [.property "a", .every, .index 1, .property "b"]⟩
    let d : Document := .object [("a", .array [.null, .object [("c", .null)]])]
    let e : Error := .missingKey s.source [.property "a", .every, .index 1] "b"
    read " $.a[*][01].b" = .ok s ∧ s.follow (.root d) = .error e ∧
      ∃ (before : List Step) (step : Step) (w : Place),
        (∃ complaint, e.message = Error.failedAt s.source before ++ complaint) ∧
        read (printed before).source = .ok (printed before) ∧
        (printed before).follow (.root d) = .ok w ∧
        (e = .missingKey s.source before "b" ↔ step = .property "b" ∧
          ∃ entries, w.node = .object entries ∧ Document.find? entries "b" = none) := by
  intro s d e
  have hread : read " $.a[*][01].b" = .ok s := by decide +kernel
  have hfails : s.follow (.root d) = .error e := rfl
  obtain ⟨before, step, -, w, -, hmessage, hprinted, hw, -, hkey, -⟩ :=
    failure_exact hread hfails
  exact ⟨hread, hfails, before, step, w, hmessage, hprinted, hw, hkey "b"⟩

end Selector

end Reshape
