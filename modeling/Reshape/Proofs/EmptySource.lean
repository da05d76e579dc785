import Reshape.Proofs.Locality

/-!
# Applying a template to nothing

An application whose source is null or the empty array, or is missing in a permissive run,
gives the empty array and does not fail itself: `run_apply_nothing`. The limit on depth is
checked before the source is looked at, though, so that such an application is refused like any
other one where as many stand around it as the limit allows: `run_apply_refused`.
-/

namespace Reshape

def Document.IsNothing (d : Document) : Prop := d = .null ∨ d = .array []

namespace Transform

/-- What an application finds at a place is nothing. In a permissive run its selector may fail,
and that failure is passed over. -/
inductive FindsNothing (c : Conditions) (p : Place) : Option Selector → List Failure → Prop
  | here (h : p.node.IsNothing) : FindsNothing c p none []
  | found {path : Selector} {q : Place} (h : path.follow p = .ok q) (hq : q.node.IsNothing) :
      FindsNothing c p (some path) []
  | missing {path : Selector} {e : Selector.Error} (hm : c.mode = .permissive)
      (h : path.follow p = .error e) : FindsNothing c p (some path) [.selector e]

theorem applyTo_nothing {p : Place} {q : Reach p} (h : q.1.node.IsNothing)
    (enter : Reach p → Attempt Failure (Option Document)) :
    applyTo enter (some q) = ⟨.ok (some (.array [])), []⟩ := by
  obtain ⟨⟨node, position⟩, hq⟩ := q
  rcases h with h | h
  · obtain rfl : node = .null := h
    rfl
  · obtain rfl : node = .array [] := h
    rfl

theorem select_of_ok {c : Conditions} {p q : Place} {path : Selector} (h : path.follow p = .ok q) :
    (c.select path p : Attempt Failure (Option (Reach p)))
      = ⟨.ok (some ⟨q, Selector.follow_reaches h⟩), []⟩ := by
  unfold Conditions.select
  split
  · rename_i q' hq
    obtain rfl := Except.ok.inj (h.symm.trans hq)
    rfl
  · rename_i e he
    cases h.symm.trans he

theorem select_of_error {c : Conditions} {p : Place} {path : Selector} {e : Selector.Error}
    (h : path.follow p = .error e) :
    (c.select path p : Attempt Failure (Option (Reach p))) = c.settled (.selector e) := by
  unfold Conditions.select
  split
  · rename_i q hq
    cases h.symm.trans hq
  · rename_i e' he
    obtain rfl := Except.error.inj (h.symm.trans he)
    rfl

theorem settled_permissive {α : Type} {c : Conditions} (hm : c.mode = .permissive) (e : Failure) :
    (c.settled e : Attempt Failure (Option α)) = ⟨.ok none, [e]⟩ := by
  unfold Conditions.settled
  rw [hm]
  rfl

theorem settled_strict {α : Type} {c : Conditions} (hm : c.mode = .strict) (e : Failure) :
    (c.settled e : Attempt Failure (Option α)) = ⟨.error e, []⟩ := by
  unfold Conditions.settled
  rw [hm]
  rfl

theorem FindsNothing.source_eq {c : Conditions} {p : Place} {path : Option Selector}
    {passed : List Failure} (h : FindsNothing c p path passed) :
    ∃ source : Option (Reach p),
      (c.source path p : Attempt Failure (Option (Reach p))) = ⟨.ok source, passed⟩ ∧
      ∀ enter : Reach p → Attempt Failure (Option Document),
        applyTo enter source = ⟨.ok (some (.array [])), []⟩ := by
  cases h with
  | here h => exact ⟨some ⟨p, .refl p⟩, rfl, applyTo_nothing h⟩
  | found h hq => exact ⟨_, select_of_ok h, applyTo_nothing hq⟩
  | missing hm h => exact ⟨none, (select_of_error h).trans (settled_permissive hm _), fun _ => rfl⟩

variable {s : Setting} {chain : Chain} {v : View} {name : String} {path : Option Selector}
  {passed : List Failure}

theorem run_apply_of_source (chain : Chain) (hname : name ∈ s.spec.names)
    {source : Option (Reach v.place)}
    (hs : (s.source path v.place : Attempt Failure (Option (Reach v.place))) = ⟨.ok source, passed⟩) :
    ∃ enter, (s.run chain v (.apply name path) : Attempt Failure (Option Document))
      = ⟨.ok source, passed⟩ >>= s.applyAt (chain.length + 1) name enter := by
  obtain ⟨t, ht⟩ := Spec.exists_template?_of_mem_names hname
  refine ⟨s.enter true s.run chain v ⟨name, t, ht⟩, ?_⟩
  rw [Setting.run_eq_level]
  unfold Setting.level Setting.body Conditions.application
  rw [hs, Setting.known?_of_some ht]

/-- Where an application is not too deep, it gives the empty array if it finds nothing. -/
theorem run_apply_nothing (hname : name ∈ s.spec.names)
    (h : FindsNothing s.toConditions v.place path passed)
    (hd : ∀ limit, s.limit = some limit → chain.length < limit) :
    (s.run chain v (.apply name path) : Attempt Failure (Option Document))
      = ⟨.ok (some (.array [])), passed⟩ := by
  obtain ⟨source, hsource, hnothing⟩ := h.source_eq
  obtain ⟨enter, hrun⟩ := run_apply_of_source chain hname hsource
  have happly : s.applyAt (chain.length + 1) name enter source = ⟨.ok (some (.array [])), []⟩ := by
    unfold Conditions.applyAt
    rw [exceeds_eq_none_iff.2 hd]
    exact hnothing enter
  rw [hrun, Attempt.bind_ok, happly, List.append_nil]

/-- Where an application is too deep, it is refused for that, whatever its source is. -/
theorem run_apply_refused (hname : name ∈ s.spec.names) {source : Option (Reach v.place)}
    (hs : (s.source path v.place : Attempt Failure (Option (Reach v.place))) = ⟨.ok source, passed⟩)
    {limit : Nat} (hl : s.limit = some limit) (hd : limit ≤ chain.length) :
    (s.run chain v (.apply name path) : Attempt Failure (Option Document))
      = ⟨.ok source, passed⟩ >>= fun _ => s.settled (.tooDeep name (chain.length + 1) limit) := by
  obtain ⟨enter, hrun⟩ := run_apply_of_source chain hname hs
  have happly : s.applyAt (chain.length + 1) name enter
      = fun _ => s.settled (.tooDeep name (chain.length + 1) limit) := by
    funext source'
    unfold Conditions.applyAt
    rw [exceeds_eq_some_iff.2 ⟨hl, Nat.lt_succ_of_le hd⟩]
  rw [hrun, happly]

/-- An application of a template to nothing is too deep within one other, where the limit is one:
it is refused, and it fails a strict run. Without the limit it gives the empty array. -/
theorem empty_source_too_deep :
    let next : Selector := ⟨"$.next", [.property "next"]⟩
    let spec : Spec := ⟨[⟨some "a", none, .object [("next", .apply "a" (some next))]⟩],
      .apply "a" none, []⟩
    let d : Document := .object [("next", .null)]
    let setting (mode : Mode) (limit : Option Nat) : Setting := ⟨⟨mode, .empty, limit⟩, spec⟩
    let run (mode : Mode) (limit : Option Nat) : Attempt Failure Document :=
      (setting mode limit).start none d
    ("a" ∈ spec.names ∧ ∀ mode limit,
      FindsNothing (setting mode limit).toConditions (.root d) (some next) []) ∧
      (setting .strict (some 1)).run [⟨"a", []⟩] (.ofDocument d) (.apply "a" (some next))
        = (⟨.error (.tooDeep "a" 2 1), []⟩ : Attempt Failure (Option Document)) ∧
      run .strict (some 1) = ⟨.error (.tooDeep "a" 2 1), []⟩ ∧
      run .permissive (some 1) = ⟨.ok (.object []), [.tooDeep "a" 2 1]⟩ ∧
      run .strict none = ⟨.ok (.object [("next", .array [])]), []⟩ := by
  intro next spec d setting run
  have hname : "a" ∈ spec.names := List.mem_singleton.2 rfl
  have hfinds (mode : Mode) (limit : Option Nat) :
      FindsNothing (setting mode limit).toConditions (.root d) (some next) [] :=
    .found rfl (.inl rfl)
  refine ⟨⟨hname, hfinds⟩, ?_, ?_, ?_, ?_⟩
  · obtain ⟨source, hsource, -⟩ := (hfinds .strict (some 1)).source_eq
    exact run_apply_refused (s := setting .strict (some 1)) (v := .ofDocument d) hname hsource rfl
      (Nat.le_refl 1)
  · exact start_of_startWithin 2 rfl
  · exact start_of_startWithin 2 rfl
  · exact start_of_startWithin 2 rfl

/-- An application of a defined template to nothing gives the empty array and passes over no
failure but that of its selector, unless as many applications stand around it as the limit
allows. Then it is refused for its depth. Where it gives the empty array and its selector does
not fail, it can be exchanged for that literal in any body. -/
theorem empty_source_exact (s : Setting) (chain : Chain) (v : View) (name : String)
    (path : Option Selector) (passed : List Failure) (hname : name ∈ s.spec.names)
    (h : FindsNothing s.toConditions v.place path passed) :
    let applied : Attempt Failure (Option Document) := s.run chain v (.apply name path)
    ((∀ limit, s.limit = some limit → chain.length < limit) →
      applied = ⟨.ok (some (.array [])), passed⟩ ∧
      (passed = [] → ∀ (o : Output) (position : Position),
        (s.run chain v (o.replaceAt (.apply name path) position)
            : Attempt Failure (Option Document))
          = s.run chain v (o.replaceAt (.literal (.array [])) position))) ∧
    ∀ limit, s.limit = some limit → limit ≤ chain.length →
      (s.mode = .strict → applied = ⟨.error (.tooDeep name (chain.length + 1) limit), passed⟩) ∧
      (s.mode = .permissive →
        applied = ⟨.ok none, passed ++ [.tooDeep name (chain.length + 1) limit]⟩) := by
  intro applied
  refine ⟨fun hd => ?_, fun limit hl hd => ?_⟩
  · have happlied : applied = ⟨.ok (some (.array [])), passed⟩ := run_apply_nothing hname h hd
    refine ⟨happlied, ?_⟩
    rintro rfl o position
    refine run_replaceAt_congr ?_ position o
    rw [Setting.run_eq_level s chain v (.literal (.array []))]
    exact happlied
  · obtain ⟨source, hsource, -⟩ := h.source_eq
    have hrefused : applied = _ := run_apply_refused hname hsource hl hd
    refine ⟨fun hm => ?_, fun hm => ?_⟩
    · rw [hrefused, settled_strict hm, Attempt.bind_ok, List.append_nil]
    · rw [hrefused, settled_permissive hm, Attempt.bind_ok]

/-- A missing source, within one other application: the empty array with a limit of two, and a
refusal with a limit of one. -/
theorem empty_source_exact_missing :
    let next : Selector := ⟨"$.next", [.property "next"]⟩
    let spec : Spec := ⟨[⟨some "a", none, .object [("next", .apply "a" (some next))]⟩],
      .apply "a" none, []⟩
    let d : Document := .object []
    let setting (limit : Nat) : Setting := ⟨⟨.permissive, .empty, some limit⟩, spec⟩
    let applied (limit : Nat) : Attempt Failure (Option Document) :=
      (setting limit).run [⟨"a", []⟩] (.ofDocument d) (.apply "a" (some next))
    let missing : Failure := .selector (.missingKey "$.next" [] "next")
    ("a" ∈ spec.names ∧ ∀ limit,
      FindsNothing (setting limit).toConditions (.root d) (some next) [missing]) ∧
      applied 2 = ⟨.ok (some (.array [])), [missing]⟩ ∧
      applied 1 = ⟨.ok none, [missing, .tooDeep "a" 2 1]⟩ := by
  intro next spec d setting applied missing
  have hname : "a" ∈ spec.names := List.mem_singleton.2 rfl
  have hfinds (limit : Nat) :
      FindsNothing (setting limit).toConditions (.root d) (some next) [missing] :=
    .missing rfl rfl
  have hexact (limit : Nat) :=
    empty_source_exact (setting limit) [⟨"a", []⟩] (.ofDocument d) "a" (some next) [missing] hname
      (hfinds limit)
  refine ⟨⟨hname, hfinds⟩, ?_, ?_⟩
  · refine ((hexact 2).1 ?_).1
    rintro _ ⟨⟩
    exact Nat.lt_succ_self 1
  · exact ((hexact 1).2 1 rfl (Nat.le_refl 1)).2 rfl

end Transform

end Reshape
