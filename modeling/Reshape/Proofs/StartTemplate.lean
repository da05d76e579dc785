import Reshape.Proofs.DepthLimit
import Reshape.Proofs.Revisiting

/-!
# Starting with a template

A run that is started with a template evaluates its body outside all applications. If
the root body applies the template to the document instead, the same body is evaluated
within one application: all that follows stands one level deeper, and the template is
not applied to the document again. `run_oneDeeper` relates the two evaluations, and
`start_is_application` says when the two runs come to the same.
-/

namespace Reshape

def Attempt.mapFailures {ε δ α : Type} (f : ε → δ) (x : Attempt ε α) : Attempt δ α :=
  ⟨x.result.mapError f, x.dropped.map f⟩

namespace Attempt

variable {ε δ α β : Type}

theorem failures_mapFailures (f : ε → δ) (x : Attempt ε α) :
    (x.mapFailures f).failures = x.failures.map f := by
  obtain ⟨result, dropped⟩ := x
  cases result <;> simp [failures, mapFailures, Except.mapError]

theorem mapFailures_bind (f : ε → δ) (x : Attempt ε α) (g : α → Attempt ε β) :
    (x >>= g).mapFailures f = x.mapFailures f >>= fun a => (g a).mapFailures f := by
  obtain ⟨result, dropped⟩ := x
  cases result with
  | error e => rfl
  | ok a =>
    show mapFailures f ⟨(g a).result, dropped ++ (g a).dropped⟩
      = ⟨((g a).mapFailures f).result, dropped.map f ++ ((g a).mapFailures f).dropped⟩
    simp [mapFailures]

theorem mapFailures_settle (f : ε → δ) (mode : Mode) (a : α) (x : Attempt ε α) :
    (settle mode a x).mapFailures f = settle mode a (x.mapFailures f) := by
  obtain ⟨result, dropped⟩ := x
  cases mode <;> cases result
  · rfl
  · rfl
  · show mapFailures f ⟨.ok a, dropped ++ [_]⟩ = ⟨.ok a, dropped.map f ++ [_]⟩
    simp [mapFailures, Except.mapError]
  · rfl

theorem mapFailures_of_fixed {f : ε → ε} {x : Attempt ε α} (h : ∀ e ∈ x.failures, f e = e) :
    x.mapFailures f = x := by
  obtain ⟨result, dropped⟩ := x
  have hd : dropped.map f = dropped := by
    rw [List.map_congr_left (g := id) fun e he => h e (List.mem_append_left _ he), List.map_id]
  cases result with
  | ok a => simp [mapFailures, Except.mapError, hd]
  | error e =>
    have he : f e = e := h e (List.mem_append_right _ (List.mem_singleton_self e))
    simp [mapFailures, Except.mapError, hd, he]

theorem forall_failures_convert {Q : ε → Prop} (x : Attempt ε α) (f : α → β) :
    (∀ e ∈ (x >>= fun a => pure (f a)).failures, Q e) ↔ ∀ e ∈ x.failures, Q e := by
  rw [forall_failures_bind]
  refine ⟨fun h => h.1, fun h => ⟨h, ?_⟩⟩
  intro a _ e he
  exact absurd he (List.not_mem_nil)

end Attempt

theorem Budgeted.pure_bind {ε α β : Type} (a : α) (f : α → Budgeted ε β) :
    (pure a >>= f) = f a := by
  show Budgeted.bind (done ⟨.ok a, []⟩) f = f a
  unfold Budgeted.bind done
  dsimp only
  cases f a <;> rfl

def Spec.withRoot (s : Spec) (root : Output) : Spec := { s with root := root }

namespace Transform

/-! ## The root body -/

/-- A run does not depend on the root body beside the node that it evaluates. -/
theorem run_withRoot {m : Type → Type} [Settling m] [Failing Failure m] (c : Conditions)
    (spec : Spec) (root : Output) (chain : Chain) (v : View) (o : Output) :
    (Setting.run ⟨c, spec.withRoot root⟩ chain v o : m (Option Document))
      = Setting.run ⟨c, spec⟩ chain v o := by
  have hall : ∀ o, AppliesOnly (fun _ => True) o := .of_forall fun _ => trivial
  have h : LocalAgreement (Same (m := m)) v.root c c := Same.localAgreement v.root c
  have hbody (name : String) : ((spec.withRoot root).template? name).map Template.output
      = (spec.template? name).map Template.output := rfl
  exact Same.run_congr (h.on fun _ => True) rfl rfl (fun name _ => hbody name)
    (fun _ t _ _ => hall t.output) (fun _ _ _ _ _ => trivial) chain (hall o) fun _ _ => trivial

/-! ## One level deeper -/

/-- The failure as it is reported within one more application, of which the limit allows
one more. -/
def Failure.oneDeeper : Failure → Failure
  | tooDeep name depth limit => tooDeep name (depth + 1) (limit + 1)
  | cycle name depth => cycle name (depth + 1)
  | e => e

theorem Failure.oneDeeper_of_not {e : Failure} (hc : ¬ e.oneDeeper.IsCycle)
    (hd : ¬ e.oneDeeper.IsTooDeep) : e.oneDeeper = e := by
  cases e with
  | selector _ | expression _ | unknownTemplate _ => rfl
  | tooDeep name depth limit => exact absurd ⟨name, depth + 1, limit + 1, rfl⟩ hd
  | cycle name depth => exact absurd ⟨name, depth + 1, rfl⟩ hc

/-- If the second attempt meets no cycle, it is the first one within one more application. -/
def OneDeeper : Relator (Attempt Failure) (Attempt Failure) :=
  fun α x y => UnchangedIf (fun e => ¬ e.IsCycle) α y (x.mapFailures Failure.oneDeeper)

namespace OneDeeper

theorem bind {α β : Type} {x y : Attempt Failure α} {f g : α → Attempt Failure β}
    (hx : OneDeeper α x y) (hf : ∀ a, OneDeeper β (f a) (g a)) :
    OneDeeper β (x >>= f) (y >>= g) := by
  unfold OneDeeper
  rw [Attempt.mapFailures_bind]
  exact UnchangedIf.bind hx hf

theorem settle (mode : Mode) {α : Type} (a : α) {x y : Attempt Failure α}
    (h : OneDeeper α x y) : OneDeeper α (settle mode a x) (settle mode a y) := by
  intro hq
  rw [Attempt.failures_settle] at hq
  rw [Attempt.mapFailures_settle, ← h hq]

theorem agreement {root : Document} {c d : Conditions} (hm : c.mode = d.mode)
    (ho : c.registry = d.registry) : Agreement OneDeeper root c d :=
  .ofExpression (hm ▸ ⟨⟨fun _ _ => rfl, bind⟩, fun _ _ => rfl, settle c.mode⟩) (fun _ _ => rfl)
    (fun _ _ => rfl) ho

/-- A refused revisit is a cycle, so that nothing is said of what the first attempt gives. -/
theorem of_cycle {α : Type} {c : Conditions} (name : String) (depth : Nat)
    (x : Attempt Failure (Option α)) : OneDeeper _ x (c.settled (.cycle name depth)) := by
  intro hq
  refine absurd ⟨name, depth, rfl⟩ (hq (.cycle name depth) ?_)
  rw [Conditions.failures_settled]
  exact List.mem_singleton_self _

end OneDeeper

variable {c : Conditions} {spec : Spec} {d : Document} {name : String} {t : Template}

theorem exceeds_succ (limit : Option Nat) (depth : Nat) :
    (c.withLimit (limit.map (· + 1))).exceeds (depth + 1)
      = ((c.withLimit limit).exceeds depth).map (· + 1) := by
  cases limit with
  | none => rfl
  | some l =>
    rcases Nat.lt_or_ge l depth with h | h
    · rw [exceeds_eq_some.2 ⟨rfl, h⟩]
      exact exceeds_eq_some.2 ⟨rfl, Nat.succ_lt_succ h⟩
    · rw [exceeds_eq_none.2 h]
      exact exceeds_eq_none.2 (Nat.succ_le_succ h)

/-- One more application around a run changes nothing but the depths, as long as the run
does not come back to it. -/
theorem run_oneDeeper (limit : Option Nat) (outer : Link) (chain : Chain) (v : View)
    (o : Output) :
    OneDeeper _ (Setting.run ⟨c.withLimit limit, spec⟩ chain v o)
      (Setting.run ⟨c.withLimit (limit.map (· + 1)), spec⟩ (chain ++ [outer]) v o) := by
  have h : Agreement OneDeeper v.root (c.withLimit limit) (c.withLimit (limit.map (· + 1))) :=
    OneDeeper.agreement rfl rfl
  rw [Setting.run, Setting.run]
  refine h.body_agree (fun k source => ?_) o
  have hlength : (chain ++ [outer]).length = chain.length + 1 := by simp
  unfold Conditions.applyAt
  rw [hlength, exceeds_succ]
  cases (c.withLimit limit).exceeds (chain.length + 1) with
  | some l => exact .settle _ _ fun _ => rfl
  | none =>
    refine applyTo_agree h.toSequential (fun q => ?_) source
    by_cases hmem : (⟨k.name, q.1.position⟩ : Link) ∈ chain ++ [outer]
    · rw [dif_pos hmem]
      exact .of_cycle _ _ _
    · have hmem' : (⟨k.name, q.1.position⟩ : Link) ∉ chain :=
        fun hc => hmem (List.mem_append_left _ hc)
      rw [dif_neg hmem, dif_neg hmem']
      exact run_oneDeeper limit outer _ (v.goTo q.1) k.template.output
termination_by rank spec.names chain v.place
decreasing_by exact rank_lt (Spec.mem_names_of_template? k.found) q hmem'

/-! ## The two runs -/

theorem start_root : (Setting.start ⟨c, spec⟩ none d : Attempt Failure Document)
    = Setting.run ⟨c, spec⟩ [] (.ofDocument d) spec.root >>= fun v => pure (v.getD .null) :=
  rfl

theorem start_withRoot (root : Output) :
    (Setting.start ⟨c, spec.withRoot root⟩ none d : Attempt Failure Document)
      = Setting.run ⟨c, spec⟩ [] (.ofDocument d) root >>= fun v => pure (v.getD .null) := by
  rw [← run_withRoot c spec root]
  exact start_root

theorem start_template (ht : spec.template? name = some t) :
    (Setting.start ⟨c, spec⟩ (some name) d : Attempt Failure Document)
      = Setting.run ⟨c, spec⟩ [] (.ofDocument d) t.output >>= fun v => pure (v.getD .null) := by
  unfold Setting.start Setting.startWith Setting.startBody
  simp only [ht]
  rfl

theorem applyTo_root {m : Type → Type} [Monad m] (hn : d ≠ .null)
    (ha : ∀ ds, d ≠ .array ds) (enter : Reach (.root d) → m (Option Document)) :
    applyTo enter (some ⟨.root d, .refl _⟩) = enter ⟨.root d, .refl _⟩ := by
  cases d with
  | null => exact absurd rfl hn
  | array ds => exact absurd rfl (ha ds)
  | _ => rfl

section Started

variable (hn : d ≠ .null) (ha : ∀ ds, d ≠ .array ds)

include hn ha

theorem run_apply_root (ht : spec.template? name = some t) (hl : c.exceeds 1 = none) :
    (Setting.run ⟨c, spec⟩ [] (.ofDocument d) (.apply name none)
      : Attempt Failure (Option Document))
      = Setting.run ⟨c, spec⟩ [⟨name, []⟩] (.ofDocument d) t.output := by
  rw [Setting.run]
  unfold Setting.body Conditions.application
  rw [Setting.known?_of_some ht]
  show Conditions.applyAt c 1 name _ _ = _
  unfold Conditions.applyAt
  rw [hl]
  show applyTo _ (some ⟨.root d, .refl _⟩) = _
  exact (applyTo_root hn ha _).trans (dif_neg List.not_mem_nil)

theorem start_apply (ht : spec.template? name = some t) (hl : c.exceeds 1 = none) :
    (Setting.start ⟨c, spec.withRoot (.apply name none)⟩ none d : Attempt Failure Document)
      = Setting.run ⟨c, spec⟩ [⟨name, []⟩] (.ofDocument d) t.output
        >>= fun v => pure (v.getD .null) := by
  rw [← run_apply_root hn ha ht hl, start_withRoot]

/-- With a limit greater by one, the run whose root body applies the template is the run
started with it, one level deeper, if it meets no cycle. -/
theorem start_oneDeeper (limit : Option Nat) (ht : spec.template? name = some t) :
    OneDeeper _ (Setting.start ⟨c.withLimit limit, spec⟩ (some name) d)
      (Setting.start ⟨c.withLimit (limit.map (· + 1)), spec.withRoot (.apply name none)⟩
        none d) := by
  have hl : (c.withLimit (limit.map (· + 1))).exceeds 1 = none := by
    rw [exceeds_succ limit 0]
    cases limit with
    | none => rfl
    | some l => rw [exceeds_eq_none.2 (Nat.zero_le l)]; rfl
  rw [start_template ht, start_apply (c := c.withLimit (limit.map (· + 1))) hn ha ht hl]
  exact .bind (run_oneDeeper limit ⟨name, []⟩ [] _ _) fun _ _ => rfl

/-- If the root body applies the template, and no application is refused for its depth or
as a cycle, then starting with the template gives the same. -/
theorem start_eq_start_apply (limit : Option Nat) (ht : spec.template? name = some t)
    (h : ∀ e ∈ (Setting.start ⟨c.withLimit limit, spec.withRoot (.apply name none)⟩ none d
      : Attempt Failure Document).failures, ¬ e.IsCycle ∧ ¬ e.IsTooDeep) :
    (Setting.start ⟨c.withLimit limit, spec⟩ (some name) d : Attempt Failure Document)
      = Setting.start ⟨c.withLimit limit, spec.withRoot (.apply name none)⟩ none d := by
  have hlimit : (Setting.start ⟨c.withLimit limit, spec.withRoot (.apply name none)⟩ none d
      : Attempt Failure Document)
      = Setting.start ⟨c.withLimit (limit.map (· + 1)), spec.withRoot (.apply name none)⟩
        none d := by
    cases limit with
    | none => rfl
    | some l =>
      have hle : ∀ l', some (l + 1) = some l' → l ≤ l' := by
        rintro _ ⟨⟩
        exact Nat.le_succ l
      exact start_unlimited _ none hle fun e he => (h e he).2
  rw [hlimit] at h ⊢
  have heq := start_oneDeeper hn ha limit ht fun e he => (h e he).1
  rw [heq, Attempt.failures_mapFailures] at h
  rw [heq]
  refine (Attempt.mapFailures_of_fixed fun e he => ?_).symm
  obtain ⟨hc, hd⟩ := h _ (List.mem_map_of_mem he)
  exact Failure.oneDeeper_of_not hc hd

omit hn ha in
/-- Without a limit, an evaluation outside all applications meets no cycle just if it ends
without the guard against them. -/
theorem no_cycle_iff_ends {s : Setting} (hl : s.limit = none) (o : Output) :
    (∀ e ∈ (s.run [] (.ofDocument d) o : Attempt Failure (Option Document)).failures, ¬ e.IsCycle)
      ↔ ∃ n z, s.within false n [] (.ofDocument d) o = .done z := by
  have hdone : (s.run [] (.ofDocument d) o : Budgeted Failure (Option Document))
      = .done (s.run [] (.ofDocument d) o) :=
    Eq.symm (RunAgreement.run_agree (v := .ofDocument d)
      ((done_translates s.mode).runAgreement d s.toConditions) s.spec [] o)
  constructor
  · intro h
    obtain ⟨n, hn⟩ : ∃ n, room s.spec [] (.root d) < n := ⟨_, Nat.lt_succ_self _⟩
    have hext : Extends (fun e => ¬ e.IsCycle) _ (s.within true n [] (.ofDocument d) o)
        (s.within false n [] (.ofDocument d) o) :=
      within_extends (.inr ⟨rfl, fun name depth hq => hq ⟨name, depth, rfl⟩⟩) (Nat.le_refl n) [] _ o
    exact ⟨n, _, hext _ ((within_eq_run s hn o).trans hdone) h⟩
  · rintro ⟨n, z, hz⟩
    obtain ⟨heq, hcycle⟩ := run_mirrors hl (.refl _) (.nil s d n) o z hz
    rw [hdone] at heq
    rwa [Budgeted.done_injective heq]

/-- Without a limit, the two runs meet cycles alike: once in a cycle, the template comes
back to the document whether it has been applied to it before or not. -/
theorem start_cycles_iff (ht : spec.template? name = some t) :
    (∀ e ∈ (Setting.start ⟨c.withLimit none, spec⟩ (some name) d
        : Attempt Failure Document).failures, ¬ e.IsCycle) ↔
      ∀ e ∈ (Setting.start ⟨c.withLimit none, spec.withRoot (.apply name none)⟩ none d
        : Attempt Failure Document).failures, ¬ e.IsCycle := by
  let s : Setting := ⟨c.withLimit none, spec⟩
  have hl : s.limit = none := rfl
  rw [start_template ht, start_apply (c := c.withLimit none) hn ha ht rfl,
    ← run_apply_root (c := c.withLimit none) hn ha ht rfl, Attempt.forall_failures_convert,
    Attempt.forall_failures_convert]
  refine (no_cycle_iff_ends hl t.output).trans (.trans ?_ (no_cycle_iff_ends hl _).symm)
  have hlevel (n : Nat) : s.within false (n + 1) [] (.ofDocument d) (.apply name none)
      = s.within false n [] (.ofDocument d) t.output := by
    rw [Setting.within, level_unguarded hl]
    unfold Setting.body Conditions.application
    rw [Setting.known?_of_some ht]
    refine (Budgeted.pure_bind (some (⟨.root d, .refl _⟩ : Reach (.root d))) _).trans ?_
    refine (applyTo_root hn ha _).trans ?_
    exact within_unguarded_chain hl ..
  constructor
  · rintro ⟨n, z, hz⟩
    exact ⟨n + 1, z, (hlevel n).trans hz⟩
  · rintro ⟨n | n, z, hz⟩
    · cases hz
    · exact ⟨n, z, (hlevel n).symm.trans hz⟩

end Started

theorem start_of_startWithin {s : Setting} {start : Option String} {x : Attempt Failure Document}
    (budget : Nat) (h : s.startWithin true budget start d = .done x) :
    s.start start d = x := by
  let enough := s.spec.nameCount * d.height
  have hext {n : Nat} (hn : n ≤ max budget enough) : Extends (fun _ => True) _
      (s.startWithin true n start d) (s.startWithin true (max budget enough) start d) :=
    startWithin_extends (.inl rfl) hn start d
  have hx := hext (Nat.le_max_left ..) x h fun _ _ => trivial
  have hstart := hext (Nat.le_max_right ..) _ (startWithin_eq_start s start d) fun _ _ => trivial
  exact Budgeted.done_injective (hstart.symm.trans hx)

/-- The start is not counted as an application: where the root body applies the template,
a cycle is met one level earlier, and a limit is reached one level earlier. -/
theorem start_is_not_counted :
    let spec : Spec := ⟨[⟨some "a", none, .object [("next", .apply "a" none)]⟩], .literal .null, []⟩
    let started (limit : Option Nat) : Attempt Failure Document :=
      Setting.start ⟨⟨.permissive, .empty, limit⟩, spec⟩ (some "a") (.object [])
    let applied (limit : Option Nat) : Attempt Failure Document :=
      Setting.start ⟨⟨.permissive, .empty, limit⟩, spec.withRoot (.apply "a" none)⟩ none (.object [])
    (started none = ⟨.ok (.object [("next", .object [])]), [.cycle "a" 2]⟩ ∧
      applied none = ⟨.ok (.object []), [.cycle "a" 2]⟩ ∧ started none ≠ applied none) ∧
    started (some 0) = ⟨.ok (.object []), [.tooDeep "a" 1 0]⟩ ∧
      applied (some 0) = ⟨.ok .null, [.tooDeep "a" 1 0]⟩ ∧ started (some 0) ≠ applied (some 0) := by
  intro spec started applied
  have hstarted : started none = ⟨.ok (.object [("next", .object [])]), [.cycle "a" 2]⟩ :=
    start_of_startWithin 2 rfl
  have happlied : applied none = ⟨.ok (.object []), [.cycle "a" 2]⟩ :=
    start_of_startWithin 2 rfl
  have hstarted' : started (some 0) = ⟨.ok (.object []), [.tooDeep "a" 1 0]⟩ :=
    start_of_startWithin 2 rfl
  have happlied' : applied (some 0) = ⟨.ok .null, [.tooDeep "a" 1 0]⟩ :=
    start_of_startWithin 2 rfl
  refine ⟨⟨hstarted, happlied, ?_⟩, hstarted', happlied', ?_⟩
  · rw [hstarted, happlied]
    exact nofun
  · rw [hstarted', happlied']
    exact nofun

/-- A run that is started with a template gives what the run gives whose root body applies
that template, if the latter is nowhere refused for its depth or as a cycle. The start is
not counted as an application: with a limit greater by one, the latter run is the former
one level deeper, if it meets no cycle. Without a limit, both runs meet a cycle or neither. -/
theorem start_is_application (mode : Mode) (registry : Registry) (d : Document) (spec : Spec)
    (name : String) (hname : name ∈ spec.names) (hn : d ≠ .null) (ha : ∀ ds, d ≠ .array ds) :
    let started (limit : Option Nat) : Attempt Failure Document :=
      Setting.start ⟨⟨mode, registry, limit⟩, spec⟩ (some name) d
    let applied (limit : Option Nat) : Attempt Failure Document :=
      Setting.start ⟨⟨mode, registry, limit⟩, spec.withRoot (.apply name none)⟩ none d
    (∀ limit, (∀ e ∈ (applied limit).failures, ¬ e.IsCycle ∧ ¬ e.IsTooDeep) →
      started limit = applied limit) ∧
    (∀ limit, (∀ e ∈ (applied (limit.map (· + 1))).failures, ¬ e.IsCycle) →
      applied (limit.map (· + 1)) = (started limit).mapFailures Failure.oneDeeper) ∧
    ((∀ e ∈ (started none).failures, ¬ e.IsCycle) ↔
      ∀ e ∈ (applied none).failures, ¬ e.IsCycle) := by
  intro started applied
  obtain ⟨t, ht⟩ := Spec.exists_template?_of_mem_names hname
  let c : Conditions := ⟨mode, registry, none⟩
  refine ⟨fun limit h => ?_, fun limit h => ?_, ?_⟩
  · exact start_eq_start_apply (c := c) hn ha limit ht h
  · exact start_oneDeeper (c := c) hn ha limit ht h
  · exact start_cycles_iff (c := c) hn ha ht

/-- A template that goes down as long as there is a node: four applications within each
other, the last of them of a selector that finds nothing. -/
theorem start_is_application_descending :
    let d : Document := .object [("c", .object [("c", .bool true)])]
    let spec : Spec :=
      ⟨[⟨some "a", none, .object [("next", .apply "a" (some ⟨"$.c", [.property "c"]⟩))]⟩],
        .literal .null, []⟩
    let started : Attempt Failure Document :=
      Setting.start ⟨⟨.permissive, .empty, some 4⟩, spec⟩ (some "a") d
    let applied : Attempt Failure Document :=
      Setting.start ⟨⟨.permissive, .empty, some 4⟩, spec.withRoot (.apply "a" none)⟩ none d
    ("a" ∈ spec.names ∧ d ≠ .null ∧ ∀ ds, d ≠ .array ds) ∧
      (∀ e ∈ applied.failures, ¬ e.IsCycle ∧ ¬ e.IsTooDeep) ∧ started = applied := by
  intro d spec started applied
  have hname : "a" ∈ spec.names := List.mem_singleton.2 rfl
  have happlied : applied.failures
      = [.selector (.mismatch "$.c" [] (.property "c") .boolean)] := by
    have hx : applied = ⟨.ok (.object [("next", .object [("next", .object [("next",
        .array [])])])]), [.selector (.mismatch "$.c" [] (.property "c") .boolean)]⟩ :=
      start_of_startWithin 4 rfl
    rw [hx]
    rfl
  have hfree : ∀ e ∈ applied.failures, ¬ e.IsCycle ∧ ¬ e.IsTooDeep := by
    intro e he
    rw [happlied, List.mem_singleton] at he
    subst he
    exact ⟨nofun, nofun⟩
  have h := start_is_application .permissive .empty d spec "a" hname nofun nofun
  exact ⟨⟨hname, nofun, nofun⟩, hfree, h.1 (some 4) hfree⟩

end Transform

end Reshape
