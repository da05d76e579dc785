import Reshape.Proofs.StartTemplate
import Reshape.Transform.Transformer

/-!
# The names of operations

An expression looks up operations under the names that stand in it and under no others. An
operation that another one applies to items has been looked up under one of these names too,
and is handed over as it is. So two registries that have the same operations under the names
of a specification give the same run: `start_congr_of_names`.
-/

namespace Reshape

/-- The names that the expressions of a specification look up, those of its templates and of
its root. -/
def Spec.functionNames (s : Spec) : List String :=
  ((s.root :: s.templates.map Template.output).flatMap Output.expressions).flatMap Expression.names

namespace Spec

theorem mem_functionNames {s : Spec} {o : Output}
    (ho : o ∈ s.root :: s.templates.map Template.output) {e : Expression}
    (he : e ∈ o.expressions) : ∀ name ∈ e.names, name ∈ s.functionNames :=
  fun _ hn => List.mem_flatMap.2 ⟨e, List.mem_flatMap.2 ⟨o, ho, he⟩, hn⟩

theorem functionNames_root {s : Spec} :
    ∀ e ∈ s.root.expressions, ∀ name ∈ e.names, name ∈ s.functionNames :=
  fun _ he => mem_functionNames (List.mem_cons_self ..) he

theorem functionNames_template {s : Spec} {name : String} {t : Template}
    (h : s.template? name = some t) :
    ∀ e ∈ t.output.expressions, ∀ name ∈ e.names, name ∈ s.functionNames :=
  fun _ he => mem_functionNames
    (List.mem_cons_of_mem _ (List.mem_map_of_mem (List.mem_of_find?_eq_some h))) he

end Spec

namespace Registry

theorem find?_place_of_ne {name other : String} (h : name ≠ other) (op : Operation)
    (entries : List (String × Operation)) :
    (place name op entries).find? (fun e => e.1 == other)
      = entries.find? fun e => e.1 == other := by
  have hne : (name == other) = false := by simpa using h
  induction entries with
  | nil => simp [place, hne]
  | cons e rest ih =>
    obtain ⟨n, o⟩ := e
    unfold place
    split
    · rename_i hn
      subst hn
      rw [List.find?_cons, List.find?_cons, hne]
    · split
      · rw [List.find?_cons, hne]
      · rw [List.find?_cons, List.find?_cons, ih]

theorem find?_insert_of_ne (r : Registry) {name other : String} (h : name ≠ other)
    (op : Operation) : (r.insert name op).find? other = r.find? other :=
  congrArg (Option.map Prod.snd) (find?_place_of_ne h op r.entries)

theorem find?_erase_of_ne (r : Registry) {name other : String} (h : name ≠ other) :
    (r.erase name).find? other = r.find? other := by
  unfold erase find?
  dsimp only
  rw [List.find?_filter]
  congr 2
  funext e
  by_cases he : e.1 = other
  · subst he
    simp [h.symm]
  · simp [he]

/-- The registries have the same operations under these names. -/
def AgreeOn (names : List String) (r s : Registry) : Prop :=
  ∀ name ∈ names, r.find? name = s.find? name

theorem agreeOn_insert (r : Registry) {names : List String} {name : String} (hn : name ∉ names)
    (op : Operation) : AgreeOn names (r.insert name op) r :=
  fun _ ho => r.find?_insert_of_ne (ne_of_mem_of_not_mem ho hn).symm op

theorem agreeOn_erase (r : Registry) {names : List String} {name : String} (hn : name ∉ names) :
    AgreeOn names (r.erase name) r :=
  fun _ ho => r.find?_erase_of_ne (ne_of_mem_of_not_mem ho hn).symm

end Registry

namespace Transform

variable {r s : Registry} {mode : Mode} {limit : Option Nat} {d : Document}

/-- Bodies agree as far as their expressions look up names under which the registries agree. -/
theorem Same.localAgreementOn {names : List String} (h : Registry.AgreeOn names r s) :
    LocalAgreementOn (fun e => ∀ name ∈ e.names, name ∈ names) (Same (m := Attempt Failure))
      d ⟨mode, r, limit⟩ ⟨mode, s, limit⟩ where
  toSequential := Same.sequential
  selector _ := rfl
  expression p e he := by
    have ha : Frame.AlikeOn (· ∈ names) ⟨mode, r, d, p.node⟩ ⟨mode, s, d, p.node⟩ :=
      ⟨rfl, rfl, h _⟩
    exact Expression.Agreement.evaluate_agree (Same.expression mode) ha e he

/-- Registries that agree on the names of a specification give the same within a run, from
each body of the specification on. -/
theorem run_congr_of_names {spec : Spec} (h : Registry.AgreeOn spec.functionNames r s)
    (chain : Chain) (v : View) {o : Output}
    (ho : ∀ e ∈ o.expressions, ∀ name ∈ e.names, name ∈ spec.functionNames) :
    (Setting.run ⟨⟨mode, r, limit⟩, spec⟩ chain v o : Attempt Failure (Option Document))
      = Setting.run ⟨⟨mode, s, limit⟩, spec⟩ chain v o := by
  have hall : ∀ o, AppliesOnly (fun _ => True) o := .of_forall fun _ => trivial
  exact Same.run_congr (Same.localAgreementOn h) rfl rfl (fun _ _ => rfl)
    (fun _ t _ _ => hall t.output) (fun _ _ => Spec.functionNames_template) chain (hall o) ho

theorem start_undefined {c : Conditions} {spec : Spec} {name : String}
    (ht : spec.template? name = none) :
    (Setting.start ⟨c, spec⟩ (some name) d : Attempt Failure Document)
      = fail (Failure.unknownTemplate name) := by
  unfold Setting.start Setting.startWith Setting.startBody
  simp only [ht]
  rfl

theorem start_congr_of_names {spec : Spec} (h : Registry.AgreeOn spec.functionNames r s)
    (start : Option String) :
    (Setting.start ⟨⟨mode, r, limit⟩, spec⟩ start d : Attempt Failure Document)
      = Setting.start ⟨⟨mode, s, limit⟩, spec⟩ start d := by
  cases start with
  | none =>
    rw [start_root, start_root]
    exact congrArg (· >>= _) (run_congr_of_names h [] _ Spec.functionNames_root)
  | some name =>
    cases ht : spec.template? name with
    | none => rw [start_undefined ht, start_undefined ht]
    | some t =>
      rw [start_template ht, start_template ht]
      exact congrArg (· >>= _) (run_congr_of_names h [] _ (Spec.functionNames_template ht))

end Transform

/-- A run depends on the registry only under the names that the expressions of its
specification look up. In particular an operation of another name may be registered, in place
of one or not, and taken out. -/
theorem only_named_functions_matter (config : Config) (spec : Spec) (options : RunOptions)
    (d : Document) :
    let run (r : Registry) : Attempt Transform.Failure Document :=
      Transformer.run ⟨r, config⟩ spec options d
    (∀ r s : Registry, (∀ name ∈ spec.functionNames, r.find? name = s.find? name) →
      run r = run s) ∧
    ∀ (r : Registry) (name : String), name ∉ spec.functionNames →
      (∀ op, run (r.insert name op) = run r) ∧ run (r.erase name) = run r := by
  intro run
  have hcongr {r s : Registry} (h : Registry.AgreeOn spec.functionNames r s) : run r = run s :=
    Transform.start_congr_of_names h options.start
  refine ⟨fun r s h => hcongr h, fun r name hname => ⟨fun op => hcongr ?_, hcongr ?_⟩⟩
  · exact r.agreeOn_insert hname op
  · exact r.agreeOn_erase hname

/-- Items of an array are mapped within an application. The second registry has another
operation besides. -/
theorem only_named_functions_matter_mapped :
    let whole : Operation := fun c => .ok c.root
    let refused : Operation := fun _ => .error "refused"
    let r : Registry := ⟨[("map", Operation.mapItems), ("whole", whole)]⟩
    let s : Registry := ⟨[("first", refused), ("map", Operation.mapItems), ("whole", whole)]⟩
    let spec : Spec := ⟨[⟨some "a", none, .expression "map($.x, whole)"
      (.call "map" [.selector ⟨"$.x", [.property "x"]⟩, .name "whole"])⟩], .apply "a" none, []⟩
    let d : Document := .object [("x", .array [.null])]
    let run (r : Registry) := Transformer.run ⟨r, .standard⟩ spec .none d
    (∀ name ∈ spec.functionNames, r.find? name = s.find? name) ∧ run r = run s ∧
      "first" ∉ spec.functionNames ∧ run (r.insert "first" refused) = run r ∧
      run (s.erase "first") = run s := by
  intro whole refused r s spec d run
  have hnames : spec.functionNames = ["map", "whole"] := rfl
  have hagree : ∀ name ∈ spec.functionNames, r.find? name = s.find? name := by
    rw [hnames, List.forall_mem_cons, List.forall_mem_singleton]
    exact ⟨rfl, rfl⟩
  have hfirst : "first" ∉ spec.functionNames := by
    rw [hnames]
    decide
  have h := only_named_functions_matter .standard spec .none d
  exact ⟨hagree, h.1 r s hagree, hfirst, (h.2 r "first" hfirst).1 refused, (h.2 s "first" hfirst).2⟩

end Reshape
