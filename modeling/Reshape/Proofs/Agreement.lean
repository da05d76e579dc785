import Reshape.Spec.Compile
import Reshape.Transform.Run

/-!
# Agreement of evaluations

An expression and an output node are evaluated alike in every monad. So a
relation between computations of two monads that holds of their steps holds of
what they evaluate: `Expression.Agreement` and `Transform.Agreement` name the
steps, `evaluate_agree` and `body_agree` draw the conclusion. The views that a run
goes through have one root, so that only steps with this root count. Two runs may
also take place under different conditions, as long as these agree on the names that
expressions look up, and with specifications that agree on the templates that are
applied: `run_agree_of_names`, and `Same.run_congr` for runs that are equal. A map
that keeps the steps, `Translates`, takes runs to runs.
-/

namespace Reshape

/-- A relation between the computations of two monads, for each type of results. -/
abbrev Relator (m n : Type → Type) := ∀ α : Type, m α → n α → Prop

structure Relator.Sequential {m n : Type → Type} [Monad m] [Monad n] (R : Relator m n) :
    Prop where
  pure {α : Type} (a : α) : R α (pure a) (pure a)
  bind {α β : Type} {x : m α} {y : n α} {f : α → m β} {g : α → n β} :
    R α x y → (∀ a, R β (f a) (g a)) → R β (x >>= f) (y >>= g)

variable {m n : Type → Type} [Settling m] [Settling n] {R : Relator m n}

/-! ## Expressions -/

namespace Expression

mutual

/-- The names that an expression looks up, those that stand by themselves and those of calls. -/
def names : Expression → List String
  | literal _ | selector _ => []
  | name identifier => [identifier]
  | call function arguments => function :: namesOfAll arguments
  | pipe steps => namesOfAll steps

def namesOfAll : List Expression → List String
  | [] => []
  | e :: rest => e.names ++ namesOfAll rest

end

end Expression

/-- Frames that show the same documents and the same operations under some names. -/
structure Frame.AlikeOn (shared : String → Prop) (f g : Frame) : Prop where
  current : f.current = g.current
  root : f.root = g.root
  operation {callee : String} (hc : shared callee) :
    f.registry.find? callee = g.registry.find? callee

namespace Frame.AlikeOn

variable {shared : String → Prop} {f g : Frame} (h : f.AlikeOn shared g)

include h

theorem contains_eq {callee : String} (hc : shared callee) :
    f.registry.contains callee = g.registry.contains callee :=
  congrArg Option.isSome (h.operation hc)

theorem argument_eq {callee : String} (hc : shared callee) :
    f.registry.argument callee = g.registry.argument callee := by
  unfold Registry.argument
  rw [h.operation hc]

end Frame.AlikeOn

namespace Expression

variable [Failing Failure m] [Failing Failure n]

/-- A relation that holds of the steps of evaluating expressions in two modes. -/
structure Agreement (R : Relator m n) (k l : Mode) : Prop extends R.Sequential where
  fail {α : Type} (e : Failure) : R α (fail e) (fail e)
  settle {α : Type} (a : α) {x : m α} {y : n α} : R α x y → R α (settle k a x) (settle l a y)

namespace Agreement

variable {shared : String → Prop} {f g : Frame}

theorem invoke_agree (h : Agreement R f.mode g.mode) (ha : f.AlikeOn shared g) {callee : String}
    (hc : shared callee) (arguments : List Argument) :
    R _ (f.invoke callee arguments) (g.invoke callee arguments) := by
  unfold Frame.invoke
  rw [ha.operation hc, ha.root]
  split
  · exact h.fail _
  · split
    · exact h.pure _
    · exact h.fail _

mutual

theorem evaluateRaw_agree (h : Agreement R f.mode g.mode) (ha : f.AlikeOn shared g)
    (e : Expression) (hn : ∀ name ∈ e.names, shared name) :
    R _ (f.evaluateRaw e) (g.evaluateRaw e) := by
  match e with
  | .literal _ | .pipe [] =>
    unfold Frame.evaluateRaw
    exact h.pure _
  | .name identifier =>
    unfold Frame.evaluateRaw
    rw [ha.argument_eq (hn _ (List.mem_singleton_self _))]
    exact h.pure _
  | .selector path =>
    unfold Frame.evaluateRaw
    rw [ha.current]
    split
    · exact h.pure _
    · exact h.fail _
  | .call function arguments =>
    rw [names, List.forall_mem_cons] at hn
    unfold Frame.evaluateRaw
    rw [ha.contains_eq hn.1]
    split
    · exact h.bind (evaluateArguments_agree h ha arguments hn.2) fun values =>
        h.invoke_agree ha hn.1 values
    · exact h.fail _
  | .pipe (first :: rest) =>
    rw [names, namesOfAll, List.forall_mem_append] at hn
    unfold Frame.evaluateRaw
    exact h.bind (evaluateRaw_agree h ha first hn.1) fun value =>
      evaluateSteps_agree h ha value rest hn.2

theorem evaluateArguments_agree (h : Agreement R f.mode g.mode) (ha : f.AlikeOn shared g)
    (es : List Expression) (hn : ∀ name ∈ namesOfAll es, shared name) :
    R _ (f.evaluateArguments es) (g.evaluateArguments es) := by
  match es with
  | [] =>
    unfold Frame.evaluateArguments
    exact h.pure _
  | e :: rest =>
    rw [namesOfAll, List.forall_mem_append] at hn
    unfold Frame.evaluateArguments
    exact h.bind (h.settle _ (evaluateRaw_agree h ha e hn.1)) fun _ =>
      h.bind (evaluateArguments_agree h ha rest hn.2) fun _ => h.pure _

theorem evaluateSteps_agree (h : Agreement R f.mode g.mode) (ha : f.AlikeOn shared g)
    (value : Argument) (es : List Expression) (hn : ∀ name ∈ namesOfAll es, shared name) :
    R _ (f.evaluateSteps value es) (g.evaluateSteps value es) := by
  match es with
  | [] =>
    unfold Frame.evaluateSteps
    exact h.pure _
  | .name identifier :: rest =>
    rw [namesOfAll, names, List.singleton_append, List.forall_mem_cons] at hn
    unfold Frame.evaluateSteps
    exact h.bind (h.invoke_agree ha hn.1 _) fun next =>
      evaluateSteps_agree h ha next rest hn.2
  | .call function arguments :: rest =>
    rw [namesOfAll, names, List.cons_append, List.forall_mem_cons, List.forall_mem_append] at hn
    unfold Frame.evaluateSteps
    rw [ha.contains_eq hn.1]
    split
    · exact h.bind (evaluateArguments_agree h ha arguments hn.2.1) fun values =>
        h.bind (h.invoke_agree ha hn.1 (value :: values)) fun next =>
          evaluateSteps_agree h ha next rest hn.2.2
    · exact h.fail _
  | .literal _ :: _ | .selector _ :: _ | .pipe _ :: _ =>
    unfold Frame.evaluateSteps
    exact h.fail _

end

theorem evaluate_agree (h : Agreement R f.mode g.mode) (ha : f.AlikeOn shared g) (e : Expression)
    (hn : ∀ name ∈ e.names, shared name) : R _ (f.evaluate e) (g.evaluate e) := by
  unfold Frame.evaluate
  refine h.bind (h.settle _ (h.evaluateRaw_agree ha e hn)) fun a => ?_
  cases a <;> exact h.pure _

end Agreement

end Expression

/-! ## Bodies -/

namespace Output

mutual

def expressions : Output → List Expression
  | expression _ e => [e]
  | object entries => entryExpressions entries
  | array items => itemExpressions items
  | _ => []

def itemExpressions : List Output → List Expression
  | [] => []
  | o :: os => o.expressions ++ itemExpressions os

def entryExpressions : List (String × Output) → List Expression
  | [] => []
  | (_, o) :: os => o.expressions ++ entryExpressions os

end

end Output

namespace Transform

section Apply

variable {m n : Type → Type} [Monad m] [Monad n] {R : Relator m n} (h : R.Sequential) {p : Place}
  {enter : Reach p → m (Option Document)} {enter' : Reach p → n (Option Document)}

include h

theorem applyEach_agree (he : ∀ q, R _ (enter q) (enter' q)) (qs : List (Reach p)) :
    R _ (applyEach enter qs) (applyEach enter' qs) := by
  induction qs with
  | nil => exact h.pure _
  | cons q rest ih => exact h.bind (he q) fun _ => h.bind ih fun _ => h.pure _

theorem applyTo_agree (he : ∀ q, R _ (enter q) (enter' q)) (source : Option (Reach p)) :
    R _ (applyTo enter source) (applyTo enter' source) := by
  unfold applyTo
  split
  · exact h.pure _
  · split
    · exact h.pure _
    · exact h.bind (applyEach_agree h he _) fun _ => h.pure _
    · exact he _

end Apply

variable [Failing Failure m] [Failing Failure n]

/-- A relation that holds of the steps of evaluating bodies under two conditions and with one
root, those of applying templates apart. -/
structure LocalAgreement (R : Relator m n) (root : Document) (c d : Conditions) : Prop
    extends R.Sequential where
  selector {α : Type} (e : Selector.Error) :
    R (Option α) (c.settled (.selector e)) (d.settled (.selector e))
  expression (p : Place) (e : Expression) :
    R _ ((c.frame ⟨p, root⟩).evaluate e) ((d.frame ⟨p, root⟩).evaluate e)

/-- The same as far as the expressions are of some kind. -/
structure LocalAgreementOn (shared : Expression → Prop) (R : Relator m n) (root : Document)
    (c d : Conditions) : Prop extends R.Sequential where
  selector {α : Type} (e : Selector.Error) :
    R (Option α) (c.settled (.selector e)) (d.settled (.selector e))
  expression (p : Place) {e : Expression} (he : shared e) :
    R _ ((c.frame ⟨p, root⟩).evaluate e) ((d.frame ⟨p, root⟩).evaluate e)

variable {root : Document}

theorem LocalAgreement.on {c d : Conditions} (h : LocalAgreement R root c d)
    (shared : Expression → Prop) : LocalAgreementOn shared R root c d where
  toSequential := h.toSequential
  selector := h.selector
  expression p e _ := h.expression p e

/-- A relation that holds of the steps of evaluating bodies under two conditions and with one
root. -/
structure Agreement (R : Relator m n) (root : Document) (c d : Conditions) : Prop
    extends LocalAgreement R root c d where
  unknownTemplate {α : Type} (name : String) :
    R (Option α) (c.settled (.unknownTemplate name)) (d.settled (.unknownTemplate name))

theorem LocalAgreement.ofExpression {c d : Conditions} (h : Expression.Agreement R c.mode d.mode)
    (hs : ∀ {α : Type} (e : Selector.Error),
      R α (fail (Failure.selector e)) (fail (Failure.selector e)))
    (ho : c.registry = d.registry) : LocalAgreement R root c d where
  toSequential := h.toSequential
  selector e := h.settle none (hs e)
  expression p e := by
    have ha : (c.frame ⟨p, root⟩).AlikeOn (fun _ => True) (d.frame ⟨p, root⟩) :=
      ⟨rfl, rfl, fun _ => congrArg (Registry.find? · _) ho⟩
    exact Expression.Agreement.evaluate_agree h ha e fun _ _ => trivial

theorem Agreement.ofExpression {c d : Conditions} (h : Expression.Agreement R c.mode d.mode)
    (hs : ∀ {α : Type} (e : Selector.Error),
      R α (fail (Failure.selector e)) (fail (Failure.selector e)))
    (hu : ∀ {α : Type} (name : String),
      R α (fail (Failure.unknownTemplate name)) (fail (Failure.unknownTemplate name)))
    (ho : c.registry = d.registry) : Agreement R root c d where
  toLocalAgreement := .ofExpression h hs ho
  unknownTemplate name := h.settle none (hu name)

/-- The applications of a template agree, whatever they are made to. -/
def LocalAgreement.AppliesAlike {spec spec' : Spec} {p : Place} (R : Relator m n)
    (c d : Conditions) (apply : Known spec → Option (Reach p) → m (Option Document))
    (apply' : Known spec' → Option (Reach p) → n (Option Document)) (name : String) : Prop :=
  ∀ path, R _ (c.application name path (Setting.known? ⟨c, spec⟩ name) apply)
    (d.application name path (Setting.known? ⟨d, spec'⟩ name) apply')

namespace LocalAgreementOn

open LocalAgreement (AppliesAlike)

variable {shared : Expression → Prop} {c d : Conditions}

theorem select_agree (h : LocalAgreementOn shared R root c d) {p : Place} (path : Selector) :
    R _ (c.select path p) (d.select path p) := by
  unfold Conditions.select
  split
  · exact h.pure _
  · exact h.selector _

theorem source_agree (h : LocalAgreementOn shared R root c d) {p : Place}
    (path : Option Selector) : R _ (c.source path p) (d.source path p) := by
  unfold Conditions.source
  cases path with
  | none => exact h.pure _
  | some path => exact h.select_agree path

variable {v : View} {spec spec' : Spec}
  {apply : Known spec → Option (Reach v.place) → m (Option Document)}
  {apply' : Known spec' → Option (Reach v.place) → n (Option Document)}

mutual

/-- Bodies of such expressions agree if the applications of the templates that stand in them
do. -/
theorem body_agree_of_applies (h : LocalAgreementOn shared R v.root c d) {l : Location}
    (o : Output) (he : ∀ e ∈ o.expressions, shared e)
    (ha : ∀ t ∈ o.targets l, AppliesAlike R c d apply apply' t.1) :
    R _ (Setting.body ⟨c, spec⟩ v apply o) (Setting.body ⟨d, spec'⟩ v apply' o) := by
  match o with
  | .literal _ =>
    unfold Setting.body
    exact h.pure _
  | .selector path =>
    unfold Setting.body
    exact h.bind (h.select_agree path) fun _ => h.pure _
  | .expression _ e =>
    unfold Setting.body
    exact h.expression v.place (he e (List.mem_singleton_self e))
  | .apply name path =>
    unfold Setting.body
    exact ha (name, l) (by simp [Output.targets]) path
  | .object entries =>
    unfold Setting.body
    rw [Output.targets] at ha
    exact h.bind (bodyEntries_agree_of_applies h entries he ha) fun _ => h.pure _
  | .array items =>
    unfold Setting.body
    rw [Output.targets] at ha
    exact h.bind (bodyItems_agree_of_applies h items he ha) fun _ => h.pure _

theorem bodyEntries_agree_of_applies (h : LocalAgreementOn shared R v.root c d) {l : Location}
    (es : List (String × Output))
    (he : ∀ e ∈ Output.entryExpressions es, shared e)
    (ha : ∀ t ∈ Output.entryTargets l es, AppliesAlike R c d apply apply' t.1) :
    R _ (Setting.bodyEntries ⟨c, spec⟩ v apply es)
      (Setting.bodyEntries ⟨d, spec'⟩ v apply' es) := by
  match es with
  | [] =>
    unfold Setting.bodyEntries
    exact h.pure _
  | (_, o) :: rest =>
    simp only [Output.entryTargets, List.forall_mem_append] at ha
    simp only [Output.entryExpressions, List.forall_mem_append] at he
    unfold Setting.bodyEntries
    refine h.bind (body_agree_of_applies h o he.1 ha.1) fun value =>
      h.bind (bodyEntries_agree_of_applies h rest he.2 ha.2) fun _ => ?_
    cases value <;> exact h.pure _

theorem bodyItems_agree_of_applies (h : LocalAgreementOn shared R v.root c d) {l : Location}
    {i : Nat} (os : List Output)
    (he : ∀ e ∈ Output.itemExpressions os, shared e)
    (ha : ∀ t ∈ Output.itemTargets l i os, AppliesAlike R c d apply apply' t.1) :
    R _ (Setting.bodyItems ⟨c, spec⟩ v apply os) (Setting.bodyItems ⟨d, spec'⟩ v apply' os) := by
  match os with
  | [] =>
    unfold Setting.bodyItems
    exact h.pure _
  | o :: rest =>
    simp only [Output.itemTargets, List.forall_mem_append] at ha
    simp only [Output.itemExpressions, List.forall_mem_append] at he
    unfold Setting.bodyItems
    exact h.bind (body_agree_of_applies h o he.1 ha.1) fun _ =>
      h.bind (bodyItems_agree_of_applies h rest he.2 ha.2) fun _ => h.pure _

end

end LocalAgreementOn

namespace Agreement

variable {c d : Conditions}

theorem application_agree (h : Agreement R root c d) {p : Place} {κ : Type}
    {apply : κ → Option (Reach p) → m (Option Document)}
    {apply' : κ → Option (Reach p) → n (Option Document)}
    (ha : ∀ k source, R _ (apply k source) (apply' k source)) (name : String)
    (path : Option Selector) (known : Option κ) :
    R _ (c.application name path known apply) (d.application name path known apply') := by
  unfold Conditions.application
  refine h.bind ((h.on fun _ => True).source_agree path) fun source => ?_
  cases known with
  | none => exact h.unknownTemplate name
  | some k => exact ha k source

theorem body_agree {v : View} (h : Agreement R v.root c d) {spec : Spec}
    {apply : Known spec → Option (Reach v.place) → m (Option Document)}
    {apply' : Known spec → Option (Reach v.place) → n (Option Document)}
    (ha : ∀ k source, R _ (apply k source) (apply' k source)) (o : Output) :
    R _ (Setting.body ⟨c, spec⟩ v apply o) (Setting.body ⟨d, spec⟩ v apply' o) :=
  (h.on fun _ => True).body_agree_of_applies (l := .root) o (fun _ _ => trivial)
    fun t _ path => h.application_agree ha t.1 path _

end Agreement

/-! ## Runs -/

/-- Evaluations that agree from the same body on agree from the start on, if they
agree on a template to start with that is not defined. -/
theorem startWith_agree {c d : Conditions} {spec : Spec} {start : Option String}
    {evaluate : Output → m (Option Document)} {evaluate' : Output → n (Option Document)}
    (h : R.Sequential)
    (hf : ∀ name, start = some name → spec.template? name = none →
      R Output (fail (Failure.unknownTemplate name)) (fail (Failure.unknownTemplate name)))
    (he : ∀ o, R _ (evaluate o) (evaluate' o)) :
    R _ (Setting.startWith ⟨c, spec⟩ evaluate start)
      (Setting.startWith ⟨d, spec⟩ evaluate' start) := by
  have hb : R Output (Setting.startBody ⟨c, spec⟩ start) (Setting.startBody ⟨d, spec⟩ start) := by
    unfold Setting.startBody
    cases start with
    | none => exact h.pure _
    | some name =>
      cases ht : spec.template? name with
      | none => simpa only [ht] using hf name rfl ht
      | some t => simpa only [ht] using h.pure t.output
  exact h.bind hb fun o => h.bind (he o) fun _ => h.pure _

def AppliesOnly (names : String → Prop) (o : Output) : Prop :=
  ∃ l, ∀ t ∈ o.targets l, names t.1

theorem AppliesOnly.of_forall {names : String → Prop} (h : ∀ name, names name) (o : Output) :
    AppliesOnly names o := ⟨.root, fun t _ => h t.1⟩

/-- A name is not defined by two specifications, and this failure agrees; or both define it
with one body, which applies only templates of some names. -/
inductive NameAgrees (R : Relator m n) (c d : Conditions) (spec spec' : Spec)
    (names : String → Prop) (name : String) : Prop
  | unknown (hk : spec.template? name = none) (hk' : spec'.template? name = none)
      (hr : ∀ α, R (Option α) (c.settled (.unknownTemplate name))
        (d.settled (.unknownTemplate name))) : NameAgrees R c d spec spec' names name
  | known {t t' : Template} (hk : spec.template? name = some t)
      (hk' : spec'.template? name = some t') (ho : t.output = t'.output)
      (ha : AppliesOnly names t.output) : NameAgrees R c d spec spec' names name

/-- Applications of templates keep agreement, within as many others as `I` admits. -/
def ApplyAgrees (R : Relator m n) (c d : Conditions) (I : Nat → Prop) : Prop :=
  ∀ {p : Place} {enter : Reach p → m (Option Document)} {enter' : Reach p → n (Option Document)}
    {outer : Nat} (name : String) (source : Option (Reach p)), I outer →
    (I (outer + 1) → ∀ q, R _ (enter q) (enter' q)) →
    R _ (c.applyAt (outer + 1) name enter source) (d.applyAt (outer + 1) name enter' source)

/-- Agreement on bodies becomes agreement on runs if applications keep it, as long as the
specifications agree on the names that are applied and all expressions are of the kind that is
agreed on. A predicate on the number of applications that stand within each other may restrict
them. -/
theorem LocalAgreementOn.run_agree_of_names {shared : Expression → Prop} {v : View}
    {c d : Conditions} (h : LocalAgreementOn shared R v.root c d) {spec spec' : Spec}
    {names : String → Prop} {I : Nat → Prop}
    (hnames : ∀ name, names name → NameAgrees R c d spec spec' names name)
    (hshared : ∀ name t, spec.template? name = some t → ∀ e ∈ t.output.expressions, shared e)
    (happly : ApplyAgrees R c d I)
    (hcycle : ∀ {α : Type} (name : String) (depth : Nat),
      R (Option α) (c.settled (.cycle name depth)) (d.settled (.cycle name depth)))
    (chain : Chain) (hi : I chain.length) (o : Output) (ho : AppliesOnly names o)
    (he : ∀ e ∈ o.expressions, shared e) :
    R _ (Setting.run ⟨c, spec⟩ chain v o) (Setting.run ⟨d, spec'⟩ chain v o) := by
  obtain ⟨l, hl⟩ := ho
  rw [Setting.run, Setting.run]
  refine h.body_agree_of_applies (l := l) o he fun t ht path => ?_
  unfold Conditions.application
  refine h.bind (h.source_agree path) fun source => ?_
  cases hnames t.1 (hl t ht) with
  | unknown hk hk' hr =>
    rw [Setting.known?_of_none (s := ⟨c, spec⟩) hk, Setting.known?_of_none (s := ⟨d, spec'⟩) hk']
    exact hr _
  | @known template template' hk hk' ho ha =>
    rw [Setting.known?_of_some (s := ⟨c, spec⟩) hk, Setting.known?_of_some (s := ⟨d, spec'⟩) hk']
    refine happly _ source hi fun hi q => ?_
    split
    · exact hcycle ..
    · rw [← ho]
      exact LocalAgreementOn.run_agree_of_names (v := v.goTo q.1) h hnames hshared happly hcycle _ hi
        template.output ha (hshared _ _ hk)
termination_by rank spec.names chain v.place
decreasing_by exact rank_lt (Spec.mem_names_of_template? hk) q ‹_›

theorem LocalAgreement.run_agree_of_names {v : View} {c d : Conditions}
    (h : LocalAgreement R v.root c d) {spec spec' : Spec} {names : String → Prop} {I : Nat → Prop}
    (hnames : ∀ name, names name → NameAgrees R c d spec spec' names name)
    (happly : ApplyAgrees R c d I)
    (hcycle : ∀ {α : Type} (name : String) (depth : Nat),
      R (Option α) (c.settled (.cycle name depth)) (d.settled (.cycle name depth)))
    (chain : Chain) (hi : I chain.length) (o : Output) (ho : AppliesOnly names o) :
    R _ (Setting.run ⟨c, spec⟩ chain v o) (Setting.run ⟨d, spec'⟩ chain v o) :=
  (h.on fun _ => True).run_agree_of_names hnames (fun _ _ _ _ _ => trivial) happly hcycle chain
    hi o ho fun _ _ => trivial

/-- Agreement on bodies, unknown templates included, becomes agreement on runs of one
specification if applications keep it. -/
theorem Agreement.run_agree_of_apply {v : View} {c d : Conditions} (h : Agreement R v.root c d)
    (spec : Spec) {I : Nat → Prop}
    (happly : ApplyAgrees R c d I)
    (hcycle : ∀ {α : Type} (name : String) (depth : Nat),
      R (Option α) (c.settled (.cycle name depth)) (d.settled (.cycle name depth)))
    (chain : Chain) (hi : I chain.length) (o : Output) :
    R _ (Setting.run ⟨c, spec⟩ chain v o) (Setting.run ⟨d, spec⟩ chain v o) := by
  have hall : ∀ o, AppliesOnly (fun _ => True) o := .of_forall fun _ => trivial
  refine h.run_agree_of_names (fun name _ => ?_) happly hcycle chain hi o (hall o)
  cases hk : spec.template? name with
  | none => exact .unknown hk hk fun _ => h.unknownTemplate name
  | some t => exact .known hk hk rfl (hall t.output)

/-- Agreement on all that a run with one root does. -/
structure RunAgreement (R : Relator m n) (root : Document) (c d : Conditions) : Prop
    extends Agreement R root c d where
  limit : c.limit = d.limit
  tooDeep {α : Type} (name : String) (depth limit : Nat) :
    R (Option α) (c.settled (.tooDeep name depth limit)) (d.settled (.tooDeep name depth limit))
  cycle {α : Type} (name : String) (depth : Nat) :
    R (Option α) (c.settled (.cycle name depth)) (d.settled (.cycle name depth))

namespace RunAgreement

variable {c d : Conditions}

theorem applyAt_agree (h : RunAgreement R root c d) {p : Place}
    {enter : Reach p → m (Option Document)} {enter' : Reach p → n (Option Document)}
    (he : ∀ q, R _ (enter q) (enter' q))
    (depth : Nat) (name : String) (source : Option (Reach p)) :
    R _ (c.applyAt depth name enter source) (d.applyAt depth name enter' source) := by
  unfold Conditions.applyAt Conditions.exceeds
  rw [h.limit]
  split
  · exact h.tooDeep ..
  · exact applyTo_agree h.toSequential he source

theorem run_agree {v : View} (h : RunAgreement R v.root c d) (spec : Spec) (chain : Chain)
    (o : Output) : R _ (Setting.run ⟨c, spec⟩ chain v o) (Setting.run ⟨d, spec⟩ chain v o) :=
  h.run_agree_of_apply spec (I := fun _ => True)
    (fun _ source _ he => h.applyAt_agree (he trivial) _ _ source) h.cycle chain trivial o

theorem start_agree (h : RunAgreement R root c d) (spec : Spec) (start : Option String)
    (hf : ∀ name, start = some name → spec.template? name = none →
      R Output (fail (Failure.unknownTemplate name)) (fail (Failure.unknownTemplate name))) :
    R _ (Setting.start ⟨c, spec⟩ start root) (Setting.start ⟨d, spec⟩ start root) :=
  startWith_agree h.toSequential hf fun o => h.run_agree (v := .ofDocument root) spec [] o

end RunAgreement

/-! ## Translations -/

/-- A map that keeps the steps of evaluations and leads from one mode to another. -/
structure Translates (f : ∀ α : Type, m α → n α) (k l : Mode) : Prop where
  pure {α : Type} (a : α) : f α (pure a) = pure a
  bind {α β : Type} (x : m α) (g : α → m β) : f β (x >>= g) = f α x >>= fun a => f β (g a)
  fail {α : Type} (e : Failure) : f α (fail e) = fail e
  settle {α : Type} (a : α) (x : m α) : f α (settle k a x) = settle l a (f α x)

def Conditions.inMode (c : Conditions) (mode : Mode) : Conditions := { c with mode := mode }

namespace Translates

variable {f : ∀ α : Type, m α → n α} {k l : Mode} (h : Translates f k l)

include h

theorem agreement : Expression.Agreement (fun α x y => f α x = y) k l where
  pure := h.pure
  bind := by
    rintro α β x _ g g' rfl hg
    rw [h.bind]
    congr 1
    funext a
    exact hg a
  fail e := h.fail (.expression e)
  settle := by
    rintro α a x _ rfl
    exact h.settle a x

theorem settled {α : Type} (c : Conditions) (e : Failure) :
    f (Option α) ((c.inMode k).settled e) = (c.inMode l).settled e := by
  show f _ (Reshape.settle k none (Reshape.fail e)) = Reshape.settle l none (Reshape.fail e)
  rw [h.settle, h.fail]

theorem runAgreement (root : Document) (c : Conditions) :
    RunAgreement (fun α x y => f α x = y) root (c.inMode k) (c.inMode l) where
  toAgreement := .ofExpression h.agreement (fun _ => h.fail _) (fun _ => h.fail _) rfl
  limit := rfl
  tooDeep _ _ _ := h.settled c _
  cycle _ _ := h.settled c _

/-- A run in one mode is translated to the run in the other one. -/
theorem start (c : Conditions) (spec : Spec) (template : Option String) (d : Document) :
    f _ (Setting.start ⟨c.inMode k, spec⟩ template d)
      = Setting.start ⟨c.inMode l, spec⟩ template d :=
  (h.runAgreement d c).start_agree spec template fun _ _ _ => h.fail _

end Translates

/-! ## Equal runs -/

section Same

variable {m : Type → Type} [Settling m]

def Same : Relator m m := fun _ x y => x = y

theorem Same.sequential : (Same (m := m)).Sequential where
  pure _ := rfl
  bind := by
    rintro α β x _ f g rfl hf
    exact congrArg (x >>= ·) (funext hf)

variable [Failing Failure m]

theorem Same.expression (mode : Mode) : Expression.Agreement (Same (m := m)) mode mode where
  toSequential := sequential
  fail _ := rfl
  settle a := by
    rintro x _ rfl
    rfl

theorem Same.localAgreement (root : Document) (c : Conditions) :
    LocalAgreement (Same (m := m)) root c c :=
  .ofExpression (Same.expression c.mode) (fun _ => rfl) rfl

variable {c d : Conditions}

theorem Same.applyAgrees (hm : c.mode = d.mode) (hl : c.limit = d.limit) :
    ApplyAgrees (Same (m := m)) c d fun _ => True := by
  intro p enter enter' outer name source _ he
  obtain rfl : enter = enter' := funext (he trivial)
  unfold Conditions.applyAt Conditions.exceeds Conditions.settled
  rw [hm, hl]
  rfl

/-- Conditions of one mode and one limit, under which the bodies of some expressions are
evaluated alike, give the same runs with specifications that define the same bodies under the
names that are applied. -/
theorem Same.run_congr {shared : Expression → Prop} {v : View}
    (h : LocalAgreementOn shared (Same (m := m)) v.root c d) (hm : c.mode = d.mode)
    (hl : c.limit = d.limit) {spec spec' : Spec} {names : String → Prop}
    (hbody : ∀ name, names name →
      (spec.template? name).map Template.output = (spec'.template? name).map Template.output)
    (hnames : ∀ name t, names name → spec.template? name = some t → AppliesOnly names t.output)
    (hshared : ∀ name t, spec.template? name = some t → ∀ e ∈ t.output.expressions, shared e)
    (chain : Chain) {o : Output} (ho : AppliesOnly names o)
    (he : ∀ e ∈ o.expressions, shared e) :
    (Setting.run ⟨c, spec⟩ chain v o : m (Option Document))
      = Setting.run ⟨d, spec'⟩ chain v o := by
  have hsettled {α : Type} (e : Failure) : (c.settled e : m (Option α)) = d.settled e :=
    congrArg (settle · none (fail e)) hm
  refine h.run_agree_of_names (fun name hn => ?_) hshared (Same.applyAgrees hm hl)
    (fun _ _ => hsettled _) chain trivial o ho he
  have hname := hbody name hn
  cases hk : spec.template? name with
  | none =>
    rw [hk, Option.map_none, eq_comm, Option.map_eq_none_iff] at hname
    exact .unknown hk hname fun _ => hsettled _
  | some t =>
    rw [hk, Option.map_some, eq_comm, Option.map_eq_some_iff] at hname
    obtain ⟨t', hk', ho'⟩ := hname
    exact .known hk hk' ho'.symm (hnames name t hn hk)

end Same

end Transform

end Reshape
