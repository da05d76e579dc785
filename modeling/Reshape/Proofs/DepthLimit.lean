import Reshape.Proofs.Nesting

/-!
# The limit on depth

With a limit, an application is refused just where it would stand within as many
others. So a run goes no deeper than the limit, `start_within_limit`; each refusal
names the limit and the depth above it, `start_tooDeep`; and a run that is nowhere
refused for its depth is the run with any greater limit, `start_unlimited`.
-/

namespace Reshape

theorem Attempt.forall_failures_bind {ε α β : Type} {Q : ε → Prop} {x : Attempt ε α}
    {f : α → Attempt ε β} :
    (∀ e ∈ (x >>= f).failures, Q e) ↔
      (∀ e ∈ x.failures, Q e) ∧ ∀ a, x.result = .ok a → ∀ e ∈ (f a).failures, Q e := by
  obtain ⟨result, dropped⟩ := x
  cases result with
  | error e =>
    have hb : ((⟨.error e, dropped⟩ : Attempt ε α) >>= f).failures = dropped ++ [e] := rfl
    have hx : (⟨.error e, dropped⟩ : Attempt ε α).failures = dropped ++ [e] := rfl
    simp [hb, hx]
  | ok a =>
    have hb : ((⟨.ok a, dropped⟩ : Attempt ε α) >>= f).failures = dropped ++ (f a).failures :=
      failures_append (f a) dropped
    simp only [hb, failures_ok, List.mem_append, or_imp, forall_and, Except.ok.injEq,
      forall_eq']

namespace Transform

/-- An application stands within too many others. -/
def Failure.IsTooDeep (e : Failure) : Prop := ∃ name depth limit, e = .tooDeep name depth limit

/-- The same conditions with another limit, or with none. -/
def Conditions.withLimit (c : Conditions) (limit : Option Nat) : Conditions :=
  { c with limit := limit }

variable {c : Conditions} {limit : Nat}

theorem exceeds_eq_none_iff {depth : Nat} :
    c.exceeds depth = none ↔ ∀ l, c.limit = some l → depth ≤ l := by
  unfold Conditions.exceeds
  rw [Option.filter_eq_none_iff]
  simp

theorem exceeds_eq_some_iff {depth l : Nat} :
    c.exceeds depth = some l ↔ c.limit = some l ∧ l < depth := by
  unfold Conditions.exceeds
  rw [Option.filter_eq_some_iff]
  simp

theorem exceeds_eq_none {depth : Nat} :
    (c.withLimit (some limit)).exceeds depth = none ↔ depth ≤ limit := by
  rw [exceeds_eq_none_iff]
  simp [Conditions.withLimit]

theorem exceeds_eq_some {depth l : Nat} :
    (c.withLimit (some limit)).exceeds depth = some l ↔ l = limit ∧ limit < depth := by
  rw [exceeds_eq_some_iff]
  constructor
  · rintro ⟨⟨⟩, h⟩
    exact ⟨rfl, h⟩
  · rintro ⟨rfl, h⟩
    exact ⟨rfl, h⟩

/-! ## Budgets -/

theorem within_limit_eq_run (spec : Spec) {n : Nat} {chain : Chain} {v : View}
    (h : limit < chain.length + n) (hc : chain.length ≤ limit) (o : Output) :
    Setting.within ⟨c.withLimit (some limit), spec⟩ true n chain v o
      = Setting.run ⟨c.withLimit (some limit), spec⟩ chain v o := by
  induction n generalizing chain v o with
  | zero => omega
  | succ n ih =>
    rw [Setting.run_eq_level]
    refine level_congr _ (fun hd k q _ o => ?_) o
    have hdepth : chain.length + 1 ≤ limit := exceeds_eq_none.1 hd
    exact ih (by rw [List.length_cons]; omega) (by rwa [List.length_cons]) o

/-- A budget of as many applications within each other as the limit allows suffices. -/
theorem start_within_limit (spec : Spec) (start : Option String) (d : Document) :
    Setting.startWithin ⟨c.withLimit (some limit), spec⟩ true limit start d
      = .done (Setting.start ⟨c.withLimit (some limit), spec⟩ start d) := by
  rw [← start_done]
  unfold Setting.startWithin Setting.start
  congr 1
  funext o
  exact within_limit_eq_run spec (by simp) (Nat.zero_le _) o

/-! ## The failures of a run -/

/-- All failures of the first attempt are among those of `Q`; the other attempt does not
matter. -/
def FailsOnly (Q : Failure → Prop) : Relator (Attempt Failure) (Attempt Failure) :=
  fun _ x _ => ∀ e ∈ x.failures, Q e

variable {Q : Failure → Prop}

theorem FailsOnly.pure {α : Type} (a : α) : FailsOnly Q α (pure a) (pure a) := nofun

theorem FailsOnly.fail {α : Type} {e : Failure} (he : Q e) :
    FailsOnly Q α (fail e) (fail e) := by
  intro e' h
  rwa [List.mem_singleton.1 h]

theorem FailsOnly.bind {α β : Type} {x y : Attempt Failure α} {f g : α → Attempt Failure β}
    (hx : FailsOnly Q α x y) (hf : ∀ a, FailsOnly Q β (f a) (g a)) :
    FailsOnly Q β (x >>= f) (y >>= g) :=
  Attempt.forall_failures_bind.2 ⟨hx, fun a _ => hf a⟩

theorem FailsOnly.settle (mode : Mode) {α : Type} (a : α) {x y : Attempt Failure α}
    (h : FailsOnly Q α x y) : FailsOnly Q α (settle mode a x) (settle mode a y) := by
  intro e he
  rw [Attempt.failures_settle] at he
  exact h e he

/-- Bodies fail as `Q` says if it holds of the failures of selectors and expressions, and of
those of applications. -/
theorem FailsOnly.localAgreement (hs : ∀ e, Q (.selector e)) (hx : ∀ e, Q (.expression e))
    (root : Document) (c : Conditions) : LocalAgreement (FailsOnly Q) root c c :=
  .ofExpression ⟨⟨pure, bind⟩, fun e => fail (hx e), settle c.mode⟩ (fun e => fail (hs e)) rfl

theorem FailsOnly.agreement (hs : ∀ e, Q (.selector e)) (hx : ∀ e, Q (.expression e))
    (hu : ∀ name, Q (.unknownTemplate name)) (root : Document) (c : Conditions) :
    Agreement (FailsOnly Q) root c c where
  toLocalAgreement := localAgreement hs hx root c
  unknownTemplate name := settle c.mode none (fail (hu name))

/-- A failure of depth names this limit, and the depth just above it. -/
def Failure.IsJustAbove (limit : Nat) (e : Failure) : Prop :=
  ∀ name depth bound, e = .tooDeep name depth bound → depth = limit + 1 ∧ bound = limit

theorem start_tooDeep (spec : Spec) (start : Option String) (d : Document) :
    ∀ e ∈ (Setting.start ⟨c.withLimit (some limit), spec⟩ start d
      : Attempt Failure Document).failures, e.IsJustAbove limit := by
  have h : Agreement (FailsOnly (Failure.IsJustAbove limit)) d (c.withLimit (some limit)) _ :=
    FailsOnly.agreement (fun _ => nofun) (fun _ => nofun) (fun _ => nofun) d _
  let s : Setting := ⟨c.withLimit (some limit), spec⟩
  show FailsOnly (Failure.IsJustAbove limit) _ (s.start start d) (s.start start d)
  refine startWith_agree h.toSequential (fun _ _ _ => .fail nofun) fun o => ?_
  refine h.run_agree_of_apply (v := .ofDocument d) spec (I := fun outer => outer ≤ limit) ?_
    (fun _ _ => .settle _ _ (.fail nofun)) [] (Nat.zero_le _) o
  intro p enter enter' outer name source hi he
  unfold Conditions.applyAt
  split
  · rename_i l hl
    obtain ⟨rfl, hlt⟩ := exceeds_eq_some.1 hl
    refine .settle _ _ (.fail ?_)
    rintro _ _ _ ⟨⟩
    omega
  · rename_i hl
    exact applyTo_agree h.toSequential (he (exceeds_eq_none.1 hl)) source

/-! ## Greater limits -/

/-- If the first attempt meets no other failures than those of `Q`, the second one is
the same. -/
def UnchangedIf (Q : Failure → Prop) : Relator (Attempt Failure) (Attempt Failure) :=
  fun _ x y => (∀ e ∈ x.failures, Q e) → x = y

theorem UnchangedIf.refl {α : Type} (x : Attempt Failure α) : UnchangedIf Q α x x := fun _ => rfl

theorem UnchangedIf.bind {α β : Type} {x y : Attempt Failure α} {f g : α → Attempt Failure β}
    (hx : UnchangedIf Q α x y) (hf : ∀ a, UnchangedIf Q β (f a) (g a)) :
    UnchangedIf Q β (x >>= f) (y >>= g) := by
  intro hq
  obtain ⟨hxq, hfq⟩ := Attempt.forall_failures_bind.1 hq
  obtain rfl := hx hxq
  obtain ⟨result, dropped⟩ := x
  cases result with
  | error e => rfl
  | ok a =>
    show Attempt.mk (f a).result (dropped ++ (f a).dropped)
      = Attempt.mk (g a).result (dropped ++ (g a).dropped)
    rw [hf a (hfq a rfl)]

theorem start_unlimited (spec : Spec) (start : Option String) {d : Document}
    {limit' : Option Nat} (hl : ∀ l, limit' = some l → limit ≤ l)
    (h : ∀ e ∈ (Setting.start ⟨c.withLimit (some limit), spec⟩ start d
      : Attempt Failure Document).failures, ¬ e.IsTooDeep) :
    (Setting.start ⟨c.withLimit (some limit), spec⟩ start d : Attempt Failure Document)
      = Setting.start ⟨c.withLimit limit', spec⟩ start d := by
  have ha : Agreement (UnchangedIf fun e => ¬ e.IsTooDeep) d (c.withLimit (some limit))
      (c.withLimit limit') :=
    { pure := fun _ => .refl _, bind := .bind, selector := fun _ => .refl _,
      unknownTemplate := fun _ => .refl _, expression := fun _ _ => .refl _ }
  refine startWith_agree ha.toSequential (fun _ _ _ => .refl _) (fun o => ?_) h
  refine ha.run_agree_of_apply (v := .ofDocument d) spec (I := fun _ => True) ?_
    (fun _ _ => .refl _) [] trivial o
  intro p enter enter' outer name source _ he
  unfold Conditions.applyAt
  cases hd : (c.withLimit (some limit)).exceeds (outer + 1) with
  | some l =>
    intro hq
    refine absurd ⟨name, outer + 1, l, rfl⟩ (hq (.tooDeep name (outer + 1) l) ?_)
    exact (Conditions.failures_settled _ _).symm ▸ List.mem_singleton_self _
  | none =>
    have hle : outer + 1 ≤ limit := exceeds_eq_none.1 hd
    have hd' : (c.withLimit limit').exceeds (outer + 1) = none :=
      exceeds_eq_none_iff.2 fun l hl' => Nat.le_trans hle (hl l hl')
    rw [hd']
    exact applyTo_agree ha.toSequential (he trivial) source

/-- With a limit, a budget of that many applications within each other suffices for every
run; each application that is refused for its depth would stand just above the limit; and
a run in which none is refused is the same with each greater limit and with none. -/
theorem depth_limit_exact (mode : Mode) (registry : Registry) (d : Document) (spec : Spec)
    (limit : Nat) (start : Option String) :
    let s (limit : Option Nat) : Setting := ⟨⟨mode, registry, limit⟩, spec⟩
    let x : Attempt Failure Document := (s (some limit)).start start d
    (s (some limit)).startWithin true limit start d = .done x ∧
      (∀ name depth bound, Failure.tooDeep name depth bound ∈ x.failures →
        depth = limit + 1 ∧ bound = limit) ∧
      ((∀ e ∈ x.failures, ¬ e.IsTooDeep) →
        ∀ limit', (∀ l, limit' = some l → limit ≤ l) → (s limit').start start d = x) := by
  intro s x
  let c : Conditions := ⟨mode, registry, none⟩
  refine ⟨start_within_limit (c := c) spec start d, fun name depth bound hm => ?_,
    fun hx limit' hl => ?_⟩
  · exact start_tooDeep (c := c) spec start d _ hm name depth bound rfl
  · exact (start_unlimited (c := c) spec start hl hx).symm

/-- A template that goes down two nodes: a limit of one refuses the second application. -/
example :
    let d : Document := .object [("c", .object [("c", .null)])]
    let s : Setting := ⟨⟨.strict, .empty, some 1⟩,
      ⟨[⟨some "a", none, .apply "a" (some ⟨"$.c", [.property "c"]⟩)⟩], .apply "a" none, []⟩⟩
    s.startWithin true 1 none d = .done ⟨.error (.tooDeep "a" 2 1), []⟩ :=
  rfl

end Transform

end Reshape
