import Reshape.Proofs.Agreement

/-!
# Runs on a budget

`Setting.within` runs on a number of levels and gives up where an application
would take one more. It refuses revisits as `Setting.run` does, or not at all. A
body applies templates to finitely many places, so that a run without the refusal
ends just if some number of levels suffices for it.
-/

namespace Reshape

/-- An attempt on a budget; none if the budget is exhausted. -/
def Budgeted (ε α : Type) : Type := Option (Attempt ε α)

namespace Budgeted

variable {ε α β : Type}

def exhausted : Budgeted ε α := none

def done (x : Attempt ε α) : Budgeted ε α := some x

/-- Goes on with a result, if the budget suffices for both parts. -/
protected def bind (x : Budgeted ε α) (f : α → Budgeted ε β) : Budgeted ε β :=
  match x with
  | none => none
  | some ⟨.error e, dropped⟩ => some ⟨.error e, dropped⟩
  | some ⟨.ok a, dropped⟩ =>
    match f a with
    | none => none
    | some y => some ⟨y.result, dropped ++ y.dropped⟩

protected def settle (mode : Mode) (instead : α) (x : Budgeted ε α) : Budgeted ε α :=
  match x with
  | none => none
  | some x => some (settle mode instead x)

instance : Settling (Budgeted ε) where
  pure a := done (pure a)
  bind := Budgeted.bind
  settle := Budgeted.settle

instance : Failing ε (Budgeted ε) where
  fail e := done (fail e)

theorem bind_done (x : Attempt ε α) (f : α → Attempt ε β) :
    done (x >>= f) = done x >>= fun a => done (f a) := by
  obtain ⟨result, dropped⟩ := x
  cases result <;> rfl

theorem done_injective {x y : Attempt ε α} (h : done x = done y) : x = y := Option.some.inj h

theorem bind_eq_done_iff {x : Budgeted ε α} {f : α → Budgeted ε β} {z : Attempt ε β} :
    x >>= f = done z ↔
      (∃ e dropped, x = done ⟨.error e, dropped⟩ ∧ z = ⟨.error e, dropped⟩) ∨
      ∃ a dropped w, x = done ⟨.ok a, dropped⟩ ∧ f a = done w ∧
        z = ⟨w.result, dropped ++ w.dropped⟩ := by
  constructor
  · intro h
    match x with
    | none => cases h
    | some ⟨.error e, dropped⟩ => exact .inl ⟨e, dropped, rfl, (Option.some.inj h).symm⟩
    | some ⟨.ok a, dropped⟩ =>
      change (match f a with
        | none => none
        | some y => some ⟨y.result, dropped ++ y.dropped⟩) = some z at h
      cases hf : f a with
      | none =>
        rw [hf] at h
        cases h
      | some w =>
        rw [hf] at h
        exact .inr ⟨a, dropped, w, rfl, hf, (Option.some.inj h).symm⟩
  · rintro (⟨e, dropped, rfl, rfl⟩ | ⟨a, dropped, w, rfl, hf, rfl⟩)
    · rfl
    · show Budgeted.bind (done ⟨.ok a, dropped⟩) f = _
      simp only [Budgeted.bind, done, hf]
      rfl

end Budgeted

namespace Transform

namespace Setting

section Level

variable {m : Type → Type} [Settling m] [Failing Failure m] (s : Setting)

/-- Applies a template at a node and goes on there; a revisit is refused if
revisits are guarded against. -/
def enter (guarded : Bool) (next : Chain → View → Output → m (Option Document)) (chain : Chain)
    (v : View) (k : Known s.spec) (q : Reach v.place) : m (Option Document) :=
  if guarded ∧ (⟨k.name, q.1.position⟩ : Link) ∈ chain then
    s.settled (.cycle k.name (chain.length + 1))
  else next (⟨k.name, q.1.position⟩ :: chain) (v.goTo q.1) k.template.output

/-- Evaluates a node in a view and goes on with `next` where it applies templates. -/
def level (guarded : Bool) (next : Chain → View → Output → m (Option Document)) (chain : Chain)
    (v : View) (o : Output) : m (Option Document) :=
  s.body v (fun k => s.applyAt (chain.length + 1) k.name (s.enter guarded next chain v k)) o

theorem run_eq_level (chain : Chain) (v : View) (o : Output) :
    (s.run chain v o : m (Option Document)) = s.level true s.run chain v o := by
  rw [run]
  unfold level
  congr 1
  funext k
  congr 1
  funext q
  simp only [enter, true_and, dite_eq_ite]

end Level

variable (s : Setting)

/-- Runs on a number of levels: that of the body, and one for each application within
another one. -/
def within (guarded : Bool) : Nat → Chain → View → Output → Budgeted Failure (Option Document)
  | 0 => fun _ _ _ => .exhausted
  | levels + 1 => s.level guarded (within guarded levels)

def startWithin (guarded : Bool) (budget : Nat) (start : Option String) (d : Document) :
    Budgeted Failure Document :=
  s.startWith (s.within guarded (budget + 1) [] (.ofDocument d)) start

end Setting

/-- Where a failure is settled, it is the only one. -/
theorem Conditions.failures_settled {α : Type} (c : Conditions) (e : Failure) :
    (c.settled e : Attempt Failure (Option α)).failures = [e] := by
  unfold Conditions.settled
  rw [Attempt.failures_settle]
  rfl

/-! ## Runs without a budget -/

theorem done_translates (mode : Mode) :
    Translates (fun α (x : Attempt Failure α) => Budgeted.done x) mode mode where
  pure _ := rfl
  bind := Budgeted.bind_done
  fail _ := rfl
  settle _ _ := rfl

theorem start_done (s : Setting) (start : Option String) (d : Document) :
    (s.start start d : Budgeted Failure Document) = .done (s.start start d) :=
  ((done_translates s.mode).start s.toConditions s.spec start d).symm

/-! ## Larger budgets -/

/-- If the first evaluation ends, and meets no other failures than those of `Q`,
then the second one ends alike. -/
def Extends (Q : Failure → Prop) : Relator (Budgeted Failure) (Budgeted Failure) :=
  fun _ x y => ∀ z, x = .done z → (∀ e ∈ z.failures, Q e) → y = .done z

variable {Q : Failure → Prop}

theorem Extends.refl {α : Type} (x : Budgeted Failure α) : Extends Q α x x := fun _ hx _ => hx

theorem Extends.bind {α β : Type} {x y : Budgeted Failure α} {f g : α → Budgeted Failure β}
    (hx : Extends Q α x y) (hf : ∀ a, Extends Q β (f a) (g a)) :
    Extends Q β (x >>= f) (y >>= g) := by
  intro z hz hq
  rcases Budgeted.bind_eq_done_iff.1 hz with ⟨e, dropped, rfl, rfl⟩ | ⟨a, dropped, w, rfl, hw, rfl⟩
  · rw [hx _ rfl hq]
    rfl
  · rw [Attempt.failures_append] at hq
    refine Budgeted.bind_eq_done_iff.2 (.inr ⟨a, dropped, w, ?_, ?_, rfl⟩)
    · exact hx _ rfl fun e he => hq e (List.mem_append_left _ (by simpa using he))
    · exact hf a w hw fun e he => hq e (List.mem_append_right _ he)

theorem Extends.exhausted {α : Type} (y : Budgeted Failure α) : Extends Q α .exhausted y :=
  nofun

/-- An evaluation that meets another failure need not end alike. -/
theorem Extends.of_settled {α : Type} {c : Conditions} {e : Failure} (he : ¬ Q e)
    (y : Budgeted Failure (Option α)) : Extends Q _ (c.settled e) y := by
  intro z hz hq
  have hs : c.settled e = z := Budgeted.done_injective hz
  have hf : z.failures = [e] := by rw [← hs, Conditions.failures_settled]
  exact absurd (hq e (by simp [hf])) he

theorem Extends.run (root : Document) (c : Conditions) : RunAgreement (Extends Q) root c c where
  pure _ := refl _
  bind := bind
  selector _ := refl _
  unknownTemplate _ := refl _
  expression _ _ := refl _
  limit := rfl
  tooDeep _ _ _ := refl _
  cycle _ _ := refl _

section Larger

variable {s : Setting} {guarded guarded' : Bool}
  (hg : guarded = guarded' ∨ guarded' = false ∧ ∀ name depth, ¬ Q (.cycle name depth))

include hg

theorem level_extends {next next' : Chain → View → Output → Budgeted Failure (Option Document)}
    (hn : ∀ chain v o, Extends Q _ (next chain v o) (next' chain v o)) (chain : Chain) (v : View)
    (o : Output) :
    Extends Q _ (s.level guarded next chain v o) (s.level guarded' next' chain v o) := by
  have h := Extends.run (Q := Q) v.root s.toConditions
  refine h.body_agree (fun k source => h.applyAt_agree (fun q => ?_) _ _ source) o
  unfold Setting.enter
  rcases hg with rfl | ⟨rfl, hq⟩
  · split
    · exact h.cycle _ _
    · exact hn _ _ _
  · rw [if_neg (by simp : ¬(false = true ∧ _))]
    split
    · exact .of_settled (hq _ _) _
    · exact hn _ _ _

/-- A larger budget changes nothing once a run ends; nor does it if revisits are no
longer refused, as long as none was. -/
theorem within_extends {n n' : Nat} (hn : n ≤ n') (chain : Chain) (v : View) (o : Output) :
    Extends Q _ (s.within guarded n chain v o) (s.within guarded' n' chain v o) := by
  induction n generalizing n' chain v o with
  | zero => exact .exhausted _
  | succ n ih =>
    obtain ⟨n', rfl⟩ : ∃ k, n' = k + 1 := ⟨n' - 1, by omega⟩
    exact level_extends hg (fun chain v o => ih (by omega) chain v o) chain v o

theorem startWithin_extends {n n' : Nat} (hn : n ≤ n') (start : Option String) (d : Document) :
    Extends Q _ (s.startWithin guarded n start d) (s.startWithin guarded' n' start d) :=
  startWith_agree (Extends.run d s.toConditions).toSequential (fun _ _ _ => .refl _)
    fun o => within_extends hg (by omega) [] _ o

end Larger

end Transform

end Reshape
