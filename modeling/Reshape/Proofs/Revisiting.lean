import Mathlib.Data.Nat.Find
import Reshape.Proofs.Nesting

/-!
# The guard against revisits

Without a limit, what an unguarded run does at a node does not depend on the
applications around it. So an unguarded run that applies a template to a node
again, below its application to that node, would have to end there on fewer levels
than the least number on which it ends. `run_mirrors` carries this as an invariant
of chains, `Endless`: no application of the chain ends on fewer levels than are
left.
-/

namespace Reshape

namespace Transform

def Failure.IsCycle (e : Failure) : Prop := ∃ name depth, e = .cycle name depth

/-! ## Evaluations that end -/

/-- If the first evaluation ends, the second one ends alike, and no revisit was refused. -/
def Mirrors : Relator (Budgeted Failure) (Budgeted Failure) :=
  fun _ x y => ∀ z, x = .done z → y = .done z ∧ ∀ e ∈ z.failures, ¬ e.IsCycle

theorem Mirrors.pure {α : Type} (a : α) : Mirrors α (pure a) (pure a) := by
  rintro z ⟨⟩
  exact ⟨rfl, nofun⟩

theorem Mirrors.fail {α : Type} {e : Failure} (he : ¬ e.IsCycle) :
    Mirrors α (fail e) (fail e) := by
  rintro z ⟨⟩
  refine ⟨rfl, fun e' h => ?_⟩
  rw [List.mem_singleton.1 h]
  exact he

theorem Mirrors.bind {α β : Type} {x y : Budgeted Failure α} {f g : α → Budgeted Failure β}
    (hx : Mirrors α x y) (hf : ∀ a, Mirrors β (f a) (g a)) : Mirrors β (x >>= f) (y >>= g) := by
  intro z hz
  rcases Budgeted.bind_eq_done_iff.1 hz with ⟨e, dropped, rfl, rfl⟩ | ⟨a, dropped, w, rfl, hw, rfl⟩
  · obtain ⟨rfl, he⟩ := hx _ rfl
    exact ⟨rfl, he⟩
  · obtain ⟨rfl, hd⟩ := hx _ rfl
    obtain ⟨hw, he⟩ := hf a w hw
    refine ⟨Budgeted.bind_eq_done_iff.2 (.inr ⟨a, dropped, w, rfl, hw, rfl⟩), fun e h => ?_⟩
    rw [Attempt.failures_append, List.mem_append] at h
    exact h.elim (fun h => hd e (by simpa [Attempt.failures] using h)) (he e)

theorem Mirrors.exhausted {α : Type} (y : Budgeted Failure α) : Mirrors α .exhausted y :=
  nofun

theorem Mirrors.settle {α : Type} (mode : Mode) (a : α) {x y : Budgeted Failure α}
    (h : Mirrors α x y) : Mirrors α (settle mode a x) (settle mode a y) := by
  intro z hz
  match x with
  | none => cases hz
  | some x =>
    obtain ⟨rfl, he⟩ := h x rfl
    obtain rfl := Budgeted.done_injective hz
    rw [Attempt.failures_settle]
    exact ⟨rfl, he⟩

theorem Mirrors.agreement (root : Document) (c : Conditions) : Agreement Mirrors root c c :=
  .ofExpression ⟨⟨pure, bind⟩, fun _ => fail nofun, settle c.mode⟩ (fun _ => fail nofun)
    (fun _ => fail nofun) rfl

/-! ## Chains -/

/-- No application of the chain ends on fewer than `n` levels, if it is unguarded. -/
def Endless (s : Setting) (root : Document) (n : Nat) (chain : Chain) : Prop :=
  ∀ (k : Known s.spec) (q : Place), (Place.root root).Reaches q →
    (⟨k.name, q.position⟩ : Link) ∈ chain →
    ∀ m < n, ∀ z, s.within false m [] ⟨q, root⟩ k.template.output ≠ .done z

theorem Endless.nil (s : Setting) (root : Document) (n : Nat) : Endless s root n [] :=
  fun _ _ _ h => absurd h List.not_mem_nil

/-- An application may join a chain if it does not end on less than what is left. -/
theorem Endless.cons {s : Setting} {root : Document} {n n' : Nat} {chain : Chain}
    (hc : Endless s root n chain) (hn : n' ≤ n) {k : Known s.spec} {q : Place}
    (hq : (Place.root root).Reaches q)
    (h : ∀ m < n', ∀ z, s.within false m [] ⟨q, root⟩ k.template.output ≠ .done z) :
    Endless s root n' (⟨k.name, q.position⟩ :: chain) := by
  intro l r hr hmem m hm z
  rcases List.mem_cons.1 hmem with heq | hmem
  · obtain ⟨hname, hpos⟩ := Link.mk.inj heq
    rw [Known.eq_of_name hname, hr.eq_of_position hq hpos]
    exact h m hm z
  · exact hc l r hr hmem m (by omega) z

/-! ## Unguarded runs -/

variable {s : Setting} (hl : s.limit = none)

include hl

theorem applyAt_of_no_limit {m : Type → Type} [Settling m] [Failing Failure m] {p : Place}
    (depth : Nat) (name : String) (enter : Reach p → m (Option Document)) :
    s.applyAt depth name enter = applyTo enter := by
  funext source
  unfold Conditions.applyAt Conditions.exceeds
  rw [hl]
  rfl

theorem level_unguarded {m : Type → Type} [Settling m] [Failing Failure m]
    (next : Chain → View → Output → m (Option Document)) (chain : Chain) (v : View) (o : Output) :
    s.level false next chain v o
      = s.body v (fun k => applyTo fun q =>
          next (⟨k.name, q.1.position⟩ :: chain) (v.goTo q.1) k.template.output) o := by
  unfold Setting.level
  congr 1
  funext k
  rw [applyAt_of_no_limit hl]
  congr 1

/-- The applications around an unguarded run do not matter. -/
theorem within_unguarded_chain (n : Nat) (chain chain' : Chain) (v : View) (o : Output) :
    s.within false n chain v o = s.within false n chain' v o := by
  induction n generalizing chain chain' v o with
  | zero => rfl
  | succ n ih =>
    rw [Setting.within, level_unguarded hl, level_unguarded hl]
    congr 1
    funext k
    congr 1
    funext q
    exact ih ..

/-- What ends on some levels ends alike on the least number of them that suffices. -/
theorem exists_least_within {m : Nat} {v : View} {o : Output}
    {z : Attempt Failure (Option Document)} (h : s.within false m [] v o = .done z) :
    ∃ n ≤ m, (∀ chain, s.within false n chain v o = .done z) ∧
      ∀ l < n, ∀ z, s.within false l [] v o ≠ .done z := by
  classical
  have hex : ∃ n z, s.within false n [] v o = .done z := ⟨m, z, h⟩
  have hle : Nat.find hex ≤ m := Nat.find_min' hex ⟨z, h⟩
  obtain ⟨z', hz'⟩ := Nat.find_spec hex
  have hz : .done z' = Budgeted.done z := by
    rw [← h]
    exact (within_extends (Q := fun _ => True) (.inl rfl) hle [] v o _ hz' fun _ _ => trivial).symm
  refine ⟨Nat.find hex, hle, fun chain => ?_, fun l hl z hz => Nat.find_min hex hl ⟨z, hz⟩⟩
  rw [within_unguarded_chain hl _ chain [], hz', hz]

theorem run_mirrors {n : Nat} {chain : Chain} {v : View}
    (hv : (Place.root v.root).Reaches v.place) (hc : Endless s v.root n chain) (o : Output) :
    Mirrors _ (s.within false n chain v o) (s.run chain v o) := by
  induction n using Nat.strongRecOn generalizing chain v o with
  | ind n ih =>
    cases n with
    | zero => exact .exhausted _
    | succ n =>
      have h := Mirrors.agreement v.root s.toConditions
      rw [Setting.run_eq_level, Setting.within, level_unguarded hl]
      unfold Setting.level
      refine h.body_agree (fun k source => ?_) o
      rw [applyAt_of_no_limit hl]
      refine applyTo_agree h.toSequential (fun q z hz => ?_) source
      rw [within_unguarded_chain hl _ _ []] at hz
      have hq := hv.trans q.2
      have hnew : (⟨k.name, q.1.position⟩ : Link) ∉ chain := fun hmem =>
        hc k q.1 hq hmem n (by omega) z hz
      -- below its own application, the template is given the least budget it ends on
      obtain ⟨l, hln, hdone, hend⟩ := exists_least_within hl hz
      unfold Setting.enter
      rw [if_neg fun hmem => hnew hmem.2]
      exact ih l (by omega) (v := v.goTo q.1) hq (hc.cons (by omega) hq hend) _ z (hdone _)

omit hl in
/-- Without a limit, a run without the guard against revisits ends on some budget if
and only if the run with the guard neither raises nor passes over a refusal; and
what it gives then, its failures included, the run with the guard gives too. -/
theorem cycle_guard_exact (mode : Mode) (registry : Registry) (d : Document) (spec : Spec)
    (start : Option String) :
    let s : Setting := ⟨⟨mode, registry, none⟩, spec⟩
    ((∃ budget x, s.startWithin false budget start d = .done x) ↔
      ∀ e ∈ (s.start start d : Attempt Failure Document).failures, ¬ e.IsCycle) ∧
    ∀ budget x, s.startWithin false budget start d = .done x → s.start start d = x := by
  intro s
  have hm (budget : Nat) : Mirrors _ (s.startWithin false budget start d) (s.start start d) :=
    startWith_agree (Mirrors.agreement d s.toConditions).toSequential (fun _ _ _ => .fail nofun)
      fun o => run_mirrors (v := .ofDocument d) rfl (.refl _) (.nil s d _) o
  rw [start_done] at hm
  refine ⟨⟨?_, fun h => ?_⟩, fun budget x hx => ?_⟩
  · rintro ⟨budget, x, hx⟩
    obtain ⟨heq, hcycle⟩ := hm budget x hx
    rw [Budgeted.done_injective heq]
    exact hcycle
  · have hext (budget : Nat) : Extends (fun e => ¬ e.IsCycle) _
        (s.startWithin true budget start d) (s.startWithin false budget start d) :=
      startWithin_extends (.inr ⟨rfl, fun name depth hq => hq ⟨name, depth, rfl⟩⟩)
        (Nat.le_refl budget) start d
    exact ⟨_, _, hext _ _ (startWithin_eq_start s start d) h⟩
  · exact Budgeted.done_injective (hm budget x hx).1

end Transform

end Reshape
