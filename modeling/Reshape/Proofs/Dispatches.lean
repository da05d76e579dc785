import Reshape.Proofs.Nesting

/-!
# The dispatches of a run

A `Dispatch` is an attempt to apply a template to a node, within the applications
of a chain. `Setting.watch` is a run that notes each dispatch before it decides
whether to refuse it. It gives what the run gives; the cycles among its failures
are the dispatches it refuses, in their order; and each dispatch is made from a
moment that the run can come to: `watchStart_faithful`.
-/

namespace Reshape

/-- An attempt in the course of which things are noted, oldest first. -/
structure Watched (ω ε α : Type) where
  attempt : Attempt ε α
  seen : List ω

namespace Watched

variable {ω ε α β : Type}

protected def bind (x : Watched ω ε α) (f : α → Watched ω ε β) : Watched ω ε β :=
  match x.attempt.result with
  | .ok a => ⟨x.attempt >>= fun a => (f a).attempt, x.seen ++ (f a).seen⟩
  | .error _ => ⟨x.attempt >>= fun a => (f a).attempt, x.seen⟩

instance : Settling (Watched ω ε) where
  pure a := ⟨pure a, []⟩
  bind := Watched.bind
  settle mode a x := ⟨settle mode a x.attempt, x.seen⟩

instance : Failing ε (Watched ω ε) where
  fail e := ⟨fail e, []⟩

def noting (w : ω) (x : Watched ω ε α) : Watched ω ε α := ⟨x.attempt, w :: x.seen⟩

end Watched

namespace Transform

/-- An attempt to apply a template to a node, within the applications of a chain. -/
structure Dispatch where
  chain : Chain
  template : String
  place : Place

namespace Dispatch

def link (d : Dispatch) : Link := ⟨d.template, d.place.position⟩

/-- The failure with which a dispatch is refused, if its link is on the chain already. -/
def refusal? (d : Dispatch) : Option Failure :=
  if d.link ∈ d.chain then some (.cycle d.template (d.chain.length + 1)) else none

end Dispatch

abbrev WatchedRun := Watched Dispatch Failure

namespace Setting

variable (s : Setting)

/-- Evaluates a node in a view as `run` does, and notes each dispatch before it is checked. -/
def watch (chain : Chain) (v : View) (o : Output) : WatchedRun (Option Document) :=
  s.body v (fun k => s.applyAt (chain.length + 1) k.name fun q =>
    Watched.noting ⟨chain, k.name, q.1⟩ <|
      if h : (⟨k.name, q.1.position⟩ : Link) ∈ chain then
        s.settled (.cycle k.name (chain.length + 1))
      else watch (⟨k.name, q.1.position⟩ :: chain) (v.goTo q.1) k.template.output) o
termination_by rank s.spec.names chain v.place
decreasing_by exact rank_lt (Spec.mem_names_of_template? k.found) q h

/-- Evaluates the body to start with at the whole of a document, and notes each dispatch. -/
def watchStart (template : Option String) (d : Document) : WatchedRun Document :=
  s.startWith (s.watch [] (.ofDocument d)) template

end Setting

/-! ## Watched runs and runs -/

def Failure.isCycle : Failure → Bool
  | .cycle _ _ => true
  | _ => false

/-- A moment of a run that starts at a document: its chain and its place. -/
def Moment (spec : Spec) (root : Document) (chain : Chain) (p : Place) : Prop :=
  Relation.ReflTransGen (Nests spec) (chain, p) ([], .root root)

/-- The dispatch is made at a moment of the run, to a place that is reached from there. -/
def Dispatch.Arises (spec : Spec) (root : Document) (d : Dispatch) : Prop :=
  ∃ p, Moment spec root d.chain p ∧ p.Reaches d.place

/-- The watched evaluation does what the other one does. The dispatches it notes arise in runs,
and those it refuses are the cycles that are met. -/
structure Faithful (spec : Spec) (root : Document) (α : Type) (x : WatchedRun α)
    (y : Attempt Failure α) : Prop where
  attempt : x.attempt = y
  arises : ∀ d ∈ x.seen, d.Arises spec root
  refusals : y.failures.filter Failure.isCycle = x.seen.filterMap Dispatch.refusal?

namespace Faithful

variable {spec : Spec} {root : Document} {α β : Type}

theorem pure (a : α) : Faithful spec root α (pure a) (pure a) := ⟨rfl, nofun, rfl⟩

theorem fail {e : Failure} (he : e.isCycle = false) : Faithful spec root α (fail e) (fail e) :=
  ⟨rfl, nofun, List.filter_cons_of_neg (by simp [he])⟩

theorem settle (mode : Mode) (a : α) {x : WatchedRun α} {y : Attempt Failure α}
    (h : Faithful spec root α x y) :
    Faithful spec root α (settle mode a x) (settle mode a y) := by
  refine ⟨congrArg (Reshape.settle mode a) h.attempt, h.arises, ?_⟩
  rw [Attempt.failures_settle]
  exact h.refusals

theorem bind {x : WatchedRun α} {y : Attempt Failure α} {f : α → WatchedRun β}
    {g : α → Attempt Failure β} (hx : Faithful spec root α x y)
    (hf : ∀ a, Faithful spec root β (f a) (g a)) :
    Faithful spec root β (x >>= f) (y >>= g) := by
  obtain ⟨⟨result, dropped⟩, seen⟩ := x
  obtain ⟨rfl, harises, hrefusals⟩ := hx
  obtain rfl : (fun a => (f a).attempt) = g := funext fun a => (hf a).attempt
  cases result with
  | error e => exact ⟨rfl, harises, hrefusals⟩
  | ok a =>
    refine ⟨rfl, List.forall_mem_append.2 ⟨harises, (hf a).arises⟩, ?_⟩
    show (Attempt.mk (f a).attempt.result (dropped ++ (f a).attempt.dropped)).failures.filter _
      = (seen ++ (f a).seen).filterMap _
    rw [Attempt.failures_ok] at hrefusals
    rw [Attempt.failures_append, List.filter_append, List.filterMap_append, hrefusals,
      (hf a).refusals]

theorem noting {d : Dispatch} (hd : d.Arises spec root) (hr : d.refusal? = none)
    {x : WatchedRun α} {y : Attempt Failure α} (h : Faithful spec root α x y) :
    Faithful spec root α (.noting d x) y := by
  refine ⟨h.attempt, List.forall_mem_cons.2 ⟨hd, h.arises⟩, ?_⟩
  rw [h.refusals]
  exact (List.filterMap_cons_none hr).symm

theorem refused {d : Dispatch} (hd : d.Arises spec root) {e : Failure} (hr : d.refusal? = some e)
    (he : e.isCycle = true) (c : Conditions) :
    Faithful spec root (Option α) (.noting d (c.settled e)) (c.settled e) := by
  refine ⟨rfl, List.forall_mem_singleton.2 hd, ?_⟩
  show _ = [d].filterMap Dispatch.refusal?
  rw [Conditions.failures_settled, List.filter_cons_of_pos he, List.filterMap_cons_some hr]
  rfl

theorem agreement (spec : Spec) (root : Document) (c : Conditions) :
    Agreement (Faithful spec root) root c c :=
  .ofExpression ⟨⟨pure, bind⟩, fun _ => fail rfl, settle c.mode⟩ (fun _ => fail rfl)
    (fun _ => fail rfl) rfl

end Faithful

variable (s : Setting)

theorem watch_faithful {chain : Chain} {v : View} (hm : Moment s.spec v.root chain v.place)
    (o : Output) : Faithful s.spec v.root _ (s.watch chain v o) (s.run chain v o) := by
  have h := Faithful.agreement s.spec v.root s.toConditions
  rw [Setting.watch, Setting.run]
  refine h.body_agree (fun k source => ?_) o
  unfold Conditions.applyAt
  split
  · exact .settle _ none (.fail rfl)
  · refine applyTo_agree h.toSequential (fun q => ?_) source
    have harises : Dispatch.Arises s.spec v.root ⟨chain, k.name, q.1⟩ := ⟨v.place, hm, q.2⟩
    split
    · rename_i hmem
      exact .refused harises (if_pos hmem) rfl _
    · rename_i hnew
      exact .noting harises (if_neg hnew)
        (watch_faithful (v := v.goTo q.1) (.head (.enter k q hnew) hm) _)
termination_by rank s.spec.names chain v.place
decreasing_by exact rank_lt (Spec.mem_names_of_template? k.found) q ‹_›

/-- A watched run gives what the run gives; each dispatch that it notes arises in the run, and
those that it refuses are the cycles among the failures, in their order. -/
theorem watchStart_faithful (start : Option String) (d : Document) :
    Faithful s.spec d _ (s.watchStart start d) (s.start start d) :=
  startWith_agree (Faithful.agreement s.spec d s.toConditions).toSequential
    (fun _ _ _ => .fail rfl) fun o => watch_faithful s (v := .ofDocument d) .refl o

end Transform

end Reshape
