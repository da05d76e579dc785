import Reshape.Proofs.Logging
import Reshape.Transform.Transformer

/-!
# Strict and permissive runs

A strict run is the permissive one, stopped at the first failure: `start_strict`.
A permissive run always has a result: `start_permissive`.
-/

namespace Reshape

/-- What is left of an attempt that stops at the first failure. -/
def Attempt.strictly {ε α : Type} (x : Attempt ε α) : Attempt ε α :=
  match x.dropped with
  | [] => x
  | e :: _ => ⟨.error e, []⟩

namespace Attempt

variable {ε α β : Type}

theorem strictly_bind (x : Attempt ε α) (f : α → Attempt ε β) :
    (x >>= f).strictly = x.strictly >>= fun a => (f a).strictly := by
  obtain ⟨result, dropped⟩ := x
  cases result with
  | error e => cases dropped <;> rfl
  | ok a =>
    cases dropped with
    | cons e rest => rfl
    | nil =>
      show strictly ⟨(f a).result, [] ++ (f a).dropped⟩
        = ⟨(f a).strictly.result, [] ++ (f a).strictly.dropped⟩
      rw [List.nil_append, List.nil_append]

theorem strictly_settle (a : α) (x : Attempt ε α) :
    (settle .permissive a x).strictly = settle .strict a x.strictly := by
  obtain ⟨result, dropped⟩ := x
  cases result <;> cases dropped <;> rfl

def Succeeds (x : Attempt ε α) : Prop := ∃ a, x.result = .ok a

theorem succeeds_pure (a : α) : (pure a : Attempt ε α).Succeeds := ⟨a, rfl⟩

theorem Succeeds.bind {x : Attempt ε α} {f : α → Attempt ε β} (hx : x.Succeeds)
    (hf : ∀ a, (f a).Succeeds) : (x >>= f).Succeeds := by
  obtain ⟨result, dropped⟩ := x
  obtain ⟨a, ha⟩ := hx
  obtain ⟨b, hb⟩ := hf a
  dsimp only at ha
  subst ha
  exact ⟨b, hb⟩

theorem succeeds_settle (a : α) (x : Attempt ε α) :
    (settle .permissive a x : Attempt ε α).Succeeds := by
  obtain ⟨result, dropped⟩ := x
  cases result with
  | ok b => exact ⟨b, rfl⟩
  | error e => exact ⟨a, rfl⟩

end Attempt

/-- A start that is told is the name of a template. -/
abbrev Spec.Defines (spec : Spec) (start : Option String) : Prop :=
  ∀ name, start = some name → name ∈ spec.names

namespace Transform

theorem strictly_translates :
    Translates (fun α (x : Attempt Failure α) => x.strictly) .permissive .strict where
  pure _ := rfl
  bind := Attempt.strictly_bind
  fail _ := rfl
  settle := Attempt.strictly_settle

/-- The attempt has a result; the other one does not matter. -/
def IsSuccess : Relator (Attempt Failure) (Attempt Failure) := fun _ x _ => x.Succeeds

theorem IsSuccess.run (root : Document) (c : Conditions) :
    RunAgreement IsSuccess root (c.inMode .permissive) (c.inMode .permissive) where
  pure := Attempt.succeeds_pure
  bind := Attempt.Succeeds.bind
  selector _ := Attempt.succeeds_settle none _
  unknownTemplate _ := Attempt.succeeds_settle none _
  expression _ _ := (Attempt.succeeds_settle _ _).bind fun a => by
    cases a <;> exact Attempt.succeeds_pure _
  limit := rfl
  tooDeep _ _ _ := Attempt.succeeds_settle none _
  cycle _ _ := Attempt.succeeds_settle none _

theorem start_strict (spec : Spec) (c : Conditions) (start : Option String) (d : Document) :
    (Setting.start ⟨c.inMode .strict, spec⟩ start d : Attempt Failure Document)
      = (Setting.start ⟨c.inMode .permissive, spec⟩ start d : Attempt Failure Document).strictly :=
  (strictly_translates.start c spec start d).symm

theorem start_permissive {spec : Spec} {start : Option String} (hs : spec.Defines start)
    (c : Conditions) (d : Document) :
    (Setting.start ⟨c.inMode .permissive, spec⟩ start d : Attempt Failure Document).Succeeds := by
  refine (IsSuccess.run d c).start_agree spec start fun name hn ht => ?_
  obtain ⟨t, h⟩ := Spec.exists_template?_of_mem_names (hs name hn)
  rw [h] at ht
  cases ht

end Transform

/-! ## Correspondence -/

open Transform

/-- A run that keeps a log. -/
def Transformer.runLogged (t : Transformer) (spec : Spec) (mode : Mode) (start : Option String)
    (d : Document) : Log → Except Failure Document × Log :=
  ((t.setting spec mode).start start d : Logged Failure.message Document)

/-- A permissive run has a result. If it drops nothing, the strict run has the same
one; else the strict run fails with what is dropped first. The strict run adds
nothing to a log, the permissive run the messages of what it drops, and neither
depends on the log. -/
theorem strict_corresponds_to_permissive (t : Transformer) (spec : Spec) (start : Option String)
    (hs : ∀ name, start = some name → name ∈ spec.names) (d : Document) :
    ∃ (v : Document) (dropped : List Failure),
      t.run spec ⟨some .permissive, start⟩ d = ⟨.ok v, dropped⟩ ∧
      (dropped = [] → t.run spec ⟨some .strict, start⟩ d = ⟨.ok v, []⟩) ∧
      (∀ e rest, dropped = e :: rest → t.run spec ⟨some .strict, start⟩ d = ⟨.error e, []⟩) ∧
      (∀ log, t.runLogged spec .permissive start d log
        = (.ok v, log.append (dropped.map Failure.message))) ∧
      ∀ log, t.runLogged spec .strict start d log
        = ((t.run spec ⟨some .strict, start⟩ d).result, log) := by
  let c : Conditions := (t.setting spec .strict).toConditions
  have hp : t.run spec ⟨some .permissive, start⟩ d
      = Setting.start ⟨c.inMode .permissive, spec⟩ start d := rfl
  have hstrict : t.run spec ⟨some .strict, start⟩ d
      = (t.run spec ⟨some .permissive, start⟩ d).strictly := start_strict spec c start d
  obtain ⟨v, hv⟩ := start_permissive hs c d
  rw [← hp] at hv
  generalize hx : t.run spec ⟨some .permissive, start⟩ d = x at hv hstrict
  obtain ⟨result, dropped⟩ := x
  dsimp only at hv
  subst hv
  refine ⟨v, dropped, rfl, ?_, ?_, fun log => ?_, fun log => ?_⟩
  · rintro rfl
    exact hstrict
  · rintro e rest rfl
    exact hstrict
  · have h := start_logged (t.setting spec .permissive) start d log
    exact h.trans (congrArg (fun x => Attempt.logged Failure.message x log) hx)
  · have h := start_logged (t.setting spec .strict) start d log
    refine h.trans (Prod.ext rfl ?_)
    have hd : (t.run spec ⟨some .strict, start⟩ d).dropped = [] := by
      rw [hstrict]
      cases dropped <;> rfl
    show log.append ((t.run spec ⟨some .strict, start⟩ d).dropped.map _) = log
    rw [hd]
    exact log.append_nil

/-- Started with a template that applies itself where it stands. -/
theorem strict_corresponds_to_permissive_looping :
    let spec : Spec := ⟨[⟨some "a", none,
      .array [.apply "a" none, .selector ⟨"$.x", [.property "x"]⟩]⟩], .literal .null, []⟩
    let t : Transformer := ⟨.empty, .standard⟩
    (∀ name, some "a" = some name → name ∈ spec.names) ∧
      ∃ v dropped, t.run spec ⟨some .permissive, some "a"⟩ .null = ⟨.ok v, dropped⟩ ∧
        ∀ e rest, dropped = e :: rest →
          t.run spec ⟨some .strict, some "a"⟩ .null = ⟨.error e, []⟩ := by
  intro spec t
  have hs : ∀ name, some "a" = some name → name ∈ spec.names := by
    rintro name ⟨⟩
    exact List.mem_singleton.2 rfl
  obtain ⟨v, dropped, hv, -, he, -⟩ := strict_corresponds_to_permissive t spec (some "a") hs .null
  exact ⟨hs, v, dropped, hv, he⟩

end Reshape
