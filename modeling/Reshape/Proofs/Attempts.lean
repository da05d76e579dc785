import Reshape.Evaluation.Attempt

/-!
# Attempts in order

Attempts are put together associatively. An attempt of two parts has a result just if both have,
and passes over what the two pass over. What stands before an attempt does not change what comes
of it: `Attempt.after`.
-/

namespace Reshape

namespace Attempt

variable {ε α β γ : Type}

theorem bind_ok (a : α) (dropped : List ε) (f : α → Attempt ε β) :
    (⟨.ok a, dropped⟩ : Attempt ε α) >>= f = ⟨(f a).result, dropped ++ (f a).dropped⟩ := rfl

theorem map_ok (a : α) (dropped : List ε) (f : α → β) :
    ((⟨.ok a, dropped⟩ : Attempt ε α) >>= fun a => pure (f a)) = ⟨.ok (f a), dropped⟩ :=
  congrArg (Attempt.mk _) (List.append_nil dropped)

theorem bind_assoc (x : Attempt ε α) (f : α → Attempt ε β) (g : β → Attempt ε γ) :
    (x >>= f) >>= g = x >>= fun a => f a >>= g := by
  obtain ⟨result, dropped⟩ := x
  cases result with
  | error e => rfl
  | ok a =>
    rw [bind_ok, bind_ok]
    generalize f a = y
    obtain ⟨result, more⟩ := y
    cases result with
    | error e => rfl
    | ok b => exact congrArg (Attempt.mk _) (List.append_assoc ..)

theorem bind_pure (x : Attempt ε α) : x >>= Attempt.pure = x := by
  obtain ⟨result, dropped⟩ := x
  cases result with
  | error e => rfl
  | ok a => exact congrArg (Attempt.mk _) (List.append_nil _)

theorem bind_eq_success_iff {x : Attempt ε α} {f : α → Attempt ε β} {b : β} {dropped : List ε} :
    x >>= f = ⟨.ok b, dropped⟩
      ↔ ∃ a before after,
        x = ⟨.ok a, before⟩ ∧ f a = ⟨.ok b, after⟩ ∧ dropped = before ++ after := by
  constructor
  · intro h
    obtain ⟨result, before⟩ := x
    cases result with
    | error e => cases h
    | ok a =>
      rw [bind_ok] at h
      injection h with hresult hdropped
      exact ⟨a, before, (f a).dropped, rfl, congrArg (Attempt.mk · _) hresult, hdropped.symm⟩
  · rintro ⟨a, before, after, rfl, hf, rfl⟩
    rw [bind_ok, hf]

theorem result_bind_eq_ok_iff {x : Attempt ε α} {f : α → Attempt ε β} {b : β} :
    (x >>= f).result = .ok b ↔ ∃ a, x.result = .ok a ∧ (f a).result = .ok b := by
  obtain ⟨result, dropped⟩ := x
  cases result with
  | error e =>
    refine ⟨nofun, ?_⟩
    rintro ⟨_, ⟨⟩, _⟩
  | ok a => exact ⟨fun h => ⟨a, rfl, h⟩, fun ⟨_, rfl, h⟩ => h⟩

/-- Nothing but the failure comes from the second part. -/
theorem bind_failure {a : α} {f : α → Attempt ε β} {e : ε} {dropped : List ε}
    (h : f a = ⟨.error e, []⟩) :
    (⟨.ok a, dropped⟩ : Attempt ε α) >>= f = ⟨.error e, dropped⟩ := by
  rw [bind_ok, h, List.append_nil]

theorem settle_success (mode : Mode) (a b : α) (dropped : List ε) :
    settle mode a (⟨.ok b, dropped⟩ : Attempt ε α) = ⟨.ok b, dropped⟩ := by
  cases mode <;> rfl

/-- Settling that passes over nothing leaves a result as it is. -/
theorem settle_eq_success_iff {mode : Mode} {a b : α} {x : Attempt ε α} {dropped : List ε}
    (h : mode = .strict ∨ dropped = []) :
    settle mode a x = ⟨.ok b, dropped⟩ ↔ x = ⟨.ok b, dropped⟩ := by
  obtain ⟨result, before⟩ := x
  cases result with
  | ok c => rw [settle_success]
  | error e =>
    refine ⟨fun hx => ?_, nofun⟩
    rcases h with rfl | rfl
    · exact hx
    · cases mode with
      | strict => exact hx
      | permissive =>
        have hdropped : before ++ [e] = [] := congrArg Attempt.dropped hx
        exact absurd hdropped (List.append_ne_nil_of_right_ne_nil before (List.cons_ne_nil e []))

/-- The same behind failures that were passed over before. -/
def after (dropped : List ε) (x : Attempt ε α) : Attempt ε α := ⟨x.result, dropped ++ x.dropped⟩

theorem after_bind (dropped : List ε) (x : Attempt ε α) (f : α → Attempt ε β) :
    x.after dropped >>= f = (x >>= f).after dropped := by
  obtain ⟨result, before⟩ := x
  cases result with
  | error e => rfl
  | ok a => exact congrArg (Attempt.mk (f a).result) (List.append_assoc ..)

theorem after_settle (mode : Mode) (a : α) (dropped : List ε) (x : Attempt ε α) :
    settle mode a (x.after dropped) = (settle mode a x).after dropped := by
  obtain ⟨result, before⟩ := x
  cases result with
  | ok b =>
    rw [settle_success]
    exact settle_success ..
  | error e =>
    cases mode with
    | strict => rfl
    | permissive => exact congrArg (Attempt.mk _) (List.append_assoc ..)

end Attempt

end Reshape
