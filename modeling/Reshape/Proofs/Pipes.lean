import Reshape.Evaluation.Frame
import Reshape.Operation.Choices
import Reshape.Proofs.Attempts

/-!
# Pipes and nested calls

A step of a pipe calls an operation with the value before it as its first argument, and so does a
nested call. In a strict run the two come to the same, and in a permissive run too where the pipe
passes over nothing: `pipe_is_nested_calls`. They part where a value before the last step fails in
a permissive run. A pipe then has no value, as it is settled as a whole, while a nested call
settles each argument and goes on without it: `permissive_pipe_exact`.
-/

namespace Reshape

/-- A step of a pipe: the name of an operation, or a call with the arguments that come behind the
value before the step. -/
inductive PipeStep where
  | name (identifier : String)
  | call (function : String) (arguments : List Expression)

def Argument.document? : Argument → Option Document
  | json d => some d
  | _ => none

namespace PipeStep

def toExpression : PipeStep → Expression
  | name identifier => .name identifier
  | call function arguments => .call function arguments

def function : PipeStep → String
  | name identifier => identifier
  | call function _ => function

def arguments : PipeStep → List Expression
  | name _ => []
  | call _ arguments => arguments

/-- The step as a call of its own, with an expression for the value before it. -/
def callOn (e : Expression) (s : PipeStep) : Expression := .call s.function (e :: s.arguments)

end PipeStep

namespace Expression

/-- An expression and what its value goes through. -/
def pipedThrough (e : Expression) (steps : List PipeStep) : Expression :=
  .pipe (e :: steps.map PipeStep.toExpression)

/-- The same as calls, each of which has the one before for its first argument. -/
def nestedIn (e : Expression) (steps : List PipeStep) : Expression := steps.foldl PipeStep.callOn e

end Expression

/-! ## Steps -/

namespace Frame

open Expression

variable {frame : Frame} {e e' : Expression} {value v : Argument} {s : PipeStep}
  {steps : List PipeStep} {dropped : List Failure}

/-- What becomes of a value in a step. -/
def step (frame : Frame) (value : Argument) (s : PipeStep) : Attempt Failure Argument :=
  if frame.registry.contains s.function then do
    let values ← frame.evaluateArguments s.arguments
    frame.invoke s.function (value :: values)
  else fail (Failure.unknownFunction s.function)

theorem step_of_known (h : frame.registry.contains s.function = true) :
    frame.step value s = frame.evaluateArguments s.arguments >>= fun values =>
      frame.invoke s.function (value :: values) := if_pos h

theorem step_of_unknown (h : ¬ frame.registry.contains s.function = true) :
    frame.step value s = fail (Failure.unknownFunction s.function) := if_neg h

theorem contains_of_step (h : frame.step value s = ⟨.ok v, dropped⟩) :
    frame.registry.contains s.function = true := by
  by_cases hknown : frame.registry.contains s.function = true
  · exact hknown
  · rw [step_of_unknown hknown] at h
    cases h

theorem invoke_of_unknown {callee : String} (h : ¬ frame.registry.contains callee = true)
    (arguments : List Argument) :
    (frame.invoke callee arguments : Attempt Failure Argument)
      = fail (Failure.unknownFunction callee) := by
  have hfind : frame.registry.find? callee = none := by simpa [Registry.contains] using h
  unfold invoke
  rw [hfind]

theorem step_name (frame : Frame) (value : Argument) (callee : String) :
    frame.step value (.name callee) = frame.invoke callee [value] := by
  by_cases h : frame.registry.contains callee = true
  · rw [step_of_known h, PipeStep.arguments, evaluateArguments]
    rfl
  · rw [step_of_unknown h, invoke_of_unknown h]
    rfl

theorem evaluateSteps_cons (frame : Frame) (value : Argument) (s : PipeStep)
    (rest : List Expression) :
    (frame.evaluateSteps value (s.toExpression :: rest) : Attempt Failure Argument)
      = frame.step value s >>= fun next => frame.evaluateSteps next rest := by
  cases s with
  | name identifier =>
    rw [PipeStep.toExpression, evaluateSteps, step_name]
  | call function arguments =>
    rw [PipeStep.toExpression, evaluateSteps]
    by_cases h : frame.registry.contains function = true
    · rw [step_of_known h, if_pos h, Attempt.bind_assoc]
      rfl
    · rw [step_of_unknown h, if_neg h]
      rfl

/-- What an argument comes to: its value, or nothing in place of a failure that is passed over. -/
def settled (frame : Frame) (e : Expression) : Attempt Failure Argument :=
  settle frame.mode .absent (frame.evaluateRaw e)

theorem settled_of_success
    (h : (frame.evaluateRaw e : Attempt Failure Argument) = ⟨.ok v, dropped⟩) :
    frame.settled e = ⟨.ok v, dropped⟩ := by
  rw [settled, h, Attempt.settle_success]

theorem evaluateRaw_pipedThrough (frame : Frame) (e : Expression) (steps : List PipeStep) :
    (frame.evaluateRaw (e.pipedThrough steps) : Attempt Failure Argument)
      = frame.evaluateRaw e >>= fun value =>
          frame.evaluateSteps value (steps.map PipeStep.toExpression) := by
  unfold pipedThrough
  rw [evaluateRaw]

/-- A call settles the value before the step. -/
theorem evaluateRaw_callOn (h : frame.registry.contains s.function = true) :
    (frame.evaluateRaw (s.callOn e) : Attempt Failure Argument)
      = frame.settled e >>= fun value => frame.step value s := by
  unfold PipeStep.callOn
  rw [evaluateRaw, if_pos h, evaluateArguments, Attempt.bind_assoc, settled]
  congr 1
  funext value
  rw [step_of_known h, Attempt.bind_assoc]
  rfl

theorem evaluateRaw_callOn_unknown (h : ¬ frame.registry.contains s.function = true) :
    (frame.evaluateRaw (s.callOn e) : Attempt Failure Argument)
      = fail (Failure.unknownFunction s.function) := by
  unfold PipeStep.callOn
  rw [evaluateRaw, if_neg h]

theorem evaluateSteps_append (frame : Frame) (value : Argument) (steps rest : List Expression) :
    (frame.evaluateSteps value (steps ++ rest) : Attempt Failure Argument)
      = frame.evaluateSteps value steps >>= fun next => frame.evaluateSteps next rest := by
  induction steps generalizing value with
  | nil =>
    rw [evaluateSteps]
    rfl
  | cons e steps ih =>
    have hstep (s : PipeStep) :
        (frame.evaluateSteps value (s.toExpression :: (steps ++ rest)) : Attempt Failure Argument)
          = frame.evaluateSteps value (s.toExpression :: steps)
              >>= fun next => frame.evaluateSteps next rest := by
      rw [evaluateSteps_cons, evaluateSteps_cons, Attempt.bind_assoc]
      congr 1
      funext next
      exact ih next
    cases e with
    | name identifier => exact hstep (.name identifier)
    | call function arguments => exact hstep (.call function arguments)
    | _ =>
      rw [List.cons_append, evaluateSteps, evaluateSteps]
      · rfl
      all_goals nofun

theorem evaluateSteps_nil (frame : Frame) :
    (fun value => frame.evaluateSteps value [] : Argument → Attempt Failure Argument)
      = Attempt.pure := by
  funext value
  rw [evaluateSteps]
  rfl

theorem evaluateRaw_pipedThrough_nil (frame : Frame) (e : Expression) :
    (frame.evaluateRaw (e.pipedThrough []) : Attempt Failure Argument) = frame.evaluateRaw e := by
  rw [evaluateRaw_pipedThrough, List.map_nil, evaluateSteps_nil]
  exact Attempt.bind_pure _

theorem evaluateRaw_pipedThrough_cons (frame : Frame) (e : Expression) (s : PipeStep)
    (steps : List PipeStep) :
    (frame.evaluateRaw (e.pipedThrough (s :: steps)) : Attempt Failure Argument)
      = (frame.evaluateRaw e >>= fun value => frame.step value s) >>= fun next =>
          frame.evaluateSteps next (steps.map PipeStep.toExpression) := by
  rw [evaluateRaw_pipedThrough, Attempt.bind_assoc]
  congr 1
  funext value
  exact evaluateSteps_cons ..

/-! ## Pipes that come to a value -/

/-- A call comes to what the step comes to behind its first argument, in either mode. -/
theorem evaluateRaw_callOn_of_step
    (h : (frame.evaluateRaw e >>= fun value => frame.step value s) = ⟨.ok v, dropped⟩) :
    (frame.evaluateRaw (s.callOn e) : Attempt Failure Argument) = ⟨.ok v, dropped⟩ := by
  obtain ⟨value, before, after, he, hs, rfl⟩ := Attempt.bind_eq_success_iff.1 h
  rw [evaluateRaw_callOn (contains_of_step hs), settled_of_success he]
  exact Attempt.bind_eq_success_iff.2 ⟨value, before, after, rfl, hs, rfl⟩

theorem evaluateRaw_callOn_eq_iff (h : frame.mode = .strict ∨ dropped = []) :
    (frame.evaluateRaw e >>= fun value => frame.step value s) = ⟨.ok v, dropped⟩
      ↔ (frame.evaluateRaw (s.callOn e) : Attempt Failure Argument) = ⟨.ok v, dropped⟩ := by
  refine ⟨evaluateRaw_callOn_of_step, fun hcall => ?_⟩
  by_cases hknown : frame.registry.contains s.function = true
  · rw [evaluateRaw_callOn hknown] at hcall
    obtain ⟨value, before, after, he, hs, rfl⟩ := Attempt.bind_eq_success_iff.1 hcall
    have hbefore : frame.mode = .strict ∨ before = [] :=
      h.imp_right fun hnil => (List.append_eq_nil_iff.1 hnil).1
    exact Attempt.bind_eq_success_iff.2
      ⟨value, before, after, (Attempt.settle_eq_success_iff hbefore).1 he, hs, rfl⟩
  · rw [evaluateRaw_callOn_unknown hknown] at hcall
    cases hcall

/-- Nested calls come to what the pipe comes to, in either mode. -/
theorem evaluateRaw_nestedIn
    (h : (frame.evaluateRaw (e.pipedThrough steps) : Attempt Failure Argument)
      = ⟨.ok v, dropped⟩) :
    (frame.evaluateRaw (e.nestedIn steps) : Attempt Failure Argument) = ⟨.ok v, dropped⟩ := by
  induction steps generalizing e with
  | nil => rwa [evaluateRaw_pipedThrough_nil] at h
  | cons s steps ih =>
    -- the first step becomes the innermost call, which the other steps go on from
    rw [evaluateRaw_pipedThrough_cons] at h
    obtain ⟨next, before, after, hs, hrest, rfl⟩ := Attempt.bind_eq_success_iff.1 h
    refine ih (e := s.callOn e) ?_
    rw [evaluateRaw_pipedThrough]
    exact Attempt.bind_eq_success_iff.2
      ⟨next, before, after, evaluateRaw_callOn_of_step hs, hrest, rfl⟩

theorem evaluateRaw_pipedThrough_eq_iff (h : frame.mode = .strict ∨ dropped = []) :
    (frame.evaluateRaw (e.pipedThrough steps) : Attempt Failure Argument) = ⟨.ok v, dropped⟩
      ↔ (frame.evaluateRaw (e.nestedIn steps) : Attempt Failure Argument) = ⟨.ok v, dropped⟩ := by
  refine ⟨evaluateRaw_nestedIn, fun hnested => ?_⟩
  induction steps generalizing e with
  | nil => rwa [evaluateRaw_pipedThrough_nil]
  | cons s steps ih =>
    have hpiped := ih (e := s.callOn e) hnested
    rw [evaluateRaw_pipedThrough] at hpiped
    obtain ⟨next, before, after, hcall, hrest, rfl⟩ := Attempt.bind_eq_success_iff.1 hpiped
    have hbefore : frame.mode = .strict ∨ before = [] :=
      h.imp_right fun hnil => (List.append_eq_nil_iff.1 hnil).1
    rw [evaluateRaw_pipedThrough_cons]
    exact Attempt.bind_eq_success_iff.2
      ⟨next, before, after, (evaluateRaw_callOn_eq_iff hbefore).2 hcall, hrest, rfl⟩

/-! ## Values of expressions -/

theorem evaluate_eq (frame : Frame) (e : Expression) :
    (frame.evaluate e : Attempt Failure (Option Document))
      = frame.settled e >>= fun v => pure v.document? := by
  unfold evaluate settled
  congr 1
  funext v
  cases v <;> rfl

theorem evaluate_congr
    (h : (frame.evaluateRaw e : Attempt Failure Argument) = frame.evaluateRaw e') :
    (frame.evaluate e : Attempt Failure (Option Document)) = frame.evaluate e' := by
  rw [evaluate_eq, evaluate_eq, settled, settled, h]

theorem evaluate_of_success
    (h : (frame.evaluateRaw e : Attempt Failure Argument) = ⟨.ok v, dropped⟩) :
    (frame.evaluate e : Attempt Failure (Option Document)) = ⟨.ok v.document?, dropped⟩ := by
  rw [evaluate_eq, settled_of_success h, Attempt.map_ok]

theorem evaluate_of_error {failure : Failure} (hm : frame.mode = .permissive)
    (h : (frame.evaluateRaw e : Attempt Failure Argument) = ⟨.error failure, dropped⟩) :
    (frame.evaluate e : Attempt Failure (Option Document))
      = ⟨.ok none, dropped ++ [failure]⟩ := by
  rw [evaluate_eq, settled, h, hm]
  exact congrArg (Attempt.mk _) (List.append_nil _)

theorem evaluateRaw_of_dropped_eq_nil (hm : frame.mode = .permissive)
    (h : (frame.evaluate e : Attempt Failure (Option Document)).dropped = []) :
    ∃ v, (frame.evaluateRaw e : Attempt Failure Argument) = ⟨.ok v, []⟩ := by
  generalize hx : (frame.evaluateRaw e : Attempt Failure Argument) = x
  obtain ⟨result, dropped⟩ := x
  cases result with
  | ok v =>
    rw [evaluate_of_success hx] at h
    exact ⟨v, congrArg (Attempt.mk _) h⟩
  | error failure =>
    rw [evaluate_of_error hm hx] at h
    exact absurd h (by simp)

/-- A strict evaluation has a value just if nothing fails on the way to it. -/
theorem evaluate_result_eq_ok_iff (hm : frame.mode = .strict) {u : Option Document} :
    (frame.evaluate e : Attempt Failure (Option Document)).result = .ok u
      ↔ ∃ v dropped, (frame.evaluateRaw e : Attempt Failure Argument) = ⟨.ok v, dropped⟩ ∧
          v.document? = u := by
  generalize hx : (frame.evaluateRaw e : Attempt Failure Argument) = x
  obtain ⟨result, dropped⟩ := x
  cases result with
  | ok v =>
    rw [evaluate_of_success hx]
    refine ⟨fun h => ⟨v, dropped, rfl, Except.ok.inj h⟩, ?_⟩
    rintro ⟨v, dropped, ⟨⟩, rfl⟩
    rfl
  | error failure =>
    rw [evaluate_eq, settled, hx, hm]
    refine ⟨nofun, ?_⟩
    rintro ⟨v, dropped, ⟨⟩, -⟩

end Frame

open Expression

/-- In a strict run a pipe has a value just if the nested calls have it. In a permissive run the
pipe passes over nothing just if the nested calls do not, and then the two give the same. -/
theorem pipe_is_nested_calls (registry : Registry) (root current : Document) (first : Expression)
    (steps : List PipeStep) :
    let value (mode : Mode) (e : Expression) : Attempt Failure (Option Document) :=
      Frame.evaluate ⟨mode, registry, root, current⟩ e
    let piped := first.pipedThrough steps
    let nested := first.nestedIn steps
    (∀ v, (value .strict piped).result = .ok v ↔ (value .strict nested).result = .ok v) ∧
      ((value .permissive piped).dropped = [] ↔ (value .permissive nested).dropped = []) ∧
      ((value .permissive piped).dropped = [] →
        value .permissive nested = value .permissive piped) := by
  intro value piped nested
  refine ⟨fun v => ?_, ⟨fun h => ?_, fun h => ?_⟩, fun h => ?_⟩
  · rw [Frame.evaluate_result_eq_ok_iff rfl, Frame.evaluate_result_eq_ok_iff rfl]
    exact exists_congr fun _ => exists_congr fun _ =>
      and_congr_left fun _ => Frame.evaluateRaw_pipedThrough_eq_iff (.inl rfl)
  · obtain ⟨v, hv⟩ := Frame.evaluateRaw_of_dropped_eq_nil rfl h
    exact congrArg Attempt.dropped (Frame.evaluate_of_success (Frame.evaluateRaw_nestedIn hv))
  · obtain ⟨v, hv⟩ := Frame.evaluateRaw_of_dropped_eq_nil rfl h
    have hv := (Frame.evaluateRaw_pipedThrough_eq_iff (.inr rfl)).2 hv
    exact congrArg Attempt.dropped (Frame.evaluate_of_success hv)
  · obtain ⟨v, hv⟩ := Frame.evaluateRaw_of_dropped_eq_nil rfl h
    exact (Frame.evaluate_of_success (Frame.evaluateRaw_nestedIn hv)).trans
      (Frame.evaluate_of_success hv).symm

/-- A step with an argument of its own, which is another pipe. -/
theorem pipe_is_nested_calls_argument :
    let registry : Registry :=
      ⟨[("default", Operation.orDefault), ("isNull", Operation.isKind .null),
        ("not", Operation.not)]⟩
    let first : Expression := .selector ⟨"$.x", [.property "x"]⟩
    let steps : List PipeStep := [.call "default" [.pipe [first, .name "isNull"]], .name "not"]
    let d : Document := .object [("x", .null)]
    let value (mode : Mode) (e : Expression) : Attempt Failure (Option Document) :=
      Frame.evaluate ⟨mode, registry, d, d⟩ e
    (value .permissive (first.pipedThrough steps)).dropped = [] ∧
      value .permissive (first.nestedIn steps) = value .permissive (first.pipedThrough steps) ∧
      (value .strict (first.nestedIn steps)).result = .ok (some (.bool false)) := by
  intro registry first steps d value
  have h := pipe_is_nested_calls registry d d first steps
  exact ⟨rfl, h.2.2 rfl, (h.1 _).1 rfl⟩

/-! ## Pipes in which something fails -/

namespace Frame

variable {frame : Frame} {e e' : Expression} {value : Argument} {s : PipeStep}
  {steps : List PipeStep} {dropped : List Failure} {failure : Failure}

theorem evaluateRaw_pipe_append (frame : Frame) (first : Expression) (rest more : List Expression) :
    (frame.evaluateRaw (.pipe (first :: (rest ++ more))) : Attempt Failure Argument)
      = frame.evaluateRaw (.pipe (.pipe (first :: rest) :: more)) := by
  rw [evaluateRaw, evaluateRaw, evaluateRaw, Attempt.bind_assoc]
  congr 1
  funext value
  exact evaluateSteps_append ..

theorem evaluateRaw_pipedThrough_concat (frame : Frame) (e : Expression) (steps : List PipeStep)
    (s : PipeStep) :
    (frame.evaluateRaw (e.pipedThrough (steps ++ [s])) : Attempt Failure Argument)
      = frame.evaluateRaw (e.pipedThrough steps) >>= fun value => frame.step value s := by
  have hlast (value : Argument) :
      frame.evaluateSteps value [s.toExpression] = frame.step value s := by
    rw [evaluateSteps_cons, evaluateSteps_nil]
    exact Attempt.bind_pure _
  rw [evaluateRaw_pipedThrough, evaluateRaw_pipedThrough, Attempt.bind_assoc, List.map_append]
  congr 1
  funext value
  rw [evaluateSteps_append]
  congr 1
  funext next
  exact hlast next

theorem evaluateRaw_pipedThrough_singleton (frame : Frame) (e : Expression) (s : PipeStep) :
    (frame.evaluateRaw (e.pipedThrough [s]) : Attempt Failure Argument)
      = frame.evaluateRaw e >>= fun value => frame.step value s := by
  rw [← List.nil_append [s], evaluateRaw_pipedThrough_concat, evaluateRaw_pipedThrough_nil]

/-- The last step comes to the same in the nested call, if the pipe before it has a value. -/
theorem evaluateRaw_pipedThrough_last (steps : List PipeStep)
    (hs : frame.registry.contains s.function = true)
    (h : (frame.evaluateRaw (e.pipedThrough steps) : Attempt Failure Argument)
      = ⟨.ok value, dropped⟩) :
    (frame.evaluateRaw (e.pipedThrough (steps ++ [s])) : Attempt Failure Argument)
      = frame.evaluateRaw (e.nestedIn (steps ++ [s])) := by
  have hnested : e.nestedIn (steps ++ [s]) = s.callOn (e.nestedIn steps) := List.foldl_append ..
  rw [evaluateRaw_pipedThrough_concat, hnested, evaluateRaw_callOn hs, h,
    settled_of_success (evaluateRaw_nestedIn h)]

theorem evaluateRaw_pipedThrough_of_error (steps : List PipeStep) (s : PipeStep)
    (h : (frame.evaluateRaw (e.pipedThrough steps) : Attempt Failure Argument)
      = ⟨.error failure, dropped⟩) :
    (frame.evaluateRaw (e.pipedThrough (steps ++ [s])) : Attempt Failure Argument)
      = ⟨.error failure, dropped⟩ := by
  rw [evaluateRaw_pipedThrough_concat, h]
  rfl

/-- What fails on a value fails alike as a step behind it and as a call of it. -/
theorem evaluateRaw_of_step_error (hs : frame.registry.contains s.function = true)
    (he : (frame.evaluateRaw e : Attempt Failure Argument) = ⟨.ok value, dropped⟩)
    (hstep : frame.step value s = ⟨.error failure, []⟩) :
    (frame.evaluateRaw (e.pipedThrough [s]) : Attempt Failure Argument)
        = ⟨.error failure, dropped⟩ ∧
      (frame.evaluateRaw (s.callOn e) : Attempt Failure Argument)
        = ⟨.error failure, dropped⟩ := by
  rw [evaluateRaw_pipedThrough_singleton, evaluateRaw_callOn hs, settled_of_success he, he]
  exact ⟨Attempt.bind_failure hstep, Attempt.bind_failure hstep⟩

theorem settled_of_error (hm : frame.mode = .permissive)
    (h : (frame.evaluateRaw e : Attempt Failure Argument) = ⟨.error failure, dropped⟩) :
    frame.settled e = (frame.settled (.pipe [])).after (dropped ++ [failure]) := by
  rw [settled, settled, h, hm, evaluateRaw]
  exact congrArg (Attempt.mk _) (List.append_nil _).symm

/-- Nested calls go on from what the innermost argument comes to, and keep what was passed over
before. -/
theorem settled_nestedIn_after (hs : ∀ s ∈ steps, frame.registry.contains s.function = true)
    (he : frame.settled e = (frame.settled e').after dropped) :
    frame.settled (e.nestedIn steps) = (frame.settled (e'.nestedIn steps)).after dropped := by
  induction steps generalizing e e' with
  | nil => exact he
  | cons s steps ih =>
    refine ih (fun t ht => hs t (List.mem_cons_of_mem s ht)) ?_
    have hknown := hs s List.mem_cons_self
    rw [settled, settled, evaluateRaw_callOn hknown, evaluateRaw_callOn hknown, he,
      Attempt.after_bind, Attempt.after_settle]

/-- Nested calls around a failure are those around nothing, behind the failure. -/
theorem evaluate_nestedIn_of_error (steps : List PipeStep) (hm : frame.mode = .permissive)
    (hs : ∀ s ∈ steps, frame.registry.contains s.function = true)
    (h : (frame.evaluateRaw e : Attempt Failure Argument) = ⟨.error failure, dropped⟩) :
    frame.evaluate (e.nestedIn steps)
      = Attempt.after (dropped ++ [failure])
          (frame.evaluate ((Expression.pipe []).nestedIn steps)) := by
  rw [evaluate_eq, evaluate_eq, settled_nestedIn_after hs (settled_of_error hm h),
    Attempt.after_bind]

end Frame

/-- A value is missing. The operations of the nested call take it for null, while the pipe has no
value. -/
theorem permissive_pipe_poisoned :
    let registry : Registry := ⟨[("isNull", Operation.isKind .null), ("not", Operation.not)]⟩
    let e : Expression := .selector ⟨"$.missing", [.property "missing"]⟩
    let missing : Failure := .selector (.missingKey "$.missing" [] "missing")
    let value (e : Expression) : Attempt Failure (Option Document) :=
      Frame.evaluate ⟨.permissive, registry, .object [], .object []⟩ e
    (registry.contains "isNull" = true ∧ registry.contains "not" = true) ∧
      value (.pipe [e, .name "isNull", .name "not"]) = ⟨.ok none, [missing]⟩ ∧
      value (.call "not" [.call "isNull" [e]]) = ⟨.ok (some (.bool false)), [missing]⟩ :=
  ⟨⟨rfl, rfl⟩, rfl, rfl⟩

/-- Where neither the first value nor the first operation fails, a permissive pipe through two
operations comes to what the nested call comes to. Where one of the two fails, the pipe has no
value, while the nested call passes over that failure and goes on with nothing in its place. -/
theorem permissive_pipe_exact (registry : Registry) (root current : Document) (e : Expression)
    (f g : String) (hf : registry.contains f = true) (hg : registry.contains g = true) :
    let frame : Frame := ⟨.permissive, registry, root, current⟩
    let raw (e : Expression) : Attempt Failure Argument := frame.evaluateRaw e
    let value (e : Expression) : Attempt Failure (Option Document) := frame.evaluate e
    let piped : Expression := .pipe [e, .name f, .name g]
    let nested : Expression := .call g [.call f [e]]
    let nothing : Expression := .pipe []
    (∀ v dropped, raw (.pipe [e, .name f]) = ⟨.ok v, dropped⟩ → value piped = value nested) ∧
      (∀ failure dropped, raw e = ⟨.error failure, dropped⟩ →
        value piped = ⟨.ok none, dropped ++ [failure]⟩ ∧
        value nested = (value (.call g [.call f [nothing]])).after (dropped ++ [failure])) ∧
      (∀ v dropped failure, raw e = ⟨.ok v, dropped⟩ →
        frame.invoke f [v] = (⟨.error failure, []⟩ : Attempt Failure Argument) →
        value piped = ⟨.ok none, dropped ++ [failure]⟩ ∧
        value nested = (value (.call g [nothing])).after (dropped ++ [failure])) ∧
      ((value piped).result = (value nested).result ↔
        (∃ v dropped, raw (.pipe [e, .name f]) = ⟨.ok v, dropped⟩) ∨
          (value nested).result = .ok none) ∧
      ∀ first rest, e = .pipe (first :: rest) →
        value (.pipe (first :: (rest ++ [.name f, .name g]))) = value piped := by
  intro frame raw value piped nested nothing
  have hknown : ∀ s ∈ [PipeStep.name f, .name g], registry.contains s.function = true :=
    List.forall_mem_cons.2 ⟨hf, List.forall_mem_singleton.2 hg⟩
  have hfailed {failure : Failure} {dropped : List Failure}
      (h : raw (.pipe [e, .name f]) = ⟨.error failure, dropped⟩) :
      value piped = ⟨.ok none, dropped ++ [failure]⟩ :=
    Frame.evaluate_of_error rfl
      (Frame.evaluateRaw_pipedThrough_of_error [.name f] (.name g) h)
  have hsame {v : Argument} {dropped : List Failure}
      (h : raw (.pipe [e, .name f]) = ⟨.ok v, dropped⟩) : value piped = value nested :=
    Frame.evaluate_congr
      (Frame.evaluateRaw_pipedThrough_last (s := .name g) [.name f] hg h)
  refine ⟨fun v dropped h => hsame h, fun failure dropped h => ⟨hfailed ?_, ?_⟩,
    fun v dropped failure h hv => ?_, ?_, ?_⟩
  · have hbind := congrArg (· >>= fun v => frame.step v (.name f)) h
    exact (Frame.evaluateRaw_pipedThrough_singleton frame e (.name f)).trans hbind
  · exact Frame.evaluate_nestedIn_of_error [.name f, .name g] rfl hknown h
  · obtain ⟨hpipe, hcall⟩ :=
      Frame.evaluateRaw_of_step_error (s := .name f) hf h ((frame.step_name v f).trans hv)
    exact ⟨hfailed hpipe, Frame.evaluate_nestedIn_of_error [.name g] rfl
      (List.forall_mem_singleton.2 hg) hcall⟩
  · generalize hx : raw (.pipe [e, .name f]) = x
    obtain ⟨result, dropped⟩ := x
    cases result with
    | ok v => exact iff_of_true (congrArg _ (hsame hx)) (.inl ⟨v, dropped, rfl⟩)
    | error failure =>
      rw [hfailed hx]
      refine ⟨fun h => .inr h.symm, ?_⟩
      rintro (⟨v, dropped, ⟨⟩⟩ | h)
      exact h.symm
  · rintro first rest rfl
    exact Frame.evaluate_congr (Frame.evaluateRaw_pipe_append frame first rest _)

/-- The first operation refuses a value that is there, and the second one takes it as missing. -/
theorem permissive_pipe_exact_refused :
    let refused : Operation := fun _ => .error "refused"
    let registry : Registry := ⟨[("isNull", Operation.isKind .null), ("refused", refused)]⟩
    let frame : Frame := ⟨.permissive, registry, .null, .null⟩
    let value (e : Expression) : Attempt Failure (Option Document) := frame.evaluate e
    let e : Expression := .selector ⟨"$", []⟩
    let failure : Failure := .function "refused" "refused"
    (registry.contains "refused" = true ∧ registry.contains "isNull" = true) ∧
      frame.evaluateRaw e = (⟨.ok (.json .null), []⟩ : Attempt Failure Argument) ∧
      frame.invoke "refused" [.json .null] = (⟨.error failure, []⟩ : Attempt Failure Argument) ∧
      value (.pipe [e, .name "refused", .name "isNull"]) = ⟨.ok none, [failure]⟩ ∧
      value (.call "isNull" [.call "refused" [e]])
        = (value (.call "isNull" [.pipe []])).after [failure] ∧
      value (.call "isNull" [.pipe []]) = ⟨.ok (some (.bool true)), []⟩ := by
  intro refused registry frame value e failure
  obtain ⟨hpiped, hnested⟩ :=
    (permissive_pipe_exact registry .null .null e "refused" "isNull" rfl rfl).2.2.1
      (.json .null) [] failure rfl rfl
  exact ⟨⟨rfl, rfl⟩, rfl, rfl, hpiped, hnested, rfl⟩

end Reshape
