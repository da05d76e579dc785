import Reshape.Proofs.Agreement

/-!
# Runs that keep a log

A `Logged` evaluation is handed a log, writes the failures that it passes over
to it as it goes, and hands it on. There may be no log, and there may be entries
in it already. `start_logged`: such a run gives what an attempt gives, and adds
the messages of what the attempt dropped.
-/

namespace Reshape

/-- The messages of the failures passed over, oldest first, if anyone wants them. -/
abbrev Log := Option (List String)

/-- Adds messages to a log; without one they are lost. -/
def Log.append (log : Log) (messages : List String) : Log := log.map fun old => old ++ messages

/-- An evaluation that hands a log on. -/
def Logged {ε : Type} (_message : ε → String) (α : Type) : Type := Log → Except ε α × Log

namespace Logged

variable {ε α β : Type} {message : ε → String}

protected def pure (a : α) : Logged message α := fun log => (.ok a, log)

protected def bind (x : Logged message α) (f : α → Logged message β) : Logged message β :=
  fun log =>
    match x log with
    | (.ok a, log) => f a log
    | (.error e, log) => (.error e, log)

protected def fail (e : ε) : Logged message α := fun log => (.error e, log)

/-- A permissive run writes the failure to the log and takes the given value. -/
protected def settle (mode : Mode) (instead : α) (x : Logged message α) : Logged message α :=
  fun log =>
    match mode, x log with
    | .permissive, (.error e, log) => (.ok instead, log.append [message e])
    | _, out => out

instance : Settling (Logged message) where
  pure := Logged.pure
  bind := Logged.bind
  settle := Logged.settle

instance : Failing ε (Logged message) where
  fail := Logged.fail

end Logged

/-- An attempt with its result, and what it dropped added to the log. -/
def Attempt.logged {ε α : Type} (message : ε → String) (x : Attempt ε α) : Logged message α :=
  fun log => (x.result, log.append (x.dropped.map message))

theorem Log.append_nil (log : Log) : log.append [] = log := by
  cases log <;> simp [Log.append]

theorem Log.append_append (log : Log) (a b : List String) :
    (log.append a).append b = log.append (a ++ b) := by
  cases log <;> simp [Log.append]

namespace Attempt

variable {ε α β : Type} {message : ε → String}

theorem logged_pure (a : α) : (pure a : Attempt ε α).logged message = pure a := by
  funext log
  exact Prod.ext rfl (log.append_nil)

theorem logged_fail (e : ε) : (fail e : Attempt ε α).logged message = fail e := by
  funext log
  exact Prod.ext rfl (log.append_nil)

theorem logged_bind (x : Attempt ε α) (f : α → Attempt ε β) :
    (x >>= f).logged message = x.logged message >>= fun a => (f a).logged message := by
  obtain ⟨result, dropped⟩ := x
  funext log
  cases result with
  | error e => rfl
  | ok a =>
    refine Prod.ext rfl ?_
    show log.append ((dropped ++ (f a).dropped).map message) = _
    rw [List.map_append, ← Log.append_append]
    rfl

theorem logged_settle (mode : Mode) (a : α) (x : Attempt ε α) :
    (settle mode a x).logged message = settle mode a (x.logged message) := by
  obtain ⟨result, dropped⟩ := x
  funext log
  cases mode <;> cases result
  · rfl
  · rfl
  · refine Prod.ext rfl ?_
    show log.append ((dropped ++ [_]).map message) = _
    rw [List.map_append, ← Log.append_append]
    rfl
  · rfl

end Attempt

namespace Transform

theorem logged_translates (mode : Mode) :
    Translates (fun α (x : Attempt Failure α) => x.logged Failure.message) mode mode where
  pure := Attempt.logged_pure
  bind := Attempt.logged_bind
  fail := Attempt.logged_fail
  settle := Attempt.logged_settle mode

/-- A run with a log gives what one without a log gives. It adds the messages of
what that one drops to whatever the log holds. -/
theorem start_logged (s : Setting) (start : Option String) (d : Document) (log : Log) :
    (s.start start d : Logged Failure.message Document) log
      = (s.start start d : Attempt Failure Document).logged Failure.message log := by
  have h := (logged_translates s.mode).start s.toConditions s.spec start d
  exact congrFun h.symm log

end Transform

end Reshape
