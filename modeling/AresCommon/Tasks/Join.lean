import AresCommon.Tasks.StateMachine

/-!
# Joining a task that is not running

Without an execution `join` has nothing to wait for and answers `-EALREADY`. The call
without a bound asks the thread for it, the call with a bound the future, which is there
only while a result waits for `get`.
-/

namespace AresCommon.Tasks

open AresCommon.Foundation.Transition
open AresCommon.WorkQueue (eAlready)

set_option autoImplicit false

variable {Args Value Thrown : Type}

namespace Task

variable {t : Task Args Value Thrown} {latest : Option (Nat × Outcome Value Thrown)}

theorem Hosted.not_quiet {execution : Nat} (hosted : t.Hosted execution) : ¬ t.Quiet := by
  intro quiet
  cases hosted with
  | inl own => simp [quiet.thread] at own
  | inr lent => simp [quiet.calls] at lent

theorem Linked.future_of_quiet (linked : t.Linked latest) (quiet : t.Quiet) :
    (t.state = .ready ∧ t.future = none) ∨
      (t.state = .joined ∧ ∃ execution outcome, t.Keeps execution outcome) := by
  cases linked with
  | ready state _ future => exact .inl ⟨state, future⟩
  | joined execution outcome state _ keeps => exact .inr ⟨state, execution, outcome, keeps⟩
  | starting _ _ _ _ calls => simp [quiet.calls] at calls
  | executing _ _ hosted => exact absurd quiet hosted.not_quiet
  | completed _ _ _ hosted => exact absurd quiet hosted.not_quiet
  | joining _ _ _ _ _ calls => simp [quiet.calls] at calls

theorem joinThread_quiet (quiet : t.Quiet) :
    t.joinThread = some (t, .int (-eAlready)) := by
  simp [joinThread, quiet.thread]

theorem Keeps.join {execution : Nat} {outcome : Outcome Value Thrown}
    (keeps : t.Keeps execution outcome) (timeout : Int) : t.join timeout = t.joinThread := by
  have stored := keeps.stored
  by_cases unbounded : timeout = millisecondsMax
  · simp [Task.join, unbounded]
  · simp [Task.join, unbounded, keeps.future, stored]

/-- Every call of `join` on a task without an execution, with its reply. -/
theorem Linked.join_quiet (linked : t.Linked latest) (quiet : t.Quiet) (timeout : Int) :
    t.join timeout =
      some (t, if timeout = millisecondsMax ∨ t.state = .joined then .int (-eAlready)
        else .futureError) := by
  cases linked.future_of_quiet quiet with
  | inl idle =>
      obtain ⟨state, future⟩ := idle
      by_cases unbounded : timeout = millisecondsMax
      · simp [Task.join, unbounded, joinThread_quiet quiet]
      · simp [Task.join, unbounded, state, future]
  | inr done =>
      obtain ⟨state, execution, outcome, keeps⟩ := done
      rw [keeps.join, joinThread_quiet quiet, if_pos (.inr state)]

theorem step_join_of_quiet (linked : t.Linked latest) (quiet : t.Quiet) (timeout : Int)
    (reply : Reply Value Thrown) :
    (Process.alive t).Step (.join timeout) reply (.alive t) ↔
      reply = if timeout = millisecondsMax ∨ t.state = .joined then .int (-eAlready)
        else .futureError := by
  simp only [Process.Step, Process.next, Task.next, linked.join_quiet quiet timeout,
    Option.map_some, Option.some.injEq, Prod.mk.injEq, true_and]
  exact eq_comm

end Task

variable {handler : Args → Outcome Value Thrown → Prop} {start t : Task Args Value Thrown}
variable {trace : List (Action Args Value Thrown × Reply Value Thrown)}

/-- After every history that leaves no execution in progress, `join` answers `-EALREADY`
and changes nothing exactly where it has no bound or a result waits to be read. -/
theorem join_reports_idle_iff (made : Task.construct (some handler) = .ok start)
    (run : Run Process.Step Process.HandlerAnswers (.alive start) trace (.alive t))
    (quiet : t.Quiet) (timeout : Int) :
    (Process.alive t).Step (.join timeout) (.int (-eAlready)) (.alive t) ↔
      timeout = millisecondsMax ∨ t.state = .joined := by
  have consistent : t.Consistent (history trace) := Process.sound_of_run made run
  rw [Task.step_join_of_quiet consistent.linked quiet]
  by_cases answers : timeout = millisecondsMax ∨ t.state = .joined
  · simp [answers]
  · simp [answers]

theorem join_asks_no_future (made : Task.construct (some handler) = .ok start)
    (run : Run Process.Step Process.HandlerAnswers (.alive start) trace (.alive t))
    (quiet : t.Quiet) (timeout : Int) :
    (Process.alive t).Step (.join timeout) .futureError (.alive t) ↔
      timeout ≠ millisecondsMax ∧ t.state = .ready := by
  have consistent : t.Consistent (history trace) := Process.sound_of_run made run
  rw [Task.step_join_of_quiet consistent.linked quiet]
  obtain ⟨state, _⟩ | ⟨state, _⟩ := consistent.linked.future_of_quiet quiet
  · by_cases unbounded : timeout = millisecondsMax
    · simp [unbounded]
    · simp [unbounded, state]
  · simp [state]

def sleepyTask (_sleepTime : Int) (outcome : Outcome Unit Unit) : Prop :=
  outcome = .returned ()

/-- A second `join`, with a bound, after the result is there and before it is read. -/
theorem join_reports_idle_of_second :
    ∃ (trace : List (Action Int Unit Unit × Reply Unit Unit)) (t : Task Int Unit Unit),
      Run Process.Step Process.HandlerAnswers (.alive (.constructed sleepyTask)) trace (.alive t) ∧
        t.Quiet ∧ (Process.alive t).Step (.join 100) (.int (-eAlready)) (.alive t) := by
  have allowed : sleepyTask 1000 (.returned ()) := rfl
  obtain ⟨t, quiet, joined, run⟩ := run_of_join allowed
  exact ⟨_, t, run, quiet, (join_reports_idle_iff rfl run quiet 100).mpr (.inr joined)⟩

/-- A task that was never started, joined with a bound. -/
theorem join_of_fresh_task_raises :
    Task.construct (some sleepyTask) = .ok (.constructed sleepyTask) ∧
      Run Process.Step Process.HandlerAnswers (.alive (.constructed sleepyTask)) []
        (.alive (.constructed sleepyTask)) ∧
      (Task.constructed sleepyTask).Quiet ∧
      (Process.alive (.constructed sleepyTask)).Step (.join 100) .futureError
        (.alive (.constructed sleepyTask)) ∧
      ¬ (Process.alive (.constructed sleepyTask)).Step (.join 100) (.int (-eAlready))
        (.alive (.constructed sleepyTask)) := by
  have raised : (Process.alive (.constructed sleepyTask)).Step (.join 100) .futureError
      (.alive (.constructed sleepyTask)) := rfl
  refine ⟨rfl, .nil, ⟨rfl, rfl, rfl⟩, raised, ?_⟩
  intro reported
  have same := reported.symm.trans raised
  simp at same

end AresCommon.Tasks
