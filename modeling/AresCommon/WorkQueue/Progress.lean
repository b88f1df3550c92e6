import AresCommon.WorkQueue.Refinement

/-!
# Every critical section has a result

No reachable state makes a critical section dereference a null queue, walk a list
for ever or give a semaphore too often: whatever a thread that is not blocked may
do next, the system has a step for it.
-/

namespace AresCommon.WorkQueue

open AresCommon.DataStructures.Slist AresCommon.Foundation.Transition
open AresCommon.Synchronization

set_option autoImplicit false

/-- The action can be taken as far as its thread and what it waits for are concerned. -/
def AbstractState.Enabled (a : AbstractState) : Action → Prop
  | .start self queue _ => a.canAct self = true ∧ a.workers queue = .notStarted
  | .run self queue _ => a.canAct (.client self) = true ∧ a.loops (.client self) = none ∧
      a.workers queue = .notStarted
  | .submit self _ _ | .workSubmitToQueue self _ _ | .workFlush self _ | .workCancel self _
  | .workCancelSync self _ | .setNewWorkHandler self _ _ | .queueDrain self _ _
  | .queueUnplug self _ | .stop self _ _ => a.canAct self = true
  | .flusherTake self => (∃ work queue, a.calls self = .flushing work queue) ∧
      a.flusherGiven self = true
  | .cancellerTake self => (∃ work, a.calls self = .cancelling work) ∧
      a.cancellerGiven self = true
  | .drainqGet self => ∃ queue, a.calls self = .draining queue ∧ a.drained queue = true
  | .join self expired => ∃ queue timeout, a.calls self = .joining queue timeout ∧
      (a.workers queue).left = !expired ∧ (expired = true → timeout.isSome = true)
  | .workerTurn queue => a.workers queue = .atTop
  | .notifyqGet queue => a.workers queue = .parked ∧ a.notified queue = true
  | .handlerReturn queue => (∃ work handler, a.workers queue = .running work handler) ∧
      handlerMayEnd a.calls (a.task queue).id = true
  | .handlerThrow queue => (∃ work handler, a.workers queue = .running (.user work) handler) ∧
      handlerMayEnd a.calls (a.task queue).id = true ∧ (a.task queue).essential = false

theorem State.moves {s : State} {action : Action} (fuel : Nat)
    (result : (s.step fuel action).isSome = true) : ∃ output s', s.Step action output s' := by
  obtain ⟨⟨s', output⟩, ran⟩ := Option.isSome_iff_exists.mp result
  exact ⟨output, s', fuel, ran⟩

theorem taken_of_given {sem : Semaphore 1} {given : Bool} (count : sem.getCount = given.toNat)
    (present : given = true) : ∃ taken, sem.blockingLock = some taken := by
  apply Option.ne_none_iff_exists'.mp
  rw [ne_eq, Semaphore.blocking_lock_none_iff, count, present]
  decide

section Clients

variable {s : State} {a : AbstractState} (coupled : Coupled s a)
include coupled

theorem Coupled.acts {self : Thread} (acts : a.canAct self = true) : s.canAct self = true :=
  (coupled.reflects.canAct self).trans acts

theorem Coupled.entry_result (self : Thread) (work : UserId) (queue : Option QueueId) :
    ∃ outcome, s.entry self work queue = some outcome := by
  obtain ⟨rep, ok⟩ := coupled
  cases verdict : a.admission self work queue with
  | error rc => exact ⟨_, rep.entry_rejected ok verdict⟩
  | ok target =>
      obtain ⟨s', accepted, _⟩ := rep.entry_accepted ok verdict
      exact ⟨_, accepted⟩

theorem Coupled.submit_result {self : Thread} (acts : a.canAct self = true) {action : Action}
    (work : UserId) (queue : Option QueueId)
    (submits : ∀ fuel, s.step fuel action =
      if s.canAct self then (s.entry self work queue).map (s.submitted work) else none) :
    ∃ output s', s.Step action output s' := by
  obtain ⟨outcome, ran⟩ := coupled.entry_result self work queue
  refine ⟨(s.submitted work outcome).2, (s.submitted work outcome).1, 0, ?_⟩
  rw [submits, if_pos (coupled.acts acts), ran]
  rfl

theorem Coupled.flush_result {self : Thread} (acts : a.canAct self = true) (work : UserId) :
    ∃ output s', s.Step (.workFlush self work) output s' := by
  have free := AbstractState.idle_of_can_act acts
  have constructed := coupled.reflects.construct_flusher coupled.wellFormed free
  have flushed := constructed.work_flush_locked coupled.wellFormed work free
  simp only [State.Step, State.step, coupled.acts acts, if_true]
  split at flushed
  · obtain ⟨queue, next, home, needed, _⟩ := flushed
    simp only [needed, coupled.reflects.user_work, home]
    exact ⟨_, _, 0, rfl⟩
  · rw [flushed]
    exact ⟨_, _, 0, rfl⟩

theorem Coupled.cancel_result {self : Thread} (acts : a.canAct self = true) (work : UserId) :
    ∃ output s', s.Step (.workCancel self work) output s' := by
  obtain ⟨fuel, outcome, ran⟩ :=
    coupled.reflects.cancel_async_terminates coupled.wellFormed work
  apply State.moves fuel
  simp only [State.step, coupled.acts acts, if_true, ran]
  rfl

theorem Coupled.cancel_sync_result {self : Thread} (acts : a.canAct self = true)
    (work : UserId) : ∃ output s', s.Step (.workCancelSync self work) output s' := by
  have free := AbstractState.idle_of_can_act acts
  have constructed := coupled.reflects.construct_canceller coupled.wellFormed free
  obtain ⟨fuel, ⟨next, ret⟩, ran⟩ :=
    constructed.cancel_async_terminates coupled.wellFormed work
  apply State.moves fuel
  simp only [State.step, coupled.acts acts, if_true]
  split
  · rw [ran]
    rfl
  · rfl

theorem Coupled.join_result {self : Thread} {queue : QueueId} {timeout : Option Nat}
    {expired : Bool} (call : a.calls self = .joining queue timeout)
    (left : (a.workers queue).left = !expired) (timed : expired = true → timeout.isSome = true) :
    ∃ output s', s.Step (.join self expired) output s' := by
  simp only [State.Step, State.step, coupled.reflects.calls, call, State.join,
    coupled.reflects.workers, left]
  cases expired with
  | true =>
      simp only [timed rfl]
      exact ⟨_, _, 0, rfl⟩
  | false =>
      simp only [Bool.false_eq_true, if_false, Bool.not_false, Bool.not_true, Bool.and_false,
        if_true]
      split
      · exact ⟨_, _, 0, rfl⟩
      · split <;> exact ⟨_, _, 0, rfl⟩

end Clients

section Workers

variable {s : State} {a : AbstractState} (coupled : Coupled s a)
include coupled

theorem Coupled.turn_result {queue : QueueId} (ready : a.workers queue = .atTop) :
    ∃ output s', s.Step (.workerTurn queue) output s' := by
  simp only [State.Step, State.step, coupled.reflects.workers, ready, if_true]
  split <;> exact ⟨_, _, 0, rfl⟩

theorem Coupled.return_result {queue : QueueId} {work : WorkRef} {handler : WorkHandler}
    (inside : a.workers queue = .running work handler)
    (ends : handlerMayEnd a.calls (a.task queue).id = true) :
    ∃ output s', s.Step (.handlerReturn queue) output s' := by
  obtain ⟨rep, ok⟩ := coupled
  have completes : ∃ fuel s', s.completeLocked fuel queue work = some s' := by
    cases work with
    | user id => exact rep.complete_terminates ok.cancellers queue id
    | flusher thread =>
        obtain ⟨reached, flushed, _⟩ := rep.completed_flush ok.flushers 0 inside
        exact ⟨0, reached, flushed⟩
  obtain ⟨fuel, s', completed⟩ := completes
  apply State.moves fuel
  simp only [State.step, rep.workers, rep.calls, (rep.queues queue).task, inside,
    AbstractState.queue, ends, completed, if_true]
  rfl

end Workers

/-- Whatever a thread or a worker may do next, there is a step that does it. -/
theorem Coupled.progress {s : State} {a : AbstractState} (coupled : Coupled s a)
    {action : Action} (enabled : a.Enabled action) : ∃ output s', s.Step action output s' := by
  have rep := coupled.reflects
  cases action with
  | start self queue config =>
      have starts := enabled.2
      rw [← rep.workers] at starts
      exact ⟨_, _, 0, if_pos ⟨coupled.acts enabled.1, starts⟩⟩
  | run self queue config =>
      obtain ⟨acts, outside, starts⟩ := enabled
      rw [← rep.workers] at starts
      rw [← rep.loops] at outside
      exact ⟨_, _, 0, if_pos ⟨coupled.acts acts, outside, starts⟩⟩
  | submit self queue work =>
      cases work with
      | none => exact ⟨_, _, 0, if_pos (coupled.acts enabled)⟩
      | some work => exact coupled.submit_result enabled work (some queue) fun _ => rfl
  | workSubmitToQueue self queue work =>
      cases work with
      | none => exact ⟨_, _, 0, if_pos (coupled.acts enabled)⟩
      | some work =>
          cases queue with
          | none => exact coupled.submit_result enabled work none fun _ => rfl
          | some queue => exact coupled.submit_result enabled work (some queue) fun _ => rfl
  | workFlush self work => exact coupled.flush_result enabled work
  | flusherTake self =>
      obtain ⟨⟨work, queue, call⟩, given⟩ := enabled
      obtain ⟨taken, took⟩ := taken_of_given (rep.flusher_sem self) given
      apply State.moves 0
      simp only [State.step, rep.calls, call, took]
      rfl
  | workCancel self work => exact coupled.cancel_result enabled work
  | workCancelSync self work => exact coupled.cancel_sync_result enabled work
  | cancellerTake self =>
      obtain ⟨⟨work, call⟩, given⟩ := enabled
      obtain ⟨taken, took⟩ := taken_of_given (rep.canceller_sem self) given
      apply State.moves 0
      simp only [State.step, rep.calls, call, took]
      rfl
  | setNewWorkHandler self work handler =>
      simp only [State.Step, State.step, coupled.acts enabled, if_true]
      split <;> exact ⟨_, _, 0, rfl⟩
  | queueDrain self queue plug => exact ⟨_, _, 0, if_pos (coupled.acts enabled)⟩
  | drainqGet self =>
      obtain ⟨queue, call, drained⟩ := enabled
      have token := (rep.queues queue).drainq
      simp only [AbstractState.queue, drained] at token
      obtain ⟨outcome, got⟩ := token.get_of_present
      apply State.moves 0
      simp only [State.step, rep.calls, call, got]
      rfl
  | queueUnplug self queue => exact ⟨_, _, 0, if_pos (coupled.acts enabled)⟩
  | stop self queue timeout => exact ⟨_, _, 0, if_pos (coupled.acts enabled)⟩
  | join self expired =>
      obtain ⟨queue, timeout, call, left, timed⟩ := enabled
      exact coupled.join_result call left timed
  | workerTurn queue => exact coupled.turn_result enabled
  | notifyqGet queue =>
      obtain ⟨asleep, notified⟩ := enabled
      have token := (rep.queues queue).notifyq
      simp only [AbstractState.queue, notified] at token
      obtain ⟨outcome, got⟩ := token.get_of_present
      apply State.moves 0
      simp only [State.step, rep.workers, asleep, got]
      rfl
  | handlerReturn queue =>
      obtain ⟨⟨work, handler, inside⟩, ends⟩ := enabled
      exact coupled.return_result inside ends
  | handlerThrow queue =>
      obtain ⟨⟨work, handler, inside⟩, ends, tolerated⟩ := enabled
      apply State.moves 0
      simp only [State.step, rep.workers, rep.calls, (rep.queues queue).task, inside,
        AbstractState.queue, ends, tolerated, and_self, if_true]
      rfl

end AresCommon.WorkQueue
