import AresCommon.WorkQueue.Refinement.Worker

/-!
# The system refines the abstract steps

Every step of the system, read through `Reflects`, is an abstract step with the
same label, so that every run has an abstract run with the same trace. The
other way round, an action whose thread or worker is ready always has a result:
no list walk runs on, no null queue is dereferenced, and no semaphore is given
too often.
-/

namespace AresCommon.WorkQueue

open AresCommon.DataStructures AresCommon.DataStructures.Slist
open AresCommon.Synchronization AresCommon.Foundation.Transition
open Function (update)

set_option autoImplicit false

section Actions

variable {s : State} {a : AbstractState} (rep : Reflects s a) (ok : WellFormed a)

def Answered (a : AbstractState) (action : Action) (output : Output) (s' : State) : Prop :=
  ∃ a', AbstractStep a action output a' ∧ Reflects s' a'

include rep ok

theorem answer_submission {action : Action} {self : Thread} {work : UserId}
    {queue : Option QueueId} {output : Output} {s' : State}
    (submits : action.submission? = some (self, work, queue)) (acts : a.canAct self = true)
    (ran : (s.entry self work queue).map (s.submitted work) = some (s', output)) :
    Answered a action output s' := by
  cases decided : a.admission self work queue with
  | error rc =>
      rw [rep.entry_rejected ok decided] at ran
      cases ran
      exact ⟨a, .refused (.rejected submits decided), rep⟩
  | ok target =>
      obtain ⟨next, accepted, meaning⟩ := rep.entry_accepted ok decided
      rw [accepted] at ran
      cases ran
      refine ⟨_, ?_, meaning⟩
      simp only [rep.user_work]
      exact .accepted submits acts decided

theorem answer_flush {self : Thread} {work : UserId} {output : Output} {s' : State}
    {fuel : Nat} (ran : s.step fuel (.workFlush self work) = some (s', output)) :
    Answered a (.workFlush self work) output s' := by
  simp only [State.step, rep.canAct] at ran
  split at ran
  · rename_i acts
    have free := AbstractState.idle_of_can_act acts
    have constructed := rep.construct_flusher ok free
    have flushed := constructed.work_flush_locked ok work free
    split at flushed
    · rename_i active
      obtain ⟨queue, next, home, needed, meaning⟩ := flushed
      simp only [needed, rep.user_work, home] at ran
      cases ran
      refine ⟨_, ?_, meaning⟩
      exact .flushWaits acts (by simpa using active) home
    · rename_i resting
      rw [flushed] at ran
      cases ran
      simp only [Bool.or_eq_true, not_or, Bool.not_eq_true] at resting
      exact ⟨a, .refused (.nothingToFlush resting.1 resting.2), constructed⟩
  · cases ran

omit ok in
theorem Reflects.removal {next : State} {work : UserId}
    (meaning : Reflects next (a.cancel work)) : s.removal next work = a.removal work := by
  simp [State.removal, AbstractState.removal, rep.user_work, meaning.user_work,
    AbstractState.cancel]

theorem answer_cancel {self : Thread} {work : UserId} {output : Output} {s' : State}
    {fuel : Nat} (ran : s.step fuel (.workCancel self work) = some (s', output)) :
    Answered a (.workCancel self work) output s' := by
  simp only [State.step, rep.canAct] at ran
  split at ran
  · rename_i acts
    obtain ⟨⟨next, ret⟩, cancelled, result⟩ := Option.map_eq_some_iff.mp ran
    cases result
    obtain ⟨meaning, code⟩ := rep.cancel_async_locked ok cancelled
    rw [rep.removal meaning, code]
    exact ⟨_, .cancelled acts, meaning⟩
  · cases ran

theorem answer_cancel_sync {self : Thread} {work : UserId} {output : Output} {s' : State}
    {fuel : Nat} (ran : s.step fuel (.workCancelSync self work) = some (s', output)) :
    Answered a (.workCancelSync self work) output s' := by
  have canceling := ok.items.canceling work
  simp only [State.step, rep.canAct] at ran
  split at ran
  · rename_i acts
    have free := AbstractState.idle_of_can_act acts
    have constructed := rep.construct_canceller ok free
    have busy : (s.constructCanceller self).workBusyGetLocked (.user work) ≠ 0 ↔
        a.queued work = true ∨ a.running (.user work) = true := by
      rw [State.workBusyGetLocked, constructed.user_work, work_flags_masked]
      cases running : a.running (.user work) <;> cases cancelled : a.canceling work <;>
        cases queued : a.queued work <;> simp_all <;> decide
    split at ran
    · rename_i active
      obtain ⟨⟨next, ret⟩, cancelled, result⟩ := Option.map_eq_some_iff.mp ran
      obtain ⟨meaning, _⟩ := constructed.cancel_async_locked ok cancelled
      have removal := rep.removal meaning
      have marked : flagTest (next.works (.user work)).flags workCancelingBit =
          a.running (.user work) := by
        simp [meaning.user_work, AbstractState.cancel]
      simp only [State.cancelSyncLocked, marked, removal] at result
      by_cases running : a.running (.user work)
      · simp only [running, if_true] at result
        cases result
        have linked := meaning.init_canceller (ok.cancellers.congr rfl rfl fun _ _ => .rfl)
          work free
        exact ⟨_, .cancelWaits acts running, linked⟩
      · simp only [running, Bool.false_eq_true, if_false] at result
        cases result
        have waiting : a.queued work = true := by
          rcases busy.mp active with queued | active
          · exact queued
          · exact absurd active running
        refine ⟨_, ?_, meaning⟩
        have removed : a.removal work = .removed work := by
          simp [AbstractState.removal, waiting]
        rw [removed]
        exact .cancelledSync acts waiting (by simpa using running)
    · rename_i resting
      cases ran
      rw [busy, not_or, Bool.not_eq_true, Bool.not_eq_true] at resting
      exact ⟨a, .refused (.nothingToCancel resting.1 resting.2), constructed⟩
  · cases ran

theorem answer_set_handler {self : Thread} {work : UserId} {handler : HandlerId}
    {output : Output} {s' : State} {fuel : Nat}
    (ran : s.step fuel (.setNewWorkHandler self work handler) = some (s', output)) :
    Answered a (.setNewWorkHandler self work handler) output s' := by
  have canceling := ok.items.canceling work
  simp only [State.step, rep.canAct] at ran
  split at ran
  · rename_i acts
    split at ran
    · rename_i inUse
      cases ran
      rw [rep.user_work, ne_eq, work_flags_zero_iff] at inUse
      refine ⟨a, .refused (.handlerInUse ?_), rep⟩
      cases queued : a.queued work <;> cases running : a.running (.user work) <;>
        simp_all
    · rename_i unused
      cases ran
      rw [rep.user_work, not_not, work_flags_zero_iff] at unused
      have assigned := rep.write_user work (fun w => { w with handler := .client handler })
        (a.running (.user work)) (a.canceling work) (a.queued work) (a.home work) handler rfl
      simp only [Function.update_eq_self] at assigned
      exact ⟨_, .handlerSet acts unused.2.2.1 unused.1, assigned⟩
  · cases ran

omit ok in
theorem answer_drain {self : Thread} {queue : QueueId} {plug : Bool} {output : Output}
    {s' : State} {fuel : Nat}
    (ran : s.step fuel (.queueDrain self queue plug) = some (s', output)) :
    Answered a (.queueDrain self queue plug) output s' := by
  simp only [State.step, rep.canAct, rep.queue_drain] at ran
  split at ran
  · rename_i acts
    have free := AbstractState.idle_of_can_act acts
    split at ran
    · rename_i off
      cases ran
      exact ⟨a, .refused (.drainNotStarted (by simpa using off)), rep⟩
    · rename_i on
      split at ran
      · rename_i unsettled
        cases ran
        refine ⟨_, .drainWaits acts (by simpa using on) ?_, rep.drain_requested free queue plug⟩
        simpa [or_assoc] using unsettled
      · rename_i settled
        cases ran
        simp only [Bool.or_eq_true, Bool.not_eq_true, not_or, Bool.not_eq_true',
          Bool.not_eq_false, List.isEmpty_iff] at settled on
        obtain ⟨⟨⟨idle, undrained⟩, unplugging⟩, empty⟩ := settled
        subst unplugging
        exact ⟨a, .refused (.nothingToDrain (by simpa using on) idle undrained empty), rep⟩
  · cases ran

omit ok in
theorem answer_stop {self : Thread} {queue : QueueId} {timeout : Option Nat} {output : Output}
    {s' : State} {fuel : Nat}
    (ran : s.step fuel (.stop self queue timeout) = some (s', output)) :
    Answered a (.stop self queue timeout) output s' := by
  simp only [State.step, rep.canAct, rep.stop] at ran
  split at ran
  · rename_i acts
    have free := AbstractState.idle_of_can_act acts
    split at ran
    · rename_i off
      cases ran
      exact ⟨a, .refused (.stopNotStarted (by simpa using off)), rep⟩
    · rename_i on
      split at ran
      · rename_i opened
        cases ran
        exact ⟨a, .refused (.stopUnplugged (by simpa using on) (by simpa using opened)), rep⟩
      · rename_i closed
        cases ran
        exact ⟨_, .stopWaits acts (by simpa using on) (by simpa using closed),
          rep.stop_requested free queue timeout⟩
  · cases ran

omit ok in
theorem answer_turn {queue : QueueId} {output : Output} {s' : State} {fuel : Nat}
    (ran : s.step fuel (.workerTurn queue) = some (s', output)) :
    Answered a (.workerTurn queue) output s' := by
  simp only [State.step, rep.workers] at ran
  split at ran
  · rename_i ready
    cases head : a.pending queue with
    | cons work rest =>
        obtain ⟨meaning, running⟩ := rep.popped head
        simp only [running] at ran
        refine ⟨a.pop queue work rest, ?_, ?_⟩
        · cases work <;> cases ran <;> exact .popped ready head
        · cases work <;> cases ran <;> exact meaning
    | nil =>
        rw [rep.turn_empty head] at ran
        by_cases draining : a.draining queue
        · simp only [draining, if_true, State.setWorker, Function.update_self] at ran
          cases ran
          exact ⟨_, .drainDone ready head draining, rep.drain_finished queue⟩
        · by_cases stopping : a.stopping queue
          · simp only [draining, stopping, Bool.false_eq_true, if_true, if_false,
              State.setWorker, Function.update_self] at ran
            cases ran
            exact ⟨_, .stopped ready head (by simpa using draining) stopping,
              rep.stopped queue⟩
          · simp only [draining, stopping, Bool.false_eq_true, if_false, State.setWorker,
              Function.update_self] at ran
            cases ran
            exact ⟨_, .parked ready head (by simpa using draining) (by simpa using stopping),
              rep.set_worker queue .parked⟩
  · cases ran

theorem answer_return {queue : QueueId} {output : Output} {s' : State} {fuel : Nat}
    (ran : s.step fuel (.handlerReturn queue) = some (s', output)) :
    Answered a (.handlerReturn queue) output s' := by
  simp only [State.step, rep.workers, rep.calls, (rep.queues queue).task] at ran
  split at ran
  · rename_i work handler inside
    split at ran
    · rename_i ends
      obtain ⟨next, completed, result⟩ := Option.map_eq_some_iff.mp ran
      cases result
      cases work with
      | user id =>
          have meaning := rep.completed ok.cancellers completed
          cases waiter : a.released id with
          | none =>
              rw [waiter] at meaning
              exact ⟨_, .finished inside ends waiter, meaning⟩
          | some thread =>
              rw [waiter] at meaning
              exact ⟨_, .finishedCancelled inside ends waiter, meaning⟩
      | flusher thread =>
          obtain ⟨reached, flushed, meaning⟩ := rep.completed_flush ok.flushers fuel inside
          cases completed.symm.trans flushed
          exact ⟨_, .flushed inside ends, meaning⟩
    · cases ran
  · cases ran

omit ok in
theorem lock_free_answered {action : Action} {output : Output} {s' : State}
    (unlocked : action.lockFree = true) (move : s.Step action output s') :
    Answered a action output s' := by
  obtain ⟨fuel, ran⟩ := move
  cases action with
  | start self queue config =>
      simp only [State.step, rep.canAct, rep.workers] at ran
      split at ran
      · rename_i guard
        cases ran
        exact ⟨_, .start guard.1 guard.2, rep.launch queue config (.worker queue) true⟩
      · cases ran
  | run self queue config =>
      simp only [State.step, rep.canAct, rep.loops, rep.workers] at ran
      split at ran
      · rename_i guard
        cases ran
        exact ⟨_, .run guard.1 guard.2.1 guard.2.2, rep.launch queue config (.client self) false⟩
      · cases ran
  | flusherTake self =>
      simp only [State.step] at ran
      split at ran
      · rename_i work queue sem call took
        cases ran
        rw [rep.calls] at call
        obtain ⟨given, meaning⟩ := rep.flusher_taken call took
        exact ⟨_, .flusherTaken call given, meaning⟩
      · cases ran
  | cancellerTake self =>
      simp only [State.step] at ran
      split at ran
      · rename_i work sem call took
        cases ran
        rw [rep.calls] at call
        obtain ⟨given, meaning⟩ := rep.canceller_taken call took
        exact ⟨_, .cancellerTaken call given, meaning⟩
      · cases ran
  | drainqGet self =>
      simp only [State.step] at ran
      split at ran
      · rename_i queue call
        rw [rep.calls] at call
        obtain ⟨⟨token, rest⟩, got, result⟩ := Option.map_eq_some_iff.mp ran
        cases result
        obtain ⟨present, one, meaning⟩ := rep.drain_taken call got
        subst one
        exact ⟨_, .drainTaken call present, meaning⟩
      · cases ran
  | join self expired =>
      simp only [State.step] at ran
      split at ran
      · rename_i queue timeout call
        rw [rep.calls] at call
        obtain ⟨reply, joinable, rfl, meaning⟩ := rep.joined call ran
        exact ⟨_, .joined call, meaning⟩
      · cases ran
  | notifyqGet queue =>
      simp only [State.step, rep.workers] at ran
      split at ran
      · rename_i asleep
        obtain ⟨⟨token, rest⟩, got, result⟩ := Option.map_eq_some_iff.mp ran
        cases result
        obtain ⟨present, meaning⟩ := rep.woken got
        exact ⟨_, .woken asleep present, meaning⟩
      · cases ran
  | handlerThrow queue =>
      simp only [State.step, rep.workers, rep.calls, (rep.queues queue).task] at ran
      split at ran
      · rename_i work handler inside
        split at ran
        · rename_i ends
          cases ran
          exact ⟨_, .threw inside ends.1,
            (rep.set_worker queue (.thrown (.user work))).leave_loop queue⟩
        · cases ran
      · cases ran
  | _ => cases unlocked

/-- Every step of the system is an abstract step with the same label. -/
theorem step_answered {action : Action} {output : Output} {s' : State}
    (move : s.Step action output s') : Answered a action output s' := by
  by_cases unlocked : action.lockFree = true
  · exact lock_free_answered rep unlocked move
  obtain ⟨fuel, ran⟩ := move
  cases action with
  | submit self queue work =>
      simp only [State.step, rep.canAct] at ran
      split at ran
      · rename_i acts
        cases work with
        | none =>
            cases ran
            exact ⟨a, .refused (.submitNull self queue), rep⟩
        | some work => exact answer_submission rep ok rfl acts ran
      · cases ran
  | workSubmitToQueue self queue work =>
      simp only [State.step, rep.canAct] at ran
      split at ran
      · rename_i acts
        cases work with
        | none =>
            cases ran
            exact ⟨a, .refused (.submitToQueueNull self queue), rep⟩
        | some work => cases queue <;> exact answer_submission rep ok rfl acts ran
      · cases ran
  | workFlush self work => exact answer_flush rep ok ran
  | workCancel self work => exact answer_cancel rep ok ran
  | workCancelSync self work => exact answer_cancel_sync rep ok ran
  | setNewWorkHandler self work handler => exact answer_set_handler rep ok ran
  | queueDrain self queue plug => exact answer_drain rep ran
  | queueUnplug self queue =>
      simp only [State.step, rep.canAct, flagTestAndClear] at ran
      split at ran
      · rename_i acts
        cases ran
        refine ⟨_, ?_, rep.unplugged queue⟩
        simp only [(rep.queues queue).flags, queue_flags_test]
        exact .unplugged acts
      · cases ran
  | stop self queue timeout => exact answer_stop rep ran
  | workerTurn queue => exact answer_turn rep ran
  | handlerReturn queue => exact answer_return rep ok ran
  | _ => exact absurd rfl unlocked

end Actions

/-! ## Whole runs -/

/-- A state and its meaning, which satisfies the invariants. -/
structure Coupled (s : State) (a : AbstractState) : Prop where
  reflects : Reflects s a
  wellFormed : WellFormed a

theorem initial_coupled (handlers : UserId → HandlerId) :
    Coupled (State.initial handlers) (AbstractState.initial handlers) :=
  ⟨initial_reflects handlers, initial_well_formed handlers⟩

theorem Coupled.step {s s' : State} {a : AbstractState} {action : Action} {output : Output}
    (coupled : Coupled s a) (move : s.Step action output s') :
    ∃ a', AbstractStep a action output a' ∧ Coupled s' a' := by
  obtain ⟨a', step, reflects⟩ := step_answered coupled.reflects coupled.wellFormed move
  exact ⟨a', step, reflects, coupled.wellFormed.step step⟩

/-- Every run of the system has an abstract run with the same trace, under any
condition that the meaning of a state decides. -/
theorem Coupled.run {allowed : State → Action → Prop}
    {permitted : AbstractState → Action → Prop}
    (transfer : ∀ s a action, Coupled s a → allowed s action → permitted a action)
    {s s' : State} {a : AbstractState} {trace : List (Action × Output)} (coupled : Coupled s a)
    (run : SystemRun allowed s trace s') :
    ∃ a', Run AbstractStep permitted a trace a' ∧ Coupled s' a' := by
  have matched : ∀ s a action output s', Coupled s a → State.Step s action output s' →
      ∃ a', AbstractStep a action output a' ∧ Coupled s' a' :=
    fun _ _ _ _ _ related move => related.step move
  exact run.simulate transfer matched coupled

theorem coupled_of_run {allowed : State → Action → Prop} {handlers : UserId → HandlerId}
    {trace : List (Action × Output)} {s : State}
    (run : SystemRun allowed (State.initial handlers) trace s) :
    ∃ a, Run AbstractStep anyStep (AbstractState.initial handlers) trace a ∧ Coupled s a :=
  (initial_coupled handlers).run (fun _ _ _ _ _ => trivial) run.unrestricted

/-- The invariant rule: what the initial meaning satisfies and every permitted
step between well-formed meanings keeps, the meaning of every reached state satisfies. -/
theorem invariant_of_run {allowed : State → Action → Prop} {handlers : UserId → HandlerId}
    {trace : List (Action × Output)} {s : State}
    (run : SystemRun allowed (State.initial handlers) trace s)
    (permitted : AbstractState → Action → Prop)
    (transfer : ∀ s a action, Coupled s a → allowed s action → permitted a action)
    (invariant : AbstractState → Prop) (base : invariant (AbstractState.initial handlers))
    (preserved : ∀ a action output a', WellFormed a → invariant a → permitted a action →
      AbstractStep a action output a' → invariant a') :
    ∃ a, Coupled s a ∧ invariant a := by
  obtain ⟨a, steps, coupled⟩ := (initial_coupled handlers).run transfer run
  refine ⟨a, coupled, ?_⟩
  have kept : WellFormed a ∧ invariant a := by
    refine steps.preserves (fun a => WellFormed a ∧ invariant a) ?_
      ⟨initial_well_formed handlers, base⟩
    intro a action output a' holds permits move
    exact ⟨holds.1.step move, preserved a action output a' holds.1 holds.2 permits move⟩
  exact kept.2

end AresCommon.WorkQueue
