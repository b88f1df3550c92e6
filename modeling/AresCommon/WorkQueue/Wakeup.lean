import AresCommon.WorkQueue.DrainWaiters

/-!
# The worker's sleep

Every request puts the wake-up token, and the worker parks only when it found
nothing to do. But one turn answers one kind of request: a turn that completes a
drain parks without looking at STOP, whose token it may have taken already.
-/

namespace AresCommon.WorkQueue

open AresCommon.Foundation.Transition
open Function (update)

set_option autoImplicit false

attribute [local grind =] Function.update_apply

/-- No turn completes a drain while STOP is set and no wake-up token is left. -/
def turnServesStop (queue : QueueId) : State → Action → Prop := fun s action =>
  action.turns? = some queue → (s.queues queue).pending.isEmpty = true →
    s.queueHas queue workQueueDrainBit = true → s.queueHas queue workQueueStopBit = true →
      (s.queues queue).notifyq.size ≠ 0

/-- A worker that sleeps without a token has nothing to do. -/
def WorkerAwake (queue : QueueId) (s : State) : Prop :=
  s.workers queue = .parked → (s.queues queue).notifyq.size = 0 →
    (s.queues queue).pending.isEmpty = true ∧ s.queueHas queue workQueueDrainBit = false ∧
      s.queueHas queue workQueueStopBit = false

namespace AbstractState

def turnServesStop (queue : QueueId) : AbstractState → Action → Prop := fun a action =>
  action.turns? = some queue → a.pending queue = [] → a.draining queue = true →
    a.stopping queue = true → a.notified queue = true

def WorkerAwake (queue : QueueId) (a : AbstractState) : Prop :=
  a.workers queue = .parked → a.notified queue = false →
    a.pending queue = [] ∧ a.draining queue = false ∧ a.stopping queue = false

variable {a a' : AbstractState} {queue : QueueId} {action : Action} {output : Output}

theorem WorkerAwake.step (awake : WorkerAwake queue a) (serves : a.turnServesStop queue action)
    (move : AbstractStep a action output a') : WorkerAwake queue a' := by
  unfold WorkerAwake at awake ⊢
  cases move with
  | @drainDone target ready empty requested =>
      have served : target = queue → a.stopping queue = true → a.notified queue = true := by
        rintro rfl stopping
        exact serves rfl empty requested stopping
      simp only [AbstractState.finishDrain]
      grind
  | cancelled | cancelledSync | cancelWaits =>
      intro asleep silent
      obtain ⟨empty, settled⟩ := awake asleep silent
      exact ⟨by simp [AbstractState.awaitCancel, AbstractState.cancel, empty], settled⟩
  | accepted | flushWaits | drainWaits | stopWaits | start | run | popped | stopped | parked
  | woken | finished | finishedCancelled | flushed | threw =>
      simp only [AbstractState.accept, AbstractState.flush, AbstractState.requestDrain,
        AbstractState.requestStop, AbstractState.launch, AbstractState.pop, AbstractState.leave,
        AbstractState.complete]
      grind
  | refused | flusherTaken | cancellerTaken | drainTaken | joined | handlerSet | unplugged =>
      exact awake

theorem asleep_of_unserved (unserved : ¬a.turnServesStop queue action)
    (move : AbstractStep a action output a') : ¬WorkerAwake queue a' := by
  unfold AbstractState.turnServesStop at unserved
  simp only [Classical.not_imp, Bool.not_eq_true] at unserved
  obtain ⟨turns, empty, draining, stopping, silent⟩ := unserved
  cases action with
  | workerTurn target =>
      cases turns
      cases move.drain_turn empty draining
      intro awake
      have settled := (awake (by simp [AbstractState.finishDrain]) silent).2.2
      simp [AbstractState.finishDrain, stopping] at settled
  | _ => cases turns

end AbstractState

section Coupling

variable {s : State} {a : AbstractState} (coupled : Coupled s a) (queue : QueueId)
include coupled

theorem notifyq_empty_iff : (s.queues queue).notifyq.size = 0 ↔ a.notified queue = false := by
  rw [(coupled.reflects.queues queue).notifyq.size, Bool.toNat_eq_zero]
  rfl

theorem turn_serves_stop_iff (action : Action) :
    turnServesStop queue s action ↔ a.turnServesStop queue action := by
  obtain ⟨_, draining, _, stopping⟩ := coupled.reflects.queue_has queue
  unfold turnServesStop AbstractState.turnServesStop
  rw [draining, stopping, (coupled.reflects.list queue).is_empty, List.isEmpty_iff, ne_eq,
    notifyq_empty_iff coupled, Bool.not_eq_false]

theorem worker_awake_iff : WorkerAwake queue s ↔ a.WorkerAwake queue := by
  obtain ⟨_, draining, _, stopping⟩ := coupled.reflects.queue_has queue
  unfold WorkerAwake AbstractState.WorkerAwake
  rw [draining, stopping, (coupled.reflects.list queue).is_empty, List.isEmpty_iff,
    notifyq_empty_iff coupled, coupled.reflects.workers]

end Coupling

/-- When no turn completes a drain over an unserved stop, the worker never sleeps
through a request; the first turn that does puts it to sleep on the stop. -/
theorem worker_never_sleeps_through {handlers : UserId → HandlerId}
    {trace : List (Action × Output)} {s : State} {queue : QueueId}
    (run : SystemRun (turnServesStop queue) (State.initial handlers) trace s) :
    WorkerAwake queue s ∧ ∀ action output s', ¬turnServesStop queue s action →
      s.Step action output s' → ¬WorkerAwake queue s' := by
  obtain ⟨a, coupled, awake⟩ := invariant_of_run run (AbstractState.turnServesStop queue)
    (fun _ _ action coupled serves => (turn_serves_stop_iff coupled queue action).mp serves)
    (AbstractState.WorkerAwake queue) (fun asleep => by cases asleep)
    (fun _ _ _ _ _ awake serves move => awake.step serves move)
  refine ⟨(worker_awake_iff coupled queue).mpr awake, ?_⟩
  intro action output s' unserved move
  obtain ⟨a', meaning, next⟩ := coupled.step move
  rw [turn_serves_stop_iff coupled queue] at unserved
  rw [worker_awake_iff next queue]
  exact AbstractState.asleep_of_unserved unserved meaning

instance (queue : QueueId) (s : State) (action : Action) :
    Decidable (turnServesStop queue s action) :=
  inferInstanceAs (Decidable (_ → _))

/-- A submission and a drain, both served before the worker sleeps. -/
theorem worker_never_sleeps_through_requests :
    ∃ trace s, SystemRun (turnServesStop ⟨0⟩) (State.initial fun _ => ⟨0⟩) trace s ∧
      s.workers ⟨0⟩ = .parked ∧ (historyOf trace).finished.length = 1 ∧ WorkerAwake ⟨0⟩ s := by
  obtain ⟨trace, s, run, tested⟩ := system_run_of_actions (turnServesStop ⟨0⟩)
    (State.initial fun _ => ⟨0⟩)
    [.start (.client ⟨0⟩) ⟨0⟩ none, .submit (.client ⟨0⟩) ⟨0⟩ (some ⟨0⟩), .workerTurn ⟨0⟩,
      .queueDrain (.client ⟨1⟩) ⟨0⟩ true, .handlerReturn ⟨0⟩, .workerTurn ⟨0⟩, .notifyqGet ⟨0⟩,
      .workerTurn ⟨0⟩]
    (fun trace s => s.workers ⟨0⟩ = .parked && (historyOf trace).finished.length = 1)
    (by decide +kernel)
  simp only [Bool.and_eq_true, decide_eq_true_eq] at tested
  exact ⟨trace, s, run, tested.1, tested.2, (worker_never_sleeps_through run).1⟩

/-- A drain and a stop share the token that wakes the worker; it serves the drain
and sleeps on the stop. -/
theorem worker_sleeps_through_stop :
    ¬∀ trace s, SystemRun anyStep (State.initial fun _ => ⟨0⟩) trace s → WorkerAwake ⟨0⟩ s := by
  intro always
  obtain ⟨trace, s, run, tested⟩ := system_run_of_actions (fun _ _ => True)
    (State.initial fun _ => ⟨0⟩)
    [.start (.client ⟨0⟩) ⟨0⟩ none, .workerTurn ⟨0⟩, .queueDrain (.client ⟨1⟩) ⟨0⟩ true,
      .stop (.client ⟨2⟩) ⟨0⟩ none, .notifyqGet ⟨0⟩, .workerTurn ⟨0⟩]
    (fun _ s => s.workers ⟨0⟩ = .parked && (s.queues ⟨0⟩).notifyq.size = 0 &&
      s.queueHas ⟨0⟩ workQueueStopBit)
    (by decide +kernel)
  simp only [Bool.and_eq_true, decide_eq_true_eq] at tested
  obtain ⟨⟨asleep, silent⟩, stopping⟩ := tested
  have settled := (always trace s run.unrestricted asleep silent).2.2
  simp [stopping] at settled

end AresCommon.WorkQueue
