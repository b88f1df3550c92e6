import AresCommon.WorkQueue.CancelWaiters
import AresCommon.WorkQueue.DrainWaiters

/-!
# Leaving the worker loop

The normal exit of `work_queue_main` clears the flags of the queue and finds
nobody waiting, unless a waiter was left behind before. An exception that leaves
the loop cleans up nothing.
-/

namespace AresCommon.WorkQueue

open AresCommon.Foundation.Transition AresCommon.Synchronization
open Function (update)

set_option autoImplicit false

attribute [local grind =] Function.update_apply

/-- No handler throws on the queue, and no step leaves a waiter behind. -/
structure LeavesClean (queue : QueueId) (s : State) (action : Action) : Prop where
  returns : action ≠ .handlerThrow queue
  drains : DrainsCounted queue s action
  cancels : cancelsApart s action

structure WorkerGone (queue : QueueId) (s : State) : Prop where
  stopped : s.queueHas queue workQueueStartedBit = false
  empty : (s.queues queue).pending.isEmpty = true
  idle : (s.workers queue).item = none
  resting : ∀ work, (s.works (.user work)).queue = some queue →
    s.workHas work workRunningBit = false
  flushed : ∀ thread work, s.calls thread = .flushing work queue →
    (s.flusherSems thread).getCount = 1
  cancelled : ∀ thread work, s.calls thread = .cancelling work →
    (s.works (.user work)).queue = some queue → (s.cancellers thread).sem.getCount = 1
  drained : {thread | s.calls thread = .draining queue}.encard ≤ (s.queues queue).drainq.size

/-- STARTED means that the worker is inside its loop; a worker that has left leaves
nobody behind. -/
structure WorkerTracked (queue : QueueId) (s : State) : Prop where
  inside : s.queueHas queue workQueueStartedBit = true →
    s.workers queue ≠ .notStarted ∧ (s.workers queue).left = false
  gone : (s.workers queue).left = true → WorkerGone queue s

/-! ## On the meaning of the state -/

namespace AbstractState

structure LeavesClean (queue : QueueId) (a : AbstractState) (action : Action) : Prop where
  returns : action ≠ .handlerThrow queue
  drains : a.DrainsCounted queue action
  cancels : a.cancelsApart action

structure CleanSoFar (queue : QueueId) (a : AbstractState) : Prop where
  unthrown : ∀ work, a.workers queue ≠ .thrown work
  marks : CancelsMarked a
  counts : WaitersCounted queue a

variable {a a' : AbstractState} {queue : QueueId} {action : Action} {output : Output}

theorem unthrown_step (unthrown : ∀ work, a.workers queue ≠ .thrown work)
    (returns : action ≠ .handlerThrow queue) (move : AbstractStep a action output a')
    (work : WorkRef) : a'.workers queue ≠ .thrown work := by
  have before := unthrown work
  cases move with
  | @threw target id handler inside ends =>
      have away : queue ≠ target := fun same => returns (by rw [same])
      grind
  | start | run | popped | drainDone | stopped | finished | finishedCancelled | flushed
  | parked | woken =>
      simp only [AbstractState.launch, AbstractState.pop, AbstractState.finishDrain,
        AbstractState.leave, AbstractState.complete]
      grind
  | refused | accepted | flushWaits | flusherTaken | cancelled | cancelledSync | cancelWaits
  | cancellerTaken | handlerSet | drainWaits | drainTaken | unplugged | stopWaits | joined =>
      exact before

theorem CleanSoFar.initial (handlers : UserId → HandlerId) (queue : QueueId) :
    CleanSoFar queue (AbstractState.initial handlers) where
  unthrown work := by simp [AbstractState.initial]
  marks := CancelsMarked.initial handlers
  counts := WaitersCounted.initial handlers queue

theorem CleanSoFar.step (clean : CleanSoFar queue a) (ok : WellFormed a)
    (permits : a.LeavesClean queue action) (move : AbstractStep a action output a') :
    CleanSoFar queue a' where
  unthrown := unthrown_step clean.unthrown permits.returns move
  marks := clean.marks.step ok permits.cancels move
  counts := clean.counts.step ok permits.drains move

theorem CleanSoFar.returned (clean : CleanSoFar queue a)
    (left : (a.workers queue).left = true) : a.workers queue = .returned := by
  cases place : a.workers queue with
  | returned => rfl
  | thrown work => exact absurd place (clean.unthrown work)
  | _ => simp [place, WorkerPc.left] at left

end AbstractState

/-! ## On the shared state -/

section Coupling

variable {s : State} {a : AbstractState} (coupled : Coupled s a) {queue : QueueId}
include coupled

theorem leaves_clean_transfer {action : Action} (permits : LeavesClean queue s action) :
    a.LeavesClean queue action where
  returns := permits.returns
  drains := (drains_counted_iff coupled action).mp permits.drains
  cancels := cancels_apart_transfer coupled permits.cancels

theorem AbstractState.CleanSoFar.inside (clean : a.CleanSoFar queue)
    (on : s.queueHas queue workQueueStartedBit = true) :
    s.workers queue ≠ .notStarted ∧ (s.workers queue).left = false := by
  rw [(coupled.reflects.queue_has queue).1] at on
  rw [coupled.reflects.workers]
  obtain ⟨begun, remains⟩ := (coupled.wellFormed.queues.started_iff queue).mp on
  refine ⟨begun, ?_⟩
  by_contra left
  exact remains (clean.returned (by simpa using left))

theorem AbstractState.CleanSoFar.gone (clean : a.CleanSoFar queue)
    (left : (s.workers queue).left = true) : WorkerGone queue s := by
  obtain ⟨rep, ok⟩ := coupled
  rw [rep.workers] at left
  have returned := clean.returned left
  have idle : (a.workers queue).item = none := by rw [returned]; rfl
  have off : a.started queue = false := by
    by_contra on
    exact ((ok.queues.started_iff queue).mp (by simpa using on)).2 returned
  obtain ⟨empty, settled, _⟩ := ok.queues.dormant queue off
  have resting : ∀ work, a.home work = some queue → a.running (.user work) = false := by
    intro work located
    by_contra active
    have held := (ok.items.item_user work queue).mpr ⟨by simpa using active, located⟩
    simp [idle] at held
  have home : ∀ work, (s.works (.user work)).queue = a.home work := by
    intro work
    rw [rep.user_work]
  constructor
  case stopped => rw [(rep.queue_has queue).1, off]
  case empty => rw [(rep.list queue).is_empty, empty]; rfl
  case idle => rw [rep.workers, idle]
  case resting =>
    intro work located
    rw [(rep.work_has work).1]
    exact resting work ((home work).symm.trans located)
  case flushed =>
    intro thread work call
    rw [rep.calls] at call
    rw [rep.flusher_sem]
    by_contra ungiven
    have waits := ok.flushers.awaiting thread work queue call (by simpa using ungiven)
    simp [empty, idle] at waits
  case cancelled =>
    intro thread work call located
    rw [rep.calls] at call
    rw [rep.canceller_sem]
    by_contra ungiven
    have linked := (ok.cancellers.linked thread).mpr ⟨⟨work, call⟩, by simpa using ungiven⟩
    have marked := clean.marks.marked thread linked work call
    have active := (ok.items.canceling work marked).1
    simp [resting work ((home work).symm.trans located)] at active
  case drained =>
    have clear : s.queueHas queue workQueueDrainBit = false := by
      rw [(rep.queue_has queue).2.1, settled]
    exact (served_iff ⟨rep, ok⟩ clear).mpr clean.counts.balance.le clear

end Coupling

/-- As long as no handler throws on the queue and no waiter is left behind, STARTED
and the exit of the worker are true to each other and to everybody who waits. A
handler that throws breaks this at once. -/
theorem worker_exit_tracked {handlers : UserId → HandlerId} {trace : List (Action × Output)}
    {s : State} {queue : QueueId}
    (run : SystemRun (LeavesClean queue) (State.initial handlers) trace s) :
    WorkerTracked queue s ∧
      ∀ output s', s.Step (.handlerThrow queue) output s' → ¬WorkerTracked queue s' := by
  obtain ⟨a, coupled, clean⟩ := invariant_of_run run (AbstractState.LeavesClean queue)
    (fun _ _ _ coupled permits => leaves_clean_transfer coupled permits)
    (AbstractState.CleanSoFar queue) (AbstractState.CleanSoFar.initial handlers queue)
    (fun _ _ _ _ ok clean permits move => clean.step ok permits move)
  refine ⟨⟨clean.inside coupled, clean.gone coupled⟩, ?_⟩
  intro output s' move tracked
  obtain ⟨a', meaning, next⟩ := coupled.step move
  obtain ⟨work, handler, inside, started, thrown⟩ := meaning.handler_throw
  have on : a'.started queue = true := by
    rw [started, coupled.wellFormed.queues.started_iff]
    simp [inside]
  have left : (s'.workers queue).left = true := by
    rw [next.reflects.workers, thrown]
    rfl
  have remains := (tracked.inside ((next.reflects.queue_has queue).1.trans on)).2
  simp [left] at remains

/-- A queue that is drained, plugged and stopped while a flush and a drain return. -/
theorem worker_exit_tracked_of_stop :
    ∃ trace s, SystemRun (LeavesClean ⟨0⟩) (State.initial fun _ => ⟨0⟩) trace s ∧
      (s.workers ⟨0⟩).left = true ∧ (historyOf trace).finished.length = 1 ∧
      WorkerTracked ⟨0⟩ s := by
  obtain ⟨trace, s, run, tested⟩ := system_run_of_actions
    (fun s action => (action ≠ .handlerThrow ⟨0⟩ ∧ action.cancelSync? = none) ∧
      DrainsCounted ⟨0⟩ s action)
    (State.initial fun _ => ⟨0⟩)
    [.start (.client ⟨0⟩) ⟨0⟩ none, .submit (.client ⟨0⟩) ⟨0⟩ (some ⟨0⟩), .workerTurn ⟨0⟩,
      .workFlush (.client ⟨0⟩) ⟨0⟩, .queueDrain (.client ⟨1⟩) ⟨0⟩ true, .handlerReturn ⟨0⟩,
      .workerTurn ⟨0⟩, .handlerReturn ⟨0⟩, .workerTurn ⟨0⟩, .stop (.client ⟨2⟩) ⟨0⟩ none,
      .notifyqGet ⟨0⟩, .workerTurn ⟨0⟩]
    (fun trace s => (s.workers ⟨0⟩).left && (historyOf trace).finished.length = 1)
    (by decide +kernel)
  simp only [Bool.and_eq_true, decide_eq_true_eq] at tested
  have clean : SystemRun (LeavesClean ⟨0⟩) (State.initial fun _ => ⟨0⟩) trace s := by
    refine run.mono fun state action permits => ⟨permits.1.1, permits.2, ?_⟩
    intro work cancels
    simp [permits.1.2] at cancels
  exact ⟨trace, s, clean, tested.1, tested.2, (worker_exit_tracked clean).1⟩

/-- A handler throws: STARTED stays set although the worker has left. -/
theorem throwing_handler_strands_queue :
    ¬∀ trace s, SystemRun anyStep (State.initial fun _ => ⟨0⟩) trace s → WorkerTracked ⟨0⟩ s := by
  intro always
  obtain ⟨trace, s, run, tested⟩ := system_run_of_actions (fun _ _ => True)
    (State.initial fun _ => ⟨0⟩)
    [.start (.client ⟨0⟩) ⟨0⟩ none, .submit (.client ⟨0⟩) ⟨0⟩ (some ⟨0⟩), .workerTurn ⟨0⟩,
      .handlerThrow ⟨0⟩]
    (fun _ s => s.queueHas ⟨0⟩ workQueueStartedBit && (s.workers ⟨0⟩).left)
    (by decide +kernel)
  obtain ⟨on, left⟩ := Bool.and_eq_true_iff.mp tested
  have remains := ((always trace s run.unrestricted).inside on).2
  simp [left] at remains

end AresCommon.WorkQueue
