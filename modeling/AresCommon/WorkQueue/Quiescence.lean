import AresCommon.WorkQueue.Refinement

/-!
# A plugged queue that is not draining is quiescent

PLUGGED is set together with DRAIN, and DRAIN is cleared only by a worker that
found nothing to do. From then on nothing gets in: a submission is turned away,
and a flush finds no item of the queue that is queued or running.
-/

namespace AresCommon.WorkQueue

open AresCommon.DataStructures.Slist AresCommon.Foundation.Transition
open Function (update)

set_option autoImplicit false

attribute [local grind =] Function.update_apply WorkerPc.item

/-- Nothing is queued, and the worker executes nothing. -/
structure Quiescent (queue : QueueId) (s : State) : Prop where
  empty : (s.queues queue).pending.isEmpty = true
  idle : (s.workers queue).item = none

def Action.unplugs? : Action → Option QueueId
  | .queueUnplug _ queue => some queue
  | _ => none

def staysPlugged (queue : QueueId) : State → Action → Prop := fun _ action =>
  action.unplugs? ≠ some queue

instance (queue : QueueId) (s : State) (action : Action) :
    Decidable (staysPlugged queue s action) :=
  inferInstanceAs (Decidable (action.unplugs? ≠ some queue))

namespace AbstractState

variable {a a' : AbstractState}

structure Quiet (queue : QueueId) (a : AbstractState) : Prop where
  empty : a.pending queue = []
  idle : (a.workers queue).item = none

theorem not_quiet_of_active {work : UserId} {queue : QueueId} (ok : WellFormed a)
    (active : a.queued work = true ∨ a.running (.user work) = true)
    (located : a.home work = some queue) : ¬a.Quiet queue := by
  rintro ⟨empty, idle⟩
  rcases active with waits | runs
  · have member := (ok.items.pending_user work queue).mpr ⟨waits, located⟩
    simp [empty] at member
  · have held := (ok.items.item_user work queue).mpr ⟨runs, located⟩
    simp [idle] at held

/-- Every queue that is plugged and not draining is quiet. -/
def PluggedQuiet (a : AbstractState) : Prop :=
  ∀ queue, a.plugged queue = true → a.draining queue = false → a.Quiet queue

end AbstractState

open AbstractState

theorem plugged_quiet_step {a a' : AbstractState} {action : Action} {output : Output}
    (ok : WellFormed a) (quiet : a.PluggedQuiet) (move : AbstractStep a action output a') :
    a'.PluggedQuiet := by
  intro queue plugged settled
  have before := quiet queue
  cases move with
  | @flushWaits _ _ target acts active located =>
      by_cases here : queue = target
      · subst here
        exact absurd (before plugged settled) (not_quiet_of_active ok active located)
      · obtain ⟨empty, idle⟩ := before plugged settled
        exact ⟨by simpa [AbstractState.flush, here] using empty, idle⟩
  | accepted submits acts admitted =>
      have taken := AbstractState.refusal_none (AbstractState.admission_ok admitted).2.2.2
      obtain ⟨empty, idle⟩ := before plugged settled
      refine ⟨?_, idle⟩
      simp only [AbstractState.accept] at plugged settled ⊢
      grind
  | cancelled | cancelledSync | cancelWaits =>
      obtain ⟨empty, idle⟩ := before plugged settled
      exact ⟨by simp [AbstractState.awaitCancel, AbstractState.cancel, empty], idle⟩
  | start | run | drainWaits | popped | drainDone | stopped | finished | finishedCancelled
  | flushed =>
      simp only [AbstractState.launch, AbstractState.requestDrain, AbstractState.pop,
        AbstractState.finishDrain, AbstractState.leave, AbstractState.complete] at plugged settled
      constructor <;>
        simp only [AbstractState.launch, AbstractState.requestDrain, AbstractState.pop,
          AbstractState.finishDrain, AbstractState.leave, AbstractState.complete] <;>
        grind [AbstractState.Quiet]
  | unplugged | parked | woken | threw =>
      constructor <;> grind [AbstractState.Quiet]
  | refused | flusherTaken | cancellerTaken | handlerSet | drainTaken | stopWaits | joined =>
      obtain ⟨empty, idle⟩ := before plugged settled
      exact ⟨empty, idle⟩

/-! ## Nothing gets in until the queue is unplugged -/

/-- What a queue that was quiescent and plugged keeps until it is unplugged. -/
structure Sealed (queue : QueueId) (a : AbstractState) : Prop where
  quiet : a.Quiet queue
  begun : a.workers queue ≠ .notStarted
  plugged : a.started queue = true → a.plugged queue = true

namespace Sealed

variable {queue : QueueId} {a a' : AbstractState} (sealed : Sealed queue a)
include sealed

/-- A submission that is not turned away is one of the queue's own thread, which
is inside no handler. -/
theorem admits_nobody (ok : WellFormed a) {self : Thread} (acts : a.canAct self = true) :
    a.refusal self queue ≠ none := by
  intro taken
  obtain ⟨on, chained, drains⟩ := AbstractState.refusal_none taken
  have owner := chained (drains (sealed.plugged on))
  have remains : (a.workers queue).left = false := by
    have idle := sealed.quiet.idle
    have inside := (ok.queues.started_iff queue).mp on
    cases place : a.workers queue <;> simp_all [WorkerPc.left, WorkerPc.item]
  have silent := ok.threads.silent owner sealed.begun remains sealed.quiet.idle
  simp [acts] at silent

theorem starts_nothing {action : Action} {output : Output}
    (move : AbstractStep a action output a') (work : UserId) (handler : WorkHandler) :
    output.observation ≠ .started work queue handler := by
  cases move with
  | @popped target item rest ready head =>
      cases item with
      | flusher thread => simp [WorkRef.startObservation]
      | user other =>
          intro same
          simp only [WorkRef.startObservation, Observation.started.injEq] at same
          rw [same.2.1, sealed.quiet.empty] at head
          cases head
  | cancelled | cancelWaits =>
      simp only [AbstractState.removal]
      split <;> simp
  | _ => simp [Output.just]

theorem step (ok : WellFormed a) {action : Action} {output : Output}
    (stays : action.unplugs? ≠ some queue) (move : AbstractStep a action output a') :
    Sealed queue a' := by
  have empty := sealed.quiet.empty
  have idle := sealed.quiet.idle
  have begun := sealed.begun
  have plugged := sealed.plugged
  cases move with
  | @accepted _ self work entry target submits acts admitted =>
      have elsewhere : queue ≠ target := by
        rintro rfl
        exact sealed.admits_nobody ok acts (AbstractState.admission_ok admitted).2.2.2
      exact ⟨⟨by simpa [AbstractState.accept, elsewhere] using empty, idle⟩, begun, plugged⟩
  | @flushWaits _ _ target acts active located =>
      have elsewhere : queue ≠ target := by
        rintro rfl
        exact not_quiet_of_active ok active located sealed.quiet
      exact ⟨⟨by simpa [AbstractState.flush, elsewhere] using empty, idle⟩, begun, plugged⟩
  | cancelled | cancelledSync | cancelWaits =>
      refine ⟨⟨?_, idle⟩, begun, plugged⟩
      simp [AbstractState.awaitCancel, AbstractState.cancel, empty]
  | @unplugged self target acts =>
      have elsewhere : target ≠ queue := fun same => stays (by rw [same]; rfl)
      refine ⟨⟨empty, idle⟩, begun, fun on => ?_⟩
      exact (Function.update_of_ne (Ne.symm elsewhere) _ _).trans (plugged on)
  | start | run | drainWaits | popped | drainDone | stopped | finished | finishedCancelled
  | flushed =>
      refine ⟨⟨?_, ?_⟩, ?_, ?_⟩ <;>
        simp only [AbstractState.launch, AbstractState.requestDrain, AbstractState.pop,
          AbstractState.finishDrain, AbstractState.leave, AbstractState.complete] <;>
        grind
  | parked | woken | threw =>
      refine ⟨⟨empty, ?_⟩, ?_, plugged⟩ <;> grind
  | refused | flusherTaken | cancellerTaken | handlerSet | drainTaken | stopWaits | joined =>
      exact ⟨⟨empty, idle⟩, begun, plugged⟩

end Sealed

/-! ## On the shared state -/

theorem Coupled.quiescent_iff {s : State} {a : AbstractState} (coupled : Coupled s a)
    (queue : QueueId) : Quiescent queue s ↔ a.Quiet queue := by
  have list := coupled.reflects.list queue
  constructor
  · rintro ⟨empty, idle⟩
    rw [list.is_empty, List.isEmpty_iff] at empty
    exact ⟨empty, coupled.reflects.workers ▸ idle⟩
  · rintro ⟨empty, idle⟩
    exact ⟨by rw [list.is_empty, empty]; rfl, coupled.reflects.workers ▸ idle⟩

/-- A plugged queue that is not draining is quiescent, and until it is unplugged it
stays so and no handler starts on it. -/
theorem plugged_queue_quiescent {handlers : UserId → HandlerId} {trace : List (Action × Output)}
    {s : State} (run : SystemRun handlersReturn (State.initial handlers) trace s)
    {queue : QueueId} (plugged : s.queueHas queue workQueuePluggedBit = true)
    (settled : s.queueHas queue workQueueDrainBit = false) :
    Quiescent queue s ∧ ∀ later s', SystemRun (staysPlugged queue) s later s' →
      Quiescent queue s' ∧
        ∀ entry ∈ later, ∀ work handler, entry.2.observation ≠ .started work queue handler := by
  obtain ⟨a, coupled, quiet⟩ := invariant_of_run run anyStep (fun _ _ _ _ _ => trivial)
    AbstractState.PluggedQuiet (fun _ plugged => by cases plugged)
    (fun _ _ _ _ ok quiet _ move => plugged_quiet_step ok quiet move)
  obtain ⟨_, draining, pluggedMeans, _⟩ := coupled.reflects.queue_has queue
  rw [draining] at settled
  rw [pluggedMeans] at plugged
  have now := quiet queue plugged settled
  refine ⟨(coupled.quiescent_iff queue).mpr now, fun later s' continued => ?_⟩
  have on : a.started queue = true := by
    by_contra off
    have dormant := (coupled.wellFormed.queues.dormant queue (by simpa using off)).2.2.1
    simp [plugged] at dormant
  have closed : Sealed queue a :=
    ⟨now, ((coupled.wellFormed.queues.started_iff queue).mp on).1, fun _ => plugged⟩
  obtain ⟨labels, b, known, still⟩ := continued.labels
    (fun s => ∃ a, Coupled s a ∧ Sealed queue a)
    (fun entry => ∀ work handler, entry.2.observation ≠ .started work queue handler)
    (by
      rintro s action output s' ⟨b, known, still⟩ stays move
      obtain ⟨b', meaning, next⟩ := known.step move
      exact ⟨still.starts_nothing meaning, b', next, still.step known.wellFormed stays meaning⟩)
    ⟨a, coupled, closed⟩
  exact ⟨(known.quiescent_iff queue).mpr still.quiet, labels⟩

/-- After a plugging drain a submission is turned away and a flush finds nothing. -/
theorem plugged_queue_quiescent_after_drain :
    ∃ trace later s s', SystemRun handlersReturn (State.initial fun _ => ⟨0⟩) trace s ∧
      s.queueHas ⟨0⟩ workQueuePluggedBit = true ∧ s.queueHas ⟨0⟩ workQueueDrainBit = false ∧
      SystemRun (staysPlugged ⟨0⟩) s later s' ∧ later.length = 4 ∧ Quiescent ⟨0⟩ s ∧
      Quiescent ⟨0⟩ s' ∧ ∀ entry ∈ later, ∀ work handler,
        entry.2.observation ≠ .started work ⟨0⟩ handler := by
  obtain ⟨trace, s, run, tested⟩ := system_run_of_actions handlersReturn
    (State.initial fun _ => ⟨0⟩)
    [.start (.client ⟨0⟩) ⟨0⟩ none, .submit (.client ⟨0⟩) ⟨0⟩ (some ⟨0⟩),
      .queueDrain (.client ⟨0⟩) ⟨0⟩ true, .workerTurn ⟨0⟩,
      .submit (.worker ⟨0⟩) ⟨0⟩ (some ⟨0⟩), .handlerReturn ⟨0⟩, .workerTurn ⟨0⟩,
      .handlerReturn ⟨0⟩, .workerTurn ⟨0⟩]
    (fun _ s => s.queueHas ⟨0⟩ workQueuePluggedBit && !s.queueHas ⟨0⟩ workQueueDrainBit &&
      (s.runActions (staysPlugged ⟨0⟩)
        [.submit (.client ⟨1⟩) ⟨0⟩ (some ⟨0⟩), .workFlush (.client ⟨1⟩) ⟨0⟩,
          .queueDrain (.client ⟨1⟩) ⟨0⟩ true, .drainqGet (.client ⟨0⟩)]).any fun run =>
            run.1.length = 4)
    (by decide +kernel)
  simp only [Bool.and_eq_true, Bool.not_eq_true'] at tested
  obtain ⟨⟨plugged, settled⟩, continued⟩ := tested
  obtain ⟨later, s', more, long⟩ := system_run_of_actions (staysPlugged ⟨0⟩) s _
    (fun later _ => later.length = 4) continued
  obtain ⟨now, always⟩ := plugged_queue_quiescent run plugged settled
  obtain ⟨still, labels⟩ := always later s' more
  exact ⟨trace, later, s, s', run, plugged, settled, more, by simpa using long, now, still,
    labels⟩

end AresCommon.WorkQueue
