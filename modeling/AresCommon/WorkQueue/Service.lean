import AresCommon.WorkQueue.Decision
import AresCommon.WorkQueue.Liveness
import AresCommon.WorkQueue.Wakeup

/-!
# What the worker does for its requests

The worker of a queue acts on requests only: each of them is worth at most four of its steps,
so it never spins. And when nobody takes the flags and tokens of the queue away from under a
waiting thread, the steps of the worker alone bring each of them to its return.
-/

namespace AresCommon.WorkQueue

open AresCommon.DataStructures.Slist AresCommon.Foundation.Transition
open Function (update)

set_option autoImplicit false

attribute [local grind =] Function.update_apply

/-! ## The work that is left -/

def Action.serves? : Action → Option QueueId
  | .workerTurn queue | .notifyqGet queue | .handlerReturn queue => some queue
  | _ => none

def serves (queue : QueueId) (entry : Action × Output) : Bool := entry.1.serves? = some queue

/-- Something is asked of the queue: its loop is entered, an item is accepted, a drain or a
stop waits, or a flush of an item that was accepted by this queue last. -/
def requests (queue : QueueId) (last : UserId → Option QueueId) : Action × Output → Bool
  | (.start _ target _, _) | (.run _ target _, _) => target = queue
  | (.submit _ _ _, output) | (.workSubmitToQueue _ _ _, output) =>
      match output.observation with
      | .accepted _ target _ => target = queue
      | _ => false
  | (.workFlush _ work, output) => output.waits && decide (last work = some queue)
  | (.queueDrain _ target _, output) | (.stop _ target _, output) =>
      decide (target = queue) && output.waits
  | _ => false

/-- The queues that items were accepted by last, behind one more step. -/
def observeLast (last : UserId → Option QueueId) (entry : Action × Output) (work : UserId) :
    Option QueueId :=
  acceptingQueue work (last work) entry

def requestsMade (queue : QueueId) (trace : List (Action × Output)) : Nat :=
  countAlong observeLast (requests queue) (fun _ => none) trace

def WorkerPc.cost : WorkerPc → Nat
  | .running _ _ => 2
  | .atTop => 1
  | _ => 0

namespace AbstractState

/-- At most so many steps of the worker are left: to pop and to complete each item, to take
the token and to look around again. -/
def backlog (a : AbstractState) (queue : QueueId) : Nat :=
  2 * (a.pending queue).length + 2 * (a.notified queue).toNat + (a.workers queue).cost

variable {a a' : AbstractState} {queue : QueueId} {action : Action} {output : Output}

theorem serves_submission {self : Thread} {work : UserId} {target : Option QueueId}
    (submits : action.submission? = some (self, work, target)) : action.serves? = none := by
  cases action <;> simp [Action.submission?] at submits <;> rfl

theorem requests_submission {self : Thread} {work : UserId} {wanted : Option QueueId}
    {target : QueueId} {rc : Int} {handler : WorkHandler} {last : UserId → Option QueueId}
    (submits : action.submission? = some (self, work, wanted)) :
    requests queue last (action, ⟨.int rc, .accepted work target handler⟩) =
      decide (target = queue) := by
  cases action <;> simp [Action.submission?] at submits <;> rfl

attribute [local simp] serves Action.serves? WorkerPc.cost in
/-- A request pays for four steps: to take its token, to look, to pop and to complete. -/
theorem backlog_step (queue : QueueId) (move : AbstractStep a action output a') :
    a'.backlog queue + (serves queue (action, output)).toNat ≤
      a.backlog queue + 4 * (requests queue a.home (action, output)).toNat := by
  have token := Bool.toNat_le (a.notified queue)
  unfold backlog
  cases move with
  | refused refusal =>
      cases refusal with
      | rejected submits =>
          simp only [serves, serves_submission submits, reduceCtorEq, decide_false]
          exact Nat.le_add_right _ _
      | _ => exact Nat.le_add_right _ _
  | @accepted _ _ work _ target submits =>
      simp only [serves, serves_submission submits, requests_submission submits, reduceCtorEq,
        decide_false, Bool.toNat_false]
      by_cases here : target = queue
      · subst here
        simp [AbstractState.accept]
        omega
      · simp [AbstractState.accept, Ne.symm here]
  | @start _ target | @run _ target =>
      by_cases here : target = queue
      · subst here
        simp [AbstractState.launch, requests]
      · simp [AbstractState.launch, Ne.symm here]
  | @flushWaits self work target acts active located =>
      by_cases here : target = queue
      · subst here
        have longer := length_insert_after_le (.user work) (.flusher self) (a.pending target)
        have asked : requests target a.home (.workFlush self work, .just .waits) = true := by
          simp [requests, located, Output.waits, Output.just]
        simp only [AbstractState.flush, Function.update_self, asked, Bool.toNat_true]
        split <;> simp <;> omega
      · simp [AbstractState.flush, Ne.symm here]
  | flusherTaken | cancellerTaken | handlerSet | drainTaken | unplugged | joined =>
      exact Nat.le_add_right _ _
  | @cancelled _ work | @cancelledSync _ work | @cancelWaits _ work =>
      have fewer : ((a.pending queue).erase (.user work)).length ≤ (a.pending queue).length :=
        List.erase_sublist.length_le
      simp [AbstractState.cancel, AbstractState.awaitCancel]
      omega
  | @drainWaits _ target | @stopWaits _ target =>
      by_cases here : target = queue
      · subst here
        simp [AbstractState.requestDrain, AbstractState.requestStop, requests, Output.waits,
          Output.just]
        omega
      · simp [AbstractState.requestDrain, AbstractState.requestStop, Ne.symm here]
  | @popped target _ _ ready head =>
      by_cases here : target = queue
      · subst here
        simp [AbstractState.pop, head, ready]
        omega
      · simp [AbstractState.pop, here, Ne.symm here]
  | @drainDone target ready | @stopped target ready | @parked target ready =>
      by_cases here : target = queue
      · subst here
        simp [AbstractState.finishDrain, AbstractState.leave, ready]
      · simp [AbstractState.finishDrain, AbstractState.leave, here, Ne.symm here]
  | @woken target asleep given =>
      by_cases here : target = queue
      · subst here
        simp [asleep, given]
      · simp [here, Ne.symm here]
  | @finished target _ _ inside | @finishedCancelled target _ _ _ inside
  | @flushed target _ _ inside =>
      by_cases here : target = queue
      · subst here
        simp [AbstractState.complete, inside]
      · simp [AbstractState.complete, here, Ne.symm here]
  | @threw target _ _ inside =>
      by_cases here : target = queue
      · subst here
        simp [inside]
        omega
      · simp [Ne.symm here]

theorem backlog_initial (handlers : UserId → HandlerId) (queue : QueueId) :
    (initial handlers).backlog queue = 0 := rfl

theorem backlog_charged {handlers : UserId → HandlerId} {trace : List (Action × Output)}
    {allowed : AbstractState → Action → Prop}
    (run : Run AbstractStep allowed (initial handlers) trace a) (queue : QueueId) :
    a.backlog queue + trace.countP (serves queue) ≤ 4 * requestsMade queue trace := by
  have charged := run.charged 4 (AbstractState.backlog · queue) observeLast
    (fun last a => a.home = last) (fun last a action output a' known _ move => by
      rw [← known]
      exact ⟨backlog_step queue move, funext move.home⟩) rfl
  rwa [backlog_initial, Nat.zero_add] at charged

end AbstractState

/-- Every step of a worker is paid for by a request to its queue: in no run does a worker
take more than four steps for each. -/
theorem worker_work_bounded {handlers : UserId → HandlerId} {trace : List (Action × Output)}
    {s : State} (run : SystemRun anyStep (State.initial handlers) trace s) (queue : QueueId) :
    trace.countP (serves queue) ≤ 4 * requestsMade queue trace := by
  obtain ⟨a, steps, _⟩ := coupled_of_run run
  exact (Nat.le_add_left _ _).trans (AbstractState.backlog_charged steps queue)

/-- Both requests cost the worker all it may take: it parks, is woken, runs the item and parks
again. -/
theorem worker_work_bounded_of_submission :
    ∃ trace s, SystemRun anyStep (State.initial fun _ => ⟨0⟩) trace s ∧
      requestsMade ⟨0⟩ trace = 2 ∧ trace.countP (serves ⟨0⟩) = 5 ∧
      trace.countP (serves ⟨0⟩) ≤ 4 * requestsMade ⟨0⟩ trace := by
  obtain ⟨trace, s, run, tested⟩ := system_run_of_actions (fun _ _ => True)
    (State.initial fun _ => ⟨0⟩)
    [.start (.client ⟨0⟩) ⟨0⟩ none, .workerTurn ⟨0⟩, .submit (.client ⟨0⟩) ⟨0⟩ (some ⟨0⟩),
      .notifyqGet ⟨0⟩, .workerTurn ⟨0⟩, .handlerReturn ⟨0⟩, .workerTurn ⟨0⟩]
    (fun trace _ => requestsMade ⟨0⟩ trace = 2 && trace.countP (serves ⟨0⟩) = 5)
    (by decide +kernel)
  simp only [Bool.and_eq_true, decide_eq_true_eq] at tested
  exact ⟨trace, s, run.unrestricted, tested.1, tested.2,
    worker_work_bounded run.unrestricted ⟨0⟩⟩

/-! ## Bringing a waiting thread to its return -/

/-- Nobody is left behind, and no stop is slept through. -/
structure Orderly (queue : QueueId) (s : State) (action : Action) : Prop where
  clean : LeavesClean queue s action
  answers : turnServesStop queue s action

/-- The thread waits for the worker of the queue. Someone who joins does so if no drain is
pending, which could take the wake-up token of the stop. -/
def WaitsOn (queue : QueueId) (s : State) (thread : Thread) : Prop :=
  match s.calls thread with
  | .idle => False
  | .flushing _ target | .draining target => target = queue
  | .cancelling work => (s.works (.user work)).queue = some queue
  | .joining target _ => target = queue ∧ s.queueHas queue workQueueDrainBit = false

def Call.closing (self : Thread) : Call → Option Action
  | .idle => none
  | .flushing _ _ => some (.flusherTake self)
  | .cancelling _ => some (.cancellerTake self)
  | .draining _ => some (.drainqGet self)
  | .joining _ _ => some (.join self false)

namespace AbstractState

structure JoinersMarked (queue : QueueId) (a : AbstractState) : Prop where
  launched : ∀ thread timeout, a.calls thread = .joining queue timeout →
    a.workers queue ≠ .notStarted
  marked : ∀ thread timeout, a.calls thread = .joining queue timeout →
    a.started queue = true → a.stopping queue = true

def Served (a : AbstractState) (thread : Thread) : Prop :=
  match a.calls thread with
  | .idle => False
  | .flushing _ _ => a.flusherGiven thread = true
  | .cancelling _ => a.cancellerGiven thread = true
  | .draining queue => a.drained queue = true
  | .joining queue _ => (a.workers queue).left = true

def Due (queue : QueueId) (a : AbstractState) (thread : Thread) : Prop :=
  match a.calls thread with
  | .idle => False
  | .flushing _ _ => WorkRef.flusher thread ∈ a.pending queue ∨
      (a.workers queue).item = some (.flusher thread)
  | .cancelling work => (a.workers queue).item = some (.user work) ∧
      a.released work = some thread
  | .draining target => target = queue ∧ a.draining queue = true
  | .joining target _ => target = queue ∧ a.stopping queue = true ∧ a.draining queue = false

/-- The worker can go on until it has served the thread. -/
structure Promised (queue : QueueId) (a : AbstractState) (thread : Thread) : Prop where
  due : a.Due queue thread
  begun : a.workers queue ≠ .notStarted
  inside : (a.workers queue).left = false
  awake : a.workers queue = .parked → a.notified queue = true

variable {a a' : AbstractState} {queue : QueueId} {action : Action} {output : Output}
variable {thread : Thread}

theorem serves_refused {reply : Reply} (serving : action.serves? = some queue) :
    ¬Refusal a action reply := by
  intro refusal
  cases refusal with
  | rejected submits => simp [serves_submission submits] at serving
  | _ => cases serving

/-- One step of the worker serves the thread or brings it nearer. -/
theorem Promised.step (promised : Promised queue a thread)
    (serving : action.serves? = some queue) (move : AbstractStep a action output a') :
    a'.Served thread ∨ Promised queue a' thread := by
  obtain ⟨due, begun, inside, awake⟩ := promised
  unfold Due at due
  cases move with
  | refused refusal => exact absurd refusal (serves_refused serving)
  | accepted submits => simp [serves_submission submits] at serving
  | @popped target work rest ready head =>
      cases serving
      refine .inr ⟨?_, ?_, ?_, ?_⟩
      · cases call : a.calls thread <;> simp_all [Due, AbstractState.pop, WorkerPc.item]
        grind
      all_goals simp [AbstractState.pop, WorkerPc.left]
  | drainDone ready empty requested =>
      cases serving
      left
      cases call : a.calls thread <;> simp_all [Served, finishDrain, WorkerPc.item]
  | stopped ready empty undrained requested =>
      cases serving
      left
      cases call : a.calls thread <;> simp_all [Served, leave, WorkerPc.item, WorkerPc.left]
  | parked ready empty undrained unstopped =>
      cases serving
      cases call : a.calls thread <;> simp_all [WorkerPc.item]
  | woken asleep token =>
      cases serving
      refine .inr ⟨?_, ?_, ?_, ?_⟩
      · cases call : a.calls thread <;> simp_all [Due, WorkerPc.item]
      all_goals simp [WorkerPc.left]
  | @finished target work handler running ends nobody =>
      cases serving
      refine .inr ⟨?_, ?_, ?_, ?_⟩
      · cases call : a.calls thread <;>
          simp_all [Due, AbstractState.complete, WorkerPc.item]
      all_goals simp [AbstractState.complete, WorkerPc.left]
  | @finishedCancelled target work handler waiter running ends waits =>
      cases serving
      by_cases mine : waiter = thread ∧ ∃ work, a.calls thread = .cancelling work
      · obtain ⟨rfl, work, call⟩ := mine
        left
        simp [Served, AbstractState.complete, call]
      · refine .inr ⟨?_, ?_, ?_, ?_⟩
        · cases call : a.calls thread <;>
            simp_all [Due, AbstractState.complete, WorkerPc.item]
        all_goals simp [AbstractState.complete, WorkerPc.left]
  | @flushed target waiter handler running ends =>
      cases serving
      by_cases mine : waiter = thread ∧ ∃ work target, a.calls thread = .flushing work target
      · obtain ⟨rfl, work, target, call⟩ := mine
        left
        simp [Served, AbstractState.complete, call]
      · refine .inr ⟨?_, ?_, ?_, ?_⟩
        · cases call : a.calls thread <;>
            simp_all [Due, AbstractState.complete, WorkerPc.item]
        all_goals simp [AbstractState.complete, WorkerPc.left]
  | _ => cases serving

theorem serves_frame (serving : action.serves? = some queue)
    (move : AbstractStep a action output a') : a'.calls = a.calls ∧ a'.task = a.task := by
  cases move with
  | accepted submits => simp [serves_submission submits] at serving
  | refused => exact ⟨rfl, rfl⟩
  | popped | drainDone | stopped | parked | woken | finished | finishedCancelled | flushed =>
      exact ⟨rfl, rfl⟩
  | _ => cases serving

theorem Promised.enabled (promised : Promised queue a thread)
    (ends : handlerMayEnd a.calls (a.task queue).id = true) :
    ∃ action, action.serves? = some queue ∧ a.Enabled action := by
  obtain ⟨_, begun, inside, awake⟩ := promised
  cases place : a.workers queue with
  | notStarted => exact absurd place begun
  | atTop => exact ⟨.workerTurn queue, rfl, place⟩
  | parked => exact ⟨.notifyqGet queue, rfl, place, awake place⟩
  | running work handler => exact ⟨.handlerReturn queue, rfl, ⟨work, handler, place⟩, ends⟩
  | returned | thrown => simp [place, WorkerPc.left] at inside

theorem JoinersMarked.initial (handlers : UserId → HandlerId) (queue : QueueId) :
    JoinersMarked queue (AbstractState.initial handlers) := by
  constructor <;> simp [AbstractState.initial]

theorem JoinersMarked.step (joiners : JoinersMarked queue a) (ok : WellFormed a)
    (move : AbstractStep a action output a') : JoinersMarked queue a' := by
  obtain ⟨launched, marked⟩ := joiners
  have started := ok.queues.started_iff queue
  cases move with
  | @stopWaits self target timeout acts on closed =>
      have begun := ok.queues.started_iff target
      constructor <;> simp only [AbstractState.requestStop] <;> grind
  | joined call => constructor <;> grind
  | start | run =>
      constructor <;> simp only [AbstractState.launch] <;> grind
  | flushWaits | cancelWaits | drainWaits | flusherTaken | cancellerTaken | drainTaken =>
      constructor <;> simp only [AbstractState.flush, AbstractState.awaitCancel,
        AbstractState.cancel, AbstractState.requestDrain] <;> grind
  | popped | drainDone | stopped | parked | woken | finished | finishedCancelled | flushed
  | threw =>
      constructor <;> simp only [AbstractState.pop, AbstractState.finishDrain,
        AbstractState.leave, AbstractState.complete] <;> grind
  | refused | accepted | cancelled | cancelledSync | handlerSet | unplugged =>
      exact ⟨launched, marked⟩

structure InOrder (queue : QueueId) (a : AbstractState) : Prop where
  clean : CleanSoFar queue a
  awake : WorkerAwake queue a
  joiners : JoinersMarked queue a

def WaitsOn (queue : QueueId) (a : AbstractState) (thread : Thread) : Prop :=
  match a.calls thread with
  | .idle => False
  | .flushing _ target | .draining target => target = queue
  | .cancelling work => a.home work = some queue
  | .joining target _ => target = queue ∧ a.draining queue = false

theorem InOrder.initial (handlers : UserId → HandlerId) (queue : QueueId) :
    InOrder queue (AbstractState.initial handlers) where
  clean := .initial handlers queue
  awake := fun asleep => by cases asleep
  joiners := .initial handlers queue

theorem InOrder.step (order : InOrder queue a) (ok : WellFormed a)
    (clean : a.LeavesClean queue action) (answers : a.turnServesStop queue action)
    (move : AbstractStep a action output a') : InOrder queue a' :=
  ⟨order.clean.step ok clean move, order.awake.step answers move, order.joiners.step ok move⟩

theorem InOrder.promised (order : InOrder queue a) (ok : WellFormed a)
    (due : a.Due queue thread) (unserved : ¬a.Served thread) : Promised queue a thread := by
  have dormant := ok.queues.dormant queue
  have started := ok.queues.started_iff queue
  have unthrown := order.clean.unthrown
  have awake := order.awake
  have kept := due
  unfold Due at due
  unfold Served at unserved
  refine ⟨kept, ?_, ?_, ?_⟩
  · intro place
    cases call : a.calls thread <;> simp_all [WorkerPc.item]
  · cases place : a.workers queue with
    | thrown work => exact absurd place (unthrown work)
    | returned => cases call : a.calls thread <;> simp_all [WorkerPc.item, WorkerPc.left]
    | _ => rfl
  · intro place
    by_contra silent
    obtain ⟨empty, settled, unstopped⟩ := awake place (by simpa using silent)
    cases call : a.calls thread <;> simp_all [WorkerPc.item]

/-- In an orderly run, what a thread waits for on the queue is there or due. -/
theorem InOrder.served_or_promised (order : InOrder queue a) (ok : WellFormed a)
    (waits : a.WaitsOn queue thread) : a.Served thread ∨ Promised queue a thread := by
  by_cases unserved : a.Served thread
  · exact .inl unserved
  refine .inr (order.promised ok ?_ unserved)
  unfold WaitsOn at waits
  unfold Served at unserved
  unfold Due
  cases call : a.calls thread with
  | idle => simp [call] at waits
  | flushing work target =>
      simp only [call] at waits unserved ⊢
      subst waits
      exact ok.flushers.awaiting thread work target call (by simpa using unserved)
  | cancelling work =>
      simp only [call] at waits unserved ⊢
      have linked := (ok.cancellers.linked thread).mpr ⟨⟨work, call⟩, by simpa using unserved⟩
      have marked := order.clean.marks.marked thread linked work call
      have active := (ok.items.canceling work marked).1
      obtain ⟨waiter, released⟩ := order.clean.marks.some_released linked call
      rw [order.clean.marks.only_released linked call released] at released
      exact ⟨(ok.items.item_user work queue).mpr ⟨active, waits⟩, released⟩
  | draining target =>
      simp only [call] at waits unserved ⊢
      subst waits
      refine ⟨rfl, ?_⟩
      by_contra settled
      rw [Bool.not_eq_true] at settled unserved
      have nobody : (a.drainWaiters target).encard = 0 := by
        simp [order.clean.counts.balance, drainTokens, settled, unserved]
      exact (Set.encard_eq_zero.mp nobody).subset call
  | joining target timeout =>
      simp only [call] at waits unserved ⊢
      obtain ⟨rfl, clear⟩ := waits
      have on : a.started target = true := by
        rw [ok.queues.started_iff]
        refine ⟨order.joiners.launched thread timeout call, fun returned => unserved ?_⟩
        simp [returned, WorkerPc.left]
      exact ⟨rfl, order.joiners.marked thread timeout call on, clear⟩

theorem closing_returns (closing : (a.calls thread).closing thread = some action)
    (move : AbstractStep a action output a') : a'.calls thread = .idle := by
  cases call : a.calls thread with
  | idle => simp [call, Call.closing] at closing
  | flushing work target =>
      simp only [call, Call.closing, Option.some.injEq] at closing
      subst closing
      exact move.flusher_take.2.2
  | _ =>
      simp only [call, Call.closing, Option.some.injEq] at closing
      subst closing
      cases move with
      | refused refusal =>
          cases refusal with
          | rejected submits => cases submits
      | accepted submits => cases submits
      | _ => exact Function.update_self _ _ _

end AbstractState

/-! ## On the shared state -/

section Coupling

variable {s : State} {a : AbstractState} (coupled : Coupled s a) {queue : QueueId}
variable {thread : Thread}
include coupled

theorem orderly_transfer {action : Action} (orderly : Orderly queue s action) :
    a.LeavesClean queue action ∧ a.turnServesStop queue action :=
  ⟨leaves_clean_transfer coupled orderly.clean,
    (turn_serves_stop_iff coupled queue action).mp orderly.answers⟩

theorem waits_on_transfer (waits : WaitsOn queue s thread) : a.WaitsOn queue thread := by
  unfold WaitsOn at waits
  rw [coupled.reflects.calls, (coupled.reflects.queue_has queue).2.1] at waits
  unfold AbstractState.WaitsOn
  cases call : a.calls thread <;> simp_all [coupled.reflects.user_work]

theorem AbstractState.Served.returns (served : a.Served thread) :
    ∃ action output s', (s.calls thread).closing thread = some action ∧
      s.Step action output s' ∧ s'.calls thread = .idle := by
  have closes : ∃ action, (s.calls thread).closing thread = some action ∧ a.Enabled action := by
    unfold AbstractState.Served at served
    rw [coupled.reflects.calls]
    cases call : a.calls thread <;> simp_all [Call.closing, AbstractState.Enabled]
  obtain ⟨action, closing, enabled⟩ := closes
  obtain ⟨output, s', move⟩ := coupled.progress enabled
  obtain ⟨a', meaning, next⟩ := coupled.step move
  refine ⟨action, output, s', closing, move, ?_⟩
  rw [coupled.reflects.calls] at closing
  rw [next.reflects.calls, AbstractState.closing_returns closing meaning]

end Coupling

def onlyServes (queue : QueueId) : State → Action → Prop := fun _ action =>
  action.serves? = some queue

def ServiceDone (thread : Thread) (call : Call) (s : State) : Prop :=
  ∃ a, Coupled s a ∧ a.Served thread ∧ s.calls thread = call

def ServiceDue (queue : QueueId) (thread : Thread) (call : Call) (bound : Nat) (s : State) :
    Prop :=
  ∃ a, Coupled s a ∧ s.calls thread = call ∧
    handlerMayEnd s.calls (s.queues queue).thread.id = true ∧ a.backlog queue ≤ bound ∧
      (a.Served thread ∨ a.Promised queue thread)

theorem ServiceDue.advances {queue : QueueId} {thread : Thread} {call : Call} {bound : Nat}
    {s : State} (service : ServiceDue queue thread call bound s) :
    ServiceDone thread call s ∨ ∃ action output s' smaller, onlyServes queue s action ∧
      s.Step action output s' ∧ smaller < bound ∧ ServiceDue queue thread call smaller s' := by
  obtain ⟨a, coupled, inside, ends, small, served | promised⟩ := service
  · exact .inl ⟨a, coupled, served, inside⟩
  right
  have meant := ends
  rw [coupled.reflects.calls, (coupled.reflects.queues queue).task] at meant
  obtain ⟨action, serving, enabled⟩ := promised.enabled meant
  obtain ⟨output, s', move⟩ := coupled.progress enabled
  obtain ⟨a', meaning, next⟩ := coupled.step move
  obtain ⟨calls, task⟩ := AbstractState.serves_frame serving meaning
  have less := AbstractState.backlog_step queue meaning
  have spent : serves queue (action, output) = true := by simp [serves, serving]
  have free : requests queue a.home (action, output) = false := by
    cases action <;> first | rfl | cases serving
  rw [spent, free, Bool.toNat_true, Bool.toNat_false] at less
  refine ⟨action, output, s', a'.backlog queue, serving, move, by omega, a', next, ?_, ?_, le_rfl,
    promised.step serving meaning⟩
  · rw [next.reflects.calls, calls, ← coupled.reflects.calls, inside]
  · rw [next.reflects.calls, (next.reflects.queues queue).task, calls]
    simpa [AbstractState.queue, task] using meant

/-- In a run that leaves nobody behind, a thread that waits on a queue is never stuck: the
worker of the queue alone, in at most four steps for each request made to it, brings the
thread to where it can return, unless the handler that runs waits itself. -/
theorem waiting_call_returns {handlers : UserId → HandlerId} {trace : List (Action × Output)}
    {s : State} {queue : QueueId} {thread : Thread}
    (run : SystemRun (Orderly queue) (State.initial handlers) trace s)
    (waits : WaitsOn queue s thread)
    (ends : handlerMayEnd s.calls (s.queues queue).thread.id = true) :
    ∃ span closing output s₁ s₂,
      SystemRun (onlyServes queue) s span s₁ ∧
      span.length ≤ 4 * requestsMade queue trace ∧
      (s.calls thread).closing thread = some closing ∧
      s₁.Step closing output s₂ ∧ s₂.calls thread = .idle := by
  have transfer : ∀ s a action, Coupled s a → Orderly queue s action →
      a.LeavesClean queue action ∧ a.turnServesStop queue action :=
    fun _ _ _ coupled orderly => orderly_transfer coupled orderly
  obtain ⟨a, steps, coupled⟩ := (initial_coupled handlers).run transfer run
  have kept : WellFormed a ∧ a.InOrder queue := by
    refine steps.preserves (fun a => WellFormed a ∧ a.InOrder queue) ?_
      ⟨initial_well_formed handlers, .initial handlers queue⟩
    intro a action output a' holds orderly move
    exact ⟨holds.1.step move, holds.2.step holds.1 orderly.1 orderly.2 move⟩
  have bound : a.backlog queue ≤ 4 * requestsMade queue trace :=
    (Nat.le_add_right _ _).trans (AbstractState.backlog_charged steps queue)
  have begins : ServiceDue queue thread (s.calls thread) (4 * requestsMade queue trace) s :=
    ⟨a, coupled, rfl, ends, bound,
      kept.2.served_or_promised kept.1 (waits_on_transfer coupled waits)⟩
  obtain ⟨span, s₁, serving, ⟨a₁, coupled₁, served, same⟩, short⟩ :=
    Run.reaches (ServiceDue queue thread (s.calls thread)) (ServiceDone thread (s.calls thread))
      (fun _ _ service => service.advances) begins
  obtain ⟨closing, output, s₂, closes, move, back⟩ := served.returns coupled₁
  rw [same] at closes
  exact ⟨span, closing, output, s₁, s₂, serving, short, closes, move, back⟩

/-- A flush of the second of two items, entered while the worker runs the first. -/
theorem waiting_call_returns_of_flush :
    ∃ trace s span output s₁ s₂, SystemRun (Orderly ⟨0⟩) (State.initial fun _ => ⟨0⟩) trace s ∧
      s.calls (.client ⟨1⟩) = .flushing ⟨1⟩ ⟨0⟩ ∧ SystemRun (onlyServes ⟨0⟩) s span s₁ ∧
      s₁.Step (.flusherTake (.client ⟨1⟩)) output s₂ := by
  obtain ⟨trace, s, run, tested⟩ := system_run_of_actions
    (fun s action => (action ≠ .handlerThrow ⟨0⟩ ∧ action.cancelSync? = none) ∧
      DrainsCounted ⟨0⟩ s action ∧ turnServesStop ⟨0⟩ s action)
    (State.initial fun _ => ⟨0⟩)
    [.start (.client ⟨0⟩) ⟨0⟩ none, .submit (.client ⟨0⟩) ⟨0⟩ (some ⟨0⟩),
      .submit (.client ⟨0⟩) ⟨0⟩ (some ⟨1⟩), .workerTurn ⟨0⟩, .workFlush (.client ⟨1⟩) ⟨1⟩]
    (fun _ s => s.calls (.client ⟨1⟩) = .flushing ⟨1⟩ ⟨0⟩ &&
      handlerMayEnd s.calls (s.queues ⟨0⟩).thread.id) (by decide +kernel)
  simp only [Bool.and_eq_true, decide_eq_true_eq] at tested
  obtain ⟨call, ends⟩ := tested
  have orderly : SystemRun (Orderly ⟨0⟩) (State.initial fun _ => ⟨0⟩) trace s := by
    refine run.mono fun state action permits => ⟨⟨permits.1.1, permits.2.1, ?_⟩, permits.2.2⟩
    intro work cancels
    simp [permits.1.2] at cancels
  have waits : WaitsOn ⟨0⟩ s (.client ⟨1⟩) := by simp [WaitsOn, call]
  obtain ⟨span, closing, output, s₁, s₂, serving, _, closes, move, _⟩ :=
    waiting_call_returns orderly waits ends
  rw [call] at closes
  cases closes
  exact ⟨trace, s, span, output, s₁, s₂, orderly, call, serving, move⟩

end AresCommon.WorkQueue
