import AresCommon.WorkQueue.Interleaving
import AresCommon.WorkQueue.Progress

/-!
# The critical sections are atomic

Whatever the interleaving of the accesses, the operations of clients and workers take
effect one after another, each between its entry and its return, as actions of
`System.lean`. What was proved about those runs therefore holds of threads that share
the queues access by access.
-/

namespace AresCommon.WorkQueue

open AresCommon.DataStructures AresCommon.DataStructures.Slist
open AresCommon.Foundation AresCommon.Foundation.Transition AresCommon.Synchronization
open Function (update)

set_option autoImplicit false

/-! ## What the sections rely on -/

/-- Nobody cancels a flusher, and a thread is in the loop of a queue that is its own. -/
structure State.Sound (s : State) : Prop where
  uncancelled : ∀ thread, flagTest (s.works (.flusher thread)).flags workCancelingBit = false
  inside : ∀ thread queue, s.loops thread = some queue →
    (s.queues queue).thread.id = some thread

def Access.Permitted : Access → Prop
  | .workFlagSet (.flusher _) position =>
      ~~~bit position &&& bit workCancelingBit = bit workCancelingBit
  | _ => True

def Access.Possible : (call : Access) → AccessReply call → Prop
  | .workFlagTest (.flusher _) position, reply => position = workCancelingBit → reply = false
  | _, _ => True

def workQueueDiscipline : Guarded.Discipline sharedWorkQueues where
  sound := State.Sound
  permits := Access.Permitted
  possible := Access.Possible

theorem State.Spares.inside {self : Thread} {s s' : State} (spares : s.Spares self s')
    (sound : s.Sound) (thread : Thread) (queue : QueueId) (inside : s'.loops thread = some queue) :
    (s'.queues queue).thread.id = some thread := by
  rw [spares.runners]
  apply sound.inside
  by_cases mine : thread = self
  · subst mine
    rcases spares.leaves with same | left
    · rw [← same]
      exact inside
    · rw [left] at inside
      cases inside
  · rw [← spares.loops thread mine]
    exact inside

theorem flag_test_clear_unset {flags : Flags} {other : Nat} (unset : flagTest flags other = false)
    (position : Nat) : flagTest (flagClear flags position) other = false := by
  unfold flagTest flagClear at *
  have nothing : flags &&& bit other = 0#32 := by simpa using unset
  rw [BitVec.and_assoc, BitVec.and_comm (~~~bit position), ← BitVec.and_assoc, nothing]
  simp

theorem State.Sound.access {s : State} (sound : s.Sound) (self : Thread) {call : Access}
    (permitted : call.Permitted) : (s.access self call).2.Sound := by
  refine ⟨fun thread => ?_, (s.access_spares self call).inside sound⟩
  have unset := sound.uncancelled thread
  cases call with
  | workFlagSet work position =>
      by_cases same : work = .flusher thread
      · subst same
        simp only [State.access, State.workFlagSet, State.modifyWork, Function.update_self]
        rw [flag_test_set _ permitted]
        exact unset
      · simp only [State.access, State.workFlagSet, State.modifyWork,
          Function.update_of_ne (Ne.symm same)]
        exact unset
  | workFlagClear work position | workFlagTestAndClear work position =>
      by_cases same : work = .flusher thread
      · subst same
        simp only [State.access, State.workFlagClear, State.modifyWork, Function.update_self]
        exact flag_test_clear_unset unset position
      · simp only [State.access, State.workFlagClear, State.modifyWork,
          Function.update_of_ne (Ne.symm same)]
        exact unset
  | setWorkQueue work | setWorkHandler work =>
      by_cases same : work = .flusher thread
      · subst same
        simp only [State.access, State.modifyWork, Function.update_self]
        exact unset
      · simp only [State.access, State.modifyWork, Function.update_of_ne (Ne.symm same)]
        exact unset
  | constructFlusher =>
      by_cases same : thread = self
      · subst same
        simp [State.access, State.constructFlusher, Work.ofHandler, flagTest]
      · simpa [State.access, State.constructFlusher, same] using unset
  | pendingFindAndRemove queue work fuel =>
      simp only [State.access]
      cases SysSlist.findAndRemove fuel s.nodes (s.queues queue).pending work with
      | none => exact unset
      | some found => exact unset
  | cancelsRemoveFirst work fuel =>
      simp only [State.access]
      cases SysSlist.removeFirst fuel s.cancellerNodes s.pendingCancels fun wc =>
        (s.cancellers wc).work = some work with
      | none => exact unset
      | some found => exact unset
  | flusherUnlock thread | cancellerUnlock thread =>
      simp only [State.access]
      split
      · exact unset
      · exact unset
  | proceed queue pc =>
      simp only [State.access, State.proceed]
      split
      · exact unset
      · exact unset
  | leave queue =>
      simp only [State.access, State.leaveLoop]
      split
      · split
        · exact unset
        · exact unset
      · exact unset
  | _ => exact unset

theorem possible_reply {s : State} (sound : s.Sound) (self : Thread) (call : Access) :
    call.Possible (s.access self call).1 := by
  cases call with
  | workFlagTest work position =>
      cases work with
      | user id => trivial
      | flusher thread =>
          rintro rfl
          exact sound.uncancelled thread
  | _ => trivial

/-! ## Who may enter -/

theorem State.Spares.ready {self thread : Thread} {s s' : State} (spares : s.Spares self s')
    (sound : s.Sound) (other : thread ≠ self) (op : SectionOp) :
    op.ready s' thread = op.ready s thread := by
  have calls := spares.calls thread other
  have loops := spares.loops thread other
  have worker (queue : QueueId) (runs : (s.queues queue).thread.id = some thread) :
      s'.workers queue = s.workers queue :=
    spares.workers queue fun mine => other (Option.some.inj (runs.symm.trans mine))
  have acts : s'.canAct thread = s.canAct thread := by
    unfold State.canAct
    rw [calls, loops]
    unfold mayAct
    cases s.calls thread with
    | idle =>
        cases inside : s.loops thread with
        | none => cases thread <;> rfl
        | some queue => simp only [worker queue (sound.inside thread queue inside)]
    | _ => rfl
  cases op with
  | workerTurn queue =>
      simp only [SectionOp.ready, spares.runners]
      by_cases runs : (s.queues queue).thread.id = some thread
      · simp only [worker queue runs]
      · simp only [runs, and_false]
  | handlerReturn queue work =>
      simp only [SectionOp.ready, spares.runners, calls]
      by_cases runs : (s.queues queue).thread.id = some thread
      · simp only [worker queue runs]
      · simp only [runs, false_and, and_false]
  | _ => exact acts

/-! ## Every section is seen at most once -/

namespace SectionProgram

open Guarded (Once Quiet)

variable {self : Thread}

theorem submitLockedMember_once (this : QueueId) (work : WorkRef) :
    Once workQueueDiscipline (submitLockedMember this self work) := by
  refine .request (fun seen => seen) trivial fun _ _ => ?_
  refine .request (fun seen => seen) trivial fun _ _ => ?_
  refine .request (fun seen => seen) trivial fun _ _ => ?_
  refine .request (fun seen => seen) trivial fun _ _ => ?_
  refine .ite (fun _ => .done _) fun _ => .ite (fun _ => .done _) fun _ => ?_
  refine .request (fun seen => seen) trivial fun _ _ => ?_
  exact .reveal trivial fun _ _ => .done _

theorem submitTo_once (work : UserId) (queue : Option QueueId) (ret : Int) :
    Once workQueueDiscipline (submitTo self (.user work) queue ret) := by
  cases queue with
  | none => exact .stuck
  | some target =>
      refine (submitLockedMember_once target (.user work)).bind fun rc => ?_
      refine .ite (fun _ => .done _) fun _ => ?_
      refine .request (fun seen => seen) trivial fun _ _ => ?_
      exact .request (fun seen => seen) trivial fun _ _ => .done _

theorem submitUnqueued_once (work : UserId) (queue : Option QueueId) :
    Once workQueueDiscipline (submitUnqueued self (.user work) queue) := by
  refine .request (fun seen => seen) trivial fun _ _ => ?_
  refine .ite (fun _ => ?_) fun _ => submitTo_once work queue 1
  exact .request (fun seen => seen) trivial fun home _ => submitTo_once work home 2

theorem submitLocked_once (work : UserId) (queue : Option QueueId) :
    Once workQueueDiscipline (submitLocked self (.user work) queue) := by
  refine .request (fun seen => seen) trivial fun _ _ => ?_
  refine .ite (fun _ => .done _) fun _ => ?_
  refine .request (fun seen => seen) trivial fun _ _ => ?_
  refine .ite (fun _ => .done _) fun _ => ?_
  cases queue with
  | none => exact .request (fun seen => seen) trivial fun home _ => submitUnqueued_once work home
  | some queue => exact submitUnqueued_once work (some queue)

theorem resubmit_once (work : UserId) :
    Once workQueueDiscipline (resubmit self (.user work)) := by
  refine .request (fun seen => seen) trivial fun _ _ => ?_
  exact .ite (fun _ => .done _) fun _ => submitLocked_once work none

theorem submitted_once (work : UserId) {submission : SectionProgram (Int × Option QueueId)}
    (once : Once workQueueDiscipline submission) :
    Once workQueueDiscipline (submitted work submission) := by
  refine .request (fun seen => seen) trivial fun _ _ => ?_
  refine once.bind fun outcome => ?_
  obtain ⟨rc, queue⟩ := outcome
  cases queue with
  | none => exact .done _
  | some target => exact .done _

theorem flusherLocked_quiet (this : QueueId) (work : WorkRef) (thread : Thread) :
    Quiet workQueueDiscipline (flusherLocked this work (.flusher thread)) := by
  have apart : ~~~bit workFlushingBit &&& bit workCancelingBit = bit workCancelingBit := by decide
  refine .request (fun seen => seen) apart fun _ _ => ?_
  refine .request (fun seen => seen) trivial fun _ _ => ?_
  refine .ite (fun _ => ?_) fun _ => ?_
  · exact .ask (fun seen => seen) trivial fun _ _ => .done _
  · exact .ask (fun seen => seen) trivial fun _ _ => .done _

theorem workFlush_once (work : UserId) :
    Once workQueueDiscipline (workFlush self work) := by
  refine .request (fun seen => seen) trivial fun _ _ => ?_
  refine .request (fun seen => seen) trivial fun _ _ => ?_
  refine .ite (fun _ => ?_) fun _ => .done _
  refine .request (fun seen => seen) trivial fun home _ => ?_
  cases home with
  | none => exact .stuck
  | some queue =>
      refine (flusherLocked_quiet queue (.user work) self).bind_once fun _ => ?_
      refine .reveal trivial fun _ _ => ?_
      exact .request (fun seen => seen) trivial fun _ _ => .done _

theorem removeLocked_once (fuel : Nat) (work : WorkRef) :
    Once workQueueDiscipline (removeLocked fuel work) := by
  refine .request (fun seen => seen) trivial fun home _ => ?_
  refine .request (fun seen => seen) trivial fun _ _ => ?_
  refine .ite (fun _ => ?_) fun _ => .done _
  cases home with
  | none => exact .stuck
  | some queue =>
      refine .request (fun seen => seen) trivial fun _ _ => ?_
      exact .ite (fun _ => .done _) fun _ => .stuck

theorem markCanceling_quiet (work : UserId) :
    Quiet workQueueDiscipline (markCanceling (.user work)) := by
  refine .request (fun seen => seen) trivial fun _ _ => ?_
  refine .ite (fun _ => ?_) fun _ => .done _
  refine .request (fun seen => seen) trivial fun _ _ => ?_
  exact .request (fun seen => seen) trivial fun _ _ => .done _

theorem cancelAsyncLocked_once (fuel : Nat) (work : UserId) :
    Once workQueueDiscipline (cancelAsyncLocked fuel work) := by
  refine .request (fun seen => seen) trivial fun _ _ => ?_
  refine .ite (fun _ => ?_) fun _ => ?_
  · exact (markCanceling_quiet work).bind_once fun _ => .done _
  · refine (removeLocked_once fuel (.user work)).bind fun _ => ?_
    exact (markCanceling_quiet work).bind fun _ => .done _

theorem workCancel_once (fuel : Nat) (work : UserId) :
    Once workQueueDiscipline (workCancel fuel work) :=
  (cancelAsyncLocked_once fuel work).bind fun _ => .done _

theorem workCancelSync_once (fuel : Nat) (work : UserId) :
    Once workQueueDiscipline (workCancelSync fuel work) := by
  refine .request (fun seen => seen) trivial fun _ _ => ?_
  refine .request (fun seen => seen) trivial fun _ _ => ?_
  refine .ite (fun _ => ?_) fun _ => .done _
  refine (cancelAsyncLocked_once fuel work).bind fun _ => ?_
  refine .request (fun seen => seen) trivial fun _ _ => ?_
  refine .ite (fun _ => ?_) fun _ => .done _
  refine .request (fun seen => seen) trivial fun _ _ => ?_
  refine .request (fun seen => seen) trivial fun _ _ => ?_
  exact .request (fun seen => seen) trivial fun _ _ => .done _

theorem setNewWorkHandler_once (work : UserId) (handler : HandlerId) :
    Once workQueueDiscipline (setNewWorkHandler work handler) := by
  refine .request (fun seen => seen) trivial fun _ _ => ?_
  refine .ite (fun _ => .done _) fun _ => ?_
  exact .request (fun seen => seen) trivial fun _ _ => .done _

theorem notify_once (queue : QueueId) (call : Call) :
    Once workQueueDiscipline (do
      Program.request (Access.notifyqPut queue)
      Program.request (Access.enter call)
      pure (.just .waits) : SectionProgram Output) :=
  .reveal trivial fun _ _ => .request (fun seen => seen) trivial fun _ _ => .done _

theorem requestDrain_once (queue : QueueId) (plug : Bool) :
    Once workQueueDiscipline (requestDrain queue plug) := by
  refine .request (fun seen => seen) trivial fun _ _ => ?_
  refine .ite (fun _ => ?_) fun _ => notify_once queue _
  exact .request (fun seen => seen) trivial fun _ _ => notify_once queue _

theorem queueDrain_once (queue : QueueId) (plug : Bool) :
    Once workQueueDiscipline (queueDrain queue plug) := by
  refine .request (fun seen => seen) trivial fun _ _ => ?_
  refine .ite (fun _ => .done _) fun _ => ?_
  refine .request (fun seen => seen) trivial fun _ _ => ?_
  refine .ite (fun _ => requestDrain_once queue plug) fun _ => ?_
  refine .request (fun seen => seen) trivial fun _ _ => ?_
  exact .ite (fun _ => requestDrain_once queue plug) fun _ => .done _

theorem queueUnplug_once (queue : QueueId) :
    Once workQueueDiscipline (queueUnplug queue) :=
  .request (fun seen => seen) trivial fun _ _ => .done _

theorem stop_once (queue : QueueId) (timeout : Option Nat) :
    Once workQueueDiscipline (stop queue timeout) := by
  refine .request (fun seen => seen) trivial fun _ _ => ?_
  refine .ite (fun _ => .done _) fun _ => ?_
  refine .request (fun seen => seen) trivial fun _ _ => ?_
  refine .ite (fun _ => .done _) fun _ => ?_
  exact .request (fun seen => seen) trivial fun _ _ => notify_once queue _

theorem workerTurn_once (queue : QueueId) : Once workQueueDiscipline (workerTurn queue) := by
  have apart : ~~~bit workRunningBit &&& bit workCancelingBit = bit workCancelingBit := by decide
  have stays : (WorkerPc.parked).left ≠ true := by decide
  refine .request (fun seen => seen) trivial fun node _ => ?_
  cases node with
  | some work =>
      have permitted : (Access.workFlagSet work workRunningBit).Permitted := by
        cases work with
        | user id => trivial
        | flusher thread => exact apart
      refine .request (fun seen => seen) trivial fun _ _ => ?_
      refine .request (fun seen => seen) permitted fun _ _ => ?_
      refine .request (fun seen => seen) trivial fun _ _ => ?_
      refine .request (fun seen => seen) trivial fun _ _ => ?_
      exact .request (fun seen => by cases seen) trivial fun _ _ => .done _
  | none =>
      refine .request (fun seen => seen) trivial fun _ _ => ?_
      refine .ite (fun _ => ?_) fun _ => ?_
      · -- the token of a drain comes before the move, which nobody sees
        refine .reveal trivial fun _ _ => ?_
        exact .request stays trivial fun _ _ => .done _
      · refine .request (fun seen => seen) trivial fun _ _ => ?_
        refine .ite (fun _ => ?_) fun _ => ?_
        · refine .request (fun seen => seen) trivial fun _ _ => ?_
          refine .request (fun seen => seen) trivial fun _ _ => ?_
          exact .reveal trivial fun _ _ => .done _
        · exact .request stays trivial fun _ _ => .done _

theorem completeQueue_quiet (queue : QueueId) (observation : Observation) :
    Quiet workQueueDiscipline (completeQueue queue observation) := by
  refine .request (fun seen => seen) trivial fun _ _ => ?_
  refine .request (fun seen => seen) trivial fun _ _ => ?_
  exact .request (fun seen => by cases seen) trivial fun _ _ => .done _

theorem completeCancel_once (fuel : Nat) (queue : QueueId) (work : WorkRef)
    (observation : Observation) :
    Once workQueueDiscipline (completeCancel fuel queue work observation) := by
  refine .request (fun seen => seen) trivial fun _ _ => ?_
  refine .ite (fun _ => ?_) fun _ => (completeQueue_quiet queue observation).once
  refine .request (fun seen => seen) trivial fun _ _ => ?_
  refine .request (fun seen => seen) trivial fun walk _ => ?_
  match walk with
  | none => exact .stuck
  | some none => exact (completeQueue_quiet queue observation).once
  | some (some wc) => exact .reveal trivial fun _ _ => completeQueue_quiet queue observation

theorem completeCancel_quiet (fuel : Nat) (queue : QueueId) (thread : Thread)
    (observation : Observation) :
    Quiet workQueueDiscipline (completeCancel fuel queue (.flusher thread) observation) := by
  refine .request (fun seen => seen) trivial fun canceling possible => ?_
  have unset : canceling = false := possible rfl
  subst unset
  exact completeQueue_quiet queue observation

theorem handlerReturn_once (fuel : Nat) (queue : QueueId) (work : WorkRef) :
    Once workQueueDiscipline (handlerReturn fuel queue work) := by
  refine .request (fun seen => seen) trivial fun _ _ => ?_
  refine .request (fun seen => seen) trivial fun flushing _ => ?_
  cases work with
  | user id => exact .ite (fun _ => .stuck) fun _ => completeCancel_once fuel queue _ _
  | flusher thread =>
      refine .ite (fun _ => ?_) fun _ => completeCancel_once fuel queue _ _
      refine .request (fun seen => seen) trivial fun _ _ => ?_
      exact .reveal trivial fun _ _ => completeCancel_quiet fuel queue thread _

end SectionProgram

theorem body_once (self : Thread) (op : SectionOp) :
    Guarded.Once workQueueDiscipline (op.body self) := by
  cases op with
  | submit queue work =>
      exact SectionProgram.submitted_once work (SectionProgram.submitLocked_once work _)
  | workSubmitToQueue queue work =>
      cases queue with
      | none => exact SectionProgram.submitted_once work (SectionProgram.resubmit_once work)
      | some queue =>
          exact SectionProgram.submitted_once work (SectionProgram.submitLocked_once work _)
  | workFlush work => exact SectionProgram.workFlush_once work
  | workCancel work fuel => exact SectionProgram.workCancel_once fuel work
  | workCancelSync work fuel => exact SectionProgram.workCancelSync_once fuel work
  | setNewWorkHandler work handler => exact SectionProgram.setNewWorkHandler_once work handler
  | queueDrain queue plug => exact SectionProgram.queueDrain_once queue plug
  | queueUnplug queue => exact SectionProgram.queueUnplug_once queue
  | stop queue timeout => exact SectionProgram.stop_once queue timeout
  | workerTurn queue => exact SectionProgram.workerTurn_once queue
  | handlerReturn queue work fuel => exact SectionProgram.handlerReturn_once fuel queue work

theorem shared_work_queues_reducible : sharedWorkQueues.Reducible workQueueDiscipline where
  once := body_once
  replies self call sound := possible_reply sound self call
  kept sound permitted := sound.access _ permitted
  disturbed sound moved := by
    obtain ⟨spares, works⟩ := lock_free_spares moved
    exact ⟨fun thread => by rw [works]; exact sound.uncancelled thread, spares.inside sound⟩
  ready sound _ other := (State.access_spares _ _ _).ready sound other _
  behind := workQueueParts.behind
  before := workQueueParts.before

theorem shared_work_queues_steady : sharedWorkQueues.Steady workQueueDiscipline where
  answer _ sound other := (State.access_spares _ _ _).ready sound other _
  disturb sound others moved :=
    (lock_free_spares moved).1.ready sound (fun same => others (congrArg some same.symm)) _

/-! ## Turns are steps of the system -/

def AbstractState.LoopsOwned (a : AbstractState) : Prop :=
  ∀ thread queue, a.loops thread = some queue →
    (a.task queue).id = some thread ∧ a.workers queue ≠ .notStarted

attribute [local grind =] Function.update_apply

theorem AbstractState.LoopsOwned.without {a : AbstractState} {queue target : QueueId}
    {thread : Thread} (inside : a.loopsWithout queue thread = some target) :
    a.loops thread = some target := by
  by_cases owner : (a.task queue).id = some thread
  · unfold AbstractState.loopsWithout at inside
    rw [owner] at inside
    cases thread with
    | client id =>
        dsimp only at inside
        rw [Function.update_self] at inside
        cases inside
    | worker id => exact inside
  · rw [← AbstractState.loops_without_of_ne owner]
    exact inside

theorem AbstractState.LoopsOwned.step {a a' : AbstractState} {action : Action} {output : Output}
    (owned : a.LoopsOwned) (move : AbstractStep a action output a') : a'.LoopsOwned := by
  intro thread queue inside
  cases move with
  | start _ unstarted | run _ _ unstarted =>
      have before := owned thread queue
      simp only [AbstractState.launch] at *
      grind
  | joined =>
      have before := owned thread queue inside
      grind
  | popped | drainDone | parked | woken | finished | finishedCancelled | flushed =>
      have before := owned thread queue inside
      simp only [AbstractState.pop, AbstractState.finishDrain, AbstractState.complete] at *
      grind
  | stopped | threw =>
      have before := owned thread queue (AbstractState.LoopsOwned.without inside)
      simp only [AbstractState.leave] at *
      grind
  | _ => exact owned thread queue inside

/-- What holds before threads share the queues. -/
structure Shareable (s : State) : Prop where
  coupled : ∃ a, Coupled s a
  sound : s.Sound

theorem shareable_of_run {handlers : UserId → HandlerId} {history : List (Action × Output)}
    {s : State} (prior : SystemRun anyStep (State.initial handlers) history s) : Shareable s := by
  obtain ⟨a, coupled, owned⟩ := invariant_of_run prior anyStep (fun _ _ _ _ _ => trivial)
    AbstractState.LoopsOwned (fun _ _ inside => by cases inside)
    fun _ _ _ _ _ owned _ move => owned.step move
  refine ⟨⟨a, coupled⟩, fun thread => ?_, fun thread queue inside => ?_⟩
  · rw [coupled.reflects.flusher_work]
    exact (work_flags_test _ _ _ _).2.1
  · rw [coupled.reflects.loops] at inside
    rw [(coupled.reflects.queues queue).task]
    exact (owned thread queue inside).1

theorem Coupled.has_room {s : State} {a : AbstractState} (coupled : Coupled s a) {self : Thread}
    {op : SectionOp} (ready : op.ready s self = true) : op.HasRoom s := by
  obtain ⟨rep, ok⟩ := coupled
  cases op with
  | handlerReturn queue work fuel =>
      obtain ⟨running, _, _⟩ := of_decide_eq_true ready
      obtain ⟨handler, inside⟩ := running_of_running? running
      refine ⟨?_, ?_⟩
      · rintro thread rfl
        rw [rep.workers] at inside
        have item : (a.workers queue).item = some (.flusher thread) := by rw [inside]; rfl
        have count := rep.flusher_sem thread
        rw [(ok.flushers.item_flusher thread queue item).2.1, Bool.toNat_false] at count
        obtain ⟨sem, unlocked, _⟩ :=
          Semaphore.unlock_of_room (show (s.flusherSems thread).getCount < 1 by omega)
        exact ⟨sem, unlocked⟩
      · intro thread nodes cancels searched
        have found := (remove_first rep.cancels searched).1
        have member : thread ∈ a.cancels := List.mem_of_find?_eq_some found.symm
        obtain ⟨sem, unlocked, _⟩ := rep.unlock_canceller ok.cancellers member
        exact ⟨sem, unlocked⟩
  | _ => trivial

def workTurn : Guarded.Turn Thread SectionOp (Thread × LockFree) ×
    Guarded.SectionOutput Output Output → Action × Output
  | (.op self op, .returned output) => (op.action self, output)
  | (.op self op, _) => (op.action self, .just .void)
  | (.other act, .did output) => (act.2.action act.1, output)
  | (.other act, _) => (act.2.action act.1, .just .void)

def workTurns (labels : List (Guarded.AtomicAction Thread SectionOp (Thread × LockFree) ×
    Guarded.SectionOutput Output Output)) : List (Action × Output) :=
  (labels.filterMap Guarded.AtomicAction.turn).map workTurn

theorem turn_step {s s' : State} (shareable : ∃ a, Coupled s a)
    {turn : Guarded.Turn Thread SectionOp (Thread × LockFree)}
    {output : Guarded.SectionOutput Output Output} (ready : sharedWorkQueues.ReadyTurn s turn)
    (move : sharedWorkQueues.TurnStep s turn output s') :
    State.Step s (workTurn (turn, output)).1 (workTurn (turn, output)).2 s' := by
  cases move with
  | @op self op result s' takes =>
      obtain ⟨a, coupled⟩ := shareable
      have ends := ending_body ready (coupled.has_room ready)
      obtain ⟨⟨next, reply⟩, ran, result⟩ := Option.map_eq_some_iff.mp (ends.symm.trans takes)
      cases result
      exact ⟨op.fuel, ran⟩
  | @other act output s' disturbs =>
      have moved : s.lockFreeStep act = some (output, s') := disturbs
      unfold State.lockFreeStep at moved
      split at moved
      · obtain ⟨⟨next, reply⟩, ran, result⟩ := Option.map_eq_some_iff.mp moved
        cases result
        exact ⟨0, ran⟩
      · cases moved

/-! ## Runs -/

/-- The operations on work queues that threads share are atomic: whatever the interleaving
of their accesses, they take effect one after another, each between its entry and its
return, as a run of the system that goes on from where the threads began to share. No two
threads are in a section at a time. -/
theorem work_queue_sections_atomic {handlers : UserId → HandlerId}
    {history : List (Action × Output)} {start : State}
    (prior : SystemRun anyStep (State.initial handlers) history start)
    {trace : List (Guarded.SectionAction Thread SectionOp (Thread × LockFree) ×
      Guarded.SectionOutput Output Output)}
    {final : Guarded.Interleaved Thread SectionOp Access AccessReply Output State}
    (run : Run sharedWorkQueues.InterleavedStep anyStep (Guarded.interleaved start) trace final) :
    (∃ labels last,
      Run sharedWorkQueues.AtomicStep anyStep (Guarded.atomic start) labels last ∧
      labels.filterMap Guarded.AtomicAction.event = trace.filterMap Guarded.SectionAction.event ∧
      SystemRun anyStep (State.initial handlers) (history ++ workTurns labels) last.shared ∧
      (final.locked = false → final.shared = last.shared)) ∧
    ∀ first second op op' rest rest', final.phases first = .inside op rest →
      final.phases second = .inside op' rest' → first = second := by
  have shareable := shareable_of_run prior
  refine ⟨?_, fun _ _ _ _ _ _ here there => Guarded.sections_exclusive
    shared_work_queues_reducible run shareable.sound here there⟩
  obtain ⟨labels, last, below, seen, reduces⟩ :=
    Guarded.sections_atomic shared_work_queues_reducible run shareable.sound
  refine ⟨labels, last, below, seen, ?_, reduces.shared_of_free⟩
  have turns := Guarded.ready_turns shared_work_queues_reducible shared_work_queues_steady below
    shareable.sound
  have steps : SystemRun anyStep start (workTurns labels) last.shared ∧
      ∃ a, Coupled last.shared a := by
    refine turns.relabel (fun s => ∃ a, Coupled s a) ?_ shareable.coupled
    intro s turn output s' coupled ready move
    have step := turn_step coupled ready move
    obtain ⟨a, coupled⟩ := coupled
    obtain ⟨a', _, coupled'⟩ := coupled.step step
    exact ⟨step, a', coupled'⟩
  exact prior.append steps.1

/-- The worker is woken by a submission that is not over: it takes the token while the client
is still inside, and pops the item when that has left. -/
theorem work_queue_sections_atomic_of_early_wakeup :
    ∃ history labels last,
      SystemRun anyStep (State.initial fun work => ⟨work.address⟩) (history ++ workTurns labels)
        last ∧
      last.workers ⟨0⟩ = .running (.user ⟨1⟩) (.client ⟨1⟩) := by
  let start := (State.initial fun work => ⟨work.address⟩).launch ⟨0⟩ none (.worker ⟨0⟩) true
  have started : SystemRun anyStep (State.initial fun work => ⟨work.address⟩)
      [(.start (.client ⟨0⟩) ⟨0⟩ none, .just .void)] start := .snoc .nil trivial ⟨0, rfl⟩
  obtain ⟨trace, final, run, passed⟩ := sharedWorkQueues.interleaved_run_of_actions
    (Guarded.interleaved start)
    ([.call (.worker ⟨0⟩) (.workerTurn ⟨0⟩), .call (.client ⟨1⟩) (.submit ⟨0⟩ ⟨1⟩),
        .attempt (.worker ⟨0⟩), .advance (.worker ⟨0⟩), .attempt (.client ⟨1⟩)] ++
      List.replicate 3 (.advance (.worker ⟨0⟩)) ++
      [.release (.worker ⟨0⟩), .attempt (.client ⟨1⟩)] ++
      List.replicate 10 (.advance (.client ⟨1⟩)) ++
      [.other (.worker ⟨0⟩, .notifyqGet ⟨0⟩)] ++ List.replicate 2 (.advance (.client ⟨1⟩)) ++
      [.release (.client ⟨1⟩), .call (.worker ⟨0⟩) (.workerTurn ⟨0⟩),
        .attempt (.worker ⟨0⟩)] ++
      List.replicate 6 (.advance (.worker ⟨0⟩)) ++ [.release (.worker ⟨0⟩)])
    (fun _ final => !final.locked &&
      decide (final.shared.workers ⟨0⟩ = .running (.user ⟨1⟩) (.client ⟨1⟩))) (by decide)
  obtain ⟨⟨labels, last, _, _, turns, same⟩, _⟩ := work_queue_sections_atomic started run
  obtain ⟨unlocked, running⟩ := Bool.and_eq_true_iff.mp passed
  refine ⟨_, labels, last.shared, turns, ?_⟩
  rw [← same (by simpa using unlocked)]
  exact of_decide_eq_true running

end AresCommon.WorkQueue
