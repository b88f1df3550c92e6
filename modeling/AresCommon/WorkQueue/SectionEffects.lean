import AresCommon.Foundation.Masks
import AresCommon.WorkQueue.Sections

/-!
# A section that nothing comes between

The programs of the critical sections compute what the critical sections of
`Operations.lean` do, and the operations what the actions of `System.lean` do.
-/

namespace AresCommon.WorkQueue

open AresCommon.DataStructures AresCommon.DataStructures.Slist
open AresCommon.Foundation AresCommon.Synchronization

set_option autoImplicit false

variable {self : Thread}

theorem flag_test_set (flags : Flags) {position other : Nat}
    (apart : ~~~bit position &&& bit other = bit other) :
    flagTest (flagSet flags position) other = flagTest flags other := by
  unfold flagTest flagSet
  rw [(Masks.changes_only_set flags (bit position)).read apart]

theorem flag_test_cleared (flags : Flags) {position : Nat}
    (nothing : ~~~bit position &&& bit position = 0#32) :
    flagTest (flagClear flags position) position = false := by
  unfold flagTest flagClear
  rw [Masks.read_clear nothing]
  rfl

def WorkRef.finishObservation (work : WorkRef) (queue : QueueId) : Observation :=
  match work with
  | .user id => .finished id queue
  | .flusher _ => .none

def State.CancellersHaveRoom (fuel : Nat) (s : State) (work : WorkRef) : Prop :=
  ∀ thread nodes cancels, SysSlist.removeFirst fuel s.cancellerNodes s.pendingCancels
    (fun wc => (s.cancellers wc).work = some work) = some (some thread, nodes, cancels) →
      ∃ sem, (s.cancellers thread).sem.unlock = .ok sem

namespace SectionProgram

/-! ## Submission -/

theorem ending_submitLockedMember (s : State) (this : QueueId) (work : WorkRef) :
    (submitLockedMember this self work).ending (State.access self) s =
      some (s.submitLockedMember this self work).swap := by
  unfold submitLockedMember State.submitLockedMember
  cases started : flagTest (s.queues this).flags workQueueStartedBit with
  | false => simp [State.access, started]
  | true =>
      by_cases chained : (s.queues this).thread.id = some self <;>
        cases draining : flagTest (s.queues this).flags workQueueDrainBit <;>
          cases plugged : flagTest (s.queues this).flags workQueuePluggedBit <;>
            simp [State.access, started, chained, draining, plugged]

theorem ending_submitTo (s : State) (work : WorkRef) (target : QueueId) (ret : Int) :
    (submitTo self work (some target) ret).ending (State.access self) s =
      let submitted := s.submitLockedMember target self work
      if submitted.2 < 0 then some ((submitted.2, none), submitted.1)
      else some ((ret, some target),
        (submitted.1.workFlagSet work workQueuedBit).modifyWork work
          fun w => { w with queue := some target }) := by
  unfold submitTo
  rw [Program.ending_bind, ending_submitLockedMember]
  simp only [Option.bind_some, Prod.fst_swap, Prod.snd_swap]
  split
  · rfl
  · rfl

theorem ending_submitLocked (s : State) (work : WorkRef) (queue : Option QueueId) :
    (submitLocked self work queue).ending (State.access self) s =
      (s.submitLocked self work queue).map fun outcome => (outcome.2, outcome.1) := by
  have nowhere (ret : Int) : (submitTo self work none ret).ending (State.access self) s = none :=
    rfl
  unfold submitLocked State.submitLocked
  cases canceling : flagTest (s.works work).flags workCancelingBit with
  | true => simp [State.access, canceling]
  | false =>
      cases queued : flagTest (s.works work).flags workQueuedBit with
      | true => simp [State.access, canceling, queued]
      | false =>
          cases running : flagTest (s.works work).flags workRunningBit <;>
            cases home : (s.works work).queue <;> cases queue <;>
              simp [State.access, canceling, queued, running, home, submitUnqueued, nowhere,
                ending_submitTo, apply_ite]

theorem ending_resubmit (s : State) (work : WorkRef) :
    (resubmit self work).ending (State.access self) s =
      (s.resubmit self work).map fun outcome => (outcome.2, outcome.1) := by
  unfold resubmit State.resubmit
  cases home : (s.works work).queue with
  | none => simp [State.access, home]
  | some queue => simp [State.access, home, ending_submitLocked]

theorem ending_submitted (s : State) (work : UserId)
    {submission : SectionProgram (Int × Option QueueId)}
    {outcome : Option (State × Int × Option QueueId)}
    (ends : submission.ending (State.access self) s =
      outcome.map fun outcome => (outcome.2, outcome.1)) :
    (submitted work submission).ending (State.access self) s =
      (outcome.map (s.submitted work)).map Prod.swap := by
  unfold submitted
  rw [Program.ending_request, Program.ending_bind, show State.access self s _ = (_, s) from rfl,
    ends]
  cases outcome with
  | none => rfl
  | some outcome =>
      obtain ⟨s', rc, queue⟩ := outcome
      cases queue with
      | none => rfl
      | some queue => rfl

/-! ## Flushing -/

theorem ending_flusherLocked (s : State) (this : QueueId) (work flusher : WorkRef) :
    (flusherLocked this work flusher).ending (State.access self) s =
      some ((), s.flusherLocked this work flusher) := by
  unfold flusherLocked State.flusherLocked State.initFlusher
  cases queued : flagTest ((s.workFlagSet flusher workFlushingBit).works work).flags
      workQueuedBit with
  | false => simp [State.access, queued]
  | true => simp [State.access, queued]

theorem constructFlusher_user (s : State) (thread : Thread) (work : UserId) :
    (s.constructFlusher thread).works (.user work) = s.works (.user work) := by
  simp [State.constructFlusher]

theorem ending_workFlush (s : State) (work : UserId) :
    (workFlush self work).ending (State.access self) s =
      ((match (s.constructFlusher self).workFlushLocked (.user work) (.flusher self) with
        | none => none
        | some (s', false) => some (s', .just (.bool false))
        | some (s', true) =>
            match (s.works (.user work)).queue with
            | none => none
            | some queue => some (s'.setCall self (.flushing work queue), .just .waits)) :
        Option (State × Output)).map Prod.swap := by
  unfold workFlush State.workFlushLocked
  by_cases unneeded :
      (s.works (.user work)).flags &&& (bit workQueuedBit ||| bit workRunningBit) = 0#32
  · simp [State.access, constructFlusher_user, unneeded]
  · cases home : (s.works (.user work)).queue with
    | none => simp [State.access, constructFlusher_user, unneeded, home]
    | some queue =>
        simp [State.access, constructFlusher_user, unneeded, home,
          Program.ending_bind _ (flusherLocked _ _ _), ending_flusherLocked]

/-! ## Cancelling -/

theorem ending_removeLocked (fuel : Nat) (s : State) (work : WorkRef) :
    (removeLocked fuel work).ending (State.access self) s =
      (s.removeLocked fuel (s.works work).queue work).map fun s' =>
        (flagTest (s.works work).flags workQueuedBit, s') := by
  unfold removeLocked State.removeLocked
  cases queued : flagTest (s.works work).flags workQueuedBit with
  | false => simp [State.access, queued]
  | true =>
      cases home : (s.works work).queue with
      | none => simp [State.access, queued, home]
      | some queue =>
          cases walked : SysSlist.findAndRemove fuel (s.workFlagClear work workQueuedBit).nodes
              ((s.workFlagClear work workQueuedBit).queues queue).pending work with
          | none => simp [State.access, queued, home, walked]
          | some found => simp [State.access, queued, home, walked]

theorem ending_markCanceling (s : State) (work : WorkRef) :
    (markCanceling work).ending (State.access self) s =
      (if s.workBusyGetLocked work ≠ 0 then
        some ((s.workFlagSet work workCancelingBit).workBusyGetLocked work,
          s.workFlagSet work workCancelingBit)
      else some (s.workBusyGetLocked work, s)) := by
  have busy_eq (s : State) : s.workBusyGetLocked work = busy (s.works work).flags := rfl
  unfold markCanceling
  by_cases idle : busy (s.works work).flags = 0
  · simp [State.access, busy_eq, idle]
  · simp [State.access, busy_eq, idle]

theorem markCanceling_queued {s s' : State} {work : WorkRef} {ret : Int}
    (ends : (markCanceling work).ending (State.access self) s = some (ret, s')) :
    flagTest (s'.works work).flags workQueuedBit = flagTest (s.works work).flags workQueuedBit := by
  rw [ending_markCanceling] at ends
  split at ends
  · cases ends
    simp only [State.workFlagSet, State.modifyWork, Function.update_self]
    exact flag_test_set _ (by decide)
  · cases ends
    rfl

theorem cancel_async_locked_eq (self : Thread) (fuel : Nat) (s : State) (work : WorkRef) :
    s.cancelAsyncLocked fuel work =
      (if flagTest (s.works work).flags workCancelingBit then some s
        else s.removeLocked fuel (s.works work).queue work).bind fun middle =>
          ((markCanceling work).ending (State.access self) middle).map Prod.swap := by
  unfold State.cancelAsyncLocked
  refine congrArg _ (funext fun middle => ?_)
  rw [ending_markCanceling]
  dsimp only
  split
  · rfl
  · rfl

theorem removeLocked_queued {fuel : Nat} {s s' : State} {this : Option QueueId} {work : WorkRef}
    (removed : s.removeLocked fuel this work = some s') :
    flagTest (s'.works work).flags workQueuedBit = false := by
  have cleared : flagTest ((s.workFlagClear work workQueuedBit).works work).flags workQueuedBit =
      false := by
    simp only [State.workFlagClear, State.modifyWork, Function.update_self]
    exact flag_test_cleared _ (by decide)
  unfold State.removeLocked at removed
  dsimp only at removed
  split at removed
  · split at removed
    · cases removed
    · obtain ⟨found, _, rfl⟩ := Option.map_eq_some_iff.mp removed
      exact cleared
  · cases removed
    exact cleared

theorem ending_cancelAsyncLocked (fuel : Nat) (s : State) (work : UserId) :
    (cancelAsyncLocked fuel work).ending (State.access self) s =
      (s.cancelAsyncLocked fuel (.user work)).map fun outcome =>
        ((outcome.2, s.removal outcome.1 work), outcome.1) := by
  rw [cancel_async_locked_eq self]
  unfold cancelAsyncLocked
  cases canceling : flagTest (s.works (.user work)).flags workCancelingBit with
  | true =>
      simp only [Program.ending_request, State.access, canceling, if_true, Option.bind_some]
      rw [Program.ending_bind]
      cases marked : (markCanceling (.user work)).ending (State.access self) s with
      | none => rfl
      | some outcome =>
          obtain ⟨ret, s'⟩ := outcome
          simp [State.removal, markCanceling_queued marked]
  | false =>
      simp only [Program.ending_request, State.access, canceling, Bool.false_eq_true, if_false]
      rw [Program.ending_bind, ending_removeLocked]
      cases removal : s.removeLocked fuel (s.works (.user work)).queue (.user work) with
      | none => rfl
      | some middle =>
          simp only [Option.map_some, Option.bind_some]
          rw [Program.ending_bind]
          cases marked : (markCanceling (.user work)).ending (State.access self) middle with
          | none => rfl
          | some outcome =>
              obtain ⟨ret, s'⟩ := outcome
              simp [State.removal, markCanceling_queued marked, removeLocked_queued removal]

theorem ending_workCancel (fuel : Nat) (s : State) (work : UserId) :
    (workCancel fuel work).ending (State.access self) s =
      ((s.cancelAsyncLocked fuel (.user work)).map fun (s', ret) =>
        (s', (⟨.int ret, s.removal s' work⟩ : Output))).map Prod.swap := by
  unfold workCancel
  rw [Program.ending_bind, ending_cancelAsyncLocked]
  cases s.cancelAsyncLocked fuel (.user work) with
  | none => rfl
  | some outcome => rfl

theorem constructCanceller_works (s : State) (thread : Thread) :
    (s.constructCanceller thread).works = s.works := rfl

theorem ending_workCancelSync (fuel : Nat) (s : State) (work : UserId) :
    (workCancelSync fuel work).ending (State.access self) s =
      (if (s.constructCanceller self).workBusyGetLocked (.user work) ≠ 0 then
        ((s.constructCanceller self).cancelAsyncLocked fuel (.user work)).map fun (s', _) =>
          match s'.cancelSyncLocked self (.user work) with
          | (s'', true) =>
              (s''.setCall self (.cancelling work), (⟨.waits, s.removal s' work⟩ : Output))
          | (s'', false) => (s'', ⟨.bool true, s.removal s' work⟩)
      else some (s.constructCanceller self, .just (.bool false))).map Prod.swap := by
  unfold workCancelSync
  have busy_eq (s : State) : s.workBusyGetLocked (.user work) = busy (s.works (.user work)).flags :=
    rfl
  by_cases idle : busy (s.works (.user work)).flags = 0
  · simp [State.access, busy_eq, constructCanceller_works, idle]
  · simp only [Program.ending_request, State.access, busy_eq, constructCanceller_works, idle,
      ne_eq, not_false_eq_true, if_true]
    rw [Program.ending_bind, ending_cancelAsyncLocked]
    cases (s.constructCanceller self).cancelAsyncLocked fuel (.user work) with
    | none => rfl
    | some outcome =>
        obtain ⟨s', ret⟩ := outcome
        cases waits : flagTest (s'.works (.user work)).flags workCancelingBit with
        | false => simp [State.access, State.cancelSyncLocked, waits]; rfl
        | true => simp [State.access, State.cancelSyncLocked, State.initCanceller, waits]; rfl

theorem ending_setNewWorkHandler (s : State) (work : UserId) (handler : HandlerId) :
    (setNewWorkHandler work handler).ending (State.access self) s =
      (if (s.works (.user work)).flags ≠ 0 then some (s, Output.just (.int (-eBusy)))
        else some (s.modifyWork (.user work) fun w => { w with handler := .client handler },
          .just (.int 0))).map Prod.swap := by
  unfold setNewWorkHandler
  by_cases unused : (s.works (.user work)).flags = 0#32
  · simp [State.access, unused]
  · simp [State.access, unused]

/-! ## Draining and stopping -/

theorem ending_requestDrain (s : State) (queue : QueueId) (plug : Bool) :
    (requestDrain queue plug).ending (State.access self) s =
      let s := s.queueFlagSet queue workQueueDrainBit
      let s := if plug then s.queueFlagSet queue workQueuePluggedBit else s
      some (.just .waits, (s.notifyLocked queue).setCall self (.draining queue)) := by
  cases plug with
  | false => rfl
  | true => rfl

theorem ending_queueDrain (s : State) (queue : QueueId) (plug : Bool) :
    (queueDrain queue plug).ending (State.access self) s =
      some (s.queueDrain self queue plug).swap := by
  unfold queueDrain State.queueDrain
  cases started : flagTest (s.queues queue).flags workQueueStartedBit with
  | false => simp [State.access, started]
  | true =>
      cases plug with
      | true => simp [State.access, started, ending_requestDrain]
      | false =>
          by_cases settled : (s.queues queue).flags &&&
              (bit workQueueBusyBit ||| bit workQueueDrainBit) = 0#32
          · cases empty : (s.queues queue).pending.isEmpty with
            | true => simp [State.access, started, settled, empty]
            | false => simp [State.access, started, settled, empty, ending_requestDrain]
          · simp [State.access, started, settled, ending_requestDrain]

theorem ending_queueUnplug (s : State) (queue : QueueId) :
    (queueUnplug queue).ending (State.access self) s =
      some (.just (.int (if flagTest (s.queues queue).flags workQueuePluggedBit then 0
        else -eAlready)), s.queueFlagClear queue workQueuePluggedBit) := rfl

theorem ending_stop (s : State) (queue : QueueId) (timeout : Option Nat) :
    (stop queue timeout).ending (State.access self) s =
      some (s.stop self queue timeout).swap := by
  unfold stop State.stop
  cases started : flagTest (s.queues queue).flags workQueueStartedBit with
  | false => simp [State.access, started]
  | true =>
      cases plugged : flagTest (s.queues queue).flags workQueuePluggedBit with
      | false => simp [State.access, started, plugged]
      | true => simp [State.access, started, plugged]

/-! ## The worker loop -/

theorem proceed_of_runs {s : State} {queue : QueueId}
    (runs : (s.queues queue).thread.id = some self) (stays : (s.workers queue).left = false)
    (pc : WorkerPc) : s.proceed self queue pc = s.setWorker queue pc := if_pos ⟨runs, stays⟩

theorem access_get_empty {s : State} {queue : QueueId}
    (head : (SysSlist.get s.nodes (s.queues queue).pending).1 = none) :
    State.access self s (.pendingGet queue) = (none, s) := by
  have empty : (s.queues queue).pending.head = none := by
    unfold SysSlist.get at head
    split at head
    · assumption
    · cases head
  simp [State.access, SysSlist.get, empty, State.setPending, State.modifyQueue]

theorem access_clear_unset {s : State} {queue : QueueId} {position : Nat}
    (unset : flagTest (s.queues queue).flags position = false) :
    State.access self s (.queueFlagTestAndClear queue position) = (false, s) := by
  have same : flagClear (s.queues queue).flags position = (s.queues queue).flags :=
    Masks.clear_of_unread (by simpa [flagTest] using unset)
  simp [State.access, unset, State.queueFlagClear, State.modifyQueue, same]

theorem ending_workerTurn {s : State} {queue : QueueId} (ready : s.workers queue = .atTop)
    (runs : (s.queues queue).thread.id = some self) :
    (workerTurn queue).ending (State.access self) s =
      (match (s.turnLocked queue).workers queue with
        | .running (.user work) handler =>
            some (s.turnLocked queue, (⟨.void, .started work queue handler⟩ : Output))
        | .returned => some ((s.turnLocked queue).leaveLoop queue, .just .void)
        | _ => some (s.turnLocked queue, .just .void)).map Prod.swap := by
  have stays : (s.workers queue).left = false := by rw [ready]; rfl
  unfold workerTurn State.turnLocked
  rw [Program.ending_request]
  cases head : (SysSlist.get s.nodes (s.queues queue).pending).1 with
  | some work =>
      cases work <;>
        simp [State.access, head, State.proceed, State.setPending, State.modifyQueue,
          State.setWorker, State.queueFlagSet, State.workFlagSet, State.workFlagClear,
          State.modifyWork, runs, stays, WorkRef.startObservation, Output.just]
  | none =>
      rw [access_get_empty head]
      dsimp only
      rw [Program.ending_request]
      cases draining : flagTest (s.queues queue).flags workQueueDrainBit with
      | true =>
          simp [State.access, head, draining, State.proceed, State.queueFlagClear,
            State.modifyQueue, State.setWorker, runs, stays]
      | false =>
          rw [access_clear_unset draining]
          cases stopping : flagTest (s.queues queue).flags workQueueStopBit with
          | false =>
              simp [State.access, head, stopping, proceed_of_runs runs stays, State.setWorker]
          | true =>
              simp [State.access, head, stopping, State.proceed, State.modifyQueue,
                State.setWorker, State.leaveLoop, runs]
              cases self with
              | client id => simp [runs, stays]
              | worker id => simp [runs, stays]

theorem ending_completeQueue {s : State} {queue : QueueId} {observation : Observation}
    (runs : (s.queues queue).thread.id = some self) (stays : (s.workers queue).left = false) :
    (completeQueue queue observation).ending (State.access self) s =
      some (⟨.void, observation⟩,
        (s.queueFlagClear queue workCancelingBit).setWorker queue .atTop) := by
  unfold completeQueue
  simp [State.access, State.proceed, State.queueFlagClear, State.modifyQueue, State.setWorker, runs,
    stays]

theorem ending_completeCancel {fuel : Nat} {s : State} {queue : QueueId} {work : WorkRef}
    {observation : Observation} (runs : (s.queues queue).thread.id = some self)
    (stays : (s.workers queue).left = false)
    (room : s.CancellersHaveRoom fuel work) :
    (completeCancel fuel queue work observation).ending (State.access self) s =
      (s.completeCancel fuel queue work).map fun s' => (⟨.void, observation⟩, s') := by
  unfold completeCancel State.completeCancel
  cases canceling : flagTest (s.works work).flags workCancelingBit with
  | false => simp [State.access, canceling, ending_completeQueue runs stays]
  | true =>
      unfold State.finalizeCancelLocked
      generalize cleared : s.workFlagClear work workCancelingBit = middle
      have runs : (middle.queues queue).thread.id = some self := by rw [← cleared]; exact runs
      have stays : (middle.workers queue).left = false := by rw [← cleared]; exact stays
      have room : middle.CancellersHaveRoom fuel work := by rw [← cleared]; exact room
      cases walked : SysSlist.removeFirst fuel middle.cancellerNodes middle.pendingCancels
          (fun wc => (middle.cancellers wc).work = some work) with
      | none => simp [State.access, canceling, cleared, walked]
      | some walk =>
          obtain ⟨found, nodes, cancels⟩ := walk
          cases found with
          | none =>
              simp only [State.access, canceling, cleared, walked, Program.ending_request, if_true,
                Option.map_some, Option.elim_some, Option.bind_eq_bind, Option.bind_some]
              exact ending_completeQueue runs stays
          | some thread =>
              obtain ⟨sem, unlocked⟩ := room thread nodes cancels walked
              simp only [State.access, canceling, cleared, walked, unlocked, if_true,
                Program.ending_request, Option.map_some, Option.elim_some, Option.bind_eq_bind,
                Option.bind_some]
              exact ending_completeQueue runs stays

theorem ending_handlerReturn {fuel : Nat} {s : State} {queue : QueueId} {work : WorkRef}
    (runs : (s.queues queue).thread.id = some self) (stays : (s.workers queue).left = false)
    (roomy : ∀ thread, work = .flusher thread → ∃ sem, (s.flusherSems thread).unlock = .ok sem)
    (room : s.CancellersHaveRoom fuel work) :
    (handlerReturn fuel queue work).ending (State.access self) s =
      (s.completeLocked fuel queue work).map fun s' =>
        (⟨.void, work.finishObservation queue⟩, s') := by
  rw [State.complete_locked_parts]
  unfold handlerReturn State.completeFlush
  generalize cleared : s.workFlagClear work workRunningBit = middle
  have runs : (middle.queues queue).thread.id = some self := by rw [← cleared]; exact runs
  have stays : (middle.workers queue).left = false := by rw [← cleared]; exact stays
  have room : middle.CancellersHaveRoom fuel work := by rw [← cleared]; exact room
  have roomy : ∀ thread, work = .flusher thread →
      ∃ sem, (middle.flusherSems thread).unlock = .ok sem := by rw [← cleared]; exact roomy
  cases flushing : flagTest (middle.works work).flags workFlushingBit with
  | false =>
      cases work with
      | user id =>
          simp only [State.access, flushing, cleared, Program.ending_request, Bool.false_eq_true,
            if_false, Option.bind_some]
          exact ending_completeCancel runs stays room
      | flusher thread =>
          simp only [State.access, flushing, cleared, Program.ending_request, Bool.false_eq_true,
            if_false, Option.bind_some]
          exact ending_completeCancel runs stays room
  | true =>
      cases work with
      | user id => simp [State.access, flushing, cleared, State.finalizeFlushLocked]
      | flusher thread =>
          obtain ⟨sem, unlocked⟩ := roomy thread rfl
          have unlock : ((middle.workFlagClear (.flusher thread) workFlushingBit).flusherSems
              thread).unlock = .ok sem := unlocked
          simp only [State.access, flushing, cleared, State.finalizeFlushLocked, unlock,
            Program.ending_request, if_true, Option.bind_some]
          exact ending_completeCancel runs stays room

end SectionProgram

/-! ## Operations -/

/-- No section of the operation gives a semaphore too often. -/
def SectionOp.HasRoom (s : State) : SectionOp → Prop
  | .handlerReturn _ work fuel =>
      (∀ thread, work = .flusher thread → ∃ sem, (s.flusherSems thread).unlock = .ok sem) ∧
        s.CancellersHaveRoom fuel work
  | _ => True

theorem running_of_running? {pc : WorkerPc} {work : WorkRef} (running : pc.running? = some work) :
    ∃ handler, pc = .running work handler := by
  cases pc with
  | running item handler =>
      cases running
      exact ⟨handler, rfl⟩
  | _ => cases running

/-- An operation that nothing comes between is the step of its action. -/
theorem ending_body {s : State} {op : SectionOp} (ready : op.ready s self = true)
    (room : op.HasRoom s) :
    (op.body self).ending (State.access self) s =
      (s.step op.fuel (op.action self)).map Prod.swap := by
  cases op with
  | submit queue work =>
      have acts : s.canAct self = true := ready
      simp only [SectionOp.action, State.step, acts, if_true]
      exact SectionProgram.ending_submitted s work (SectionProgram.ending_submitLocked s _ _)
  | workSubmitToQueue queue work =>
      have acts : s.canAct self = true := ready
      simp only [SectionOp.action, State.step, acts, if_true]
      cases queue with
      | none => exact SectionProgram.ending_submitted s work (SectionProgram.ending_resubmit s _)
      | some queue =>
          exact SectionProgram.ending_submitted s work (SectionProgram.ending_submitLocked s _ _)
  | workFlush work =>
      have acts : s.canAct self = true := ready
      simp only [SectionOp.action, State.step, acts, if_true]
      exact SectionProgram.ending_workFlush s work
  | workCancel work fuel =>
      have acts : s.canAct self = true := ready
      simp only [SectionOp.action, State.step, acts, if_true]
      exact SectionProgram.ending_workCancel fuel s work
  | workCancelSync work fuel =>
      have acts : s.canAct self = true := ready
      simp only [SectionOp.action, State.step, acts, if_true]
      exact SectionProgram.ending_workCancelSync fuel s work
  | setNewWorkHandler work handler =>
      have acts : s.canAct self = true := ready
      simp only [SectionOp.action, State.step, acts, if_true]
      exact SectionProgram.ending_setNewWorkHandler s work handler
  | queueDrain queue plug =>
      have acts : s.canAct self = true := ready
      simp only [SectionOp.action, State.step, acts, if_true]
      exact SectionProgram.ending_queueDrain s queue plug
  | queueUnplug queue =>
      have acts : s.canAct self = true := ready
      simp only [SectionOp.action, State.step, acts, if_true]
      exact SectionProgram.ending_queueUnplug s queue
  | stop queue timeout =>
      have acts : s.canAct self = true := ready
      simp only [SectionOp.action, State.step, acts, if_true]
      exact SectionProgram.ending_stop s queue timeout
  | workerTurn queue =>
      obtain ⟨top, runs⟩ := of_decide_eq_true ready
      simp only [SectionOp.action, State.step, top, if_true]
      exact SectionProgram.ending_workerTurn top runs
  | handlerReturn queue work fuel =>
      obtain ⟨running, runs, idle⟩ := of_decide_eq_true ready
      obtain ⟨handler, inside⟩ := running_of_running? running
      have stays : (s.workers queue).left = false := by rw [inside]; rfl
      simp only [SectionOp.action, State.step, inside, runs, handlerMayEnd, idle, decide_true,
        if_true, Option.map_map]
      exact SectionProgram.ending_handlerReturn runs stays room.1 room.2

end AresCommon.WorkQueue
