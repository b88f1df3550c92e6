import AresCommon.Foundation.Program
import AresCommon.WorkQueue.Abstract

/-!
# The critical sections, access by access

The entry points of `work_q.cpp` and the two sections of `work_queue_main` as programs:
every flag operation, list operation, token and semaphore operation is a call of its own.
The last calls of a section move the thread on: into a blocking call, or to another place
in the worker loop. A flusher or a canceller, which nobody knows until its thread has the
lock, is constructed by the first call.
-/

namespace AresCommon.WorkQueue

open AresCommon.DataStructures AresCommon.DataStructures.Slist
open AresCommon.Foundation AresCommon.Synchronization

set_option autoImplicit false

/-! ## Accesses -/

inductive Access where
  | workFlags (work : WorkRef)
  | workFlagTest (work : WorkRef) (position : Nat)
  | workFlagSet (work : WorkRef) (position : Nat)
  | workFlagClear (work : WorkRef) (position : Nat)
  | workFlagTestAndClear (work : WorkRef) (position : Nat)
  | workQueue (work : WorkRef)
  | setWorkQueue (work : WorkRef) (queue : QueueId)
  | workHandler (work : WorkRef)
  | setWorkHandler (work : WorkRef) (handler : WorkHandler)
  | queueFlags (queue : QueueId)
  | queueFlagTest (queue : QueueId) (position : Nat)
  | queueFlagSet (queue : QueueId) (position : Nat)
  | queueFlagClear (queue : QueueId) (position : Nat)
  | queueFlagTestAndClear (queue : QueueId) (position : Nat)
  | queueFlagsSet (queue : QueueId) (flags : Flags)
  /-- `_thread.get_id()` -/
  | threadId (queue : QueueId)
  | pendingIsEmpty (queue : QueueId)
  | pendingAppend (queue : QueueId) (work : WorkRef)
  | pendingPrepend (queue : QueueId) (work : WorkRef)
  | pendingInsert (queue : QueueId) (prev work : WorkRef)
  | pendingGet (queue : QueueId)
  | pendingFindAndRemove (queue : QueueId) (work : WorkRef) (fuel : Nat)
  | notifyqPut (queue : QueueId)
  | drainqPut (queue : QueueId) (item : UInt8)
  /-- the `WorkFlusher`, the `WorkCanceller` on the stack of the thread -/
  | constructFlusher
  | constructCanceller
  | cancellerSetWork (work : WorkRef)
  | cancelsAppend
  | cancelsRemoveFirst (work : WorkRef) (fuel : Nat)
  | flusherUnlock (thread : Thread)
  | cancellerUnlock (thread : Thread)
  /-- the thread goes on to wait in a blocking call -/
  | enter (call : Call)
  /-- the worker goes on elsewhere in the loop of its queue, or out of it -/
  | proceed (queue : QueueId) (pc : WorkerPc)
  | leave (queue : QueueId)
  deriving DecidableEq, Repr

@[reducible]
def AccessReply : Access → Type
  | .workFlags _ => Flags
  | .workFlagTest _ _ => Bool
  | .workFlagTestAndClear _ _ => Bool
  | .workQueue _ => Option QueueId
  | .workHandler _ => WorkHandler
  | .queueFlags _ => Flags
  | .queueFlagTest _ _ => Bool
  | .queueFlagTestAndClear _ _ => Bool
  | .threadId _ => Option Thread
  | .pendingIsEmpty _ => Bool
  | .pendingGet _ => Option WorkRef
  | .pendingFindAndRemove _ _ _ => Bool
  | .cancelsRemoveFirst _ _ => Option (Option Thread)
  | _ => Unit

namespace State

/-- A thread moves the worker of the queue that it runs, as long as that is in the loop. -/
def proceed (s : State) (self : Thread) (queue : QueueId) (pc : WorkerPc) : State :=
  if (s.queues queue).thread.id = some self ∧ (s.workers queue).left = false then
    s.setWorker queue pc
  else s

/-- What an access of `self` gives back, and what it does. A list walk reports whether its
fuel was enough; a semaphore is never full when it is unlocked. -/
def access (self : Thread) (s : State) : (call : Access) → AccessReply call × State
  | .workFlags work => ((s.works work).flags, s)
  | .workFlagTest work position => (flagTest (s.works work).flags position, s)
  | .workFlagSet work position => ((), s.workFlagSet work position)
  | .workFlagClear work position => ((), s.workFlagClear work position)
  | .workFlagTestAndClear work position =>
      (flagTest (s.works work).flags position, s.workFlagClear work position)
  | .workQueue work => ((s.works work).queue, s)
  | .setWorkQueue work queue => ((), s.modifyWork work fun w => { w with queue := some queue })
  | .workHandler work => ((s.works work).handler, s)
  | .setWorkHandler work handler => ((), s.modifyWork work fun w => { w with handler })
  | .queueFlags queue => ((s.queues queue).flags, s)
  | .queueFlagTest queue position => (flagTest (s.queues queue).flags position, s)
  | .queueFlagSet queue position => ((), s.queueFlagSet queue position)
  | .queueFlagClear queue position => ((), s.queueFlagClear queue position)
  | .queueFlagTestAndClear queue position =>
      (flagTest (s.queues queue).flags position, s.queueFlagClear queue position)
  | .queueFlagsSet queue flags => ((), s.modifyQueue queue fun q => { q with flags })
  | .threadId queue => ((s.queues queue).thread.id, s)
  | .pendingIsEmpty queue => ((s.queues queue).pending.isEmpty, s)
  | .pendingAppend queue work =>
      ((), s.setPending queue (SysSlist.append s.nodes (s.queues queue).pending work))
  | .pendingPrepend queue work =>
      ((), s.setPending queue (SysSlist.prepend s.nodes (s.queues queue).pending work))
  | .pendingInsert queue prev work =>
      ((), s.setPending queue (SysSlist.insert s.nodes (s.queues queue).pending (some prev) work))
  | .pendingGet queue =>
      let got := SysSlist.get s.nodes (s.queues queue).pending
      (got.1, s.setPending queue (s.nodes, got.2))
  | .pendingFindAndRemove queue work fuel =>
      let walk := SysSlist.findAndRemove fuel s.nodes (s.queues queue).pending work
      (walk.isSome, walk.elim s fun found => s.setPending queue found.2)
  | .notifyqPut queue => ((), s.notifyLocked queue)
  | .drainqPut queue item =>
      ((), s.modifyQueue queue fun q => { q with drainq := q.drainq.put item })
  | .constructFlusher => ((), s.constructFlusher self)
  | .constructCanceller => ((), s.constructCanceller self)
  | .cancellerSetWork work =>
      ((), s.setCanceller self { s.cancellers self with work := some work })
  | .cancelsAppend =>
      let list := SysSlist.append s.cancellerNodes s.pendingCancels self
      ((), { s with cancellerNodes := list.1, pendingCancels := list.2 })
  | .cancelsRemoveFirst work fuel =>
      let walk := SysSlist.removeFirst fuel s.cancellerNodes s.pendingCancels
        fun wc => (s.cancellers wc).work = some work
      (walk.map Prod.fst, walk.elim s fun found =>
        { s with cancellerNodes := found.2.1, pendingCancels := found.2.2 })
  | .flusherUnlock thread =>
      match (s.flusherSems thread).unlock with
      | .error _ => ((), s)
      | .ok sem => ((), s.setFlusherSem thread sem)
  | .cancellerUnlock thread =>
      match (s.cancellers thread).sem.unlock with
      | .error _ => ((), s)
      | .ok sem => ((), s.setCanceller thread { s.cancellers thread with sem })
  | .enter call => ((), s.setCall self call)
  | .proceed queue pc => ((), s.proceed self queue pc)
  | .leave queue =>
      ((), if (s.queues queue).thread.id = some self then s.leaveLoop queue else s)

end State

/-! ## Programs -/

abbrev SectionProgram (Result : Type) : Type := Program Access AccessReply Result

namespace SectionProgram

def submitLockedMember (this : QueueId) (self : Thread) (work : WorkRef) :
    SectionProgram Int := do
  let id : Option Thread ← Program.request (Access.threadId this)
  let chained := id = some self
  let draining : Bool ← Program.request (Access.queueFlagTest this workQueueDrainBit)
  let plugged : Bool ← Program.request (Access.queueFlagTest this workQueuePluggedBit)
  let started : Bool ← Program.request (Access.queueFlagTest this workQueueStartedBit)
  if !started then pure (-eNoDev)
  else if (draining && !chained) || (plugged && !draining) then pure (-eBusy)
  else
    Program.request (Access.pendingAppend this work)
    Program.request (Access.notifyqPut this)
    pure 1

def submitTo (self : Thread) (work : WorkRef) (queue : Option QueueId) (ret : Int) :
    SectionProgram (Int × Option QueueId) :=
  match queue with
  | none => .stuck
  | some target => do
      let rc ← submitLockedMember target self work
      if rc < 0 then pure (rc, none)
      else
        Program.request (Access.workFlagSet work workQueuedBit)
        Program.request (Access.setWorkQueue work target)
        pure (ret, some target)

/-- A running item goes to the queue that it runs on. -/
def submitUnqueued (self : Thread) (work : WorkRef) (queue : Option QueueId) :
    SectionProgram (Int × Option QueueId) := do
  let running : Bool ← Program.request (Access.workFlagTest work workRunningBit)
  if running then
    let home : Option QueueId ← Program.request (Access.workQueue work)
    submitTo self work home 2
  else submitTo self work queue 1

def submitLocked (self : Thread) (work : WorkRef) (queue : Option QueueId) :
    SectionProgram (Int × Option QueueId) := do
  let canceling : Bool ← Program.request (Access.workFlagTest work workCancelingBit)
  if canceling then pure (-eBusy, none)
  else
    let queued : Bool ← Program.request (Access.workFlagTest work workQueuedBit)
    if queued then pure (0, none)
    else
      match queue with
      | none => do
          let home : Option QueueId ← Program.request (Access.workQueue work)
          submitUnqueued self work home
      | some _ => submitUnqueued self work queue

def resubmit (self : Thread) (work : WorkRef) : SectionProgram (Int × Option QueueId) := do
  let home : Option QueueId ← Program.request (Access.workQueue work)
  if home = none then pure (-eInval, none)
  else submitLocked self work none

def submitted (work : UserId) (submission : SectionProgram (Int × Option QueueId)) :
    SectionProgram Output := do
  let handler : WorkHandler ← Program.request (Access.workHandler (.user work))
  let (rc, queue) ← submission
  match queue with
  | some target => pure ⟨.int rc, .accepted work target handler⟩
  | none => pure ⟨.int rc, .none⟩

def flusherLocked (this : QueueId) (work flusher : WorkRef) : SectionProgram Unit := do
  Program.request (Access.workFlagSet flusher workFlushingBit)
  let queued : Bool ← Program.request (Access.workFlagTest work workQueuedBit)
  if queued then Program.request (Access.pendingInsert this work flusher)
  else Program.request (Access.pendingPrepend this flusher)

/-- `Work::work_flush` up to its wait -/
def workFlush (self : Thread) (work : UserId) : SectionProgram Output := do
  Program.request Access.constructFlusher
  let flags : Flags ← Program.request (Access.workFlags (.user work))
  if flags &&& (bit workQueuedBit ||| bit workRunningBit) != 0 then
    let home : Option QueueId ← Program.request (Access.workQueue (.user work))
    match home with
    | none => .stuck
    | some queue =>
        flusherLocked queue (.user work) (.flusher self)
        Program.request (Access.notifyqPut queue)
        Program.request (Access.enter (.flushing work queue))
        pure (.just .waits)
  else pure (.just (.bool false))

/-- Whether the item was queued. -/
def removeLocked (fuel : Nat) (work : WorkRef) : SectionProgram Bool := do
  let home : Option QueueId ← Program.request (Access.workQueue work)
  let queued : Bool ← Program.request (Access.workFlagTestAndClear work workQueuedBit)
  if queued then
    match home with
    | none => .stuck
    | some queue =>
        let ended : Bool ← Program.request (Access.pendingFindAndRemove queue work fuel)
        if ended then pure true else .stuck
  else pure false

def busy (flags : Flags) : Int := (flags &&& workMask).toNat

/-- The part of `cancel_async_locked` behind the removal. -/
def markCanceling (work : WorkRef) : SectionProgram Int := do
  let flags : Flags ← Program.request (Access.workFlags work)
  if busy flags ≠ 0 then
    Program.request (Access.workFlagSet work workCancelingBit)
    let flags : Flags ← Program.request (Access.workFlags work)
    pure (busy flags)
  else pure (busy flags)

/-- `Work::cancel_async_locked`, and whether it took the item out of its queue -/
def cancelAsyncLocked (fuel : Nat) (work : UserId) : SectionProgram (Int × Observation) := do
  let canceling : Bool ← Program.request (Access.workFlagTest (.user work) workCancelingBit)
  if canceling then
    let ret ← markCanceling (.user work)
    pure (ret, .none)
  else
    let removed ← removeLocked fuel (.user work)
    let ret ← markCanceling (.user work)
    pure (ret, if removed then .removed work else .none)

def workCancel (fuel : Nat) (work : UserId) : SectionProgram Output := do
  let (ret, observation) ← cancelAsyncLocked fuel work
  pure ⟨.int ret, observation⟩

def workCancelSync (fuel : Nat) (work : UserId) : SectionProgram Output := do
  Program.request Access.constructCanceller
  let flags : Flags ← Program.request (Access.workFlags (.user work))
  if busy flags ≠ 0 then
    let (_, observation) ← cancelAsyncLocked fuel work
    let waits : Bool ← Program.request (Access.workFlagTest (.user work) workCancelingBit)
    if waits then
      Program.request (Access.cancellerSetWork (.user work))
      Program.request Access.cancelsAppend
      Program.request (Access.enter (.cancelling work))
      pure ⟨.waits, observation⟩
    else pure ⟨.bool true, observation⟩
  else pure (.just (.bool false))

def setNewWorkHandler (work : UserId) (handler : HandlerId) : SectionProgram Output := do
  let flags : Flags ← Program.request (Access.workFlags (.user work))
  if flags ≠ 0 then pure (.just (.int (-eBusy)))
  else
    Program.request (Access.setWorkHandler (.user work) (.client handler))
    pure (.just (.int 0))

/-- What `queue_drain` does when it has to wait. -/
def requestDrain (queue : QueueId) (plug : Bool) : SectionProgram Output := do
  Program.request (Access.queueFlagSet queue workQueueDrainBit)
  if plug then
    Program.request (Access.queueFlagSet queue workQueuePluggedBit)
    Program.request (Access.notifyqPut queue)
    Program.request (Access.enter (.draining queue))
    pure (.just .waits)
  else
    Program.request (Access.notifyqPut queue)
    Program.request (Access.enter (.draining queue))
    pure (.just .waits)

def queueDrain (queue : QueueId) (plug : Bool) : SectionProgram Output := do
  let started : Bool ← Program.request (Access.queueFlagTest queue workQueueStartedBit)
  if !started then pure (.just (.int (-eNoDev)))
  else
    let flags : Flags ← Program.request (Access.queueFlags queue)
    if (flags &&& (bit workQueueBusyBit ||| bit workQueueDrainBit) != 0) || plug then
      requestDrain queue plug
    else
      let empty : Bool ← Program.request (Access.pendingIsEmpty queue)
      if !empty then requestDrain queue plug else pure (.just (.int 0))

def queueUnplug (queue : QueueId) : SectionProgram Output := do
  let plugged : Bool ← Program.request (Access.queueFlagTestAndClear queue workQueuePluggedBit)
  pure (.just (.int (if plugged then 0 else -eAlready)))

def stop (queue : QueueId) (timeout : Option Nat) : SectionProgram Output := do
  let started : Bool ← Program.request (Access.queueFlagTest queue workQueueStartedBit)
  if !started then pure (.just (.int (-eAlready)))
  else
    let plugged : Bool ← Program.request (Access.queueFlagTest queue workQueuePluggedBit)
    if !plugged then pure (.just (.int (-eBusy)))
    else
      Program.request (Access.queueFlagSet queue workQueueStopBit)
      Program.request (Access.notifyqPut queue)
      Program.request (Access.enter (.joining queue timeout))
      pure (.just .waits)

/-- `work_queue_main` from the top of its loop to the first `unlock` -/
def workerTurn (queue : QueueId) : SectionProgram Output := do
  let node : Option WorkRef ← Program.request (Access.pendingGet queue)
  match node with
  | some work =>
      Program.request (Access.queueFlagSet queue workQueueBusyBit)
      Program.request (Access.workFlagSet work workRunningBit)
      Program.request (Access.workFlagClear work workQueuedBit)
      let handler : WorkHandler ← Program.request (Access.workHandler work)
      Program.request (Access.proceed queue (.running work handler))
      pure ⟨.void, work.startObservation queue handler⟩
  | none =>
      let drain : Bool ← Program.request (Access.queueFlagTestAndClear queue workQueueDrainBit)
      if drain then
        Program.request (Access.drainqPut queue 1)
        Program.request (Access.proceed queue .parked)
        pure (.just .void)
      else
        let stop : Bool ← Program.request (Access.queueFlagTest queue workQueueStopBit)
        if stop then
          Program.request (Access.queueFlagsSet queue 0)
          Program.request (Access.leave queue)
          Program.request (Access.proceed queue .returned)
          pure (.just .void)
        else
          Program.request (Access.proceed queue .parked)
          pure (.just .void)

/-- The completion of an item from `flag_clear(&queue->flags, WORK_CANCELING_BIT)` on. -/
def completeQueue (queue : QueueId) (observation : Observation) : SectionProgram Output := do
  Program.request (Access.queueFlagClear queue workCancelingBit)
  let _ : Bool ← Program.request (Access.queueFlagTest queue workQueueNoYieldBit)
  Program.request (Access.proceed queue .atTop)
  pure ⟨.void, observation⟩

/-- The completion from the test of CANCELING on; `finalize_cancel_locked`. -/
def completeCancel (fuel : Nat) (queue : QueueId) (work : WorkRef) (observation : Observation) :
    SectionProgram Output := do
  let canceling : Bool ← Program.request (Access.workFlagTest work workCancelingBit)
  if canceling then
    Program.request (Access.workFlagClear work workCancelingBit)
    let walk : Option (Option Thread) ← Program.request (Access.cancelsRemoveFirst work fuel)
    match walk with
    | none => .stuck
    | some none => completeQueue queue observation
    | some (some wc) =>
        Program.request (Access.cancellerUnlock wc)
        completeQueue queue observation
  else completeQueue queue observation

/-- `work_queue_main` from the second `lock` to the last `unlock` -/
def handlerReturn (fuel : Nat) (queue : QueueId) (work : WorkRef) : SectionProgram Output := do
  Program.request (Access.workFlagClear work workRunningBit)
  let flushing : Bool ← Program.request (Access.workFlagTest work workFlushingBit)
  match work with
  | .user id =>
      if flushing then .stuck else completeCancel fuel queue work (.finished id queue)
  | .flusher thread =>
      if flushing then
        Program.request (Access.workFlagClear work workFlushingBit)
        Program.request (Access.flusherUnlock thread)
        completeCancel fuel queue work .none
      else completeCancel fuel queue work .none

end SectionProgram

/-! ## Operations -/

def WorkerPc.running? : WorkerPc → Option WorkRef
  | .running work _ => some work
  | _ => none

/-- The operations that take the lock, with the fuel of their list walks. -/
inductive SectionOp where
  | submit (queue : QueueId) (work : UserId)
  | workSubmitToQueue (queue : Option QueueId) (work : UserId)
  | workFlush (work : UserId)
  | workCancel (work : UserId) (fuel : Nat)
  | workCancelSync (work : UserId) (fuel : Nat)
  | setNewWorkHandler (work : UserId) (handler : HandlerId)
  | queueDrain (queue : QueueId) (plug : Bool)
  | queueUnplug (queue : QueueId)
  | stop (queue : QueueId) (timeout : Option Nat)
  | workerTurn (queue : QueueId)
  | handlerReturn (queue : QueueId) (work : WorkRef) (fuel : Nat)
  deriving DecidableEq, Repr

namespace SectionOp

def body (self : Thread) : SectionOp → SectionProgram Output
  | .submit queue work =>
      .submitted work (.submitLocked self (.user work) (some queue))
  | .workSubmitToQueue (some queue) work =>
      .submitted work (.submitLocked self (.user work) (some queue))
  | .workSubmitToQueue none work => .submitted work (.resubmit self (.user work))
  | .workFlush work => .workFlush self work
  | .workCancel work fuel => .workCancel fuel work
  | .workCancelSync work fuel => .workCancelSync fuel work
  | .setNewWorkHandler work handler => .setNewWorkHandler work handler
  | .queueDrain queue plug => .queueDrain queue plug
  | .queueUnplug queue => .queueUnplug queue
  | .stop queue timeout => .stop queue timeout
  | .workerTurn queue => .workerTurn queue
  | .handlerReturn queue work fuel => .handlerReturn fuel queue work

def action (self : Thread) : SectionOp → Action
  | .submit queue work => .submit self queue (some work)
  | .workSubmitToQueue queue work => .workSubmitToQueue self queue (some work)
  | .workFlush work => .workFlush self work
  | .workCancel work _ => .workCancel self work
  | .workCancelSync work _ => .workCancelSync self work
  | .setNewWorkHandler work handler => .setNewWorkHandler self work handler
  | .queueDrain queue plug => .queueDrain self queue plug
  | .queueUnplug queue => .queueUnplug self queue
  | .stop queue timeout => .stop self queue timeout
  | .workerTurn queue => .workerTurn queue
  | .handlerReturn queue _ _ => .handlerReturn queue

def fuel : SectionOp → Nat
  | .workCancel _ fuel => fuel
  | .workCancelSync _ fuel => fuel
  | .handlerReturn _ _ fuel => fuel
  | _ => 0

/-- When a thread may enter an operation. The sections of a worker loop are entered by the
thread that runs the loop. -/
def ready (s : State) (self : Thread) : SectionOp → Bool
  | .workerTurn queue => s.workers queue = .atTop ∧ (s.queues queue).thread.id = some self
  | .handlerReturn queue work _ =>
      (s.workers queue).running? = some work ∧ (s.queues queue).thread.id = some self ∧
        s.calls self = .idle
  | _ => s.canAct self

end SectionOp

end AresCommon.WorkQueue
