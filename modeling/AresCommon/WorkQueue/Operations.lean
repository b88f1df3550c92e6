import AresCommon.WorkQueue.State

/-!
# The critical sections of `work_q.cpp`

Every function here runs while the global lock is held, and is translated line
by line. `none` is an execution that has no result: a member call that would
dereference a null queue pointer, a list walk that does not end within the
given fuel, or a semaphore given more often than it permits. None of these
happens in a reachable state (`Coupled.progress`).
-/

namespace AresCommon.WorkQueue

open AresCommon.DataStructures AresCommon.DataStructures.Slist
open AresCommon.Synchronization

set_option autoImplicit false

def eBusy : Int := 16
def eNoDev : Int := 19
def eInval : Int := 22
def eTimedOut : Int := 110
def eAlready : Int := 114

/-- `put_nonblocking` on `notifyq` and `drainq`. They overwrite, so the error
branch is dead (`BoundedQueue.put_nonblocking_overwrite`). -/
def TokenQueue.put (tokens : TokenQueue) (item : UInt8) : TokenQueue :=
  match tokens.putNonblocking item with
  | .ok tokens => tokens
  | .error _ => tokens

namespace State

def workFlagSet (s : State) (work : WorkRef) (position : Nat) : State :=
  s.modifyWork work fun w => { w with flags := flagSet w.flags position }

def workFlagClear (s : State) (work : WorkRef) (position : Nat) : State :=
  s.modifyWork work fun w => { w with flags := flagClear w.flags position }

def queueFlagSet (s : State) (queue : QueueId) (position : Nat) : State :=
  s.modifyQueue queue fun q => { q with flags := flagSet q.flags position }

def queueFlagClear (s : State) (queue : QueueId) (position : Nat) : State :=
  s.modifyQueue queue fun q => { q with flags := flagClear q.flags position }

def notifyLocked (s : State) (queue : QueueId) : State :=
  s.modifyQueue queue fun q => { q with notifyq := q.notifyq.put 0 }

/-! ## Submission -/

/-- `int WorkQ::submit_locked(Work *)`, called by thread `self`. -/
def submitLockedMember (s : State) (this : QueueId) (self : Thread) (work : WorkRef) :
    State × Int :=
  let queue := s.queues this
  let chained := queue.thread.id = some self
  let draining := flagTest queue.flags workQueueDrainBit
  let plugged := flagTest queue.flags workQueuePluggedBit
  if !flagTest queue.flags workQueueStartedBit then (s, -eNoDev)
  else if (draining && !chained) || (plugged && !draining) then (s, -eBusy)
  else
    let s := s.setPending this (SysSlist.append s.nodes queue.pending work)
    (s.notifyLocked this, 1)

/-- `static int WorkQ::submit_locked(Work *, WorkQ **)`; the last component is
what `*queue` holds afterwards. -/
def submitLocked (s : State) (self : Thread) (work : WorkRef) (queue : Option QueueId) :
    Option (State × Int × Option QueueId) :=
  let flags := (s.works work).flags
  if flagTest flags workCancelingBit then some (s, -eBusy, none)
  else if !flagTest flags workQueuedBit then
    let queue := if queue = none then (s.works work).queue else queue
    let (queue, ret) :=
      if flagTest flags workRunningBit then ((s.works work).queue, 2) else (queue, (1 : Int))
    match queue with
    | none => none
    | some target =>
        let (s, rc) := s.submitLockedMember target self work
        if rc < 0 then some (s, rc, none)
        else
          let s := s.workFlagSet work workQueuedBit
          some (s.modifyWork work fun w => { w with queue := some target }, ret, some target)
  else some (s, 0, none)

def resubmit (s : State) (self : Thread) (work : WorkRef) :
    Option (State × Int × Option QueueId) :=
  if (s.works work).queue = none then some (s, -eInval, none)
  else s.submitLocked self work none

/-! ## Flushing -/

/-- The `WorkFlusher` that `work_flush` constructs on the stack of `thread`. -/
def constructFlusher (s : State) (thread : Thread) : State :=
  { s.setFlusherSem thread .locked with
    works := Function.update s.works (.flusher thread) (.ofHandler .handleFlush)
    nodes := Function.update s.nodes (.flusher thread) none }

def initFlusher (s : State) (flusher : WorkRef) : State :=
  s.workFlagSet flusher workFlushingBit

def flusherLocked (s : State) (this : QueueId) (work flusher : WorkRef) : State :=
  let s := s.initFlusher flusher
  let pending := (s.queues this).pending
  if flagTest (s.works work).flags workQueuedBit then
    s.setPending this (SysSlist.insert s.nodes pending (some work) flusher)
  else s.setPending this (SysSlist.prepend s.nodes pending flusher)

def workFlushLocked (s : State) (work flusher : WorkRef) : Option (State × Bool) :=
  let needFlush :=
    (s.works work).flags &&& (bit workQueuedBit ||| bit workRunningBit) != 0
  if needFlush then
    match (s.works work).queue with
    | none => none
    | some queue => some ((s.flusherLocked queue work flusher).notifyLocked queue, true)
  else some (s, false)

/-! ## Cancelling -/

def workBusyGetLocked (s : State) (work : WorkRef) : Int :=
  ((s.works work).flags &&& workMask).toNat

/-- `queue->remove_locked(work)`. The member reads its own fields only after it
found QUEUED set, so that the call through a null pointer for an item that was
never submitted does nothing. -/
def removeLocked (fuel : Nat) (s : State) (this : Option QueueId) (work : WorkRef) :
    Option State :=
  let queued := flagTest (s.works work).flags workQueuedBit
  let s := s.workFlagClear work workQueuedBit
  if queued then
    match this with
    | none => none
    | some queue =>
        (SysSlist.findAndRemove fuel s.nodes (s.queues queue).pending work).map
          fun found => s.setPending queue found.2
  else some s

def cancelAsyncLocked (fuel : Nat) (s : State) (work : WorkRef) : Option (State × Int) := do
  let s ← (if flagTest (s.works work).flags workCancelingBit then some s
    else s.removeLocked fuel (s.works work).queue work)
  let ret := s.workBusyGetLocked work
  if ret ≠ 0 then
    let s := s.workFlagSet work workCancelingBit
    return (s, s.workBusyGetLocked work)
  else return (s, ret)

def constructCanceller (s : State) (thread : Thread) : State :=
  { s.setCanceller thread .fresh with
    cancellerNodes := Function.update s.cancellerNodes thread none }

def initCanceller (s : State) (canceller : Thread) (work : WorkRef) : State :=
  let s := s.setCanceller canceller { s.cancellers canceller with work := some work }
  let list := SysSlist.append s.cancellerNodes s.pendingCancels canceller
  { s with cancellerNodes := list.1, pendingCancels := list.2 }

def cancelSyncLocked (s : State) (canceller : Thread) (work : WorkRef) : State × Bool :=
  if flagTest (s.works work).flags workCancelingBit then
    (s.initCanceller canceller work, true)
  else (s, false)

/-! ## The worker loop -/

/-- The turn that `work_queue_main` takes at the top of its loop. -/
def turnLocked (s : State) (queue : QueueId) : State :=
  let q := s.queues queue
  let (node, pending) := SysSlist.get s.nodes q.pending
  match node with
  | some work =>
      let s := s.setPending queue (s.nodes, pending)
      let s := s.queueFlagSet queue workQueueBusyBit
      let s := s.workFlagSet work workRunningBit
      let s := s.workFlagClear work workQueuedBit
      s.setWorker queue (.running work (s.works work).handler)
  | none =>
      if flagTest q.flags workQueueDrainBit then
        let s := s.queueFlagClear queue workQueueDrainBit
        let s := s.modifyQueue queue fun q => { q with drainq := q.drainq.put 1 }
        s.setWorker queue .parked
      else if flagTest q.flags workQueueStopBit then
        let s := s.modifyQueue queue fun q => { q with flags := 0 }
        s.setWorker queue .returned
      else s.setWorker queue .parked

/-- `container_of` finds the flusher from its embedded item. -/
def finalizeFlushLocked (s : State) (work : WorkRef) : Option State :=
  match work with
  | .user _ => none
  | .flusher thread =>
      let s := s.workFlagClear work workFlushingBit
      match (s.flusherSems thread).unlock with
      | .error _ => none
      | .ok sem => some (s.setFlusherSem thread sem)

def finalizeCancelLocked (fuel : Nat) (s : State) (work : WorkRef) : Option State :=
  let s := s.workFlagClear work workCancelingBit
  match SysSlist.removeFirst fuel s.cancellerNodes s.pendingCancels
      (fun wc => (s.cancellers wc).work = some work) with
  | none => none
  | some (found, nodes, pendingCancels) =>
      let s := { s with cancellerNodes := nodes, pendingCancels := pendingCancels }
      match found with
      | none => some s
      | some wc =>
          match (s.cancellers wc).sem.unlock with
          | .error _ => none
          | .ok sem => some (s.setCanceller wc { s.cancellers wc with sem := sem })

/-- The critical section after the handler has returned. It clears BUSY under
the name of CANCELING. -/
def completeLocked (fuel : Nat) (s : State) (queue : QueueId) (work : WorkRef) :
    Option State := do
  let s := s.workFlagClear work workRunningBit
  let s ← (if flagTest (s.works work).flags workFlushingBit then s.finalizeFlushLocked work
    else some s)
  let s ← (if flagTest (s.works work).flags workCancelingBit then
      s.finalizeCancelLocked fuel work
    else some s)
  let s := s.queueFlagClear queue workCancelingBit
  return s.setWorker queue .atTop

def completeFlush (s : State) (work : WorkRef) : Option State :=
  let s := s.workFlagClear work workRunningBit
  if flagTest (s.works work).flags workFlushingBit then s.finalizeFlushLocked work else some s

def completeCancel (fuel : Nat) (s : State) (queue : QueueId) (work : WorkRef) :
    Option State := do
  let s ← (if flagTest (s.works work).flags workCancelingBit then
      s.finalizeCancelLocked fuel work
    else some s)
  let s := s.queueFlagClear queue workCancelingBit
  return s.setWorker queue .atTop

theorem complete_locked_parts (fuel : Nat) (s : State) (queue : QueueId) (work : WorkRef) :
    s.completeLocked fuel queue work =
      (s.completeFlush work).bind fun s => s.completeCancel fuel queue work := rfl

end State

end AresCommon.WorkQueue
