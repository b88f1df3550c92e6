import AresCommon.DataStructures.Slist
import AresCommon.Synchronization.Semaphore
import AresCommon.WorkQueue.Flags

/-!
# The shared state of all work queues

Everything the global spinlock protects, the semaphores and token queues that
threads block on, and where every thread stands. Objects are named by their
addresses; there is no bound on how many work items, queues and client threads
take part. A `WorkFlusher` and a `WorkCanceller` live on the stack of the
blocking call that made them, and a thread is in at most one such call, so they
are named by their thread.
-/

namespace AresCommon.WorkQueue

open AresCommon.DataStructures AresCommon.DataStructures.Slist
open AresCommon.Synchronization

set_option autoImplicit false

structure QueueId where
  address : Nat
  deriving DecidableEq, Repr

/-- The address of a `Work` that a client owns. -/
structure UserId where
  address : Nat
  deriving DecidableEq, Repr

structure ClientId where
  index : Nat
  deriving DecidableEq, Repr

structure HandlerId where
  index : Nat
  deriving DecidableEq, Repr

/-- Client threads, and the thread that `WorkQ::start` creates for a queue. -/
inductive Thread where
  | client (id : ClientId)
  | worker (queue : QueueId)
  deriving DecidableEq, Repr

/-- A `Work *`: a client's item, or the item embedded in a `WorkFlusher`. -/
inductive WorkRef where
  | user (id : UserId)
  | flusher (thread : Thread)
  deriving DecidableEq, Repr

/-- `work_handler_t`: the static `handle_flush`, or a client's function. -/
inductive WorkHandler where
  | handleFlush
  | client (id : HandlerId)
  deriving DecidableEq, Repr

/-- `Work` without its list node; the `next` pointers of all nodes are kept in
`State.nodes`. -/
structure Work where
  flags : Flags
  queue : Option QueueId
  handler : WorkHandler

def Work.ofHandler (handler : WorkHandler) : Work where
  flags := 0
  queue := none
  handler := handler

structure WorkCanceller where
  work : Option WorkRef
  sem : Semaphore 1

def WorkCanceller.fresh : WorkCanceller where
  work := none
  sem := .locked

/-- The part of `WorkQConfig` that changes what a queue does to its items; the
name and the unused work timeout are left out. -/
structure WorkQConfig where
  noYield : Bool
  essential : Bool
  deriving DecidableEq, Repr

/-- The part of `Task` that a work queue relies on: whether an escaping
exception aborts the program, the id of the thread that runs the handler, and
whether the `std::thread` object has a thread to join. -/
structure Task where
  essential : Bool
  id : Option Thread
  joinable : Bool
  deriving DecidableEq, Repr

abbrev TokenQueue := BoundedQueue UInt8 1 true

structure WorkQ where
  thread : Task
  pending : SysSlist WorkRef
  notifyq : TokenQueue
  drainq : TokenQueue
  flags : Flags

def WorkQ.constructed : WorkQ where
  thread := { essential := false, id := none, joinable := false }
  pending := SysSlist.init
  notifyq := .uninitialised fun _ => 0
  drainq := .uninitialised fun _ => 0
  flags := 0

/-- Where `work_queue_main` stands. `running` lasts from the critical section
that popped the item to the one that completes it. -/
inductive WorkerPc where
  | notStarted
  | atTop
  | parked
  | running (work : WorkRef) (handler : WorkHandler)
  | returned
  | thrown (work : WorkRef)
  deriving DecidableEq, Repr

/-- The item between its pop and its completion; the item of a handler that
threw never gets completed. -/
def WorkerPc.item : WorkerPc → Option WorkRef
  | .running work _ => some work
  | .thrown work => some work
  | _ => none

def WorkerPc.left : WorkerPc → Bool
  | .returned => true
  | .thrown _ => true
  | _ => false

/-- The blocking call a thread is in, if any. `none` as the timeout of a join
is `milliseconds::max()`. -/
inductive Call where
  | idle
  | flushing (work : UserId) (queue : QueueId)
  | cancelling (work : UserId)
  | draining (queue : QueueId)
  | joining (queue : QueueId) (timeout : Option Nat)
  deriving DecidableEq, Repr

structure State where
  works : WorkRef → Work
  nodes : Links WorkRef
  queues : QueueId → WorkQ
  flusherSems : Thread → Semaphore 1
  cancellers : Thread → WorkCanceller
  cancellerNodes : Links Thread
  pendingCancels : SysSlist Thread
  workers : QueueId → WorkerPc
  /-- The queue whose `work_queue_main` a thread is inside. -/
  loops : Thread → Option QueueId
  calls : Thread → Call

/-- Every item constructed with its handler, no queue started. -/
def State.initial (handlers : UserId → HandlerId) : State where
  works
    | .user id => .ofHandler (.client (handlers id))
    | .flusher _ => .ofHandler .handleFlush
  nodes := fun _ => none
  queues := fun _ => .constructed
  flusherSems := fun _ => .locked
  cancellers := fun _ => .fresh
  cancellerNodes := fun _ => none
  pendingCancels := SysSlist.init
  workers := fun _ => .notStarted
  loops := fun _ => none
  calls := fun _ => .idle

/-- A thread runs client code, and may call into the library, when it is in no
blocking call and is either outside every worker loop or inside the handler of
a client's item. -/
def mayAct (call : Call) (loop : Option QueueId) (workers : QueueId → WorkerPc)
    (thread : Thread) : Bool :=
  match call, loop, thread with
  | .idle, some queue, _ =>
      match workers queue with
      | .running (.user _) _ => true
      | _ => false
  | .idle, none, .client _ => true
  | _, _, _ => false

namespace State

def canAct (s : State) (thread : Thread) : Bool :=
  mayAct (s.calls thread) (s.loops thread) s.workers thread

def modifyWork (s : State) (work : WorkRef) (change : Work → Work) : State :=
  { s with works := Function.update s.works work (change (s.works work)) }

def modifyQueue (s : State) (queue : QueueId) (change : WorkQ → WorkQ) : State :=
  { s with queues := Function.update s.queues queue (change (s.queues queue)) }

def setPending (s : State) (queue : QueueId) (list : Links WorkRef × SysSlist WorkRef) :
    State :=
  { s.modifyQueue queue (fun q => { q with pending := list.2 }) with nodes := list.1 }

def setWorker (s : State) (queue : QueueId) (pc : WorkerPc) : State :=
  { s with workers := Function.update s.workers queue pc }

def setFlusherSem (s : State) (thread : Thread) (sem : Semaphore 1) : State :=
  { s with flusherSems := Function.update s.flusherSems thread sem }

def setCanceller (s : State) (thread : Thread) (canceller : WorkCanceller) : State :=
  { s with cancellers := Function.update s.cancellers thread canceller }

def setCall (s : State) (thread : Thread) (call : Call) : State :=
  { s with calls := Function.update s.calls thread call }

end State

end AresCommon.WorkQueue
