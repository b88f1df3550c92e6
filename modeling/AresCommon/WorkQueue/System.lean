import AresCommon.Foundation.Transition
import AresCommon.WorkQueue.Operations

/-!
# Client threads and worker threads, interleaved

One action is one critical section under the global lock, one operation on a
semaphore or token queue that a thread makes without the lock, or the end of a
handler. Between two actions the lock is free, so every state of a run is a
state in which it is free. A critical section and the token operations of other
threads commute, since the section touches a token queue at most once.

A client thread may act at any time it is not blocked; the thread of a worker
loop acts, as any other thread, from inside the handler of a client's item.
-/

namespace AresCommon.WorkQueue

open AresCommon.DataStructures AresCommon.DataStructures.Slist
open AresCommon.Synchronization AresCommon.Foundation.Transition

set_option autoImplicit false

inductive Action where
  | start (self : Thread) (queue : QueueId) (config : Option WorkQConfig)
  | run (self : ClientId) (queue : QueueId) (config : Option WorkQConfig)
  | submit (self : Thread) (queue : QueueId) (work : Option UserId)
  | workSubmitToQueue (self : Thread) (queue : Option QueueId) (work : Option UserId)
  /-- `Work::work_flush` up to its wait, and `flusher.sem.take()` -/
  | workFlush (self : Thread) (work : UserId)
  | flusherTake (self : Thread)
  | workCancel (self : Thread) (work : UserId)
  /-- `Work::work_cancel_sync` up to its wait, and `canceller.sem.take()` -/
  | workCancelSync (self : Thread) (work : UserId)
  | cancellerTake (self : Thread)
  | setNewWorkHandler (self : Thread) (work : UserId) (handler : HandlerId)
  /-- `WorkQ::queue_drain` up to its wait, and `drainq.get()` -/
  | queueDrain (self : Thread) (queue : QueueId) (plug : Bool)
  | drainqGet (self : Thread)
  | queueUnplug (self : Thread) (queue : QueueId)
  /-- `WorkQ::stop` up to its wait, and `_thread.join(timeout)`; `expired` when
  the wait for the future timed out -/
  | stop (self : Thread) (queue : QueueId) (timeout : Option Nat)
  | join (self : Thread) (expired : Bool)
  /-- one turn of `work_queue_main` at the top of its loop -/
  | workerTurn (queue : QueueId)
  /-- `queue->notifyq.get()` -/
  | notifyqGet (queue : QueueId)
  /-- the running handler returns, and its critical section completes the item -/
  | handlerReturn (queue : QueueId)
  /-- the running handler throws; the catch block then unlocks a lock that it does not
  own, which raises in turn, and the loop is left with nothing restored -/
  | handlerThrow (queue : QueueId)
  deriving DecidableEq, Repr

def Action.lockFree : Action → Bool
  | .start _ _ _ | .run _ _ _ | .flusherTake _ | .cancellerTake _ | .drainqGet _ | .join _ _
  | .notifyqGet _ | .handlerThrow _ => true
  | _ => false

/-- What the caller gets back: a value, nothing, an exception, or a wait. -/
inductive Reply where
  | int (rc : Int)
  | bool (value : Bool)
  | void
  | raised
  | waits
  deriving DecidableEq, Repr

/-- What an action does to the submissions of clients' items. -/
inductive Observation where
  | none
  | accepted (work : UserId) (queue : QueueId) (handler : WorkHandler)
  | removed (work : UserId)
  | started (work : UserId) (queue : QueueId) (handler : WorkHandler)
  | finished (work : UserId) (queue : QueueId)
  deriving DecidableEq, Repr

structure Output where
  reply : Reply
  observation : Observation
  deriving DecidableEq, Repr

def Output.just (reply : Reply) : Output := ⟨reply, .none⟩

/-- A handler can end when the thread that runs it is not blocked in a call
the handler made. -/
def handlerMayEnd (calls : Thread → Call) (runner : Option Thread) : Bool :=
  match runner with
  | some thread => calls thread = .idle
  | none => false

namespace State

def workHas (s : State) (work : UserId) (position : Nat) : Bool :=
  flagTest (s.works (.user work)).flags position

def queueHas (s : State) (queue : QueueId) (position : Nat) : Bool :=
  flagTest (s.queues queue).flags position

/-- What `start` and `run` do before they hand over to `work_queue_main`. -/
def launch (s : State) (queue : QueueId) (config : Option WorkQConfig) (runner : Thread)
    (joinable : Bool) : State :=
  let noYield := config.any fun c => c.noYield
  let essential := config.any fun c => c.essential
  let flags := flagSet 0 workQueueStartedBit
  let s := s.modifyQueue queue fun q =>
    { thread := { essential := essential, id := some runner, joinable := joinable }
      pending := SysSlist.init
      notifyq := q.notifyq.clear
      drainq := q.drainq.clear
      flags := if noYield then flagSet flags workQueueNoYieldBit else flags }
  { s.setWorker queue .atTop with loops := Function.update s.loops runner (some queue) }

/-- A client thread that ran the loop by `WorkQ::run` goes on behind that call;
the thread of `WorkQ::start` ends with the loop. -/
def leaveLoop (s : State) (queue : QueueId) : State :=
  match (s.queues queue).thread.id with
  | some (.client id) => { s with loops := Function.update s.loops (.client id) none }
  | _ => s

def submitted (s : State) (work : UserId) (outcome : State × Int × Option QueueId) :
    State × Output :=
  let (s', rc, queue) := outcome
  let observation := match queue with
    | some target => .accepted work target (s.works (.user work)).handler
    | none => .none
  (s', ⟨.int rc, observation⟩)

def removal (s s' : State) (work : UserId) : Observation :=
  if flagTest (s.works (.user work)).flags workQueuedBit &&
      !flagTest (s'.works (.user work)).flags workQueuedBit
  then .removed work else .none

def queueDrain (s : State) (self : Thread) (queue : QueueId) (plug : Bool) :
    State × Output :=
  let flags := (s.queues queue).flags
  if !flagTest flags workQueueStartedBit then (s, .just (.int (-eNoDev)))
  else if (flags &&& (bit workQueueBusyBit ||| bit workQueueDrainBit) != 0) || plug ||
      !(s.queues queue).pending.isEmpty then
    let s := s.queueFlagSet queue workQueueDrainBit
    let s := if plug then s.queueFlagSet queue workQueuePluggedBit else s
    let s := s.notifyLocked queue
    (s.setCall self (.draining queue), .just .waits)
  else (s, .just (.int 0))

def stop (s : State) (self : Thread) (queue : QueueId) (timeout : Option Nat) :
    State × Output :=
  let flags := (s.queues queue).flags
  if !flagTest flags workQueueStartedBit then (s, .just (.int (-eAlready)))
  else if !flagTest flags workQueuePluggedBit then (s, .just (.int (-eBusy)))
  else
    let s := (s.queueFlagSet queue workQueueStopBit).notifyLocked queue
    (s.setCall self (.joining queue timeout), .just .waits)

/-- `Task::join`: a finite timeout waits for the future first; the join of a
thread by itself raises. `none` while the caller has to wait. Whether the thread can be joined
is looked at when the join completes; the code looks before it blocks in `_thread.join()`. -/
def join (s : State) (self : Thread) (queue : QueueId) (timeout : Option Nat)
    (expired : Bool) : Option (State × Output) :=
  let task := (s.queues queue).thread
  let left := (s.workers queue).left
  let back := s.setCall self .idle
  if expired then
    if timeout.isSome && !left then some (back, .just (.int (-eTimedOut))) else none
  else if timeout.isSome && !left then none
  else if !task.joinable then some (back, .just (.int (-eAlready)))
  else if task.id = some self then some (back, .just .raised)
  else if left then
    some (back.modifyQueue queue fun q => { q with thread := { task with joinable := false } },
      .just (.int 0))
  else none

/-- One action. `none` when the action cannot happen in this state, or when its
critical section has no result. -/
def step (fuel : Nat) (s : State) : Action → Option (State × Output)
  | .start self queue config =>
      if s.canAct self ∧ s.workers queue = .notStarted then
        some (s.launch queue config (.worker queue) true, .just .void)
      else none
  | .run self queue config =>
      if s.canAct (.client self) ∧ s.loops (.client self) = none ∧
          s.workers queue = .notStarted then
        some (s.launch queue config (.client self) false, .just .waits)
      else none
  | .submit self queue work =>
      if s.canAct self then
        match work with
        | none => some (s, .just (.int (-eInval)))
        | some work => (s.submitLocked self (.user work) (some queue)).map (s.submitted work)
      else none
  | .workSubmitToQueue self queue work =>
      if s.canAct self then
        match work, queue with
        | none, _ => some (s, .just (.int (-eInval)))
        | some work, none => (s.resubmit self (.user work)).map (s.submitted work)
        | some work, some queue =>
            (s.submitLocked self (.user work) (some queue)).map (s.submitted work)
      else none
  | .workFlush self work =>
      if s.canAct self then
        match (s.constructFlusher self).workFlushLocked (.user work) (.flusher self) with
        | none => none
        | some (s', false) => some (s', .just (.bool false))
        | some (s', true) =>
            match (s.works (.user work)).queue with
            | none => none
            | some queue => some (s'.setCall self (.flushing work queue), .just .waits)
      else none
  | .flusherTake self =>
      match s.calls self, (s.flusherSems self).blockingLock with
      | .flushing _ _, some sem =>
          some ((s.setFlusherSem self sem).setCall self .idle, .just (.bool true))
      | _, _ => none
  | .workCancel self work =>
      if s.canAct self then
        (s.cancelAsyncLocked fuel (.user work)).map fun (s', ret) =>
          (s', ⟨.int ret, s.removal s' work⟩)
      else none
  | .workCancelSync self work =>
      if s.canAct self then
        let constructed := s.constructCanceller self
        if constructed.workBusyGetLocked (.user work) ≠ 0 then
          (constructed.cancelAsyncLocked fuel (.user work)).map fun (s', _) =>
            match s'.cancelSyncLocked self (.user work) with
            | (s'', true) =>
                (s''.setCall self (.cancelling work), ⟨.waits, s.removal s' work⟩)
            | (s'', false) => (s'', ⟨.bool true, s.removal s' work⟩)
        else some (constructed, .just (.bool false))
      else none
  | .cancellerTake self =>
      match s.calls self, (s.cancellers self).sem.blockingLock with
      | .cancelling _, some sem =>
          let canceller := { s.cancellers self with sem := sem }
          some ((s.setCanceller self canceller).setCall self .idle, .just (.bool true))
      | _, _ => none
  | .setNewWorkHandler self work handler =>
      if s.canAct self then
        if (s.works (.user work)).flags ≠ 0 then some (s, .just (.int (-eBusy)))
        else some (s.modifyWork (.user work) fun w => { w with handler := .client handler },
          .just (.int 0))
      else none
  | .queueDrain self queue plug =>
      if s.canAct self then some (s.queueDrain self queue plug) else none
  | .drainqGet self =>
      match s.calls self with
      | .draining queue =>
          (s.queues queue).drainq.get.map fun (token, drainq) =>
            ((s.modifyQueue queue fun q => { q with drainq := drainq }).setCall self .idle,
              .just (.int token.toNat))
      | _ => none
  | .queueUnplug self queue =>
      if s.canAct self then
        let (plugged, flags) := flagTestAndClear (s.queues queue).flags workQueuePluggedBit
        some (s.modifyQueue queue fun q => { q with flags := flags },
          .just (.int (if plugged then 0 else -eAlready)))
      else none
  | .stop self queue timeout =>
      if s.canAct self then some (s.stop self queue timeout) else none
  | .join self expired =>
      match s.calls self with
      | .joining queue timeout => s.join self queue timeout expired
      | _ => none
  | .workerTurn queue =>
      if s.workers queue = .atTop then
        let s' := s.turnLocked queue
        match s'.workers queue with
        | .running (.user work) handler =>
            some (s', ⟨.void, .started work queue handler⟩)
        | .returned => some (s'.leaveLoop queue, .just .void)
        | _ => some (s', .just .void)
      else none
  | .notifyqGet queue =>
      if s.workers queue = .parked then
        (s.queues queue).notifyq.get.map fun (_, notifyq) =>
          ((s.modifyQueue queue fun q => { q with notifyq := notifyq }).setWorker queue .atTop,
            .just .void)
      else none
  | .handlerReturn queue =>
      match s.workers queue with
      | .running work _ =>
          if handlerMayEnd s.calls (s.queues queue).thread.id then
            (s.completeLocked fuel queue work).map fun s' =>
              (s', ⟨.void, match work with
                | .user id => .finished id queue
                | .flusher _ => .none⟩)
          else none
      | _ => none
  | .handlerThrow queue =>
      match s.workers queue with
      | .running (.user work) _ =>
          -- an exception that leaves an essential task aborts the program
          if handlerMayEnd s.calls (s.queues queue).thread.id ∧
              (s.queues queue).thread.essential = false then
            some ((s.setWorker queue (.thrown (.user work))).leaveLoop queue, .just .void)
          else none
      | _ => none

/-- The steps of the system; the fuel of a list walk is whatever it needs. -/
def Step (s : State) (action : Action) (output : Output) (s' : State) : Prop :=
  ∃ fuel, s.step fuel action = some (s', output)

end State

abbrev SystemRun (allowed : State → Action → Prop) :
    State → List (Action × Output) → State → Prop :=
  fun start trace final => Run State.Step allowed start trace final

def Action.throws : Action → Bool
  | .handlerThrow _ => true
  | _ => false

def handlersReturn : State → Action → Prop := fun _ action => action.throws = false

instance (s : State) (action : Action) : Decidable (handlersReturn s action) :=
  inferInstanceAs (Decidable (action.throws = false))

def State.runActions (allowed : State → Action → Prop)
    [∀ s action, Decidable (allowed s action)] (s : State) (actions : List Action) :
    Option (List (Action × Output) × State) :=
  execute (State.step 8) (fun s action => decide (allowed s action)) s actions

theorem system_run_of_actions (allowed : State → Action → Prop)
    [∀ s action, Decidable (allowed s action)] (s : State) (actions : List Action)
    (test : List (Action × Output) → State → Bool)
    (passed : (s.runActions allowed actions).any (fun run => test run.1 run.2) = true) :
    ∃ trace s', SystemRun allowed s trace s' ∧ test trace s' = true :=
  run_of_execute (fun _ _ _ _ moved => ⟨8, moved⟩) (fun _ _ => of_decide_eq_true) passed

def Output.waits (output : Output) : Bool := output.reply = .waits

/-- Calls of the system: `opening` enters, and if it has to wait, `closing` returns. -/
abbrev SystemCall (allowed : State → Action → Prop) (opening closing : Action) :
    State → List (Action × Output) → Output → State → Prop :=
  CallReturns State.Step allowed (fun output => output.waits = true) opening closing

def State.callActions (allowed : State → Action → Prop)
    [∀ s action, Decidable (allowed s action)] (opening closing : Action) (s : State)
    (actions : List Action) : Option (List (Action × Output) × Output × State) :=
  executeCall (State.step 8) (fun s action => decide (allowed s action)) Output.waits opening
    closing s actions

theorem system_call_of_actions (allowed : State → Action → Prop)
    [∀ s action, Decidable (allowed s action)] {opening closing : Action} {s : State}
    {actions : List Action} {test : List (Action × Output) × Output × State → Bool}
    (passed : (s.callActions allowed opening closing actions).any test = true) :
    ∃ span output s', SystemCall allowed opening closing s span output s' ∧
      test (span, output, s') = true :=
  call_of_execute (fun _ _ _ _ moved => ⟨8, moved⟩) (fun _ _ => of_decide_eq_true) passed

end AresCommon.WorkQueue
