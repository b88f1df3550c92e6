import AresCommon.WorkQueue.System

/-!
# What the work queues mean

The state of the library once its flag words, linked lists, token queues and
semaphores are read as truth values and lists. `AbstractStep` says everything
that one action can do to it, guards included; every invariant is derived from
it. That the critical sections do nothing else is shown in `Refinement`.
-/

namespace AresCommon.WorkQueue

open AresCommon.DataStructures.Slist

set_option autoImplicit false

structure AbstractState where
  running : WorkRef → Bool
  canceling : UserId → Bool
  queued : UserId → Bool
  /-- The queue an item was last accepted onto. -/
  home : UserId → Option QueueId
  handler : UserId → HandlerId
  pending : QueueId → List WorkRef
  started : QueueId → Bool
  busy : QueueId → Bool
  draining : QueueId → Bool
  plugged : QueueId → Bool
  stopping : QueueId → Bool
  noYield : QueueId → Bool
  /-- `notifyq` and `drainq` hold their token. -/
  notified : QueueId → Bool
  drained : QueueId → Bool
  task : QueueId → Task
  cancels : List Thread
  /-- The semaphore of the thread's flusher or canceller has been given. -/
  flusherGiven : Thread → Bool
  cancellerGiven : Thread → Bool
  workers : QueueId → WorkerPc
  loops : Thread → Option QueueId
  calls : Thread → Call

def Action.submission? : Action → Option (Thread × UserId × Option QueueId)
  | .submit self queue (some work) => some (self, work, some queue)
  | .workSubmitToQueue self queue (some work) => some (self, work, queue)
  | _ => none

def WorkRef.startObservation (work : WorkRef) (queue : QueueId) (handler : WorkHandler) :
    Observation :=
  match work with
  | .user id => .started id queue handler
  | .flusher _ => .none

namespace AbstractState

open Function (update)

def initial (handlers : UserId → HandlerId) : AbstractState where
  running := fun _ => false
  canceling := fun _ => false
  queued := fun _ => false
  home := fun _ => none
  handler := handlers
  pending := fun _ => []
  started := fun _ => false
  busy := fun _ => false
  draining := fun _ => false
  plugged := fun _ => false
  stopping := fun _ => false
  noYield := fun _ => false
  notified := fun _ => false
  drained := fun _ => false
  task := fun _ => WorkQ.constructed.thread
  cancels := []
  flusherGiven := fun _ => false
  cancellerGiven := fun _ => false
  workers := fun _ => .notStarted
  loops := fun _ => none
  calls := fun _ => .idle

variable (a : AbstractState)

def canAct (thread : Thread) : Bool := mayAct (a.calls thread) (a.loops thread) a.workers thread

def handlerOf : WorkRef → WorkHandler
  | .user id => .client (a.handler id)
  | .flusher _ => .handleFlush

def awaitsFlush (thread : Thread) : Bool :=
  match a.calls thread with
  | .flushing _ _ => !a.flusherGiven thread
  | _ => false

def cancelsWork (work : UserId) (thread : Thread) : Bool := a.calls thread = .cancelling work

def launch (queue : QueueId) (config : Option WorkQConfig) (runner : Thread)
    (joinable : Bool) : AbstractState :=
  { a with
    pending := update a.pending queue []
    started := update a.started queue true
    busy := update a.busy queue false
    draining := update a.draining queue false
    plugged := update a.plugged queue false
    stopping := update a.stopping queue false
    noYield := update a.noYield queue (config.any fun c => c.noYield)
    notified := update a.notified queue false
    drained := update a.drained queue false
    task := update a.task queue
      { essential := config.any fun c => c.essential, id := some runner, joinable := joinable }
    workers := update a.workers queue .atTop
    loops := update a.loops runner (some queue) }

/-- Where a submission goes: a running item stays on the queue that runs it. -/
def destination (work : UserId) (queue : Option QueueId) : Option QueueId :=
  if a.running (.user work) then a.home work else queue <|> a.home work

def refusal (self : Thread) (queue : QueueId) : Option Int :=
  if !a.started queue then some (-eNoDev)
  else if (a.draining queue && (a.task queue).id ≠ some self) ||
      (a.plugged queue && !a.draining queue) then some (-eBusy)
  else none

/-- The queue that accepts a submission, or the error code of its rejection. -/
def admission (self : Thread) (work : UserId) (queue : Option QueueId) : Except Int QueueId :=
  if a.canceling work then .error (-eBusy)
  else if a.queued work then .error 0
  else match a.destination work queue with
    | none => .error (-eInval)
    | some target =>
        match a.refusal self target with
        | some rc => .error rc
        | none => .ok target

def accept (work : UserId) (queue : QueueId) : AbstractState :=
  { a with
    pending := update a.pending queue (a.pending queue ++ [.user work])
    queued := update a.queued work true
    home := update a.home work (some queue)
    notified := update a.notified queue true }

/-- A flusher goes right behind its item if that is queued, else to the front. -/
def flush (work : UserId) (queue : QueueId) (thread : Thread) : AbstractState :=
  { a with
    pending := update a.pending queue
      (if a.queued work then insertAfter (.user work) (.flusher thread) (a.pending queue)
        else .flusher thread :: a.pending queue)
    notified := update a.notified queue true
    flusherGiven := update a.flusherGiven thread false
    calls := update a.calls thread (.flushing work queue) }

def cancel (work : UserId) : AbstractState :=
  { a with
    pending := fun queue => (a.pending queue).erase (.user work)
    queued := update a.queued work false
    canceling := update a.canceling work (a.running (.user work)) }

def removal (work : UserId) : Observation := if a.queued work then .removed work else .none

def awaitCancel (work : UserId) (thread : Thread) : AbstractState :=
  { a with
    cancels := a.cancels ++ [thread]
    cancellerGiven := update a.cancellerGiven thread false
    calls := update a.calls thread (.cancelling work) }

def requestDrain (queue : QueueId) (plug : Bool) (thread : Thread) : AbstractState :=
  { a with
    draining := update a.draining queue true
    plugged := update a.plugged queue (a.plugged queue || plug)
    notified := update a.notified queue true
    calls := update a.calls thread (.draining queue) }

def requestStop (queue : QueueId) (timeout : Option Nat) (thread : Thread) : AbstractState :=
  { a with
    stopping := update a.stopping queue true
    notified := update a.notified queue true
    calls := update a.calls thread (.joining queue timeout) }

def pop (queue : QueueId) (work : WorkRef) (rest : List WorkRef) : AbstractState :=
  { a with
    pending := update a.pending queue rest
    busy := update a.busy queue true
    running := update a.running work true
    queued := fun id => if work = .user id then false else a.queued id
    workers := update a.workers queue (.running work (a.handlerOf work)) }

def finishDrain (queue : QueueId) : AbstractState :=
  { a with
    draining := update a.draining queue false
    drained := update a.drained queue true
    workers := update a.workers queue .parked }

def loopsWithout (queue : QueueId) : Thread → Option QueueId :=
  match (a.task queue).id with
  | some (.client id) => update a.loops (.client id) none
  | _ => a.loops

def leave (queue : QueueId) : AbstractState :=
  { a with
    started := update a.started queue false
    busy := update a.busy queue false
    draining := update a.draining queue false
    plugged := update a.plugged queue false
    stopping := update a.stopping queue false
    noYield := update a.noYield queue false
    workers := update a.workers queue .returned
    loops := a.loopsWithout queue }

def complete (queue : QueueId) (work : WorkRef) : AbstractState :=
  { a with
    running := update a.running work false
    busy := update a.busy queue false
    workers := update a.workers queue .atTop }

variable {a} in
theorem refusal_none {self : Thread} {queue : QueueId} (taken : a.refusal self queue = none) :
    a.started queue = true ∧ (a.draining queue = true → (a.task queue).id = some self) ∧
      (a.plugged queue = true → a.draining queue = true) := by
  unfold refusal at taken
  grind

variable {a} in
theorem refusal_negative {self : Thread} {queue : QueueId} {rc : Int}
    (refused : a.refusal self queue = some rc) : rc < 0 := by
  unfold refusal at refused
  grind [eNoDev, eBusy]

variable {a} in
theorem admission_error {self : Thread} {work : UserId} {queue : Option QueueId} {rc : Int}
    (rejected : a.admission self work queue = .error rc) : rc ≤ 0 := by
  have negative : ∀ target code, a.refusal self target = some code → code < 0 :=
    fun _ _ refused => refusal_negative refused
  unfold admission at rejected
  grind [eInval, eBusy]

variable {a} in
theorem admission_ok {self : Thread} {work : UserId} {queue : Option QueueId}
    {target : QueueId} (admitted : a.admission self work queue = .ok target) :
    a.canceling work = false ∧ a.queued work = false ∧
      a.destination work queue = some target ∧ a.refusal self target = none := by
  unfold admission at admitted
  grind

variable {a} in
theorem destination_of_running {work : UserId} {queue : Option QueueId}
    (active : a.running (.user work) = true) : a.destination work queue = a.home work := by
  simp only [destination, active, if_true]

variable {a} in
theorem loops_without_of_ne {queue : QueueId} {thread : Thread}
    (other : (a.task queue).id ≠ some thread) :
    a.loopsWithout queue thread = a.loops thread := by
  unfold loopsWithout
  rcases owner : (a.task queue).id with _ | ⟨id⟩ | _
  · rfl
  · apply Function.update_of_ne
    rintro rfl
    exact other owner
  · rfl

variable {a} in
theorem idle_of_can_act {thread : Thread} (acts : a.canAct thread = true) :
    a.calls thread = .idle := by
  unfold canAct mayAct at acts
  split at acts <;> simp_all

/-- The canceller that the end of `work` releases: the first one linked. -/
def released (work : UserId) : Option Thread :=
  if a.canceling work then a.cancels.find? (a.cancelsWork work) else none

end AbstractState

inductive Refusal (a : AbstractState) : Action → Reply → Prop where
  | submitNull (self : Thread) (queue : QueueId) :
      Refusal a (.submit self queue none) (.int (-eInval))
  | submitToQueueNull (self : Thread) (queue : Option QueueId) :
      Refusal a (.workSubmitToQueue self queue none) (.int (-eInval))
  | rejected {action : Action} {self : Thread} {work : UserId} {queue : Option QueueId}
      {rc : Int} (submits : action.submission? = some (self, work, queue))
      (refused : a.admission self work queue = .error rc) : Refusal a action (.int rc)
  | nothingToFlush {self : Thread} {work : UserId} (unqueued : a.queued work = false)
      (resting : a.running (.user work) = false) :
      Refusal a (.workFlush self work) (.bool false)
  | nothingToCancel {self : Thread} {work : UserId} (unqueued : a.queued work = false)
      (resting : a.running (.user work) = false) :
      Refusal a (.workCancelSync self work) (.bool false)
  | handlerInUse {self : Thread} {work : UserId} {handler : HandlerId}
      (inUse : a.queued work = true ∨ a.running (.user work) = true) :
      Refusal a (.setNewWorkHandler self work handler) (.int (-eBusy))
  | drainNotStarted {self : Thread} {queue : QueueId} {plug : Bool}
      (off : a.started queue = false) :
      Refusal a (.queueDrain self queue plug) (.int (-eNoDev))
  | nothingToDrain {self : Thread} {queue : QueueId} (on : a.started queue = true)
      (idle : a.busy queue = false) (undrained : a.draining queue = false)
      (empty : a.pending queue = []) : Refusal a (.queueDrain self queue false) (.int 0)
  | stopNotStarted {self : Thread} {queue : QueueId} {timeout : Option Nat}
      (off : a.started queue = false) :
      Refusal a (.stop self queue timeout) (.int (-eAlready))
  | stopUnplugged {self : Thread} {queue : QueueId} {timeout : Option Nat}
      (on : a.started queue = true) (unplugged : a.plugged queue = false) :
      Refusal a (.stop self queue timeout) (.int (-eBusy))

open Function (update) in
inductive AbstractStep (a : AbstractState) : Action → Output → AbstractState → Prop where
  | refused {action : Action} {reply : Reply} (refusal : Refusal a action reply) :
      AbstractStep a action (.just reply) a
  | start {self : Thread} {queue : QueueId} {config : Option WorkQConfig}
      (acts : a.canAct self = true) (unstarted : a.workers queue = .notStarted) :
      AbstractStep a (.start self queue config) (.just .void)
        (a.launch queue config (.worker queue) true)
  | run {self : ClientId} {queue : QueueId} {config : Option WorkQConfig}
      (acts : a.canAct (.client self) = true) (outside : a.loops (.client self) = none)
      (unstarted : a.workers queue = .notStarted) :
      AbstractStep a (.run self queue config) (.just .waits)
        (a.launch queue config (.client self) false)
  | accepted {action : Action} {self : Thread} {work : UserId}
      {queue : Option QueueId} {target : QueueId}
      (submits : action.submission? = some (self, work, queue))
      (acts : a.canAct self = true) (admitted : a.admission self work queue = .ok target) :
      AbstractStep a action
        ⟨.int (if a.running (.user work) then 2 else 1),
          .accepted work target (.client (a.handler work))⟩
        (a.accept work target)
  | flushWaits {self : Thread} {work : UserId} {queue : QueueId}
      (acts : a.canAct self = true)
      (active : a.queued work = true ∨ a.running (.user work) = true)
      (located : a.home work = some queue) :
      AbstractStep a (.workFlush self work) (.just .waits) (a.flush work queue self)
  | flusherTaken {self : Thread} {work : UserId} {queue : QueueId}
      (call : a.calls self = .flushing work queue) (given : a.flusherGiven self = true) :
      AbstractStep a (.flusherTake self) (.just (.bool true))
        { a with
          flusherGiven := update a.flusherGiven self false
          calls := update a.calls self .idle }
  | cancelled {self : Thread} {work : UserId} (acts : a.canAct self = true) :
      AbstractStep a (.workCancel self work)
        ⟨.int (if a.running (.user work) then 3 else 0), a.removal work⟩ (a.cancel work)
  | cancelledSync {self : Thread} {work : UserId} (acts : a.canAct self = true)
      (waiting : a.queued work = true) (resting : a.running (.user work) = false) :
      AbstractStep a (.workCancelSync self work) ⟨.bool true, .removed work⟩ (a.cancel work)
  | cancelWaits {self : Thread} {work : UserId} (acts : a.canAct self = true)
      (active : a.running (.user work) = true) :
      AbstractStep a (.workCancelSync self work) ⟨.waits, a.removal work⟩
        ((a.cancel work).awaitCancel work self)
  | cancellerTaken {self : Thread} {work : UserId} (call : a.calls self = .cancelling work)
      (given : a.cancellerGiven self = true) :
      AbstractStep a (.cancellerTake self) (.just (.bool true))
        { a with
          cancellerGiven := update a.cancellerGiven self false
          calls := update a.calls self .idle }
  | handlerSet {self : Thread} {work : UserId} {handler : HandlerId}
      (acts : a.canAct self = true) (unqueued : a.queued work = false)
      (resting : a.running (.user work) = false) :
      AbstractStep a (.setNewWorkHandler self work handler) (.just (.int 0))
        { a with handler := update a.handler work handler }
  | drainWaits {self : Thread} {queue : QueueId} {plug : Bool}
      (acts : a.canAct self = true) (on : a.started queue = true)
      (unsettled : a.busy queue = true ∨ a.draining queue = true ∨ plug = true ∨
        a.pending queue ≠ []) :
      AbstractStep a (.queueDrain self queue plug) (.just .waits)
        (a.requestDrain queue plug self)
  | drainTaken {self : Thread} {queue : QueueId} (call : a.calls self = .draining queue)
      (token : a.drained queue = true) :
      AbstractStep a (.drainqGet self) (.just (.int 1))
        { a with
          drained := update a.drained queue false
          calls := update a.calls self .idle }
  | unplugged {self : Thread} {queue : QueueId} (acts : a.canAct self = true) :
      AbstractStep a (.queueUnplug self queue)
        (.just (.int (if a.plugged queue then 0 else -eAlready)))
        { a with plugged := update a.plugged queue false }
  | stopWaits {self : Thread} {queue : QueueId} {timeout : Option Nat}
      (acts : a.canAct self = true) (on : a.started queue = true)
      (closed : a.plugged queue = true) :
      AbstractStep a (.stop self queue timeout) (.just .waits)
        (a.requestStop queue timeout self)
  | joined {self : Thread} {queue : QueueId} {timeout : Option Nat} {expired : Bool}
      {reply : Reply} {joinable : Bool} (call : a.calls self = .joining queue timeout) :
      AbstractStep a (.join self expired) (.just reply)
        { a with
          calls := update a.calls self .idle
          task := update a.task queue { a.task queue with joinable := joinable } }
  | popped {queue : QueueId} {work : WorkRef} {rest : List WorkRef}
      (ready : a.workers queue = .atTop) (head : a.pending queue = work :: rest) :
      AbstractStep a (.workerTurn queue)
        ⟨.void, work.startObservation queue (a.handlerOf work)⟩ (a.pop queue work rest)
  | drainDone {queue : QueueId} (ready : a.workers queue = .atTop)
      (empty : a.pending queue = []) (requested : a.draining queue = true) :
      AbstractStep a (.workerTurn queue) (.just .void) (a.finishDrain queue)
  | stopped {queue : QueueId} (ready : a.workers queue = .atTop)
      (empty : a.pending queue = []) (undrained : a.draining queue = false)
      (requested : a.stopping queue = true) :
      AbstractStep a (.workerTurn queue) (.just .void) (a.leave queue)
  | parked {queue : QueueId} (ready : a.workers queue = .atTop)
      (empty : a.pending queue = []) (undrained : a.draining queue = false)
      (unstopped : a.stopping queue = false) :
      AbstractStep a (.workerTurn queue) (.just .void)
        { a with workers := update a.workers queue .parked }
  | woken {queue : QueueId} (asleep : a.workers queue = .parked)
      (token : a.notified queue = true) :
      AbstractStep a (.notifyqGet queue) (.just .void)
        { a with
          notified := update a.notified queue false
          workers := update a.workers queue .atTop }
  | finished {queue : QueueId} {work : UserId} {handler : WorkHandler}
      (inside : a.workers queue = .running (.user work) handler)
      (ends : handlerMayEnd a.calls (a.task queue).id = true) (nobody : a.released work = none) :
      AbstractStep a (.handlerReturn queue) ⟨.void, .finished work queue⟩
        { a.complete queue (.user work) with canceling := update a.canceling work false }
  | finishedCancelled {queue : QueueId} {work : UserId} {handler : WorkHandler}
      {thread : Thread} (inside : a.workers queue = .running (.user work) handler)
      (ends : handlerMayEnd a.calls (a.task queue).id = true)
      (waiter : a.released work = some thread) :
      AbstractStep a (.handlerReturn queue) ⟨.void, .finished work queue⟩
        { a.complete queue (.user work) with
          canceling := update a.canceling work false
          cancels := a.cancels.erase thread
          cancellerGiven := update a.cancellerGiven thread true }
  | flushed {queue : QueueId} {thread : Thread} {handler : WorkHandler}
      (inside : a.workers queue = .running (.flusher thread) handler)
      (ends : handlerMayEnd a.calls (a.task queue).id = true) :
      AbstractStep a (.handlerReturn queue) (.just .void)
        { a.complete queue (.flusher thread) with
          flusherGiven := update a.flusherGiven thread true }
  | threw {queue : QueueId} {work : UserId} {handler : WorkHandler}
      (inside : a.workers queue = .running (.user work) handler)
      (ends : handlerMayEnd a.calls (a.task queue).id = true) :
      AbstractStep a (.handlerThrow queue) (.just .void)
        { a with
          workers := update a.workers queue (.thrown (.user work))
          loops := a.loopsWithout queue }

/-! ## Threads inside a call -/

def Call.returnedBy (self : Thread) : Call → Action → Bool
  | .flushing _ _, .flusherTake thread => thread = self
  | .cancelling _, .cancellerTake thread => thread = self
  | .draining _, .drainqGet thread => thread = self
  | .joining _ _, .join thread _ => thread = self
  | _, _ => false

theorem AbstractStep.call_stays {a a' : AbstractState} {action : Action} {output : Output}
    {self : Thread} {call : Call} (move : AbstractStep a action output a')
    (inside : a.calls self = call) (waits : call ≠ .idle)
    (other : call.returnedBy self action = false) : a'.calls self = call := by
  subst inside
  cases move with
  | @flushWaits thread _ _ acts | @cancelWaits thread _ acts | @drainWaits thread _ _ acts
  | @stopWaits thread _ _ acts =>
      have free := AbstractState.idle_of_can_act acts
      have apart : self ≠ thread := by
        rintro rfl
        exact waits free
      exact Function.update_of_ne apart _ _
  | @flusherTaken thread _ _ call | @cancellerTaken thread _ call | @drainTaken thread _ call
  | @joined thread _ _ _ _ _ call =>
      have apart : self ≠ thread := by
        rintro rfl
        simp [call, Call.returnedBy] at other
      exact Function.update_of_ne apart _ _
  | _ => rfl

/-! ## The steps of single actions -/

section Inversion

variable {a a' : AbstractState} {output : Output} {self : Thread} {queue : QueueId}

theorem AbstractStep.work_flush {work : UserId}
    (move : AbstractStep a (.workFlush self work) output a') :
    (a.queued work = false ∧ a.running (.user work) = false ∧ output = .just (.bool false)) ∨
      ∃ target, a.home work = some target ∧ output = .just .waits ∧
        a' = a.flush work target self := by
  cases move with
  | refused refusal =>
      cases refusal with
      | rejected submits => cases submits
      | nothingToFlush unqueued resting => exact .inl ⟨unqueued, resting, rfl⟩
  | accepted submits => cases submits
  | flushWaits _ _ located => exact .inr ⟨_, located, rfl, rfl⟩

theorem AbstractStep.flusher_take (move : AbstractStep a (.flusherTake self) output a') :
    a.flusherGiven self = true ∧ output = .just (.bool true) ∧ a'.calls self = .idle := by
  cases move with
  | refused refusal =>
      cases refusal with
      | rejected submits => cases submits
  | accepted submits => cases submits
  | flusherTaken _ given => exact ⟨given, rfl, Function.update_self _ _ _⟩

theorem AbstractStep.canceller_take (move : AbstractStep a (.cancellerTake self) output a') :
    a.cancellerGiven self = true ∧ output = .just (.bool true) := by
  cases move with
  | refused refusal =>
      cases refusal with
      | rejected submits => cases submits
  | accepted submits => cases submits
  | cancellerTaken _ given => exact ⟨given, rfl⟩

theorem AbstractStep.queue_drain {plug : Bool}
    (move : AbstractStep a (.queueDrain self queue plug) output a') :
    (a.started queue = false ∧ output = .just (.int (-eNoDev)) ∧ a' = a) ∨
      (a.busy queue = false ∧ a.draining queue = false ∧ a.pending queue = [] ∧
        output = .just (.int 0) ∧ a' = a) ∨
      (a.canAct self = true ∧ output = .just .waits ∧ a' = a.requestDrain queue plug self) := by
  cases move with
  | refused refusal =>
      cases refusal with
      | rejected submits => cases submits
      | drainNotStarted off => exact .inl ⟨off, rfl, rfl⟩
      | nothingToDrain _ idle undrained empty =>
          exact .inr (.inl ⟨idle, undrained, empty, rfl, rfl⟩)
  | accepted submits => cases submits
  | drainWaits acts => exact .inr (.inr ⟨acts, rfl, rfl⟩)

theorem AbstractStep.drainq_get (move : AbstractStep a (.drainqGet self) output a') :
    ∃ target, a.calls self = .draining target ∧ a.drained target = true ∧
      output = .just (.int 1) ∧ a'.pending = a.pending ∧ a'.workers = a.workers := by
  cases move with
  | refused refusal =>
      cases refusal with
      | rejected submits => cases submits
  | accepted submits => cases submits
  | drainTaken call token => exact ⟨_, call, token, rfl, rfl, rfl⟩

theorem AbstractStep.drain_turn (move : AbstractStep a (.workerTurn queue) output a')
    (empty : a.pending queue = []) (requested : a.draining queue = true) :
    a' = a.finishDrain queue := by
  cases move with
  | drainDone => rfl
  | popped _ head => simp [empty] at head
  | stopped _ _ undrained => simp [requested] at undrained
  | parked _ _ undrained => simp [requested] at undrained
  | refused refusal =>
      cases refusal with
      | rejected submits => cases submits
  | accepted submits => cases submits

theorem AbstractStep.handler_throw (move : AbstractStep a (.handlerThrow queue) output a') :
    ∃ work handler, a.workers queue = .running (.user work) handler ∧
      a'.started = a.started ∧ a'.workers queue = .thrown (.user work) := by
  cases move with
  | refused refusal =>
      cases refusal with
      | rejected submits => cases submits
  | accepted submits => cases submits
  | threw inside => exact ⟨_, _, inside, rfl, Function.update_self _ _ _⟩

end Inversion

end AresCommon.WorkQueue
