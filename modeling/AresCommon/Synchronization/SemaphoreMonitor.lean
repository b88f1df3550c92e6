import AresCommon.DataStructures.ListQueue
import AresCommon.Synchronization.Semaphore

/-!
# The semaphore as an atomic counter

Any number of threads call into one `semaphore<count>`. One action is one critical
section of the queue below it: a call from its entry to its return, its exception or its
wait, or a woken thread from its predicate on. The exceptions of the queue are translated
where they leave it. Read as a counter, the semaphore is the number of bytes in the ring.
-/

namespace AresCommon.Synchronization

open AresCommon.DataStructures
open AresCommon.Foundation AresCommon.Foundation.Transition
open Function (update)

set_option autoImplicit false

def forever : Int := 9223372036854775807

def noWait : Int := 0

inductive SemaphoreCall where
  | lock (timeout : Int)
  | unlock
  | tryLock
  | getCount
  deriving DecidableEq, Repr

inductive SemaphoreReply where
  | void
  | bool (taken : Bool)
  | count (value : Nat)
  | raised (error : SemaphoreError)
  | waits
  deriving DecidableEq, Repr

namespace SemaphoreCall

def take (timeout : Int) : SemaphoreCall := .lock timeout

def give : SemaphoreCall := .unlock

/-- The call of the queue that a call comes down to. -/
def queueCall : SemaphoreCall → Option (QueueCall UInt8)
  | .lock timeout =>
      if timeout = forever then some (.get .forever false) else some (.get (.timed timeout) false)
  | .unlock => some (.putNonblocking 0)
  | .tryLock => some (.get (.timed noWait) false)
  | .getCount => none

end SemaphoreCall

def blockingLock : QueueReply UInt8 → SemaphoreReply
  | .raised reason => .raised (.queueException reason)
  | _ => .void

def nonblockingLock : QueueReply UInt8 → SemaphoreReply
  | .raised .queueTimeout => .raised (.timeoutException "Semaphore `take` timed out")
  | .raised .queueEmpty =>
      .raised (.semaphoreException "Unable to `take` semaphore without blocking")
  | .raised reason => .raised (.queueException reason)
  | _ => .void

def SemaphoreCall.answer : SemaphoreCall → QueueReply UInt8 → SemaphoreReply
  | _, .waits => .waits
  | .lock timeout, reply =>
      if timeout = forever then blockingLock reply else nonblockingLock reply
  | .unlock, .raised .queueFull =>
      .raised (.semaphoreException "Cannot `give` semaphore more times than its permitted count")
  | .unlock, .raised reason => .raised (.queueException reason)
  | .unlock, _ => .void
  | .tryLock, reply =>
      match nonblockingLock reply with
      | .raised (.semaphoreException _) => .bool false
      | .raised error => .raised error
      | _ => .bool true
  | .getCount, .size size => .count size
  | .getCount, _ => .void

inductive SemaphoreAction (Thread : Type) where
  | enter (self : Thread) (call : SemaphoreCall) (wakes : Option Thread)
  /-- The thread goes on with the call it waits in. -/
  | resume (self : Thread) (call : SemaphoreCall) (timedOut : Bool) (wakes : Option Thread)
  /-- a time-out or a spurious wake-up -/
  | rouse (self : Thread)
  deriving DecidableEq, Repr

structure SemaphoreMonitor (Thread : Type) (count : Nat) where
  sem : QueueMonitor Thread UInt8 count false
  calls : Thread → Option SemaphoreCall

namespace SemaphoreMonitor

variable {Thread : Type} {count : Nat}

def putTimes : Nat → BoundedQueue UInt8 count false →
    Except QueueExceptionReason (BoundedQueue UInt8 count false)
  | 0, sem => .ok sem
  | n + 1, sem => do putTimes n (← sem.putNonblocking 0)

def initial (queue : BoundedQueue UInt8 count false) : SemaphoreMonitor Thread count where
  sem := { queue := queue, spaceAvailable := .empty, notEmpty := .empty, calls := fun _ => none }
  calls := fun _ => none

def semaphore (buffer : Nat → UInt8) :
    Except QueueExceptionReason (SemaphoreMonitor Thread count) :=
  (putTimes count (.uninitialised buffer)).map initial

def semaphoreWith (buffer : Nat → UInt8) (initCnt : Nat) :
    Except QueueExceptionReason (SemaphoreMonitor Thread count) :=
  (putTimes (min initCnt count) (.uninitialised buffer)).map initial

variable [DecidableEq Thread] (m : SemaphoreMonitor Thread count)

/-- The queue has done its part of a call. -/
def proceed (self : Thread) (call : SemaphoreCall)
    (done : QueueMonitor Thread UInt8 count false × QueueReply UInt8) :
    SemaphoreMonitor Thread count × SemaphoreReply :=
  let pending := if done.2 = .waits then some call else none
  ({ sem := done.1, calls := update m.calls self pending }, call.answer done.2)

def step : SemaphoreAction Thread → Option (SemaphoreMonitor Thread count × SemaphoreReply)
  | .enter self call wakes =>
      if m.calls self = none then
        (m.sem.step (match call.queueCall with
          | some queued => .enter self queued false wakes
          | none => .size self)).map (m.proceed self call)
      else none
  | .resume self call timedOut wakes =>
      if m.calls self = some call then
        (m.sem.step (.resume self timedOut false wakes)).map (m.proceed self call)
      else none
  | .rouse self =>
      (m.sem.step (.rouse self)).map fun done => ({ m with sem := done.1 }, .void)

def Step (m : SemaphoreMonitor Thread count) (action : SemaphoreAction Thread)
    (reply : SemaphoreReply) (m' : SemaphoreMonitor Thread count) : Prop :=
  m.step action = some (m', reply)

end SemaphoreMonitor

abbrev SemaphoreRun {Thread : Type} [DecidableEq Thread] {count : Nat} :
    SemaphoreMonitor Thread count → List (SemaphoreAction Thread × SemaphoreReply) →
      SemaphoreMonitor Thread count → Prop :=
  fun start trace final => Run SemaphoreMonitor.Step anyStep start trace final

theorem semaphore_run_of_actions {Thread : Type} [DecidableEq Thread] {count : Nat}
    (m : SemaphoreMonitor Thread count) (actions : List (SemaphoreAction Thread))
    (test : List (SemaphoreAction Thread × SemaphoreReply) → SemaphoreMonitor Thread count → Bool)
    (passed : (execute SemaphoreMonitor.step (fun _ _ => true) m actions).any
      (fun run => test run.1 run.2) = true) :
    ∃ trace m', SemaphoreRun m trace m' ∧ test trace m' = true :=
  run_of_execute (fun _ _ _ _ moved => moved) (fun _ _ _ => trivial) passed

/-! ## The calls -/

namespace SemaphoreCall

variable {call : SemaphoreCall} {queued : QueueCall UInt8}

def takes : SemaphoreCall → Bool
  | .lock _ => true
  | .tryLock => true
  | _ => false

def success : SemaphoreCall → SemaphoreReply
  | .tryLock => .bool true
  | _ => .void

/-- What is left to a call that cannot do its work; a `lock` without a timeout waits. -/
def failure : SemaphoreCall → Option SemaphoreReply
  | .lock timeout =>
      if timeout = forever then none
      else if timeout = noWait then
        some (.raised (.semaphoreException "Unable to `take` semaphore without blocking"))
      else some (.raised (.timeoutException "Semaphore `take` timed out"))
  | .unlock => some (.raised
      (.semaphoreException "Cannot `give` semaphore more times than its permitted count"))
  | .tryLock => some (.bool false)
  | .getCount => none

def Blocked (count value : Nat) : SemaphoreCall → Prop
  | .lock _ => value = 0
  | .tryLock => value = 0
  | .unlock => value = count
  | .getCount => False

@[simp]
theorem answer_waits (call : SemaphoreCall) : call.answer .waits = .waits := by
  cases call <;> rfl

theorem success_ne_waits (call : SemaphoreCall) : call.success ≠ .waits := by
  cases call <;> simp [success]

theorem failure_ne_success {reply : SemaphoreReply} (failure : call.failure = some reply) :
    reply ≠ call.success := by
  cases call with
  | lock timeout =>
      simp only [SemaphoreCall.failure] at failure
      split at failure
      · cases failure
      · split at failure <;> cases failure <;> simp [success]
  | unlock | tryLock => cases failure; simp [success]
  | getCount => cases failure

theorem queue_call_callback (comes : call.queueCall = some queued) :
    queued.callback = false := by
  cases call with
  | lock timeout =>
      simp only [queueCall] at comes
      split at comes <;> cases comes <;> rfl
  | unlock | tryLock => cases comes; rfl
  | getCount => cases comes

theorem unlock_of_put {item : UInt8} {wait : Wait} {callback : Bool}
    (comes : call.queueCall = some (.put item wait callback)) : call = .unlock := by
  cases call with
  | lock timeout =>
      simp only [queueCall] at comes
      split at comes <;> cases comes
  | unlock => rfl
  | tryLock | getCount => cases comes

theorem takes_of_get {wait : Wait} {callback : Bool}
    (comes : call.queueCall = some (.get wait callback)) : call.takes = true := by
  cases call with
  | lock | tryLock => rfl
  | unlock | getCount => cases comes

theorem get_count_of_none (comes : call.queueCall = none) : call = .getCount := by
  cases call with
  | lock timeout =>
      simp only [queueCall] at comes
      split at comes <;> cases comes
  | unlock | tryLock => cases comes
  | getCount => rfl

theorem answer_item (takes : call.takes = true) (item : UInt8) :
    call.answer (.item item) = call.success := by
  cases call with
  | lock timeout =>
      by_cases endless : timeout = forever
      · simp only [answer, if_pos endless, blockingLock, success]
      · simp only [answer, if_neg endless, nonblockingLock, success]
  | tryLock => rfl
  | unlock | getCount => cases takes

/-- The exceptions of the queue leave the semaphore as its own. -/
theorem answer_refusal (comes : call.queueCall = some queued) {reason : QueueExceptionReason}
    (refusal : queued.refusal = some reason) :
    call.failure = some (call.answer (.raised reason)) := by
  cases call with
  | lock timeout =>
      simp only [queueCall] at comes
      split at comes
      · cases comes
        cases refusal
      · rename_i finite
        cases comes
        by_cases zero : timeout = noWait
        · cases refusal.symm.trans (congrArg some (if_pos zero))
          simp only [failure, answer, if_neg finite, if_pos zero, nonblockingLock]
        · cases refusal.symm.trans (congrArg some (if_neg zero))
          simp only [failure, answer, if_neg finite, if_neg zero, nonblockingLock]
  | unlock | tryLock =>
      cases comes
      cases refusal
      rfl
  | getCount => cases comes

theorem raised_of_answer {reply : QueueReply UInt8}
    (failed : call.answer reply = .bool false ∨ ∃ error, call.answer reply = .raised error) :
    ∃ reason, reply = .raised reason := by
  cases reply with
  | raised reason => exact ⟨reason, rfl⟩
  | void | item | size | bool | callbackRaised | waits =>
      cases call with
      | lock timeout =>
          by_cases endless : timeout = forever <;>
            simp [answer, endless, blockingLock, nonblockingLock] at failed
      | unlock | tryLock | getCount => simp [answer, nonblockingLock] at failed

theorem blocked_of_queue {count value : Nat} {items : List UInt8}
    (comes : call.queueCall = some queued) (size : value = items.length)
    (blocked : queued.Blocked count items) : call.Blocked count value := by
  cases queued with
  | put item wait callback =>
      rw [unlock_of_put comes]
      exact size.trans blocked
  | get wait callback =>
      have empty : value = 0 := size.trans (List.length_eq_zero_iff.mpr blocked)
      have takes := takes_of_get comes
      cases call with
      | lock | tryLock => exact empty
      | unlock | getCount => cases takes

end SemaphoreCall

/-! ## The counter -/

structure Counter (Thread : Type) where
  value : Nat
  calls : Thread → Option SemaphoreCall

section Spec

variable {Thread : Type}

def SemaphoreAction.performs : SemaphoreAction Thread → Option (Thread × SemaphoreCall)
  | .enter self call _ => some (self, call)
  | .resume self call _ _ => some (self, call)
  | .rouse _ => none

variable [DecidableEq Thread]

inductive CounterStep (count : Nat) (c : Counter Thread) :
    SemaphoreAction Thread → SemaphoreReply → Counter Thread → Prop where
  | took {action : SemaphoreAction Thread} {self : Thread} {call : SemaphoreCall} {value : Nat}
      (performs : action.performs = some (self, call)) (takes : call.takes = true)
      (positive : c.value = value + 1) :
      CounterStep count c action call.success
        { value := value, calls := update c.calls self none }
  | gave {action : SemaphoreAction Thread} {self : Thread}
      (performs : action.performs = some (self, .unlock)) (room : c.value < count) :
      CounterStep count c action SemaphoreCall.unlock.success
        { value := c.value + 1, calls := update c.calls self none }
  | failed {action : SemaphoreAction Thread} {self : Thread} {call : SemaphoreCall}
      {reply : SemaphoreReply} (performs : action.performs = some (self, call))
      (blocked : call.Blocked count c.value) (failure : call.failure = some reply) :
      CounterStep count c action reply { c with calls := update c.calls self none }
  | waits {action : SemaphoreAction Thread} {self : Thread} {call : SemaphoreCall}
      (performs : action.performs = some (self, call))
      (blocked : call.Blocked count c.value) :
      CounterStep count c action .waits { c with calls := update c.calls self (some call) }
  | counted {action : SemaphoreAction Thread} {self : Thread}
      (performs : action.performs = some (self, .getCount)) :
      CounterStep count c action (.count c.value) { c with calls := update c.calls self none }
  | roused {self : Thread} : CounterStep count c (.rouse self) .void c

omit [DecidableEq Thread] in
def isTake (entry : SemaphoreAction Thread × SemaphoreReply) : Bool :=
  entry.1.performs.any fun performed => performed.2.takes && entry.2 = performed.2.success

omit [DecidableEq Thread] in
def isGive (entry : SemaphoreAction Thread × SemaphoreReply) : Bool :=
  entry.1.performs.any fun performed =>
    performed.2 = .unlock && entry.2 = SemaphoreCall.unlock.success

variable {count : Nat} {c c' : Counter Thread} {action : SemaphoreAction Thread}
variable {reply : SemaphoreReply} {self : Thread} {call : SemaphoreCall}

omit [DecidableEq Thread] in
theorem isTake_of_performs (performs : action.performs = some (self, call)) :
    isTake (action, reply) = (call.takes && reply = call.success) := by
  simp [isTake, performs]

omit [DecidableEq Thread] in
theorem isGive_of_performs (performs : action.performs = some (self, call)) :
    isGive (action, reply) = (call = .unlock && reply = SemaphoreCall.unlock.success) := by
  simp [isGive, performs]

omit [DecidableEq Thread] in
theorem unfinished (performs : action.performs = some (self, call))
    (differs : reply ≠ call.success) :
    isTake (action, reply) = false ∧ isGive (action, reply) = false := by
  rw [isTake_of_performs performs, isGive_of_performs performs]
  constructor
  · simp [differs]
  · by_cases gives : call = .unlock
    · subst gives
      simp [differs]
    · simp [gives]

theorem CounterStep.bounded (step : CounterStep count c action reply c')
    (bound : c.value ≤ count) : c'.value ≤ count := by
  cases step with
  | took _ _ positive => exact (Nat.le_succ _).trans (positive.symm.trans_le bound)
  | gave _ room => exact room
  | failed | waits | counted | roused => exact bound

/-- A step moves the counter by the give or the take that it completes. -/
theorem CounterStep.balance (step : CounterStep count c action reply c') :
    c'.value + (if isTake (action, reply) then 1 else 0) =
      c.value + (if isGive (action, reply) then 1 else 0) := by
  cases step with
  | @took _ _ call _ performs takes positive =>
      have other : call ≠ .unlock := by
        rintro rfl
        cases takes
      simp [isTake_of_performs performs, isGive_of_performs performs, takes, other, positive]
  | gave performs room =>
      simp [isTake_of_performs performs, isGive_of_performs performs, SemaphoreCall.takes]
  | failed performs blocked failure =>
      obtain ⟨noTake, noGive⟩ :=
        unfinished performs (SemaphoreCall.failure_ne_success failure)
      simp [noTake, noGive]
  | @waits _ _ call performs blocked =>
      obtain ⟨noTake, noGive⟩ := unfinished performs call.success_ne_waits.symm
      simp [noTake, noGive]
  | counted performs =>
      simp [isTake_of_performs performs, isGive_of_performs performs, SemaphoreCall.takes]
  | roused => rfl

omit [DecidableEq Thread] in
theorem SemaphoreCall.failure_translated (failure : call.failure = some reply)
    (reason : QueueExceptionReason) : reply ≠ .raised (.queueException reason) := by
  cases call with
  | lock timeout =>
      simp only [SemaphoreCall.failure] at failure
      split at failure
      · cases failure
      · split at failure <;> cases failure <;> simp
  | unlock | tryLock => cases failure; simp
  | getCount => cases failure

omit [DecidableEq Thread] in
theorem performed_once {other : Thread} {another : SemaphoreCall}
    (performs : action.performs = some (self, call))
    (same : action.performs = some (other, another)) : another = call := by
  rw [performs] at same
  cases same
  rfl

theorem CounterStep.decides (step : CounterStep count c action reply c')
    (performs : action.performs = some (self, call)) (ended : reply ≠ .waits)
    (works : call ≠ .getCount) :
    (¬call.Blocked count c.value ∧ reply = call.success) ∨
      (call.Blocked count c.value ∧ call.failure = some reply) := by
  cases step with
  | took same takes positive =>
      cases performed_once performs same
      refine .inl ⟨?_, rfl⟩
      cases call with
      | lock | tryLock => exact fun zero => Nat.succ_ne_zero _ (positive.symm.trans zero)
      | unlock | getCount => cases takes
  | gave same room =>
      cases performed_once performs same
      exact .inl ⟨Nat.ne_of_lt room, rfl⟩
  | failed same blocked failure =>
      cases performed_once performs same
      exact .inr ⟨blocked, failure⟩
  | waits => exact absurd rfl ended
  | counted same =>
      cases performed_once performs same
      exact absurd rfl works
  | roused => cases performs

theorem CounterStep.counts (step : CounterStep count c action reply c')
    (performs : action.performs = some (self, .getCount)) : reply = .count c.value := by
  cases step with
  | took same takes =>
      cases performed_once performs same
      cases takes
  | gave same => cases performed_once performs same
  | failed same _ failure =>
      cases performed_once performs same
      cases failure
  | waits same blocked =>
      cases performed_once performs same
      exact blocked.elim
  | counted => rfl
  | roused => cases performs

theorem CounterStep.translated (step : CounterStep count c action reply c')
    (reason : QueueExceptionReason) : reply ≠ .raised (.queueException reason) := by
  cases step with
  | @took _ _ call => cases call <;> simp [SemaphoreCall.success]
  | gave => simp [SemaphoreCall.success]
  | failed _ _ failure => exact SemaphoreCall.failure_translated failure reason
  | waits | counted | roused => simp

end Spec

/-! ## The refinement -/

section Refinement

variable {Thread : Type} {count : Nat}

def SemaphoreMonitor.counter (m : SemaphoreMonitor Thread count) : Counter Thread where
  value := m.sem.queue.size
  calls := m.calls

/-- The ring is well formed, and whoever waits in the queue waits for the semaphore. -/
structure SemaphoreMonitor.WellFormed (m : SemaphoreMonitor Thread count) : Prop where
  queue : m.sem.queue.WellFormed
  calls : m.sem.calls = fun self => (m.calls self).bind SemaphoreCall.queueCall

namespace SemaphoreMonitor.WellFormed

variable [DecidableEq Thread] {m : SemaphoreMonitor Thread count} {self : Thread}
variable {call : SemaphoreCall} {action : SemaphoreAction Thread}

/-- The queue moved on behalf of a call: so did the counter. -/
theorem proceed (wf : m.WellFormed) (performs : action.performs = some (self, call))
    {queued : QueueCall UInt8} (comes : call.queueCall = some queued)
    {queueAction : QueueAction Thread UInt8} {reply : QueueReply UInt8}
    {sem : QueueMonitor Thread UInt8 count false}
    (goes : queueAction.performs m.sem.calls = some (self, queued))
    (move : m.sem.Step queueAction reply sem) :
    CounterStep count m.counter action (m.proceed self call (sem, reply)).2
        (m.proceed self call (sem, reply)).1.counter ∧
      (m.proceed self call (sem, reply)).1.WellFormed := by
  obtain ⟨l, holds⟩ : ∃ l, HoldsList m.sem l := ⟨⟨_, _⟩, wf.queue, rfl, rfl⟩
  obtain ⟨l', listStep, after⟩ := holds.step move
  have size := holds.size
  have sized := after.size
  rw [holds.calls] at goes
  have back (pending : Option SemaphoreCall)
      (calls : sem.calls = update l.calls self (pending.bind SemaphoreCall.queueCall)) :
      WellFormed { sem := sem, calls := update m.calls self pending } := by
    refine ⟨after.wf, ?_⟩
    rw [calls, ← holds.calls, wf.calls]
    funext thread
    by_cases same : thread = self
    · subst same
      simp
    · simp [same]
  unfold SemaphoreMonitor.proceed SemaphoreMonitor.counter at *
  cases listStep with
  | stored puts space =>
      rw [goes] at puts
      cases puts
      cases SemaphoreCall.unlock_of_put comes
      simp only [List.length_append, List.length_cons, List.length_nil, ← size] at sized
      refine ⟨?_, back none after.calls⟩
      rw [sized]
      exact .gave performs (size.trans_lt space)
  | overwrote _ _ _ overwrites => cases overwrites
  | taken gets head =>
      rw [goes] at gets
      cases gets
      have takes := SemaphoreCall.takes_of_get comes
      rw [SemaphoreCall.answer_item takes]
      refine ⟨.took performs takes ?_, back none after.calls⟩
      exact size.trans (by rw [sized, head, List.length_cons])
  | refused refuses gaveUp blocked keeps refusal =>
      rw [goes] at refuses
      cases refuses
      have failure := SemaphoreCall.answer_refusal comes refusal
      have stuck := SemaphoreCall.blocked_of_queue comes size blocked
      refine ⟨?_, back none after.calls⟩
      rw [sized, ← size]
      exact .failed performs stuck failure
  | threw throws blocked given =>
      rw [goes] at throws
      cases throws
      rw [SemaphoreCall.queue_call_callback comes] at given
      cases given
  | waits waits blocked =>
      rw [goes] at waits
      cases waits
      have stuck := SemaphoreCall.blocked_of_queue comes size blocked
      have calls : sem.calls = update l.calls self ((some call).bind
          SemaphoreCall.queueCall) := by
        rw [Option.bind_some, comes]
        exact after.calls
      refine ⟨?_, back (some call) calls⟩
      rw [sized, ← size, SemaphoreCall.answer_waits]
      exact .waits performs stuck
  | roused | cleared | sized | emptied | filled => cases goes

theorem step {reply : SemaphoreReply} {m' : SemaphoreMonitor Thread count} (wf : m.WellFormed)
    (move : m.Step action reply m') :
    CounterStep count m.counter action reply m'.counter ∧ m'.WellFormed := by
  unfold Step at move
  cases action with
  | enter self call wakes =>
      simp only [SemaphoreMonitor.step] at move
      split at move
      · rename_i free
        obtain ⟨done, moved, result⟩ := Option.map_eq_some_iff.mp move
        obtain ⟨rfl, rfl⟩ := Prod.mk.inj result
        have idle : m.sem.calls self = none := by simp [wf.calls, free]
        cases comes : call.queueCall with
        | some queued =>
            rw [comes] at moved
            have goes : (QueueAction.enter self queued false wakes).performs m.sem.calls =
                some (self, queued) := by
              simp [QueueAction.performs, idle]
            exact wf.proceed rfl comes goes moved
        | none =>
            rw [comes] at moved
            have counts : call = .getCount := SemaphoreCall.get_count_of_none comes
            simp only [QueueMonitor.step, idle, Option.isNone_none, if_true,
              Option.some.injEq] at moved
            subst moved counts
            have same : update m.calls self none = m.calls :=
              Function.update_eq_self_iff.mpr free.symm
            have calls : m.sem.calls = fun thread =>
                (update m.calls self none thread).bind SemaphoreCall.queueCall := by
              rw [same]
              exact wf.calls
            exact ⟨.counted rfl, wf.queue, calls⟩
      · cases move
  | resume self call timedOut wakes =>
      simp only [SemaphoreMonitor.step] at move
      split at move
      · rename_i pending
        obtain ⟨done, moved, result⟩ := Option.map_eq_some_iff.mp move
        obtain ⟨rfl, rfl⟩ := Prod.mk.inj result
        have waits : m.sem.calls self = call.queueCall := by simp [wf.calls, pending]
        cases comes : call.queueCall with
        | some queued =>
            have goes : (QueueAction.resume self timedOut false wakes).performs m.sem.calls =
                some (self, queued) := by
              simp [QueueAction.performs, waits, comes]
            exact wf.proceed rfl comes goes moved
        | none => simp [QueueMonitor.step, waits, comes] at moved
      · cases move
  | rouse self =>
      obtain ⟨⟨sem, queueReply⟩, moved, result⟩ := Option.map_eq_some_iff.mp move
      cases result
      obtain ⟨l, holds⟩ : ∃ l, HoldsList m.sem l := ⟨⟨_, _⟩, wf.queue, rfl, rfl⟩
      obtain ⟨l', listStep, after⟩ := holds.step moved
      cases listStep with
      | roused _ =>
          have same : sem.queue.size = m.sem.queue.size := after.size.trans holds.size.symm
          simp only [SemaphoreMonitor.counter, same]
          exact ⟨.roused, after.wf, after.calls.trans (holds.calls.symm.trans wf.calls)⟩
      | stored performs | overwrote performs | taken performs | refused performs
      | threw performs | waits performs => cases performs

end SemaphoreMonitor.WellFormed

/-! ## Construction -/

namespace SemaphoreMonitor

theorem put_times {n : Nat} {sem : BoundedQueue UInt8 count false} (wf : sem.WellFormed)
    (room : sem.size + n ≤ count) :
    ∃ filled, putTimes n sem = .ok filled ∧ filled.WellFormed ∧ filled.size = sem.size + n := by
  induction n generalizing sem with
  | zero => exact ⟨sem, rfl, wf, rfl⟩
  | succ n ih =>
      have space : sem.size < count := by omega
      have put : sem.putNonblocking 0 = .ok (sem.store 0) := by
        unfold BoundedQueue.putNonblocking
        rw [if_neg fun full => Nat.ne_of_lt space full.1]
      have stored := (BoundedQueue.store_of_space wf space 0).1
      have size := BoundedQueue.store_size wf.bounded (0 : UInt8)
      obtain ⟨filled, puts, wellFormed, final⟩ := ih stored (by omega)
      refine ⟨filled, ?_, wellFormed, by omega⟩
      simp only [putTimes, put]
      exact puts

theorem semaphore_with (positive : 0 < count) (buffer : Nat → UInt8) (initCnt : Nat) :
    ∃ start : SemaphoreMonitor Thread count, semaphoreWith buffer initCnt = .ok start ∧
      start.WellFormed ∧ start.counter = ⟨min initCnt count, fun _ => none⟩ := by
  have empty : (BoundedQueue.uninitialised buffer : BoundedQueue UInt8 count false).size = 0 :=
    rfl
  obtain ⟨filled, puts, wf, size⟩ := put_times
    (n := min initCnt count) (BoundedQueue.uninitialised_wellFormed positive buffer)
    (by omega)
  refine ⟨initial filled, by simp [semaphoreWith, puts, Except.map], ⟨wf, rfl⟩, ?_⟩
  simp only [counter, initial, size, empty, Nat.zero_add]

theorem semaphore_eq_with (buffer : Nat → UInt8) :
    (semaphore buffer : Except _ (SemaphoreMonitor Thread count)) =
      semaphoreWith buffer count := by
  simp only [semaphore, semaphoreWith, Nat.min_self]

/-! ## Calls that do not wait -/

section Alone

variable [DecidableEq Thread] {m m' : SemaphoreMonitor Thread count} {self : Thread}
variable {wakes : Option Thread}

theorem enter_finishes {call : SemaphoreCall} {queued : QueueCall UInt8} {reply : SemaphoreReply}
    (comes : call.queueCall = some queued) (entered : m.Step (.enter self call wakes) reply m')
    (ended : reply ≠ .waits) :
    m.sem.ready queued = true ∧ ∃ done, m.sem.finish self queued wakes = some (m'.sem, done) := by
  simp only [Step, step, comes] at entered
  split at entered
  · obtain ⟨⟨sem, done⟩, ran, result⟩ := Option.map_eq_some_iff.mp entered
    simp only [QueueMonitor.step] at ran
    split at ran
    · unfold QueueMonitor.attempt at ran
      split at ran
      · rename_i ready
        cases result
        exact ⟨ready, done, ran⟩
      · rw [SemaphoreCall.queue_call_callback comes] at ran
        simp only [Bool.false_and, Bool.false_eq_true, if_false, Option.some.injEq,
          Prod.mk.injEq] at ran
        obtain ⟨rfl, rfl⟩ := ran
        cases result
        exact absurd (SemaphoreCall.answer_waits call) ended
    · cases ran
  · cases entered

/-- A give that finds room is the give of the semaphore on its own. -/
theorem enter_unlock (entered : m.Step (.enter self .unlock wakes) .void m') :
    (⟨m.sem.queue⟩ : Semaphore count).unlock = .ok ⟨m'.sem.queue⟩ := by
  obtain ⟨ready, reply, done⟩ := enter_finishes rfl entered (by simp)
  have room : ¬(m.sem.queue.size = count ∧ false = false) := by
    simpa [QueueMonitor.ready, QueueCall.putNonblocking] using ready
  have put : m.sem.queue.putNonblocking 0 = .ok (m.sem.queue.store 0) := if_neg room
  obtain ⟨set, _, result⟩ := Option.map_eq_some_iff.mp done
  have stored : m'.sem.queue = m.sem.queue.store 0 :=
    (congrArg (fun done => done.1.queue) result).symm
  simp only [Semaphore.unlock, put, stored]

theorem enter_take (entered : m.Step (.enter self (.lock forever) wakes) .void m') :
    (⟨m.sem.queue⟩ : Semaphore count).blockingLock = some ⟨m'.sem.queue⟩ := by
  obtain ⟨ready, reply, done⟩ := enter_finishes rfl entered (by simp)
  have stocked : m.sem.queue.size ≠ 0 := by simpa [QueueMonitor.ready] using ready
  obtain ⟨set, _, result⟩ := Option.map_eq_some_iff.mp done
  have taken : m'.sem.queue = m.sem.queue.take.2 :=
    (congrArg (fun done => done.1.queue) result).symm
  simp only [Semaphore.blockingLock, BoundedQueue.get, if_neg stocked, taken]
  rfl

end Alone

/-! ## Whole runs -/

structure AnswersCounter [DecidableEq Thread] (m : SemaphoreMonitor Thread count)
    (action : SemaphoreAction Thread) (reply : SemaphoreReply)
    (m' : SemaphoreMonitor Thread count) : Prop where
  unlock : ∀ self, action.performs = some (self, .unlock) → reply ≠ .waits →
    ((∃ message, reply = .raised (.semaphoreException message)) ↔ m.counter.value = count) ∧
      (reply = .void ↔ m.counter.value ≠ count)
  tryLock : ∀ self, action.performs = some (self, .tryLock) → reply ≠ .waits →
    (reply = .bool false ↔ m.counter.value = 0) ∧ (reply = .bool true ↔ m.counter.value ≠ 0)
  lock : ∀ self timeout error, action.performs = some (self, .lock timeout) →
    reply = .raised error →
      ((∃ message, error = .semaphoreException message) ↔ timeout = noWait) ∧
      ((∃ message, error = .timeoutException message) ↔ timeout ≠ noWait)
  getCount : ∀ self, action.performs = some (self, .getCount) → reply = .count m.counter.value
  kept : (reply = .bool false ∨ ∃ error, reply = .raised error) → m'.sem.queue = m.sem.queue
  translated : ∀ reason, reply ≠ .raised (.queueException reason)

variable [DecidableEq Thread] {m m' : SemaphoreMonitor Thread count}
variable {action : SemaphoreAction Thread} {reply : SemaphoreReply}

theorem step_failed (move : m.Step action reply m')
    (failed : reply = .bool false ∨ ∃ error, reply = .raised error) :
    m'.sem.queue = m.sem.queue := by
  unfold Step at move
  have ended {queueAction : QueueAction Thread UInt8} {self : Thread} {call : SemaphoreCall}
      (went : (m.sem.step queueAction).map (m.proceed self call) = some (m', reply)) :
      m'.sem.queue = m.sem.queue := by
    obtain ⟨⟨sem, queueReply⟩, moved, result⟩ := Option.map_eq_some_iff.mp went
    obtain ⟨rfl, rfl⟩ := Prod.mk.inj result
    exact QueueMonitor.step_refused (.inr (SemaphoreCall.raised_of_answer failed)) moved
  cases action with
  | enter self call wakes =>
      simp only [step] at move
      split at move
      · exact ended move
      · cases move
  | resume self call timedOut wakes =>
      simp only [step] at move
      split at move
      · exact ended move
      · cases move
  | rouse self =>
      obtain ⟨done, _, result⟩ := Option.map_eq_some_iff.mp move
      cases result
      simp at failed

theorem WellFormed.answers (wf : m.WellFormed) (move : m.Step action reply m') :
    m.AnswersCounter action reply m' := by
  have step := (wf.step move).1
  constructor
  · intro self performs ended
    rcases step.decides performs ended (by simp) with ⟨free, rfl⟩ | ⟨blocked, failure⟩
    · have room : m.counter.value ≠ count := free
      simp [SemaphoreCall.success, room]
    · have full : m.counter.value = count := blocked
      cases failure
      simp [full]
  · intro self performs ended
    rcases step.decides performs ended (by simp) with ⟨free, rfl⟩ | ⟨blocked, failure⟩
    · have positive : m.counter.value ≠ 0 := free
      simp [SemaphoreCall.success, positive]
    · have empty : m.counter.value = 0 := blocked
      cases failure
      simp [empty]
  · intro self timeout error performs raised
    subst raised
    rcases step.decides performs (by simp) (by simp) with ⟨_, success⟩ | ⟨_, failure⟩
    · cases success
    · simp only [SemaphoreCall.failure] at failure
      split at failure
      · cases failure
      · split at failure
        · rename_i zero
          cases failure
          exact ⟨by simpa using zero, by simpa using zero⟩
        · rename_i positive
          cases failure
          exact ⟨by simpa using positive, by simpa using positive⟩
  · intro self performs
    exact step.counts performs
  · exact fun failed => step_failed move failed
  · exact step.translated

end SemaphoreMonitor

end Refinement

def completedTakes {Thread : Type} (trace : List (SemaphoreAction Thread × SemaphoreReply)) :
    Nat :=
  (trace.filter isTake).length

def completedGives {Thread : Type} (trace : List (SemaphoreAction Thread × SemaphoreReply)) :
    Nat :=
  (trace.filter isGive).length

section Runs

variable {Thread : Type} (trace : List (SemaphoreAction Thread × SemaphoreReply))
variable (entry : SemaphoreAction Thread × SemaphoreReply)

theorem completed_takes_snoc :
    completedTakes (trace ++ [entry]) = completedTakes trace + if isTake entry then 1 else 0 := by
  simp only [completedTakes, List.filter_append, List.length_append, List.filter_singleton]
  cases isTake entry <;> rfl

theorem completed_gives_snoc :
    completedGives (trace ++ [entry]) = completedGives trace + if isGive entry then 1 else 0 := by
  simp only [completedGives, List.filter_append, List.length_append, List.filter_singleton]
  cases isGive entry <;> rfl

end Runs

theorem counter_run {Thread : Type} [DecidableEq Thread] {count : Nat}
    {start c : Counter Thread} {trace : List (SemaphoreAction Thread × SemaphoreReply)}
    (run : Run (CounterStep count) anyStep start trace c) (bound : start.value ≤ count) :
    c.value + completedTakes trace = start.value + completedGives trace ∧ c.value ≤ count := by
  induction run with
  | nil => exact ⟨rfl, bound⟩
  | snoc _ _ move ih =>
      obtain ⟨balance, bounded⟩ := ih
      have moved := move.balance
      refine ⟨?_, move.bounded bounded⟩
      simp only [completed_takes_snoc, completed_gives_snoc]
      omega

/-- `semaphore<count>` is an atomic bounded counter: every run of any number of threads is
a run of the counter that starts at `min(init_cnt, count)`, and every call answers what the
counter says. -/
theorem semaphore_refines_counter {Thread : Type} [DecidableEq Thread] {count : Nat}
    (positive : 0 < count) (buffer : Nat → UInt8) (initCnt : Nat) :
    ∃ start : SemaphoreMonitor Thread count,
      SemaphoreMonitor.semaphoreWith buffer initCnt = .ok start ∧
      ∀ trace m, SemaphoreRun start trace m →
        Run (CounterStep count) anyStep ⟨min initCnt count, fun _ => none⟩ trace m.counter ∧
        m.counter.value + completedTakes trace = min initCnt count + completedGives trace ∧
        m.counter.value ≤ count ∧
        ∀ action reply m', m.Step action reply m' → m.AnswersCounter action reply m' := by
  obtain ⟨(start : SemaphoreMonitor Thread count), built, wf, counter⟩ :=
    SemaphoreMonitor.semaphore_with positive buffer initCnt
  refine ⟨start, built, fun trace m run => ?_⟩
  have matched : ∀ (m : SemaphoreMonitor Thread count) c action reply m',
      m.WellFormed ∧ m.counter = c → m.Step action reply m' →
        ∃ c', CounterStep count c action reply c' ∧ m'.WellFormed ∧ m'.counter = c' := by
    rintro m c action reply m' ⟨wf, rfl⟩ move
    obtain ⟨step, after⟩ := wf.step move
    exact ⟨m'.counter, step, after, rfl⟩
  obtain ⟨c, counts, wf, rfl⟩ := Run.simulate (fun _ _ _ _ _ => trivial) matched run
    ⟨wf, counter⟩
  obtain ⟨balance, bounded⟩ := counter_run counts (Nat.min_le_right _ _)
  exact ⟨counts, balance, bounded, fun _ _ _ move => wf.answers move⟩

/-- Two threads on a semaphore of count one: a take, a second one that times out, a give, a
second one that is refused. -/
theorem semaphore_refines_counter_of_two_threads :
    ∃ start, SemaphoreMonitor.semaphoreWith (fun _ => 0) 3 = .ok start ∧
      ∃ trace, ∃ m : SemaphoreMonitor Nat 1, SemaphoreRun start trace m ∧
        trace.map Prod.snd = [.void, .waits, .void,
          .raised (.timeoutException "Semaphore `take` timed out"), .void, .waits, .void,
          .raised (.semaphoreException
            "Cannot `give` semaphore more times than its permitted count")] ∧
        m.counter.value + completedTakes trace = min 3 1 + completedGives trace := by
  obtain ⟨start, built, runs⟩ := @semaphore_refines_counter Nat _ 1 (by decide) (fun _ => 0) 3
  refine ⟨start, built, ?_⟩
  have filled : SemaphoreMonitor.semaphoreWith (fun _ => 0) 3 =
      .ok (.initial ((BoundedQueue.uninitialised fun _ => 0).store 0) :
        SemaphoreMonitor Nat 1) := rfl
  cases built.symm.trans filled
  obtain ⟨trace, m, run, tested⟩ := semaphore_run_of_actions
    (.initial ((BoundedQueue.uninitialised fun _ => 0).store 0) : SemaphoreMonitor Nat 1)
    [.enter 0 (.lock forever) none, .enter 1 (.take 20) none, .rouse 1,
      .resume 1 (.take 20) true none, .enter 1 .unlock none, .enter 0 .give none, .rouse 0,
      .resume 0 .give true none]
    (fun trace _ => trace.map Prod.snd = [.void, .waits, .void,
      .raised (.timeoutException "Semaphore `take` timed out"), .void, .waits, .void,
      .raised (.semaphoreException
        "Cannot `give` semaphore more times than its permitted count")])
    (by decide +kernel)
  exact ⟨trace, m, run, by simpa using tested, (runs trace m run).2.1⟩

end AresCommon.Synchronization
