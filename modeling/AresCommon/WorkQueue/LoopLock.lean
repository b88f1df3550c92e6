import AresCommon.Foundation.Program
import AresCommon.WorkQueue.System

/-!
# The lock of the worker loop

`work_queue_main` statement by statement. Its `std::unique_lock` is an object of its own:
it raises a `std::system_error` when it is unlocked without owning the spinlock or locked
while it owns it, and gives the spinlock back when its scope ends. What the loop reads of
the shared state, and how its handlers end, is up to the environment.
-/

namespace AresCommon.WorkQueue

open AresCommon.DataStructures AresCommon.DataStructures.Slist
open AresCommon.Foundation

set_option autoImplicit false

inductive LockError where
  | operationNotPermitted
  | resourceDeadlockWouldOccur
  deriving DecidableEq, Repr

inductive LoopException (Thrown : Type) where
  | systemError (code : LockError)
  | handler (thrown : Thrown)
  deriving DecidableEq, Repr

/-- The calls that the loop makes. -/
inductive LoopCall where
  /-- `std::unique_lock lock_(*lock)`, `lock_.lock()`, `lock_.unlock()`, `lock_.~unique_lock()` -/
  | construct
  | lock
  | unlock
  | destroy
  | slistGet
  | queueFlagSet (position : Nat)
  | queueFlagClear (position : Nat)
  | queueFlagTest (position : Nat)
  | queueFlagTestAndClear (position : Nat)
  | queueFlagsSet (flags : Flags)
  | workFlagSet (work : WorkRef) (position : Nat)
  | workFlagClear (work : WorkRef) (position : Nat)
  | workFlagTest (work : WorkRef) (position : Nat)
  | workHandler (work : WorkRef)
  | drainqPut (item : UInt8)
  | notifyqGet
  | handler (handler : WorkHandler) (work : WorkRef)
  | finalizeFlush (work : WorkRef)
  | finalizeCancel (work : WorkRef)
  | yield
  deriving DecidableEq, Repr

/-- What the calls give back. A handler returns, or throws. -/
@[reducible]
def LoopReply (Thrown : Type) : LoopCall → Type
  | .slistGet => Option WorkRef
  | .queueFlagTest _ => Bool
  | .queueFlagTestAndClear _ => Bool
  | .workFlagTest _ _ => Bool
  | .workHandler _ => WorkHandler
  | .handler _ _ => Except Thrown Unit
  | _ => Unit

/-- `std::unique_lock` of the global spinlock. -/
structure UniqueLock where
  owns : Bool
  deriving DecidableEq, Repr

abbrev LoopMethod (Thrown Result : Type) : Type :=
  Method LoopCall (LoopReply Thrown) UniqueLock (LoopException Thrown) Result

section Main

variable {Thrown Result : Type}

def UniqueLock.unlock : LoopMethod Thrown Unit := do
  Method.request LoopCall.unlock
  if (← get).owns then modify fun _ => { owns := false }
  else throw (.systemError .operationNotPermitted)

def UniqueLock.lock : LoopMethod Thrown Unit := do
  Method.request LoopCall.lock
  if (← get).owns then throw (.systemError .resourceDeadlockWouldOccur)
  else modify fun _ => { owns := true }

def UniqueLock.destroy : LoopMethod Thrown Unit := do
  Method.request LoopCall.destroy
  modify fun _ => { owns := false }

/-- The scope of `std::unique_lock lock_(*lock)`. -/
def lockScope (body : LoopMethod Thrown Result) : LoopMethod Thrown Result := do
  Method.request LoopCall.construct
  modify fun _ => { owns := true }
  let outcome : Except (LoopException Thrown) Result ← body.attempt
  UniqueLock.destroy
  match outcome with
  | .ok result => return result
  | .error exception => throw exception

inductive LoopTurn where
  | item (work : WorkRef) (handler : WorkHandler)
  | idle
  | leave
  deriving DecidableEq, Repr

/-- The loop up to the test of `work`. -/
def loopTurn : LoopMethod Thrown LoopTurn := do
  let node : Option WorkRef ← Method.request LoopCall.slistGet
  match node with
  | some work =>
      Method.request (LoopCall.queueFlagSet workQueueBusyBit)
      Method.request (LoopCall.workFlagSet work workRunningBit)
      Method.request (LoopCall.workFlagClear work workQueuedBit)
      let handler : WorkHandler ← Method.request (LoopCall.workHandler work)
      return .item work handler
  | none =>
      let drain : Bool ← Method.request (LoopCall.queueFlagTestAndClear workQueueDrainBit)
      if drain then
        Method.request (LoopCall.drainqPut 1)
        return .idle
      else
        let stop : Bool ← Method.request (LoopCall.queueFlagTest workQueueStopBit)
        if stop then
          Method.request (LoopCall.queueFlagsSet 0)
          return .leave
        else return .idle

/-- `try { handler(work); } catch (...) { lock_.unlock(); throw; }` -/
def runHandler (handler : WorkHandler) (work : WorkRef) : LoopMethod Thrown Unit := do
  let ended : Except Thrown Unit ← Method.request (LoopCall.handler handler work)
  match ended with
  | .ok _ => return
  | .error thrown =>
      UniqueLock.unlock
      throw (.handler thrown)

/-- The critical section after the handler from the test of CANCELING; whether to yield. -/
def loopCancel (work : WorkRef) : LoopMethod Thrown Bool := do
  let canceling : Bool ← Method.request (LoopCall.workFlagTest work workCancelingBit)
  if canceling then Method.request (LoopCall.finalizeCancel work)
  Method.request (LoopCall.queueFlagClear workCancelingBit)
  let noYield : Bool ← Method.request (LoopCall.queueFlagTest workQueueNoYieldBit)
  return !noYield

/-- The loop from the second `lock_.lock()` to the last `lock_.unlock()`. -/
def loopComplete (work : WorkRef) : LoopMethod Thrown Bool := do
  Method.request (LoopCall.workFlagClear work workRunningBit)
  let flushing : Bool ← Method.request (LoopCall.workFlagTest work workFlushingBit)
  if flushing then Method.request (LoopCall.finalizeFlush work)
  loopCancel work

def loopBody : LoopMethod Thrown Bool := do
  match ← loopTurn with
  | .leave => return true
  | .idle =>
      UniqueLock.unlock
      Method.request LoopCall.notifyqGet
      return false
  | .item work handler =>
      UniqueLock.unlock
      runHandler handler work
      UniqueLock.lock
      let yields ← loopComplete work
      UniqueLock.unlock
      if yields then Method.request LoopCall.yield
      return false

def workQueueMain : Nat → LoopMethod Thrown Unit
  | 0 => .stuck
  | fuel + 1 => do
      let leaves ← lockScope loopBody
      if leaves then return
      else workQueueMain fuel

end Main

/-! ## The shared state -/

/-- What the calls of the worker of a queue read of the shared state. -/
def StateReply {Thrown : Type} (queue : QueueId) (s : State) :
    (call : LoopCall) → LoopReply Thrown call → Prop
  | .slistGet, node => node = (SysSlist.get s.nodes (s.queues queue).pending).1
  | .queueFlagTest position, set => set = flagTest (s.queues queue).flags position
  | .queueFlagTestAndClear position, set => set = flagTest (s.queues queue).flags position
  | .workFlagTest work position, set => set = flagTest (s.works work).flags position
  | .workHandler work, handler => handler = (s.works work).handler
  | _, _ => True

def stateAfter (fuel : Nat) (queue : QueueId) (s : State) : LoopCall → State
  | .slistGet =>
      match SysSlist.get s.nodes (s.queues queue).pending with
      | (some _, pending) => s.setPending queue (s.nodes, pending)
      | (none, _) => s
  | .queueFlagSet position => s.queueFlagSet queue position
  | .queueFlagClear position => s.queueFlagClear queue position
  | .queueFlagTestAndClear position =>
      if flagTest (s.queues queue).flags position then s.queueFlagClear queue position else s
  | .queueFlagsSet flags => s.modifyQueue queue fun q => { q with flags := flags }
  | .workFlagSet work position => s.workFlagSet work position
  | .workFlagClear work position => s.workFlagClear work position
  | .drainqPut item => s.modifyQueue queue fun q => { q with drainq := q.drainq.put item }
  | .finalizeFlush work => (s.finalizeFlushLocked work).getD s
  | .finalizeCancel work => (s.finalizeCancelLocked fuel work).getD s
  | _ => s

/-- The shared state answers and no other thread writes to it. -/
def stateContract (Thrown : Type) (fuel : Nat) (queue : QueueId) :
    Contract LoopCall (LoopReply Thrown) State where
  permits := fun _ _ => True
  honest := StateReply queue
  observe := fun s call _ => stateAfter fuel queue s call

def LoopTurn.worker : LoopTurn → WorkerPc
  | .item work handler => .running work handler
  | .idle => .parked
  | .leave => .returned

section Shared

variable {Thrown : Type} {fuel : Nat} {queue : QueueId}

/-- The turn of the loop is the turn of the state machine. -/
theorem turn_runs_turn_locked (lock : UniqueLock) (s : State) :
    (stateContract Thrown fuel queue).runs loopTurn lock
      (fun turn after s' => after = lock ∧ s'.setWorker queue turn.worker = s.turnLocked queue)
      (fun _ _ _ => False) s := by
  unfold loopTurn
  simp only [Contract.runs_bind, Contract.runs_request]
  refine ⟨trivial, ?_⟩
  rintro node ⟨⟩
  have after : (stateContract Thrown fuel queue).observe s .slistGet
      (SysSlist.get s.nodes (s.queues queue).pending).1 = stateAfter fuel queue s .slistGet := rfl
  rw [after]
  rcases fetched : SysSlist.get s.nodes (s.queues queue).pending with ⟨_ | work, pending⟩
  · have unchanged : stateAfter fuel queue s .slistGet = s := by
      simp only [stateAfter, fetched]
    simp only [unchanged, State.turnLocked, fetched, Contract.runs_bind, Contract.runs_request]
    refine ⟨trivial, ?_⟩
    rintro drain ⟨⟩
    cases draining : flagTest (s.queues queue).flags workQueueDrainBit with
    | true =>
        simp [stateContract, stateAfter, draining, LoopTurn.worker]
    | false =>
        cases stopping : flagTest (s.queues queue).flags workQueueStopBit with
        | true => simp [stateContract, stateAfter, StateReply, draining, stopping, LoopTurn.worker]
        | false => simp [stateContract, stateAfter, StateReply, draining, stopping, LoopTurn.worker]
  · have popped : stateAfter fuel queue s .slistGet = s.setPending queue (s.nodes, pending) := by
      simp only [stateAfter, fetched]
    simp only [popped, State.turnLocked, fetched, Contract.runs_bind, Contract.runs_request]
    simp [stateContract, stateAfter, StateReply, LoopTurn.worker]

theorem cancel_runs_complete_cancel {work : WorkRef} {s done : State} (lock : UniqueLock)
    (completed : s.completeCancel fuel queue work = some done) :
    (stateContract Thrown fuel queue).runs (loopCancel work) lock
      (fun _ after s' => after = lock ∧ s'.setWorker queue .atTop = done)
      (fun _ _ _ => False) s := by
  simp only [State.completeCancel, Option.bind_eq_bind, Option.bind_eq_some_iff] at completed
  obtain ⟨cancelled, cancel, last⟩ := completed
  cases last
  simp only [loopCancel, Contract.runs_bind, Contract.runs_request]
  refine ⟨trivial, ?_⟩
  rintro _ ⟨⟩
  cases canceling : flagTest (s.works work).flags workCancelingBit with
  | true =>
      rw [if_pos canceling] at cancel
      simp [stateContract, stateAfter, cancel]
  | false =>
      rw [if_neg (by simp [canceling])] at cancel
      cases cancel
      simp [stateContract, stateAfter]

theorem complete_runs_complete_locked {work : WorkRef} {s done : State} (lock : UniqueLock)
    (completed : s.completeLocked fuel queue work = some done) :
    (stateContract Thrown fuel queue).runs (loopComplete work) lock
      (fun _ after s' => after = lock ∧ s'.setWorker queue .atTop = done)
      (fun _ _ _ => False) s := by
  rw [State.complete_locked_parts] at completed
  obtain ⟨flushed, flush, rest⟩ := Option.bind_eq_some_iff.mp completed
  simp only [loopComplete, Contract.runs_bind, Contract.runs_request]
  refine ⟨trivial, fun _ _ => ⟨trivial, ?_⟩⟩
  rintro _ ⟨⟩
  have cleared {reply : Unit} : (stateContract Thrown fuel queue).observe s
      (.workFlagClear work workRunningBit) reply = s.workFlagClear work workRunningBit := rfl
  simp only [State.completeFlush] at flush
  rw [cleared]
  cases flushing :
      flagTest ((s.workFlagClear work workRunningBit).works work).flags workFlushingBit with
  | true =>
      rw [if_pos flushing] at flush
      have finalized : stateAfter fuel queue (s.workFlagClear work workRunningBit)
          (.finalizeFlush work) = flushed := by simp only [stateAfter, flush, Option.getD_some]
      refine ⟨trivial, fun _ _ => ?_⟩
      rw [← finalized] at rest
      exact cancel_runs_complete_cancel lock rest
  | false =>
      rw [if_neg (by simp [flushing])] at flush
      cases flush
      exact cancel_runs_complete_cancel lock rest

end Shared

/-! ## The discipline -/

def lockOwner : Bool → LoopCall → Bool
  | _, .construct => true
  | _, .lock => true
  | _, .unlock => false
  | _, .destroy => false
  | owns, _ => owns

/-- What the loop may call: `lock_` is unlocked when it owns the spinlock and locked when it
does not, and the calls that may take long are made without it. -/
def LockRule (owns : Bool) : LoopCall → Prop
  | .construct => owns = false
  | .lock => owns = false
  | .unlock => owns = true
  | .handler _ _ => owns = false
  | .notifyqGet => owns = false
  | _ => True

def thrownBy {Thrown : Type} : (call : LoopCall) → LoopReply Thrown call → Option Thrown
  | .handler _ _, .error thrown => some thrown
  | _, _ => none

abbrev LoopEvent (Thrown : Type) : Type := Event LoopCall (LoopReply Thrown)

def ownsAfter {Thrown : Type} (events : List (LoopEvent Thrown)) : Bool :=
  events.foldl (fun owns event => lockOwner owns event.1) false

def NoThrow {Thrown : Type} (events : List (LoopEvent Thrown)) : Prop :=
  ∀ event ∈ events, thrownBy event.1 event.2 = none

instance {Thrown : Type} [DecidableEq Thrown] (events : List (LoopEvent Thrown)) :
    Decidable (NoThrow events) :=
  inferInstanceAs (Decidable (∀ event ∈ events, thrownBy event.1 event.2 = none))

/-- The lock discipline in a run of the loop, unfinished or with what it ends with. -/
structure Disciplined {Thrown : Type} (events : List (LoopEvent Thrown))
    (outcome : Option (Except (LoopException Thrown) Unit × UniqueLock)) : Prop where
  calls : ∀ earlier event later, events = earlier ++ event :: later →
    LockRule (ownsAfter earlier) event.1
  lockRaisesNothing : ∀ code lock, outcome ≠ some (.error (.systemError code), lock)
  handlerException : ∀ event ∈ events, ∀ thrown, thrownBy event.1 event.2 = some thrown →
    ∀ ended, outcome = some ended → ended.1 = .error (.handler thrown)

structure LockGhost (Thrown : Type) where
  owns : Bool
  thrown : Option Thrown

/-- Until a handler throws the calls keep the rule. -/
def lockContract (Thrown : Type) : Contract LoopCall (LoopReply Thrown) (LockGhost Thrown) where
  permits := fun ghost call => ghost.thrown = none → LockRule ghost.owns call
  honest := fun _ _ _ => True
  observe := fun ghost call reply =>
    { owns := lockOwner ghost.owns call, thrown := thrownBy call reply <|> ghost.thrown }

section Discipline

variable {Thrown : Type}

theorem owns_after_contract (events : List (LoopEvent Thrown)) (ghost : LockGhost Thrown) :
    ((lockContract Thrown).after ghost events).owns =
      events.foldl (fun owns event => lockOwner owns event.1) ghost.owns := by
  induction events generalizing ghost with
  | nil => rfl
  | cons event events ih => exact ih _

theorem thrown_after_contract (events : List (LoopEvent Thrown)) (ghost : LockGhost Thrown) :
    ((lockContract Thrown).after ghost events).thrown = none ↔
      ghost.thrown = none ∧ NoThrow events := by
  induction events generalizing ghost with
  | nil => simp [Contract.after, NoThrow]
  | cons event events ih =>
      refine (ih _).trans ?_
      simp only [NoThrow, List.forall_mem_cons, lockContract, Option.orElse_eq_orElse,
        Option.orElse_eq_or, Option.or_eq_none_iff]
      tauto

theorem turn_keeps_lock (lock : UniqueLock) (ghost : LockGhost Thrown) :
    (lockContract Thrown).runs loopTurn lock (fun _ after now => after = lock ∧ now = ghost)
      (fun _ _ _ => False) ghost := by
  unfold loopTurn
  simp only [Contract.runs_bind, Contract.runs_request]
  refine ⟨fun _ => trivial, fun node _ => ?_⟩
  cases node with
  | some work => simp [lockContract, LockRule, lockOwner, thrownBy]
  | none => simp [lockContract, LockRule, lockOwner, thrownBy]

theorem complete_keeps_lock (work : WorkRef) (lock : UniqueLock) (ghost : LockGhost Thrown) :
    (lockContract Thrown).runs (loopComplete work) lock
      (fun _ after now => after = lock ∧ now = ghost) (fun _ _ _ => False) ghost := by
  simp [loopComplete, loopCancel, lockContract, LockRule, lockOwner, thrownBy]

theorem handler_keeps_lock (handler : WorkHandler) (work : WorkRef) :
    (lockContract Thrown).runs (runHandler handler work) { owns := false }
      (fun _ after now => after = { owns := false } ∧ now = ⟨false, none⟩)
      (fun exception _ now => exception = .systemError .operationNotPermitted ∧
        now.thrown ≠ none) ⟨false, none⟩ := by
  simp only [runHandler, Contract.runs_bind, Contract.runs_request]
  refine ⟨fun _ => rfl, fun ended _ => ?_⟩
  rcases ended with thrown | _
  · simp [UniqueLock.unlock, lockContract, lockOwner, thrownBy]
  · simp [lockContract, lockOwner, thrownBy]

theorem unlock_keeps_rule :
    (lockContract Thrown).runs UniqueLock.unlock { owns := true }
      (fun _ after now => after = { owns := false } ∧ now = ⟨false, none⟩)
      (fun _ _ _ => False) ⟨true, none⟩ := by
  simp [UniqueLock.unlock, lockContract, LockRule, lockOwner, thrownBy]

theorem lock_keeps_rule :
    (lockContract Thrown).runs UniqueLock.lock { owns := false }
      (fun _ after now => after = { owns := true } ∧ now = ⟨true, none⟩)
      (fun _ _ _ => False) ⟨false, none⟩ := by
  simp [UniqueLock.lock, lockContract, LockRule, lockOwner, thrownBy]

theorem body_keeps_lock :
    (lockContract Thrown).runs (loopBody : LoopMethod Thrown Bool) { owns := true }
      (fun _ _ now => now.thrown = none)
      (fun exception _ now => exception = .systemError .operationNotPermitted ∧
        now.thrown ≠ none) ⟨true, none⟩ := by
  apply Contract.runs_then (turn_keeps_lock { owns := true } ⟨true, none⟩)
  rintro turn _ _ ⟨rfl, rfl⟩
  cases turn with
  | leave => rfl
  | idle =>
      apply Contract.runs_then unlock_keeps_rule
      rintro _ _ _ ⟨rfl, rfl⟩
      simp [lockContract, LockRule, thrownBy]
  | item work handler =>
      apply Contract.runs_then unlock_keeps_rule
      rintro _ _ _ ⟨rfl, rfl⟩
      apply Contract.runs_seq (handler_keeps_lock handler work)
      · rintro _ _ _ ⟨rfl, rfl⟩
        apply Contract.runs_then lock_keeps_rule
        rintro _ _ _ ⟨rfl, rfl⟩
        apply Contract.runs_then (complete_keeps_lock work _ _)
        rintro yields _ _ ⟨rfl, rfl⟩
        apply Contract.runs_then unlock_keeps_rule
        rintro _ _ _ ⟨rfl, rfl⟩
        cases yields <;> simp [lockContract, LockRule, thrownBy]
      · exact fun _ _ _ thrown => thrown

/-- The scope of `lock_`, which gives the spinlock back however it ends. -/
theorem scope_keeps_lock (lock : UniqueLock) :
    (lockContract Thrown).runs (lockScope loopBody) lock
      (fun _ _ now => now = ⟨false, none⟩)
      (fun exception _ now => exception = .systemError .operationNotPermitted ∧
        now.thrown ≠ none) ⟨false, none⟩ := by
  simp only [lockScope, Contract.runs_bind, Contract.runs_request, Contract.runs_modify,
    Contract.runs_attempt]
  refine ⟨fun _ => rfl, fun _ _ => ?_⟩
  apply Contract.runs_mono body_keeps_lock
  · rintro leaves _ ⟨owns, thrown⟩ ⟨⟩
    simp [UniqueLock.destroy, lockContract, LockRule, lockOwner, thrownBy]
  · rintro exception _ ⟨owns, thrown⟩ ⟨rfl, threw⟩
    simpa [UniqueLock.destroy, lockContract, LockRule, lockOwner, thrownBy] using threw

theorem main_keeps_lock (fuel : Nat) (lock : UniqueLock) :
    (lockContract Thrown).runs (workQueueMain fuel) lock (fun _ _ now => now.thrown = none)
      (fun exception _ now => exception = .systemError .operationNotPermitted ∧
        now.thrown ≠ none) ⟨false, none⟩ := by
  induction fuel generalizing lock with
  | zero => trivial
  | succ fuel ih =>
      apply Contract.runs_seq (scope_keeps_lock lock)
      · rintro leaves after _ ⟨⟩
        cases leaves with
        | true => rfl
        | false => exact ih after
      · exact fun _ _ _ threw => threw

/-- Runs of the loop keep the lock discipline as long as no handler throws, and of those
that end only these do. -/
theorem lock_discipline_iff {fuel : Nat} {events : List (LoopEvent Thrown)}
    {outcome : Option (Except (LoopException Thrown) Unit × UniqueLock)}
    (run : ((workQueueMain fuel).on { owns := false }).Yields events outcome) :
    (NoThrow events → Disciplined events outcome) ∧
      (outcome ≠ none → Disciplined events outcome → NoThrow events) := by
  obtain ⟨permitted, returned, threw⟩ := Contract.runs_sound (main_keeps_lock fuel _) run
    (Contract.honest_of_always (fun _ _ _ => trivial) _ _)
  have thrown := thrown_after_contract events ⟨false, none⟩
  constructor
  · intro quiet
    refine ⟨?_, ?_, ?_⟩
    · rintro earlier event later rfl
      have permits := (Contract.permitted_append.mp permitted).2.1
      rw [NoThrow, List.forall_mem_append] at quiet
      have silent := (thrown_after_contract earlier ⟨false, none⟩).mpr ⟨rfl, quiet.1⟩
      have rule := permits silent
      rwa [owns_after_contract] at rule
    · rintro code lock rfl
      exact (threw _ _ rfl).2 (thrown.mpr ⟨rfl, quiet⟩)
    · intro event occurs value throws
      rw [quiet event occurs] at throws
      cases throws
  · intro ended disciplined
    obtain ⟨⟨exception | _, lock⟩, rfl⟩ := Option.ne_none_iff_exists'.mp ended
    · obtain ⟨rfl, _⟩ := threw _ _ rfl
      exact absurd rfl (disciplined.lockRaisesNothing _ _)
    · exact (thrown.mp (returned _ _ rfl)).2

end Discipline

def stopping {Thrown : Type} (ended : Except Thrown Unit) (pending : List WorkRef) :
    (call : LoopCall) → LoopReply Thrown call × List WorkRef
  | .slistGet => (pending.head?, pending.tail)
  | .queueFlagTest position => (position = workQueueStopBit, pending)
  | .queueFlagTestAndClear _ | .workFlagTest _ _ => (false, pending)
  | .workHandler _ => (.client ⟨0⟩, pending)
  | .handler _ _ => (ended, pending)
  | .construct | .lock | .unlock | .destroy | .queueFlagSet _ | .queueFlagClear _
  | .queueFlagsSet _ | .workFlagSet _ _ | .workFlagClear _ _ | .drainqPut _ | .notifyqGet
  | .finalizeFlush _ | .finalizeCancel _ | .yield => ((), pending)

/-- A worker that runs an item and then stops. -/
theorem lock_discipline_of_one_item :
    ∃ events : List (LoopEvent Unit), ∃ lock,
      ((workQueueMain 2).on { owns := false }).Yields events (some (.ok (), lock)) ∧
        .handler (.client ⟨0⟩) (.user ⟨0⟩) ∈ events.map Sigma.fst ∧
        Disciplined events (some (.ok (), lock)) := by
  have run := Program.play_yields (stopping (.ok ()))
    ((workQueueMain 2 : LoopMethod Unit Unit).on { owns := false }) [.user ⟨0⟩]
  refine ⟨_, { owns := false }, run, ?_, ?_⟩
  · decide +kernel
  · exact (lock_discipline_iff run).1 (by decide +kernel)

/-- A handler that throws: what leaves the loop is an error of `std::unique_lock`. -/
theorem handler_exception_is_replaced :
    ¬∀ (fuel : Nat) (events : List (LoopEvent Unit))
      (outcome : Option (Except (LoopException Unit) Unit × UniqueLock)),
      ((workQueueMain fuel).on { owns := false }).Yields events outcome →
        Disciplined events outcome := by
  intro always
  have run := Program.play_yields (stopping (.error ()))
    ((workQueueMain 1 : LoopMethod Unit Unit).on { owns := false }) [.user ⟨0⟩]
  exact (always _ _ _ run).lockRaisesNothing .operationNotPermitted { owns := false } rfl

end AresCommon.WorkQueue
