import AresCommon.Foundation.CriticalSection
import AresCommon.WorkQueue.SectionEffects

/-!
# Work queues that threads share

Clients and workers run their critical sections access by access under the global
spinlock, and between the accesses of one thread the others wait for the lock or do what
needs no lock: come out of a blocking call, or throw in a handler. `start` and `run` write
a queue without the lock, so they come before the threads share it.
-/

namespace AresCommon.WorkQueue

open AresCommon.DataStructures AresCommon.DataStructures.Slist
open AresCommon.Foundation AresCommon.Foundation.Transition AresCommon.Synchronization
open Function (update)

set_option autoImplicit false

inductive LockFree where
  | flusherTake
  | cancellerTake
  | drainqGet
  | join (expired : Bool)
  | notifyqGet (queue : QueueId)
  | handlerThrow (queue : QueueId)
  deriving DecidableEq, Repr

def LockFree.action (self : Thread) : LockFree → Action
  | .flusherTake => .flusherTake self
  | .cancellerTake => .cancellerTake self
  | .drainqGet => .drainqGet self
  | .join expired => .join self expired
  | .notifyqGet queue => .notifyqGet queue
  | .handlerThrow queue => .handlerThrow queue

def LockFree.runBy (s : State) (self : Thread) : LockFree → Prop
  | .notifyqGet queue => (s.queues queue).thread.id = some self
  | .handlerThrow queue => (s.queues queue).thread.id = some self
  | _ => True

instance (s : State) (self : Thread) (act : LockFree) : Decidable (act.runBy s self) :=
  match act with
  | .notifyqGet _ => inferInstanceAs (Decidable (_ = _))
  | .handlerThrow _ => inferInstanceAs (Decidable (_ = _))
  | .flusherTake | .cancellerTake | .drainqGet | .join _ => inferInstanceAs (Decidable True)

def State.lockFreeStep (s : State) (act : Thread × LockFree) : Option (Output × State) :=
  if act.2.runBy s act.1 then (s.step 0 (act.2.action act.1)).map Prod.swap else none

/-- The accesses to what is used without the lock. -/
def Access.seen : Access → Prop
  | .notifyqPut _ => True
  | .drainqPut _ _ => True
  | .flusherUnlock _ => True
  | .cancellerUnlock _ => True
  | .proceed _ pc => pc.left = true
  | _ => False

/-- All work queues under the global spinlock. -/
def sharedWorkQueues : Guarded Thread SectionOp Access AccessReply Output State
    (Thread × LockFree) Output where
  ready s self op := op.ready s self
  body self op := op.body self
  answer := State.access
  actor act := some act.1
  disturb := State.lockFreeStep
  loud := Access.seen

/-! ## What a thread leaves alone -/

/-- A thread changes its own calls and loops, and the workers that it runs. -/
structure State.Spares (thread : Thread) (s s' : State) : Prop where
  runners : ∀ queue, (s'.queues queue).thread.id = (s.queues queue).thread.id
  workers : ∀ queue, (s.queues queue).thread.id ≠ some thread → s'.workers queue = s.workers queue
  calls : ∀ other, other ≠ thread → s'.calls other = s.calls other
  loops : ∀ other, other ≠ thread → s'.loops other = s.loops other
  leaves : s'.loops thread = s.loops thread ∨ s'.loops thread = none

theorem State.Spares.refl (self : Thread) (s : State) : s.Spares self s :=
  ⟨fun _ => rfl, fun _ _ => rfl, fun _ _ => rfl, fun _ _ => rfl, .inl rfl⟩

theorem State.Spares.trans {self : Thread} {s s' s'' : State} (first : s.Spares self s')
    (second : s'.Spares self s'') : s.Spares self s'' := by
  constructor
  · intro queue
    rw [second.runners, first.runners]
  · intro queue foreign
    rw [second.workers queue (by rw [first.runners]; exact foreign), first.workers queue foreign]
  · intro other apart
    rw [second.calls other apart, first.calls other apart]
  · intro other apart
    rw [second.loops other apart, first.loops other apart]
  · rcases second.leaves with same | none
    · rw [same]
      exact first.leaves
    · exact .inr none

theorem State.Spares.of_same {self : Thread} {s s' : State}
    (threads : ∀ queue, (s'.queues queue).thread = (s.queues queue).thread)
    (workers : s'.workers = s.workers) (calls : s'.calls = s.calls) (loops : s'.loops = s.loops) :
    s.Spares self s' :=
  ⟨fun queue => by rw [threads], fun _ _ => by rw [workers], fun _ _ => by rw [calls],
    fun _ _ => by rw [loops], .inl (by rw [loops])⟩

theorem State.spares_setCall (self : Thread) (s : State) (call : Call) :
    s.Spares self (s.setCall self call) :=
  ⟨fun _ => rfl, fun _ _ => rfl, fun _ other => Function.update_of_ne other _ _, fun _ _ => rfl,
    .inl rfl⟩

theorem State.spares_setWorker {self : Thread} {s : State} {queue : QueueId}
    (runs : (s.queues queue).thread.id = some self) (pc : WorkerPc) :
    s.Spares self (s.setWorker queue pc) := by
  refine ⟨fun _ => rfl, fun other elsewhere => ?_, fun _ _ => rfl, fun _ _ => rfl, .inl rfl⟩
  refine Function.update_of_ne ?_ _ _
  rintro rfl
  exact elsewhere runs

theorem State.spares_leaveLoop {self : Thread} {s : State} {queue : QueueId}
    (runs : (s.queues queue).thread.id = some self) : s.Spares self (s.leaveLoop queue) := by
  unfold State.leaveLoop
  rw [runs]
  cases self with
  | client id =>
      exact ⟨fun _ => rfl, fun _ _ => rfl, fun _ _ => rfl,
        fun _ other => Function.update_of_ne other _ _, .inr (Function.update_self _ _ _)⟩
  | worker id => exact .refl _ s

theorem thread_update {queues : QueueId → WorkQ} {queue : QueueId} {q : WorkQ}
    (same : q.thread = (queues queue).thread) (other : QueueId) :
    (update queues queue q other).thread = (queues other).thread := by
  by_cases here : other = queue
  · subst here
    rw [Function.update_self, same]
  · rw [Function.update_of_ne here]

theorem State.access_spares (self : Thread) (s : State) (call : Access) :
    s.Spares self (s.access self call).2 := by
  cases call with
  | queueFlagSet | queueFlagClear | queueFlagTestAndClear | queueFlagsSet | notifyqPut
  | drainqPut | pendingAppend | pendingPrepend | pendingInsert | pendingGet =>
      refine .of_same (fun other => ?_) rfl rfl rfl
      apply thread_update
      rfl
  | pendingFindAndRemove queue work fuel =>
      cases walked : SysSlist.findAndRemove fuel s.nodes (s.queues queue).pending work with
      | none => simpa [State.access, walked] using .refl self s
      | some found =>
          simp only [State.access, walked, Option.elim_some]
          refine .of_same (fun other => ?_) rfl rfl rfl
          apply thread_update
          rfl
  | cancelsRemoveFirst work fuel =>
      cases walked : SysSlist.removeFirst fuel s.cancellerNodes s.pendingCancels
        fun wc => (s.cancellers wc).work = some work with
      | none => simpa [State.access, walked] using .refl self s
      | some found =>
          simp only [State.access, walked, Option.elim_some]
          exact .of_same (fun _ => rfl) rfl rfl rfl
  | flusherUnlock thread =>
      simp only [State.access]
      split
      · exact .refl self s
      · exact .of_same (fun _ => rfl) rfl rfl rfl
  | cancellerUnlock thread =>
      simp only [State.access]
      split
      · exact .refl self s
      · exact .of_same (fun _ => rfl) rfl rfl rfl
  | enter call => exact s.spares_setCall self call
  | proceed queue pc =>
      simp only [State.access, State.proceed]
      split
      · rename_i mine
        exact State.spares_setWorker mine.1 pc
      · exact .refl self s
  | leave queue =>
      simp only [State.access]
      split
      · rename_i mine
        exact State.spares_leaveLoop mine
      · exact .refl self s
  | _ => exact .of_same (fun _ => rfl) rfl rfl rfl

/-! ## Two parts of the state -/

/-- What `self` writes inside a section and nobody sees from `mine`, the rest from `theirs`. -/
def State.merge (self : Thread) (mine theirs : State) : State where
  works := mine.works
  nodes := mine.nodes
  queues queue := { theirs.queues queue with
    pending := (mine.queues queue).pending
    flags := (mine.queues queue).flags }
  flusherSems := update theirs.flusherSems self (mine.flusherSems self)
  cancellers thread :=
    { work := (mine.cancellers thread).work
      sem :=
        if thread = self then (mine.cancellers thread).sem else (theirs.cancellers thread).sem }
  cancellerNodes := mine.cancellerNodes
  pendingCancels := mine.pendingCancels
  workers queue :=
    if (theirs.queues queue).thread.id = some self then mine.workers queue else theirs.workers queue
  loops := update theirs.loops self (mine.loops self)
  calls := update theirs.calls self (mine.calls self)

structure State.Agrees (thread : Thread) (mine theirs : State) : Prop where
  runners : ∀ queue, (mine.queues queue).thread.id = (theirs.queues queue).thread.id
  left : ∀ queue, (theirs.queues queue).thread.id = some thread →
    (mine.workers queue).left = (theirs.workers queue).left

theorem State.merge_self (self : Thread) (s : State) : s.merge self s = s := by
  simp [State.merge]

section Merge

variable {self : Thread} {mine theirs : State}

theorem State.merge_modifyQueue {queue : QueueId} {change : WorkQ → WorkQ}
    (own : ∀ q other : WorkQ, change { other with pending := q.pending, flags := q.flags } =
      { other with pending := (change q).pending, flags := (change q).flags }) :
    (State.merge self mine theirs).modifyQueue queue change =
      State.merge self (mine.modifyQueue queue change) theirs := by
  simp only [State.modifyQueue, State.merge, State.mk.injEq, true_and, and_true]
  funext other
  by_cases here : other = queue
  · subst here
    rw [Function.update_self, Function.update_self]
    exact own _ _
  · simp only [Function.update_of_ne here]

theorem State.merge_setPending {queue : QueueId} (list : Links WorkRef × SysSlist WorkRef) :
    (State.merge self mine theirs).setPending queue list =
      State.merge self (mine.setPending queue list) theirs :=
  congrArg (fun s : State => { s with nodes := list.1 }) (State.merge_modifyQueue fun _ _ => rfl)

theorem State.merge_canceller :
    (State.merge self mine theirs).cancellers self = mine.cancellers self := by
  simp only [State.merge, if_true]

theorem State.merge_setCanceller (canceller : WorkCanceller) :
    (State.merge self mine theirs).setCanceller self canceller =
      State.merge self (mine.setCanceller self canceller) theirs := by
  simp only [State.setCanceller, State.merge, State.mk.injEq, true_and, and_true]
  funext other
  by_cases here : other = self
  · subst here
    simp only [Function.update_self, if_true]
  · simp only [Function.update_of_ne here, if_neg here]

theorem State.merge_worker {queue : QueueId}
    (runs : (theirs.queues queue).thread.id = some self) :
    (State.merge self mine theirs).workers queue = mine.workers queue := if_pos runs

theorem State.merge_setWorker {queue : QueueId}
    (runs : (theirs.queues queue).thread.id = some self) (pc : WorkerPc) :
    (State.merge self mine theirs).setWorker queue pc =
      State.merge self (mine.setWorker queue pc) theirs := by
  simp only [State.setWorker, State.merge, State.mk.injEq, true_and, and_true]
  funext other
  by_cases here : other = queue
  · subst here
    simp only [Function.update_self, runs, if_true]
  · simp only [Function.update_of_ne here]

theorem State.merge_proceed (agrees : State.Agrees self mine theirs) (queue : QueueId)
    (pc : WorkerPc) :
    (State.merge self mine theirs).proceed self queue pc =
      State.merge self (mine.proceed self queue pc) theirs := by
  unfold State.proceed
  by_cases runs : (theirs.queues queue).thread.id = some self
  · have here : (mine.queues queue).thread.id = some self := (agrees.runners queue).trans runs
    have there : ((State.merge self mine theirs).queues queue).thread.id = some self := runs
    rw [State.merge_worker runs]
    by_cases left : (mine.workers queue).left = false
    · rw [if_pos ⟨there, left⟩, if_pos ⟨here, left⟩, State.merge_setWorker runs]
    · rw [if_neg fun both => left both.2, if_neg fun both => left both.2]
  · rw [if_neg fun both => runs both.1,
      if_neg fun both => runs ((agrees.runners queue).symm.trans both.1)]

theorem State.merge_leaveLoop {queue : QueueId} (agrees : State.Agrees self mine theirs)
    (runs : (theirs.queues queue).thread.id = some self) :
    (State.merge self mine theirs).leaveLoop queue =
      State.merge self (mine.leaveLoop queue) theirs := by
  have here : (mine.queues queue).thread.id = some self := (agrees.runners queue).trans runs
  have there : ((State.merge self mine theirs).queues queue).thread.id = some self := runs
  unfold State.leaveLoop
  rw [here, there]
  cases self with
  | client id => simp [State.merge]
  | worker id => rfl

theorem access_merge {call : Access} (quiet : ¬call.seen) (agrees : State.Agrees self mine theirs) :
    (State.merge self mine theirs).access self call =
      ((mine.access self call).1, State.merge self (mine.access self call).2 theirs) := by
  cases call with
  | queueFlagSet | queueFlagClear | queueFlagTestAndClear | queueFlagsSet =>
      exact congrArg (Prod.mk _) (State.merge_modifyQueue fun _ _ => rfl)
  | pendingAppend | pendingPrepend | pendingInsert | pendingGet =>
      exact congrArg (Prod.mk _) (State.merge_setPending _)
  | threadId queue => exact congrArg (Prod.mk · _) (agrees.runners queue).symm
  | pendingFindAndRemove queue work fuel =>
      have search : SysSlist.findAndRemove fuel (State.merge self mine theirs).nodes
          ((State.merge self mine theirs).queues queue).pending work =
            SysSlist.findAndRemove fuel mine.nodes (mine.queues queue).pending work := rfl
      simp only [State.access, search]
      cases SysSlist.findAndRemove fuel mine.nodes (mine.queues queue).pending work with
      | none => rfl
      | some found => exact congrArg (Prod.mk _) (State.merge_setPending _)
  | cancelsRemoveFirst work fuel =>
      have search : (SysSlist.removeFirst fuel (State.merge self mine theirs).cancellerNodes
          (State.merge self mine theirs).pendingCancels fun wc =>
            ((State.merge self mine theirs).cancellers wc).work = some work) =
          SysSlist.removeFirst fuel mine.cancellerNodes mine.pendingCancels fun wc =>
            (mine.cancellers wc).work = some work := rfl
      simp only [State.access, search]
      cases SysSlist.removeFirst fuel mine.cancellerNodes mine.pendingCancels fun wc =>
        (mine.cancellers wc).work = some work with
      | none => rfl
      | some found => rfl
  | constructFlusher =>
      simp [State.access, State.merge, State.constructFlusher, State.setFlusherSem]
  | constructCanceller =>
      exact congrArg (fun s : State => ((),
        { s with cancellerNodes := update s.cancellerNodes self none }))
          (State.merge_setCanceller _)
  | cancellerSetWork work =>
      simp only [State.access, State.merge_canceller]
      exact congrArg (Prod.mk _) (State.merge_setCanceller _)
  | enter call => simp [State.access, State.merge, State.setCall]
  | proceed queue pc => exact congrArg (Prod.mk _) (State.merge_proceed agrees queue pc)
  | leave queue =>
      by_cases runs : (theirs.queues queue).thread.id = some self
      · have here : (mine.queues queue).thread.id = some self := (agrees.runners queue).trans runs
        have there : ((State.merge self mine theirs).queues queue).thread.id = some self := runs
        simp only [State.access, here, there, if_true, State.merge_leaveLoop agrees runs]
      · have here : (mine.queues queue).thread.id ≠ some self :=
          fun mine => runs ((agrees.runners queue).symm.trans mine)
        have there : ((State.merge self mine theirs).queues queue).thread.id ≠ some self := runs
        simp only [State.access, if_neg here, if_neg there]
  | notifyqPut | drainqPut | flusherUnlock | cancellerUnlock => exact (quiet trivial).elim
  | _ => rfl

theorem access_agrees {s : State} {call : Access} (quiet : ¬call.seen) :
    State.Agrees self (s.access self call).2 s := by
  have spares := s.access_spares self call
  refine ⟨spares.runners, fun queue runs => ?_⟩
  cases call with
  | proceed target pc =>
      simp only [State.access, State.proceed]
      split
      · rename_i moves
        by_cases here : queue = target
        · subst here
          simp only [State.setWorker, Function.update_self, moves.2]
          exact Bool.eq_false_iff.mpr quiet
        · simp only [State.setWorker, Function.update_of_ne here]
      · rfl
  | pendingFindAndRemove target work fuel =>
      simp only [State.access]
      cases SysSlist.findAndRemove fuel s.nodes (s.queues target).pending work with
      | none => rfl
      | some found => rfl
  | cancelsRemoveFirst work fuel =>
      simp only [State.access]
      cases SysSlist.removeFirst fuel s.cancellerNodes s.pendingCancels fun wc =>
        (s.cancellers wc).work = some work with
      | none => rfl
      | some found => rfl
  | leave target =>
      simp only [State.access]
      split
      · unfold State.leaveLoop
        split
        · rfl
        · rfl
      · rfl
  | notifyqPut | drainqPut | flusherUnlock | cancellerUnlock => exact (quiet trivial).elim
  | _ => rfl

/-! ### What another thread does -/

variable {thread : Thread}

theorem State.merge_setCall_other (other : thread ≠ self) (call : Call) :
    (State.merge self mine theirs).setCall thread call =
      State.merge self mine (theirs.setCall thread call) := by
  simp only [State.setCall, State.merge, State.mk.injEq, true_and]
  exact ⟨rfl, Function.update_comm other.symm _ _ _⟩

theorem State.merge_call_other (other : thread ≠ self) :
    (State.merge self mine theirs).calls thread = theirs.calls thread :=
  Function.update_of_ne other _ _

theorem State.merge_flusherSem_other (other : thread ≠ self) :
    (State.merge self mine theirs).flusherSems thread = theirs.flusherSems thread :=
  Function.update_of_ne other _ _

theorem State.merge_setFlusherSem_other (other : thread ≠ self) (sem : Semaphore 1) :
    (State.merge self mine theirs).setFlusherSem thread sem =
      State.merge self mine (theirs.setFlusherSem thread sem) := by
  simp only [State.setFlusherSem, State.merge, State.mk.injEq, true_and, and_true]
  exact ⟨Function.update_comm other.symm _ _ _, rfl⟩

theorem State.merge_sem_other (other : thread ≠ self) :
    ((State.merge self mine theirs).cancellers thread).sem = (theirs.cancellers thread).sem :=
  if_neg other

theorem State.merge_setSem_other (other : thread ≠ self) (sem : Semaphore 1) :
    (State.merge self mine theirs).setCanceller thread
        { (State.merge self mine theirs).cancellers thread with sem } =
      State.merge self mine (theirs.setCanceller thread { theirs.cancellers thread with sem }) := by
  simp only [State.setCanceller, State.merge, State.mk.injEq, true_and, and_true]
  refine ⟨funext fun another => ?_, rfl⟩
  by_cases here : another = thread
  · subst here
    simp only [Function.update_self, if_neg other]
  · simp only [Function.update_of_ne here]

theorem State.merge_modifyQueue_other {queue : QueueId} {change : WorkQ → WorkQ}
    (own : ∀ q other : WorkQ, change { other with pending := q.pending, flags := q.flags } =
      { change other with pending := q.pending, flags := q.flags })
    (same : (change (theirs.queues queue)).thread.id = (theirs.queues queue).thread.id) :
    (State.merge self mine theirs).modifyQueue queue change =
      State.merge self mine (theirs.modifyQueue queue change) := by
  have runners (other : QueueId) : (update theirs.queues queue (change (theirs.queues queue))
      other).thread.id = (theirs.queues other).thread.id := by
    by_cases here : other = queue
    · subst here
      rw [Function.update_self, same]
    · rw [Function.update_of_ne here]
  simp only [State.modifyQueue, State.merge, State.mk.injEq, true_and, and_true, runners]
  funext other
  by_cases here : other = queue
  · subst here
    rw [Function.update_self, Function.update_self]
    exact own _ _
  · simp only [Function.update_of_ne here]

theorem State.merge_worker_other {queue : QueueId}
    (runs : (theirs.queues queue).thread.id ≠ some self) :
    (State.merge self mine theirs).workers queue = theirs.workers queue := if_neg runs

theorem State.merge_setWorker_other {queue : QueueId}
    (runs : (theirs.queues queue).thread.id ≠ some self) (pc : WorkerPc) :
    (State.merge self mine theirs).setWorker queue pc =
      State.merge self mine (theirs.setWorker queue pc) := by
  simp only [State.setWorker, State.merge, State.mk.injEq, true_and, and_true]
  funext other
  by_cases here : other = queue
  · subst here
    simp only [Function.update_self, if_neg runs]
  · simp only [Function.update_of_ne here]

theorem State.merge_leaveLoop_other {queue : QueueId}
    (runs : (theirs.queues queue).thread.id = some thread) (other : thread ≠ self) :
    (State.merge self mine theirs).leaveLoop queue =
      State.merge self mine (theirs.leaveLoop queue) := by
  have there : ((State.merge self mine theirs).queues queue).thread.id = some thread := runs
  unfold State.leaveLoop
  rw [runs, there]
  cases thread with
  | client id =>
      simp only [State.merge, State.mk.injEq, true_and, and_true]
      exact Function.update_comm other.symm _ _ _
  | worker id => rfl

theorem State.merge_left (agrees : State.Agrees self mine theirs) (queue : QueueId) :
    ((State.merge self mine theirs).workers queue).left = (theirs.workers queue).left := by
  by_cases runs : (theirs.queues queue).thread.id = some self
  · rw [State.merge_worker runs, agrees.left queue runs]
  · rw [State.merge_worker_other runs]

theorem State.merge_join (agrees : State.Agrees self mine theirs) (other : thread ≠ self)
    (queue : QueueId) (timeout : Option Nat) (expired : Bool) :
    (State.merge self mine theirs).join thread queue timeout expired =
      (theirs.join thread queue timeout expired).map fun done =>
        (State.merge self mine done.1, done.2) := by
  have task : ((State.merge self mine theirs).queues queue).thread = (theirs.queues queue).thread :=
    rfl
  unfold State.join
  simp only [task, State.merge_left agrees, State.merge_setCall_other other]
  split
  · split
    · rfl
    · rfl
  · split
    · rfl
    · split
      · rfl
      · split
        · rfl
        · split
          · exact congrArg (fun s => some (s, Output.just (.int 0)))
              (State.merge_modifyQueue_other (fun _ _ => rfl) rfl)
          · rfl

theorem step_merge (agrees : State.Agrees self mine theirs) (other : thread ≠ self) (act : LockFree)
    (runs : act.runBy theirs thread) :
    (State.merge self mine theirs).step 0 (act.action thread) =
      (theirs.step 0 (act.action thread)).map fun done =>
        (State.merge self mine done.1, done.2) := by
  have foreign {queue : QueueId} (runs : (theirs.queues queue).thread.id = some thread) :
      (theirs.queues queue).thread.id ≠ some self :=
    fun mine => other (Option.some.inj (runs.symm.trans mine))
  cases act with
  | flusherTake =>
      simp only [LockFree.action, State.step, State.merge_call_other other,
        State.merge_flusherSem_other other]
      split
      · rw [State.merge_setFlusherSem_other other, State.merge_setCall_other other]
        rfl
      · rfl
  | cancellerTake =>
      simp only [LockFree.action, State.step, State.merge_call_other other,
        State.merge_sem_other other]
      split
      · rw [State.merge_setSem_other other, State.merge_setCall_other other]
        rfl
      · rfl
  | drainqGet =>
      simp only [LockFree.action, State.step, State.merge_call_other other]
      split
      · rename_i queue _
        have token : ((State.merge self mine theirs).queues queue).drainq =
          (theirs.queues queue).drainq := rfl
        rw [token]
        cases (theirs.queues queue).drainq.get with
        | none => rfl
        | some got =>
            simp only [Option.map_some]
            rw [State.merge_modifyQueue_other (fun _ _ => rfl) rfl, State.merge_setCall_other other]
      · rfl
  | join expired =>
      simp only [LockFree.action, State.step, State.merge_call_other other,
        State.merge_join agrees other]
      split
      · rfl
      · rfl
  | notifyqGet queue =>
      have token : ((State.merge self mine theirs).queues queue).notifyq =
        (theirs.queues queue).notifyq := rfl
      simp only [LockFree.action, State.step, State.merge_worker_other (foreign runs), token]
      split
      · cases (theirs.queues queue).notifyq.get with
        | none => rfl
        | some got =>
            have kept : ((theirs.modifyQueue queue fun q =>
                { q with notifyq := got.2 }).queues queue).thread.id ≠ some self := by
              simpa [State.modifyQueue] using foreign runs
            simp only [Option.map_some]
            rw [State.merge_modifyQueue_other (fun _ _ => rfl) rfl,
              State.merge_setWorker_other kept]
      · rfl
  | handlerThrow queue =>
      have task : ((State.merge self mine theirs).queues queue).thread =
        (theirs.queues queue).thread := rfl
      have runner : (theirs.queues queue).thread.id = some thread := runs
      simp only [LockFree.action, State.step, State.merge_worker_other (foreign runs), task, runner,
        handlerMayEnd, State.merge_call_other other]
      split
      · split
        · rw [State.merge_setWorker_other (foreign runs)]
          exact congrArg (fun s => some (s, Output.just .void))
            (State.merge_leaveLoop_other runs other)
        · rfl
      · rfl

theorem lock_free_merge (agrees : State.Agrees self mine theirs) (other : thread ≠ self)
    (act : LockFree) :
    (State.merge self mine theirs).lockFreeStep (thread, act) =
      (theirs.lockFreeStep (thread, act)).map fun done =>
        (done.1, State.merge self mine done.2) := by
  have same : act.runBy (State.merge self mine theirs) thread ↔ act.runBy theirs thread := by
    cases act <;> exact Iff.rfl
  unfold State.lockFreeStep
  by_cases runs : act.runBy theirs thread
  · rw [if_pos runs, if_pos (same.mpr runs), step_merge agrees other act runs, Option.map_map,
      Option.map_map]
    rfl
  · rw [if_neg runs, if_neg fun merged => runs (same.mp merged)]
    rfl

end Merge

/-! ### What is done without the lock -/

theorem State.join_spares {self : Thread} {s s' : State} {queue : QueueId} {timeout : Option Nat}
    {expired : Bool} {output : Output}
    (joins : s.join self queue timeout expired = some (s', output)) :
    s.Spares self s' ∧ s'.works = s.works := by
  have back := s.spares_setCall self .idle
  unfold State.join at joins
  dsimp only at joins
  split at joins
  · split at joins
    · cases joins
      exact ⟨back, rfl⟩
    · cases joins
  · split at joins
    · cases joins
    · split at joins
      · cases joins
        exact ⟨back, rfl⟩
      · split at joins
        · cases joins
          exact ⟨back, rfl⟩
        · split at joins
          · cases joins
            refine ⟨⟨fun other => ?_, back.workers, back.calls, back.loops, back.leaves⟩, rfl⟩
            by_cases here : other = queue
            · subst here
              simp [State.modifyQueue, State.setCall]
            · simp [State.modifyQueue, State.setCall, here]
          · cases joins

/-- A step without the lock changes no item, and spares the others. -/
theorem lock_free_spares {self : Thread} {s s' : State} {act : LockFree} {output : Output}
    (moved : s.lockFreeStep (self, act) = some (output, s')) :
    s.Spares self s' ∧ s'.works = s.works := by
  unfold State.lockFreeStep at moved
  split at moved
  · rename_i runs
    obtain ⟨⟨next, reply⟩, ran, result⟩ := Option.map_eq_some_iff.mp moved
    cases result
    cases act with
    | flusherTake =>
        simp only [LockFree.action, State.step] at ran
        split at ran
        · cases ran
          have took (sem : Semaphore 1) : s.Spares self (s.setFlusherSem self sem) :=
            .of_same (fun _ => rfl) rfl rfl rfl
          exact ⟨(took _).trans (State.spares_setCall self _ .idle), rfl⟩
        · cases ran
    | cancellerTake =>
        simp only [LockFree.action, State.step] at ran
        split at ran
        · cases ran
          have took (canceller : WorkCanceller) : s.Spares self (s.setCanceller self canceller) :=
            .of_same (fun _ => rfl) rfl rfl rfl
          exact ⟨(took _).trans (State.spares_setCall self _ .idle), rfl⟩
        · cases ran
    | drainqGet =>
        simp only [LockFree.action, State.step] at ran
        split at ran
        · obtain ⟨⟨token, rest⟩, _, result⟩ := Option.map_eq_some_iff.mp ran
          cases result
          have took (queue : QueueId) :
              s.Spares self (s.modifyQueue queue fun q => { q with drainq := rest }) :=
            .of_same (thread_update rfl) rfl rfl rfl
          exact ⟨(took _).trans (State.spares_setCall self _ .idle), rfl⟩
        · cases ran
    | join expired =>
        simp only [LockFree.action, State.step] at ran
        split at ran
        · exact State.join_spares ran
        · cases ran
    | notifyqGet queue =>
        simp only [LockFree.action, State.step] at ran
        split at ran
        · obtain ⟨⟨token, rest⟩, _, result⟩ := Option.map_eq_some_iff.mp ran
          cases result
          have took : s.Spares self (s.modifyQueue queue fun q => { q with notifyq := rest }) :=
            .of_same (thread_update rfl) rfl rfl rfl
          exact ⟨took.trans (State.spares_setWorker ((took.runners queue).trans runs) _), rfl⟩
        · cases ran
    | handlerThrow queue =>
        simp only [LockFree.action, State.step] at ran
        split at ran
        · split at ran
          · cases ran
            refine ⟨(State.spares_setWorker runs _).trans (State.spares_leaveLoop runs), ?_⟩
            unfold State.leaveLoop
            split <;> rfl
          · cases ran
        · cases ran
  · cases moved

theorem State.Spares.agrees {self thread : Thread} {s s' : State} (spares : s.Spares thread s')
    (other : thread ≠ self) : State.Agrees self s s' := by
  refine ⟨fun queue => (spares.runners queue).symm, fun queue runs => ?_⟩
  rw [spares.runners] at runs
  rw [spares.workers queue fun theirs => other (Option.some.inj (theirs.symm.trans runs))]

/-- The sections write one part of the state, the steps without the lock the other. -/
def workQueueParts : sharedWorkQueues.Separated where
  merge := State.merge
  agrees := State.Agrees
  agrees_refl _ _ := ⟨fun _ => rfl, fun _ _ => rfl⟩
  merge_self := State.merge_self
  quiet := access_merge
  quiet_agrees := access_agrees
  disturb others agrees := lock_free_merge agrees (fun same => others (congrArg some same)) _
  disturb_agrees others moved :=
    (lock_free_spares moved).1.agrees fun same => others (congrArg some same)

end AresCommon.WorkQueue
