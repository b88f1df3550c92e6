import AresCommon.WorkQueue.Refinement

/-!
# The completion of an item in two steps

A semaphore that is given inside a critical section can be taken before the section
ends: the taker needs no lock. Here the section that completes an item is two steps,
up to `finalize_flush_locked` and from the test of CANCELING on, and in between the
other threads do whatever needs no lock. The steps mean the same as before.
-/

namespace AresCommon.WorkQueue

open AresCommon.DataStructures AresCommon.DataStructures.Slist
open AresCommon.Synchronization AresCommon.Foundation.Transition
open Function (update)

set_option autoImplicit false

attribute [local grind =] Function.update_apply

structure SplitState where
  base : State
  /-- The worker that holds the lock between the two parts, and its item. -/
  completing : Option (QueueId × WorkRef)
  /-- How often the semaphore of a thread's latest flusher or canceller was given. -/
  flusherGives : Thread → Nat
  cancellerGives : Thread → Nat

inductive SplitAction where
  | whole (action : Action)
  /-- the handler has returned: `lock_.lock()` up to `finalize_flush_locked` -/
  | completeFlush (queue : QueueId)
  /-- the test of CANCELING up to `lock_.unlock()` -/
  | completeCancel
  deriving DecidableEq, Repr

/-- What else can happen while the worker of `queue`, run by `runner`, holds the lock. -/
def Action.beside (queue : QueueId) (runner : Option Thread) : Action → Bool
  | .start self _ _ => runner ≠ some self
  | .run self _ _ => runner ≠ some (.client self)
  | .handlerThrow other => other ≠ queue
  | action => action.lockFree

theorem lock_free_of_beside {action : Action} {queue : QueueId} {runner : Option Thread}
    (beside : action.beside queue runner = true) : action.lockFree = true := by
  cases action with
  | start | run | handlerThrow => rfl
  | _ => exact beside

def Action.constructsFlusher? : Action → Option Thread
  | .workFlush self _ => some self
  | _ => none

def Action.constructsCanceller? : Action → Option Thread
  | .workCancelSync self _ => some self
  | _ => none

def Action.returns : Action → Bool
  | .handlerReturn _ => true
  | _ => false

def gives (before after : Semaphore 1) : Nat := after.getCount - before.getCount

namespace SplitState

def initial (handlers : UserId → HandlerId) : SplitState where
  base := .initial handlers
  completing := none
  flusherGives := fun _ => 0
  cancellerGives := fun _ => 0

def admits (f : SplitState) (action : Action) : Bool :=
  match f.completing with
  | none => !action.returns
  | some (queue, _) => action.beside queue (f.base.queues queue).thread.id

def advance (f : SplitState) (action : Option Action) (next : State)
    (completing : Option (QueueId × WorkRef)) : SplitState where
  base := next
  completing := completing
  flusherGives thread :=
    if action.bind Action.constructsFlusher? = some thread then 0
    else f.flusherGives thread + gives (f.base.flusherSems thread) (next.flusherSems thread)
  cancellerGives thread :=
    if action.bind Action.constructsCanceller? = some thread then 0
    else f.cancellerGives thread +
      gives (f.base.cancellers thread).sem (next.cancellers thread).sem

def step (fuel : Nat) (f : SplitState) : SplitAction → Option (SplitState × Output)
  | .whole action =>
      if f.admits action then
        (f.base.step fuel action).map fun (next, output) =>
          (f.advance (some action) next f.completing, output)
      else none
  | .completeFlush queue =>
      match f.completing, f.base.workers queue with
      | none, .running work _ =>
          if handlerMayEnd f.base.calls (f.base.queues queue).thread.id then
            (f.base.completeFlush work).map fun next =>
              (f.advance none next (some (queue, work)), .just .void)
          else none
      | _, _ => none
  | .completeCancel =>
      match f.completing with
      | none => none
      | some (queue, work) =>
          (f.base.completeCancel fuel queue work).map fun next =>
            (f.advance none next none, .just .void)

def Step (f : SplitState) (action : SplitAction) (output : Output) (f' : SplitState) : Prop :=
  ∃ fuel, f.step fuel action = some (f', output)

end SplitState

abbrev SplitRun (allowed : SplitState → SplitAction → Prop) :
    SplitState → List (SplitAction × Output) → SplitState → Prop :=
  fun start trace final => Run SplitState.Step allowed start trace final

/-! ## Between the two parts -/

namespace AbstractState

/-- The meaning of the shared state between the two parts: a client's item is still to
be completed, the completion of a flusher has happened but for BUSY. -/
def halfway (a : AbstractState) (queue : QueueId) (handler : WorkHandler) :
    WorkRef → AbstractState
  | .user id => { a with running := update a.running (.user id) false }
  | .flusher thread =>
      { a with
        busy := update a.busy queue true
        workers := update a.workers queue (.running (.flusher thread) handler) }

def Completing (a : AbstractState) (queue : QueueId) (handler : WorkHandler) :
    WorkRef → Prop
  | .user id => a.workers queue = .running (.user id) handler ∧
      handlerMayEnd a.calls (a.task queue).id = true
  | .flusher _ => a.workers queue = .atTop

variable {a a' b : AbstractState} {queue : QueueId} {handler : WorkHandler} {action : Action}
variable {output : Output} {runner : Option Thread}

theorem handler_may_end_idle {calls : Thread → Call} {self : Thread}
    (ends : handlerMayEnd calls runner = true) :
    handlerMayEnd (update calls self .idle) runner = true := by
  unfold handlerMayEnd at ends ⊢
  cases runner with
  | none => exact ends
  | some thread =>
      simp only [decide_eq_true_eq] at ends ⊢
      grind

theorem submission_needs_lock {self : Thread} {work : UserId} {target : Option QueueId}
    (submits : action.submission? = some (self, work, target)) :
    action.beside queue runner = false := by
  cases action with
  | submit | workSubmitToQueue => rfl
  | _ => cases submits

theorem refusal_needs_lock {reply : Reply} (refusal : Refusal a action reply) :
    action.beside queue runner = false := by
  cases refusal with
  | rejected submits => exact submission_needs_lock submits
  | _ => rfl

theorem completing_launch {work : WorkRef} {other : QueueId} {config : Option WorkQConfig}
    {starter : Thread} {joinable : Bool} (completing : a.Completing queue handler work)
    (unstarted : a.workers other = .notStarted) :
    (a.launch other config starter joinable).Completing queue handler work := by
  have apart : queue ≠ other := by
    rintro rfl
    cases work <;> simp [Completing, unstarted] at completing
  cases work with
  | user id =>
      obtain ⟨inside, ends⟩ := completing
      simp only [Completing, AbstractState.launch, Function.update_of_ne apart]
      exact ⟨inside, ends⟩
  | flusher thread =>
      simp only [Completing, AbstractState.launch, Function.update_of_ne apart]
      exact completing

theorem completing_workers {work : WorkRef} {other : QueueId} {pc : WorkerPc}
    (completing : a.Completing queue handler work) (apart : queue ≠ other)
    (calls : a'.calls = a.calls) (task : a'.task = a.task)
    (workers : a'.workers = update a.workers other pc) :
    a'.Completing queue handler work := by
  cases work <;> simpa only [Completing, calls, task, workers, Function.update_of_ne apart]
    using completing

theorem beside_user {id : UserId} (completing : a.Completing queue handler (.user id))
    (unlocked : action.beside queue runner = true)
    (move : AbstractStep (a.halfway queue handler (.user id)) action output b) :
    ∃ a', AbstractStep a action output a' ∧ a'.Completing queue handler (.user id) ∧
      b = a'.halfway queue handler (.user id) := by
  have inside := completing.1
  have ends := completing.2
  cases move with
  | refused refusal => simp [refusal_needs_lock refusal] at unlocked
  | accepted submits => simp [submission_needs_lock submits] at unlocked
  | start acts unstarted =>
      exact ⟨_, .start acts unstarted, completing_launch completing unstarted, rfl⟩
  | run acts outside unstarted =>
      exact ⟨_, .run acts outside unstarted, completing_launch completing unstarted, rfl⟩
  | flusherTaken call given =>
      exact ⟨_, .flusherTaken call given, ⟨inside, handler_may_end_idle ends⟩, rfl⟩
  | cancellerTaken call given =>
      exact ⟨_, .cancellerTaken call given, ⟨inside, handler_may_end_idle ends⟩, rfl⟩
  | drainTaken call token =>
      exact ⟨_, .drainTaken call token, ⟨inside, handler_may_end_idle ends⟩, rfl⟩
  | @joined _ target _ _ _ joinable call =>
      refine ⟨_, .joined call, ⟨inside, ?_⟩, rfl⟩
      have same : (update a.task target { a.task target with joinable := joinable } queue).id =
          (a.task queue).id := by
        grind
      simp only [same]
      exact handler_may_end_idle ends
  | @woken target asleep token =>
      have place : a.workers target = .parked := asleep
      have apart : queue ≠ target := by
        rintro rfl
        simp [inside] at place
      exact ⟨_, .woken asleep token, completing_workers completing apart rfl rfl rfl, rfl⟩
  | @threw target work handler inside' ends' =>
      have other : target ≠ queue := by simpa [Action.beside] using unlocked
      exact ⟨_, .threw inside' ends', completing_workers completing other.symm rfl rfl rfl, rfl⟩
  | _ => cases unlocked

theorem can_act_beside {thread self : Thread} (ready : a.workers queue = .atTop) :
    (a.halfway queue handler (.flusher thread)).canAct self = a.canAct self := by
  unfold canAct mayAct
  simp only [halfway]
  grind

theorem beside_flusher {thread : Thread}
    (ready : a.Completing queue handler (.flusher thread))
    (unlocked : action.beside queue runner = true)
    (move : AbstractStep (a.halfway queue handler (.flusher thread)) action output b) :
    ∃ a', AbstractStep a action output a' ∧ a'.Completing queue handler (.flusher thread) ∧
      b = a'.halfway queue handler (.flusher thread) := by
  have elsewhere : ∀ {other pc}, (a.halfway queue handler (.flusher thread)).workers other = pc →
      pc ≠ .running (.flusher thread) handler → a.workers other = pc ∧ queue ≠ other := by
    intro other pc place unlike
    simp only [halfway] at place
    grind
  cases move with
  | refused refusal => simp [refusal_needs_lock refusal] at unlocked
  | accepted submits => simp [submission_needs_lock submits] at unlocked
  | @start _ target config acts unstarted =>
      obtain ⟨place, apart⟩ := elsewhere unstarted (by simp)
      rw [can_act_beside ready] at acts
      refine ⟨_, .start acts place, completing_launch ready place, ?_⟩
      simp only [halfway, AbstractState.launch, Function.update_comm apart]
  | @run _ target config acts outside unstarted =>
      obtain ⟨place, apart⟩ := elsewhere unstarted (by simp)
      rw [can_act_beside ready] at acts
      refine ⟨_, .run acts outside place, completing_launch ready place, ?_⟩
      simp only [halfway, AbstractState.launch, Function.update_comm apart]
  | flusherTaken call given => exact ⟨_, .flusherTaken call given, ready, rfl⟩
  | cancellerTaken call given => exact ⟨_, .cancellerTaken call given, ready, rfl⟩
  | drainTaken call token => exact ⟨_, .drainTaken call token, ready, rfl⟩
  | joined call => exact ⟨_, .joined call, ready, rfl⟩
  | @woken target asleep token =>
      obtain ⟨place, apart⟩ := elsewhere asleep (by simp)
      refine ⟨_, .woken place token, completing_workers ready apart rfl rfl rfl, ?_⟩
      simp only [halfway, Function.update_comm apart]
  | @threw target work handler inside ends =>
      obtain ⟨place, apart⟩ := elsewhere inside (by simp)
      refine ⟨_, .threw place ends, completing_workers ready apart rfl rfl rfl, ?_⟩
      simp only [halfway, Function.update_comm apart]
      rfl
  | _ => cases unlocked

end AbstractState

/-! ## The abstract step of a split one -/

def SplitReflects (f : SplitState) (a : AbstractState) : Prop :=
  match f.completing with
  | none => Reflects f.base a
  | some (queue, work) => ∃ handler, Reflects f.base (a.halfway queue handler work) ∧
      a.Completing queue handler work

structure SplitCoupled (f : SplitState) (a : AbstractState) : Prop where
  reflects : SplitReflects f a
  wellFormed : WellFormed a

/-- The action that a split step carries out: a flusher is completed by the first
part of its completion, a client's item by the second. -/
def SplitState.meaning (f : SplitState) : SplitAction → Option Action
  | .whole action => some action
  | .completeFlush queue =>
      match f.base.workers queue with
      | .running (.flusher _) _ => some (.handlerReturn queue)
      | _ => none
  | .completeCancel =>
      match f.completing with
      | some (queue, .user _) => some (.handlerReturn queue)
      | _ => none

def AbstractState.Moves (a : AbstractState) (meaning : Option Action) (a' : AbstractState) :
    Prop :=
  match meaning with
  | none => a' = a
  | some action => ∃ output, AbstractStep a action output a'

section Step

variable {f f' : SplitState} {a : AbstractState} {output : Output}

theorem initial_split_coupled (handlers : UserId → HandlerId) :
    SplitCoupled (SplitState.initial handlers) (AbstractState.initial handlers) :=
  ⟨initial_reflects handlers, initial_well_formed handlers⟩

/-! What each of the three actions can do, guards included. -/

theorem SplitState.whole_cases {action : Action} (move : f.Step (.whole action) output f') :
    ∃ fuel next, f.admits action = true ∧ f.base.step fuel action = some (next, output) ∧
      f' = f.advance (some action) next f.completing := by
  obtain ⟨fuel, ran⟩ := move
  simp only [SplitState.step] at ran
  split at ran
  · rename_i admitted
    obtain ⟨⟨next, answer⟩, moved, result⟩ := Option.map_eq_some_iff.mp ran
    cases result
    exact ⟨fuel, next, admitted, moved, rfl⟩
  · cases ran

theorem SplitState.complete_flush_cases {queue : QueueId}
    (move : f.Step (.completeFlush queue) output f') :
    ∃ work handler next, f.completing = none ∧ f.base.workers queue = .running work handler ∧
      handlerMayEnd f.base.calls (f.base.queues queue).thread.id = true ∧
      f.base.completeFlush work = some next ∧
      f' = f.advance none next (some (queue, work)) := by
  obtain ⟨fuel, ran⟩ := move
  simp only [SplitState.step] at ran
  split at ran
  · rename_i work handler unlocked inside
    split at ran
    · rename_i ends
      obtain ⟨next, completed, result⟩ := Option.map_eq_some_iff.mp ran
      cases result
      exact ⟨work, handler, next, unlocked, inside, ends, completed, rfl⟩
    · cases ran
  · cases ran

theorem SplitState.complete_cancel_cases (move : f.Step .completeCancel output f') :
    ∃ fuel queue work next, f.completing = some (queue, work) ∧
      f.base.completeCancel fuel queue work = some next ∧ f' = f.advance none next none := by
  obtain ⟨fuel, ran⟩ := move
  simp only [SplitState.step] at ran
  split at ran
  · cases ran
  · rename_i queue work completing
    obtain ⟨next, completed, result⟩ := Option.map_eq_some_iff.mp ran
    cases result
    exact ⟨fuel, queue, work, next, completing, completed, rfl⟩

theorem SplitCoupled.between (coupled : SplitCoupled f a) (unlocked : f.completing = none) :
    Coupled f.base a := by
  refine ⟨?_, coupled.wellFormed⟩
  have reflects := coupled.reflects
  unfold SplitReflects at reflects
  rwa [unlocked] at reflects

theorem SplitCoupled.inside (coupled : SplitCoupled f a) {queue : QueueId} {work : WorkRef}
    (completing : f.completing = some (queue, work)) :
    ∃ handler, Reflects f.base (a.halfway queue handler work) ∧
      a.Completing queue handler work := by
  have reflects := coupled.reflects
  unfold SplitReflects at reflects
  rwa [completing] at reflects

theorem SplitCoupled.whole_step (coupled : SplitCoupled f a) {action : Action}
    (move : f.Step (.whole action) output f') :
    ∃ a', AbstractStep a action output a' ∧ SplitReflects f' a' := by
  obtain ⟨fuel, next, admitted, moved, rfl⟩ := f.whole_cases move
  cases completing : f.completing with
  | none =>
      obtain ⟨a', meaning, reflects⟩ :=
        step_answered (coupled.between completing).reflects coupled.wellFormed ⟨fuel, moved⟩
      exact ⟨a', meaning, reflects⟩
  | some holder =>
      obtain ⟨queue, work⟩ := holder
      obtain ⟨handler, reflects, stands⟩ := coupled.inside completing
      have beside : action.beside queue (f.base.queues queue).thread.id = true := by
        simpa only [SplitState.admits, completing] using admitted
      obtain ⟨b, meaning, next⟩ :=
        lock_free_answered reflects (lock_free_of_beside beside) ⟨fuel, moved⟩
      cases work with
      | user id =>
          obtain ⟨a', step, after, rfl⟩ := AbstractState.beside_user stands beside meaning
          exact ⟨a', step, handler, next, after⟩
      | flusher thread =>
          obtain ⟨a', step, after, rfl⟩ := AbstractState.beside_flusher stands beside meaning
          exact ⟨a', step, handler, next, after⟩

theorem SplitCoupled.complete_flush_step (coupled : SplitCoupled f a) {queue : QueueId}
    (move : f.Step (.completeFlush queue) output f') :
    ∃ a', a.Moves (f.meaning (.completeFlush queue)) a' ∧ SplitReflects f' a' := by
  obtain ⟨work, handler, next, unlocked, inside, ends, completed, rfl⟩ :=
    f.complete_flush_cases move
  obtain ⟨rep, ok⟩ := coupled.between unlocked
  simp only [SplitState.meaning, inside]
  rw [rep.workers] at inside
  rw [rep.calls, (rep.queues queue).task] at ends
  cases work with
  | user id =>
      obtain ⟨reached, flushed, meaning⟩ := rep.complete_flush_user id
      cases completed.symm.trans flushed
      exact ⟨a, rfl, handler, meaning, inside, ends⟩
  | flusher thread =>
      obtain ⟨reached, flushed, meaning⟩ := rep.complete_flush_flusher ok.flushers inside
      cases completed.symm.trans flushed
      refine ⟨_, ⟨_, .flushed inside ends⟩, handler, ?_, Function.update_self _ _ _⟩
      have busy : update a.busy queue true = a.busy := by
        rw [Function.update_eq_self_iff, ok.queues.busy_eq, inside]
        rfl
      have workers : update a.workers queue (.running (.flusher thread) handler) =
          a.workers := by
        rw [Function.update_eq_self_iff, inside]
      simp only [AbstractState.halfway, AbstractState.complete, Function.update_idem, busy,
        workers]
      exact meaning

theorem SplitCoupled.complete_cancel_step (coupled : SplitCoupled f a)
    (move : f.Step .completeCancel output f') :
    ∃ a', a.Moves (f.meaning .completeCancel) a' ∧ SplitReflects f' a' := by
  obtain ⟨fuel, queue, work, next, completing, completed, rfl⟩ := f.complete_cancel_cases move
  obtain ⟨handler, reflects, stands⟩ := coupled.inside completing
  simp only [SplitState.meaning, completing]
  cases work with
  | user id =>
      obtain ⟨inside, ends⟩ := stands
      have ok := coupled.wellFormed.cancellers
      have meaning := reflects.complete_cancel_user (ok.congr rfl rfl fun _ _ => .rfl) completed
      have released : (a.halfway queue handler (.user id)).released id = a.released id := rfl
      rw [released] at meaning
      cases waiter : a.released id with
      | none =>
          rw [waiter] at meaning
          exact ⟨_, ⟨_, .finished inside ends waiter⟩, meaning⟩
      | some thread =>
          rw [waiter] at meaning
          exact ⟨_, ⟨_, .finishedCancelled inside ends waiter⟩, meaning⟩
  | flusher thread =>
      obtain ⟨reached, settled, meaning⟩ :=
        reflects.complete_cancel_flusher fuel queue thread
      cases completed.symm.trans settled
      have ready : a.workers queue = .atTop := stands
      have busy : update a.busy queue false = a.busy := by
        rw [Function.update_eq_self_iff, coupled.wellFormed.queues.busy_eq, ready]
        rfl
      have workers : update a.workers queue .atTop = a.workers := by
        rw [Function.update_eq_self_iff, ready]
      simp only [AbstractState.halfway, Function.update_idem, busy, workers] at meaning
      exact ⟨a, rfl, meaning⟩

theorem SplitCoupled.step (coupled : SplitCoupled f a) {action : SplitAction}
    (move : f.Step action output f') :
    ∃ a', a.Moves (f.meaning action) a' ∧ SplitCoupled f' a' := by
  have matched : ∃ a', a.Moves (f.meaning action) a' ∧ SplitReflects f' a' := by
    cases action with
    | whole action =>
        obtain ⟨a', step, reflects⟩ := coupled.whole_step move
        exact ⟨a', ⟨_, step⟩, reflects⟩
    | completeFlush queue => exact coupled.complete_flush_step move
    | completeCancel => exact coupled.complete_cancel_step move
  obtain ⟨a', moves, reflects⟩ := matched
  refine ⟨a', moves, reflects, ?_⟩
  cases meaning : f.meaning action with
  | none =>
      rw [meaning] at moves
      cases moves
      exact coupled.wellFormed
  | some carried =>
      rw [meaning] at moves
      obtain ⟨answer, step⟩ := moves
      exact coupled.wellFormed.step step

end Step

end AresCommon.WorkQueue
