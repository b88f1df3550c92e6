import AresCommon.WorkQueue.Refinement

/-!
# Stopping a queue

`WorkQ::stop` leaves its result to `Task::join`, which looks at the `std::thread`
object and not at the queue. That object has a thread only when the worker was
launched by `WorkQ::start`, and only until the first join of it.
-/

namespace AresCommon.WorkQueue

open AresCommon.Foundation.Transition
open Function (update)

set_option autoImplicit false

attribute [local grind =] Function.update_apply

abbrev StopReturns (allowed : State → Action → Prop) (self : Thread) (queue : QueueId)
    (timeout : Option Nat) (expired : Bool) :
    State → List (Action × Output) → Output → State → Prop :=
  SystemCall (fun s action => allowed s action ∧ action ≠ .join self (!expired))
    (.stop self queue timeout) (.join self expired)

/-- The result of a stop, entered in `s` and left in `s'`, is true. -/
structure StopTruthful (queue : QueueId) (timeout : Option Nat) (s : State) (reply : Reply)
    (s' : State) : Prop where
  stopped : reply = .int 0 → (s'.workers queue).left = true
  timedOut : reply = .int (-eTimedOut) → timeout.isSome = true
  already : reply = .int (-eAlready) → s.queueHas queue workQueueStartedBit = false ∧
    (s.workers queue = .notStarted ∨ s.workers queue = .returned)

def Action.stops? : Action → Option QueueId
  | .stop _ queue _ => some queue
  | _ => none

/-- A stop that gets past the flags of the queue finds a thread to join, and nobody
else who is about to join it: STOP is clear, or every earlier stop has timed out. -/
def StopsOwned (queue : QueueId) : State → Action → Prop := fun s action =>
  action.stops? = some queue → s.queueHas queue workQueueStartedBit = true →
    s.queueHas queue workQueuePluggedBit = true → (s.queues queue).thread.joinable = true ∧
      (s.queueHas queue workQueueStopBit = false ∨
        ∀ thread timeout, s.calls thread ≠ .joining queue timeout)

namespace AbstractState

def StopsOwned (queue : QueueId) : AbstractState → Action → Prop := fun a action =>
  action.stops? = some queue → a.started queue = true → a.plugged queue = true →
    (a.task queue).joinable = true ∧
      (a.stopping queue = false ∨ ∀ thread timeout, a.calls thread ≠ .joining queue timeout)

structure JoinsAlone (queue : QueueId) (a : AbstractState) : Prop where
  launched : ∀ thread timeout, a.calls thread = .joining queue timeout →
    a.workers queue ≠ .notStarted
  marked : ∀ thread timeout, a.calls thread = .joining queue timeout →
    a.started queue = true → a.stopping queue = true
  joinable : ∀ thread timeout, a.calls thread = .joining queue timeout →
    (a.task queue).joinable = true
  alone : ∀ thread other timeout limit, a.calls thread = .joining queue timeout →
    a.calls other = .joining queue limit → thread = other

variable {a a' : AbstractState} {queue : QueueId} {action : Action} {output : Output}

namespace JoinsAlone

theorem initial (handlers : UserId → HandlerId) (queue : QueueId) :
    JoinsAlone queue (AbstractState.initial handlers) := by
  constructor <;> simp [AbstractState.initial]

theorem congr (alone : JoinsAlone queue a)
    (calls : ∀ thread timeout, a'.calls thread = .joining queue timeout →
      a.calls thread = .joining queue timeout)
    (launched : a.workers queue ≠ .notStarted → a'.workers queue ≠ .notStarted)
    (started : a.workers queue ≠ .notStarted → a'.started queue = true →
      a.started queue = true)
    (stopping : a'.started queue = true → a.stopping queue = true → a'.stopping queue = true)
    (joinable : (∃ thread timeout, a'.calls thread = .joining queue timeout) →
      (a.task queue).joinable = true → (a'.task queue).joinable = true) :
    JoinsAlone queue a' where
  launched thread timeout call := launched (alone.launched thread timeout (calls _ _ call))
  marked thread timeout call on := by
    have before := calls thread timeout call
    have begun := alone.launched thread timeout before
    exact stopping on (alone.marked thread timeout before (started begun on))
  joinable thread timeout call :=
    joinable ⟨thread, timeout, call⟩ (alone.joinable thread timeout (calls _ _ call))
  alone thread other timeout limit call there :=
    alone.alone thread other timeout limit (calls _ _ call) (calls _ _ there)

theorem stop (alone : JoinsAlone queue a) (ok : WellFormed a) {target : QueueId}
    {self : Thread} {timeout : Option Nat} (acts : a.canAct self = true)
    (on : a.started target = true) (closed : a.plugged target = true)
    (owned : a.StopsOwned queue (.stop self target timeout)) :
    JoinsAlone queue (a.requestStop target timeout self) := by
  have free := AbstractState.idle_of_can_act acts
  by_cases here : target = queue
  · subst here
    obtain ⟨joinable, nobody⟩ := owned rfl on closed
    have unjoined : ∀ thread limit, a.calls thread ≠ .joining target limit := by
      intro thread limit call
      rcases nobody with unmarked | nobody
      · simp [alone.marked thread limit call on] at unmarked
      · exact nobody thread limit call
    have begun := ((ok.queues.started_iff target).mp on).1
    constructor <;> simp only [AbstractState.requestStop]
    case launched => exact fun _ _ _ => begun
    case marked => exact fun _ _ _ _ => Function.update_self _ _ _
    case joinable => exact fun _ _ _ => joinable
    case alone =>
      have mine : ∀ thread limit,
          update a.calls self (.joining target timeout) thread = .joining target limit →
            thread = self := by
        intro thread limit call
        by_contra away
        rw [Function.update_of_ne away] at call
        exact unjoined thread limit call
      intro thread other limit bound call there
      rw [mine thread limit call, mine other bound there]
  · refine alone.congr ?_ id (fun _ on => on) ?_ fun _ => id
    · intro thread limit call
      simp only [AbstractState.requestStop] at call
      grind
    · simp only [AbstractState.requestStop]
      grind

theorem join (alone : JoinsAlone queue a) {self : Thread} {target : QueueId}
    {timeout : Option Nat} (call : a.calls self = .joining target timeout) (joinable : Bool) :
    JoinsAlone queue { a with
      calls := update a.calls self .idle
      task := update a.task target { a.task target with joinable := joinable } } := by
  have before : ∀ thread limit, update a.calls self .idle thread = .joining queue limit →
      a.calls thread = .joining queue limit := by
    intro thread limit later
    grind
  refine alone.congr before id (fun _ on => on) (fun _ => id) ?_
  rintro ⟨thread, limit, later⟩ here
  by_cases same : queue = target
  · subst same
    have owner := alone.alone thread self limit timeout (before thread limit later) call
    simp [owner] at later
  · simpa only [Function.update_of_ne same] using here

theorem step (alone : JoinsAlone queue a) (ok : WellFormed a)
    (owned : a.StopsOwned queue action) (move : AbstractStep a action output a') :
    JoinsAlone queue a' := by
  cases move with
  | @stopWaits _ target _ acts on closed => exact alone.stop ok acts on closed owned
  | @joined _ _ _ _ _ joinable call => exact alone.join call joinable
  | @start _ target _ _ unstarted | @run _ target _ _ _ unstarted =>
      refine alone.congr (fun _ _ call => call) ?_ ?_ ?_ ?_ <;>
        simp only [AbstractState.launch]
      · grind
      · grind
      · intro on marked
        have dormant := (ok.queues.dormant target)
        have started := (ok.queues.started_iff target)
        grind
      · rintro ⟨thread, limit, call⟩
        have launched := alone.launched thread limit call
        grind
  | @stopped target ready =>
      refine alone.congr (fun _ _ call => call) ?_ ?_ ?_ fun _ => id <;>
        simp only [AbstractState.leave]
      · grind
      · grind
      · grind
  | flushWaits | cancelWaits | drainWaits | flusherTaken | cancellerTaken | drainTaken =>
      refine alone.congr ?_ id (fun _ on => on) (fun _ => id) fun _ => id
      intro thread limit call
      simp only [AbstractState.flush, AbstractState.awaitCancel, AbstractState.cancel,
        AbstractState.requestDrain] at call
      grind
  | @popped target | @drainDone target | @parked target | @woken target | @threw target =>
      refine alone.congr (fun _ _ call => call) ?_ (fun _ on => on) (fun _ => id) fun _ => id
      simp only [AbstractState.pop, AbstractState.finishDrain]
      grind
  | @finished target | @finishedCancelled target | @flushed target =>
      refine alone.congr (fun _ _ call => call) ?_ (fun _ on => on) (fun _ => id) fun _ => id
      simp only [AbstractState.complete]
      grind
  | refused | accepted | cancelled | cancelledSync | handlerSet | unplugged =>
      exact alone.congr (fun _ _ call => call) id (fun _ on => on) (fun _ => id) fun _ => id

end JoinsAlone

end AbstractState

/-! ## On the shared state -/

section Entry

variable {s s' : State} {self : Thread} {queue : QueueId} {timeout : Option Nat}
variable {output : Output}

theorem stop_enters (move : s.Step (.stop self queue timeout) output s') :
    (s.queueHas queue workQueueStartedBit = false ∧ output = .just (.int (-eAlready))) ∨
      (s.queueHas queue workQueueStartedBit = true ∧ output = .just (.int (-eBusy))) ∨
      (s.queueHas queue workQueueStartedBit = true ∧ output = .just .waits ∧
        s'.calls self = .joining queue timeout ∧
        (s'.queues queue).thread = (s.queues queue).thread) := by
  obtain ⟨fuel, ran⟩ := move
  simp only [State.step, State.stop] at ran
  split at ran
  · split at ran
    · rename_i off
      cases ran
      exact .inl ⟨by simpa [State.queueHas] using off, rfl⟩
    · rename_i on
      have started : s.queueHas queue workQueueStartedBit = true := by
        simpa [State.queueHas] using on
      split at ran
      · cases ran
        exact .inr (.inl ⟨started, rfl⟩)
      · cases ran
        refine .inr (.inr ⟨started, rfl, Function.update_self _ _ _, ?_⟩)
        simp [State.setCall, State.notifyLocked, State.queueFlagSet, State.modifyQueue]
  · cases ran

theorem join_returns {expired : Bool} (call : s.calls self = .joining queue timeout)
    (move : s.Step (.join self expired) output s') :
    s'.workers = s.workers ∧
      ((output.reply = .int 0 ∧ (s.workers queue).left = true) ∨
        (output.reply = .int (-eTimedOut) ∧ timeout.isSome = true) ∨
        (output.reply = .int (-eAlready) ∧ (s.queues queue).thread.joinable = false) ∨
        output.reply = .raised) := by
  obtain ⟨fuel, ran⟩ := move
  simp only [State.step, call, State.join] at ran
  split at ran
  · split at ran
    · rename_i finite
      cases ran
      exact ⟨rfl, .inr (.inl ⟨rfl, (Bool.and_eq_true_iff.mp finite).1⟩)⟩
    · cases ran
  · split at ran
    · cases ran
    · split at ran
      · rename_i unjoinable
        cases ran
        exact ⟨rfl, .inr (.inr (.inl ⟨rfl, by simpa using unjoinable⟩))⟩
      · split at ran
        · cases ran
          exact ⟨rfl, .inr (.inr (.inr rfl))⟩
        · split at ran
          · rename_i left
            cases ran
            exact ⟨rfl, .inl ⟨rfl, left⟩⟩
          · cases ran

theorem join_of_unjoinable (call : s.calls self = .joining queue none)
    (unjoinable : (s.queues queue).thread.joinable = false) :
    s.Step (.join self false) (.just (.int (-eAlready))) (s.setCall self .idle) :=
  ⟨0, by simp [State.step, State.join, call, unjoinable]⟩

end Entry

section Coupling

variable {s : State} {a : AbstractState} (coupled : Coupled s a) (queue : QueueId)
include coupled

theorem queue_joinable :
    (s.queues queue).thread.joinable = (a.task queue).joinable := by
  rw [(coupled.reflects.queues queue).task]
  rfl

theorem stops_owned_iff (action : Action) :
    StopsOwned queue s action ↔ a.StopsOwned queue action := by
  obtain ⟨started, _, plugged, stopping⟩ := coupled.reflects.queue_has queue
  unfold StopsOwned AbstractState.StopsOwned
  rw [started, plugged, stopping, queue_joinable coupled, coupled.reflects.calls]

end Coupling

theorem joining_stays {s s' : State} {a : AbstractState} {self : Thread} {queue : QueueId}
    {timeout : Option Nat} {trace : List (Action × Output)} (coupled : Coupled s a)
    (call : s.calls self = .joining queue timeout)
    (run : SystemRun (fun _ action => ∀ expired, action ≠ .join self expired) s trace s') :
    s'.calls self = .joining queue timeout := by
  have kept : ∃ b, Coupled s' b ∧ b.calls self = .joining queue timeout := by
    refine run.preserves (fun s => ∃ b, Coupled s b ∧ b.calls self = .joining queue timeout)
      ?_ ⟨a, coupled, by rw [← coupled.reflects.calls, call]⟩
    rintro s action output s' ⟨b, known, call⟩ other move
    obtain ⟨b', meaning, next⟩ := known.step move
    refine ⟨b', next, meaning.call_stays call (by simp) ?_⟩
    cases action with
    | join thread expired => simpa [Call.returnedBy] using other expired
    | _ => rfl
  obtain ⟨b, known, call⟩ := kept
  rw [known.reflects.calls, call]

section Call

variable {handlers : UserId → HandlerId} {trace span : List (Action × Output)} {s s' : State}
variable {self : Thread} {queue : QueueId} {timeout : Option Nat} {expired : Bool}
variable {output : Output}

/-- A queue whose STARTED is clear was never launched, or its worker has returned. -/
theorem dormant_of_off {a : AbstractState} (coupled : Coupled s a)
    (off : s.queueHas queue workQueueStartedBit = false) :
    s.workers queue = .notStarted ∨ s.workers queue = .returned := by
  rw [(coupled.reflects.queue_has queue).1] at off
  rw [coupled.reflects.workers]
  have started := coupled.wellFormed.queues.started_iff queue
  grind

theorem joinable_of_joining
    (run : SystemRun (StopsOwned queue) (State.initial handlers) trace s)
    (call : s.calls self = .joining queue timeout) :
    (s.queues queue).thread.joinable = true := by
  obtain ⟨a, coupled, alone⟩ := invariant_of_run run (AbstractState.StopsOwned queue)
    (fun _ _ action coupled owned => (stops_owned_iff coupled queue action).mp owned)
    (AbstractState.JoinsAlone queue) (AbstractState.JoinsAlone.initial handlers queue)
    (fun _ _ _ _ ok alone owned move => alone.step ok owned move)
  rw [queue_joinable coupled]
  exact alone.joinable self timeout (by rw [← coupled.reflects.calls, call])

theorem stop_truthful (run : SystemRun (StopsOwned queue) (State.initial handlers) trace s)
    (call : StopReturns (StopsOwned queue) self queue timeout expired s span output s') :
    StopTruthful queue timeout s output.reply s' := by
  obtain ⟨a, _, coupled⟩ := coupled_of_run run
  cases call with
  | atOnce _ move direct =>
      rcases stop_enters move with ⟨off, rfl⟩ | ⟨_, rfl⟩ | ⟨_, rfl, _⟩
      · have dormant := dormant_of_off coupled off
        constructor <;> simp [Output.just, eAlready, eTimedOut, off, dormant]
      · constructor <;> simp [Output.just, eBusy, eAlready, eTimedOut]
      · exact absurd rfl direct
  | @blocked _ _ entered last _ during permitted move blocks meanwhile _ answer =>
      have waits : entered.calls self = .joining queue timeout := by
        rcases stop_enters move with ⟨_, rfl⟩ | ⟨_, rfl⟩ | ⟨_, _, call, _⟩
        · cases blocks
        · cases blocks
        · exact call
      have others : SystemRun (fun _ action => ∀ expired, action ≠ .join self expired) entered
          during last := by
        refine meanwhile.mono ?_
        rintro _ action ⟨⟨_, unlike⟩, differs⟩ last rfl
        cases expired <;> cases last <;> simp_all
      obtain ⟨b, _, known⟩ := coupled.step move
      have call := joining_stays known waits others
      have reached := (run.snoc permitted.1 move).append
        (meanwhile.mono fun _ _ permits => permits.1.1)
      have joinable := joinable_of_joining reached call
      obtain ⟨workers, outcome⟩ := join_returns call answer
      rw [← workers] at outcome
      constructor <;> intro reply <;> rw [reply] at outcome <;>
        simp_all [eTimedOut, eAlready]

/-- An unbounded stop that finds no thread to join is told at once that the queue
was not started, although it was. -/
theorem stop_untruthful (acts : s.canAct self = true)
    (on : s.queueHas queue workQueueStartedBit = true)
    (closed : s.queueHas queue workQueuePluggedBit = true)
    (unjoinable : (s.queues queue).thread.joinable = false) :
    ∃ span output s', StopReturns anyStep self queue none false s span output s' ∧
      ¬StopTruthful queue none s output.reply s' := by
  have waits : s.Step (.stop self queue none) (.just .waits) (s.stop self queue none).1 := by
    refine ⟨0, ?_⟩
    unfold State.queueHas at on closed
    simp [State.step, State.stop, acts, on, closed]
  rcases stop_enters waits with ⟨off, _⟩ | ⟨_, busy⟩ | ⟨_, _, call, task⟩
  · simp [on] at off
  · cases busy
  · have answer := join_of_unjoinable call (by rw [task, unjoinable])
    refine ⟨_, _, _, .blocked ⟨trivial, by simp⟩ waits rfl .nil ⟨trivial, by simp⟩ answer, ?_⟩
    intro truthful
    simp [(truthful.already rfl).1] at on

end Call

/-- When every stop that gets past the flags owns the thread it waits for, the result
of every stop is true. A stop without a time-out that finds no thread to join, as on
a queue that was launched by `run`, can be told at once that the queue was not started. -/
theorem stop_tells_truth {handlers : UserId → HandlerId} {trace : List (Action × Output)}
    {s : State} {queue : QueueId}
    (run : SystemRun (StopsOwned queue) (State.initial handlers) trace s) :
    (∀ self timeout expired span output s',
      StopReturns (StopsOwned queue) self queue timeout expired s span output s' →
        StopTruthful queue timeout s output.reply s') ∧
    ∀ self, s.canAct self = true → s.queueHas queue workQueueStartedBit = true →
      s.queueHas queue workQueuePluggedBit = true →
      (s.queues queue).thread.joinable = false →
        ∃ span output s', StopReturns anyStep self queue none false s span output s' ∧
          ¬StopTruthful queue none s output.reply s' :=
  ⟨fun _ _ _ _ _ _ call => stop_truthful run call,
    fun _ acts on closed unjoinable => stop_untruthful acts on closed unjoinable⟩

def stopsMarked (queue : QueueId) : State → Action → Prop := fun s action =>
  action.stops? = some queue → (s.queues queue).thread.joinable = true ∧
    s.queueHas queue workQueueStopBit = false

instance (queue : QueueId) (s : State) (action : Action) :
    Decidable (stopsMarked queue s action) :=
  inferInstanceAs (Decidable (_ → _))

theorem owned_of_marked {queue : QueueId} {s : State} {action : Action}
    (marked : stopsMarked queue s action) : StopsOwned queue s action :=
  fun stops _ _ => ⟨(marked stops).1, .inl (marked stops).2⟩

/-- A queue that is launched by `start`, drained, plugged and stopped. -/
theorem stop_tells_truth_of_start :
    ∃ trace s span output s', SystemRun (StopsOwned ⟨0⟩) (State.initial fun _ => ⟨0⟩) trace s ∧
      StopReturns (StopsOwned ⟨0⟩) (.client ⟨2⟩) ⟨0⟩ none false s span output s' ∧
      output.reply = .int 0 ∧ StopTruthful ⟨0⟩ none s output.reply s' := by
  obtain ⟨trace, s, run, tested⟩ := system_run_of_actions (stopsMarked ⟨0⟩)
    (State.initial fun _ => ⟨0⟩)
    [.start (.client ⟨0⟩) ⟨0⟩ none, .queueDrain (.client ⟨1⟩) ⟨0⟩ true, .workerTurn ⟨0⟩,
      .drainqGet (.client ⟨1⟩)]
    (fun _ s => (s.callActions
      (fun s action => stopsMarked ⟨0⟩ s action ∧ action ≠ .join (.client ⟨2⟩) true)
      (.stop (.client ⟨2⟩) ⟨0⟩ none) (.join (.client ⟨2⟩) false)
      [.notifyqGet ⟨0⟩, .workerTurn ⟨0⟩]).any fun call => call.2.1.reply = .int 0)
    (by decide +kernel)
  obtain ⟨span, output, s', call, replied⟩ := system_call_of_actions
    (fun s action => stopsMarked ⟨0⟩ s action ∧ action ≠ .join (.client ⟨2⟩) true) tested
  have zero : output.reply = .int 0 := by simpa using replied
  have owned := run.mono fun _ _ marked => owned_of_marked marked
  have returned : StopReturns (StopsOwned ⟨0⟩) (.client ⟨2⟩) ⟨0⟩ none false s span output s' :=
    call.mono fun _ _ permits => ⟨owned_of_marked permits.1, permits.2⟩
  exact ⟨trace, s, span, output, s', owned, returned, zero,
    (stop_tells_truth owned).1 _ _ _ _ _ _ returned⟩

/-- A queue that is launched by `run` has no thread to join: its stop answers that it
was not started, while the worker is still in its loop. -/
theorem stop_of_run_untruthful :
    ¬∀ trace s self queue timeout expired span output s',
      SystemRun anyStep (State.initial fun _ => ⟨0⟩) trace s →
      StopReturns anyStep self queue timeout expired s span output s' →
        StopTruthful queue timeout s output.reply s' := by
  intro always
  obtain ⟨trace, s, run, tested⟩ := system_run_of_actions (fun _ _ => True)
    (State.initial fun _ => ⟨0⟩)
    [.run ⟨1⟩ ⟨0⟩ none, .queueDrain (.client ⟨0⟩) ⟨0⟩ true, .workerTurn ⟨0⟩,
      .drainqGet (.client ⟨0⟩)]
    (fun _ s => s.canAct (.client ⟨0⟩) && s.queueHas ⟨0⟩ workQueueStartedBit &&
      s.queueHas ⟨0⟩ workQueuePluggedBit && !(s.queues ⟨0⟩).thread.joinable)
    (by decide +kernel)
  simp only [Bool.and_eq_true, Bool.not_eq_true'] at tested
  obtain ⟨⟨⟨acts, on⟩, closed⟩, unjoinable⟩ := tested
  obtain ⟨span, output, s', call, untrue⟩ := stop_untruthful acts on closed unjoinable
  exact untrue (always trace s _ _ _ _ span output s' run.unrestricted call)

end AresCommon.WorkQueue
