import AresCommon.WorkQueue.Liveness
import AresCommon.WorkQueue.Stop

/-!
# Destroying a queue

The destructor of a queue drains and plugs it, and then stops it and waits for its thread
without a time-out. Whatever token the drain takes, when the stop has returned the worker has
left the loop, and nothing brings it back.
-/

namespace AresCommon.WorkQueue

open AresCommon.DataStructures AresCommon.Synchronization AresCommon.Foundation.Transition
open Function (update)

set_option autoImplicit false

attribute [local grind =] Function.update_apply

/-- `~WorkQ` on thread `self`, from the entry of its drain to the return of its stop. -/
inductive Destroys (allowed : State → Action → Prop) (self : Thread) (queue : QueueId)
    (s : State) : List (Action × Output) → State → Prop where
  | returned {drained plugged s' : State} {first between second : List (Action × Output)}
      {answer last : Output}
      (drain : SystemCall allowed (.queueDrain self queue true) (.drainqGet self) s first answer
        drained)
      (meanwhile : SystemRun allowed drained between plugged)
      (stop : StopReturns allowed self queue none false plugged second last s') :
      Destroys allowed self queue s (first ++ between ++ second) s'

/-- Every stop of the queue owns its thread, nobody unplugs it, and its handlers return. -/
structure Disposable (queue : QueueId) (s : State) (action : Action) : Prop where
  owned : StopsOwned queue s action
  plugged : action.unplugs? ≠ some queue
  returns : action ≠ .handlerThrow queue

namespace AbstractState

variable {a a' : AbstractState} {queue : QueueId} {self : Thread} {action : Action}
variable {output : Output}

structure Serving (queue : QueueId) (other : Thread) (a : AbstractState) : Prop where
  begun : a.workers queue ≠ .notStarted
  unthrown : ∀ work, a.workers queue ≠ .thrown work
  apart : (a.task queue).id ≠ some other

theorem Serving.step (serving : Serving queue self a) (returns : action ≠ .handlerThrow queue)
    (move : AbstractStep a action output a') : Serving queue self a' := by
  refine ⟨?_, unthrown_step serving.unthrown returns move, ?_⟩
  all_goals
    have begun := serving.begun
    have apart := serving.apart
    cases move with
    | start | run | joined | popped | drainDone | stopped | parked | woken | finished
    | finishedCancelled | flushed | threw =>
        simp only [AbstractState.launch, AbstractState.pop, AbstractState.finishDrain,
          AbstractState.leave, AbstractState.complete]
        grind
    | _ => assumption

def Closed (queue : QueueId) (a : AbstractState) : Prop :=
  a.workers queue = .returned ∨ a.plugged queue = true

theorem Closed.step (closed : Closed queue a) (begun : a.workers queue ≠ .notStarted)
    (stays : action.unplugs? ≠ some queue) (move : AbstractStep a action output a') :
    Closed queue a' := by
  unfold Closed at closed ⊢
  cases move with
  | @unplugged _ target =>
      have elsewhere : target ≠ queue := fun same => stays (by rw [same]; rfl)
      grind
  | start | run | drainWaits | popped | drainDone | stopped | parked | woken | finished
  | finishedCancelled | flushed | threw =>
      simp only [AbstractState.launch, AbstractState.requestDrain, AbstractState.pop,
        AbstractState.finishDrain, AbstractState.leave, AbstractState.complete]
      grind
  | refused | accepted | flushWaits | flusherTaken | cancelled | cancelledSync | cancelWaits
  | cancellerTaken | handlerSet | drainTaken | stopWaits | joined => exact closed

/-- The entry of the destructor plugs the queue, unless its worker has returned. -/
theorem closed_of_drain (ok : WellFormed a) (begun : a.workers queue ≠ .notStarted)
    (move : AbstractStep a (.queueDrain self queue true) output a') : Closed queue a' := by
  cases move with
  | refused refusal =>
      cases refusal with
      | rejected submits => cases submits
      | drainNotStarted off =>
          have started := ok.queues.started_iff queue
          left
          grind
  | accepted submits => cases submits
  | drainWaits => exact .inr (by simp [AbstractState.requestDrain])

/-! ### A worker that has returned -/

theorem returned_step (gone : a.workers queue = .returned)
    (move : AbstractStep a action output a') : a'.workers queue = .returned := by
  cases move with
  | start | run | popped | drainDone | stopped | parked | woken | finished
  | finishedCancelled | flushed | threw =>
      simp only [AbstractState.launch, AbstractState.pop, AbstractState.finishDrain,
        AbstractState.leave, AbstractState.complete]
      grind
  | _ => exact gone

theorem off_of_returned (ok : WellFormed a) (gone : a.workers queue = .returned) :
    a.started queue = false := by
  have started := ok.queues.started_iff queue
  grind

theorem idle_of_returned (ok : WellFormed a) (gone : a.workers queue = .returned)
    (move : AbstractStep a action output a') (work : UserId) (handler : WorkHandler) :
    output.observation ≠ .accepted work queue handler ∧
      output.observation ≠ .started work queue handler := by
  have off := off_of_returned ok gone
  cases move with
  | @accepted _ _ _ _ target _ _ admitted =>
      have taken := AbstractState.refusal_none (AbstractState.admission_ok admitted).2.2.2
      refine ⟨?_, nofun⟩
      intro same
      simp only [Observation.accepted.injEq] at same
      rw [same.2.1, off] at taken
      exact absurd taken.1 (by simp)
  | @popped target item rest ready head =>
      have elsewhere : target ≠ queue := by
        rintro rfl
        rw [gone] at ready
        cases ready
      cases item <;> simp [WorkRef.startObservation, elsewhere]
  | cancelled | cancelWaits =>
      simp only [AbstractState.removal]
      split <;> simp
  | _ => simp [Output.just]

end AbstractState

/-! ## On the shared state -/

section Calls

variable {handlers : UserId → HandlerId} {before trace span : List (Action × Output)}
variable {s s' : State} {self : Thread} {queue : QueueId} {output : Output}

def Ending (queue : QueueId) (self : Thread) (s : State) : Prop :=
  ∃ a, Coupled s a ∧ a.Serving queue self ∧ a.Closed queue

theorem ending_of_run (ending : Ending queue self s)
    (run : SystemRun (Disposable queue) s trace s') : Ending queue self s' := by
  refine run.preserves (Ending queue self) ?_ ending
  rintro s action output s' ⟨a, coupled, serving, closed⟩ permitted move
  obtain ⟨a', meaning, next⟩ := coupled.step move
  exact ⟨a', next, serving.step permitted.returns meaning,
    closed.step serving.begun permitted.plugged meaning⟩

theorem join_raised {timeout : Option Nat} {expired : Bool}
    (call : s.calls self = .joining queue timeout) (move : s.Step (.join self expired) output s')
    (raised : output.reply = .raised) : (s.queues queue).thread.id = some self := by
  obtain ⟨fuel, ran⟩ := move
  simp only [State.step, call, State.join] at ran
  split at ran
  · split at ran
    · cases ran
      cases raised
    · cases ran
  · split at ran
    · cases ran
    · split at ran
      · cases ran
        cases raised
      · split at ran
        · rename_i same
          exact same
        · split at ran
          · cases ran
            cases raised
          · cases ran

theorem returned_of_run {a : AbstractState} (coupled : Coupled s a)
    (gone : s.workers queue = .returned) (run : SystemRun anyStep s trace s') :
    s'.workers queue = .returned := by
  have kept : ∃ a, Coupled s' a ∧ a.workers queue = .returned := by
    refine run.preserves (fun s => ∃ a, Coupled s a ∧ a.workers queue = .returned) ?_
      ⟨a, coupled, coupled.reflects.workers ▸ gone⟩
    rintro s action output s' ⟨a, coupled, gone⟩ _ move
    obtain ⟨a', meaning, next⟩ := coupled.step move
    exact ⟨a', next, AbstractState.returned_step gone meaning⟩
  obtain ⟨b, coupled, gone⟩ := kept
  rw [coupled.reflects.workers, gone]

theorem returned_of_direct (ending : Ending queue self s)
    (move : s.Step (.stop self queue none) output s') (direct : output.waits = false) :
    s'.workers queue = .returned := by
  obtain ⟨a, coupled, serving, closed⟩ := ending
  obtain ⟨a', meaning, next⟩ := coupled.step move
  have gone : a.workers queue = .returned := by
    have started := coupled.wellFormed.queues.started_iff queue
    cases meaning with
    | refused refusal =>
        cases refusal with
        | rejected submits => cases submits
        | stopNotStarted off =>
            have begun := serving.begun
            grind
        | stopUnplugged on unplugged =>
            rcases closed with gone | plugged
            · exact gone
            · rw [unplugged] at plugged
              cases plugged
    | accepted submits => cases submits
    | stopWaits => cases direct
  rw [next.reflects.workers]
  exact AbstractState.returned_step gone meaning

theorem returned_of_stop (run : SystemRun (Disposable queue) (State.initial handlers) trace s)
    (ending : Ending queue self s)
    (stop : StopReturns (Disposable queue) self queue none false s span output s') :
    s'.workers queue = .returned := by
  cases stop with
  | atOnce _ move direct => exact returned_of_direct ending move (by simpa using direct)
  | @blocked _ _ entered last _ during permitted move blocks meanwhile released answer =>
      have waits : entered.calls self = .joining queue none := by
        rcases stop_enters move with ⟨_, rfl⟩ | ⟨_, rfl⟩ | ⟨_, _, call, _⟩
        · cases blocks
        · cases blocks
        · exact call
      obtain ⟨_, coupled, _⟩ := ending_of_run ending (.snoc .nil permitted.1 move)
      have call := joining_stays coupled waits (meanwhile.mono fun _ action permits => by
        rintro (_ | _) same
        · exact permits.2 same
        · exact permits.1.2 same)
      have reached := (run.snoc permitted.1 move).append
        (meanwhile.mono fun _ _ permits => permits.1.1)
      have joinable := joinable_of_joining (reached.mono fun _ _ permitted => permitted.owned) call
      have there := ending_of_run ending ((Run.snoc .nil permitted.1 move).append
        (meanwhile.mono fun _ _ permits => permits.1.1))
      obtain ⟨b, known, serving, _⟩ := there
      obtain ⟨workers, outcome⟩ := join_returns call answer
      rw [workers]
      rcases outcome with ⟨_, left⟩ | ⟨_, finite⟩ | ⟨_, unjoinable⟩ | raised
      · have unthrown := serving.unthrown
        have begun := serving.begun
        rw [← known.reflects.workers] at unthrown begun
        cases place : last.workers queue <;> simp_all [WorkerPc.left]
      · cases finite
      · rw [joinable] at unjoinable
        cases unjoinable
      · have same := join_raised call answer raised
        rw [(known.reflects.queues queue).task] at same
        exact absurd same serving.apart

theorem ending_of_drain {drained : State} {answer : Output} {a : AbstractState}
    (coupled : Coupled s a) (serving : a.Serving queue self)
    (drain : SystemCall (Disposable queue) (.queueDrain self queue true) (.drainqGet self) s span
      answer drained) : Ending queue self drained := by
  have whole := drain.run
  obtain ⟨entry, entered, rest, rfl, move⟩ := drain.enters
  rw [← List.singleton_append] at whole
  obtain ⟨middle, first, onwards⟩ := whole.split
  have opening := first.of_single.2
  obtain ⟨b, meaning, known⟩ := coupled.step opening
  have closed := AbstractState.closed_of_drain coupled.wellFormed serving.begun meaning
  exact ending_of_run ⟨b, known, serving.step (by simp) meaning, closed⟩ onwards

/-- What is true of a queue whose worker has returned, now and ever after. -/
structure Deserted (queue : QueueId) (s : State) : Prop where
  returned : s.workers queue = .returned
  empty : (s.queues queue).pending.isEmpty = true
  flushed : ∀ thread work, s.calls thread = .flushing work queue →
    (s.flusherSems thread).getCount = 1

theorem deserted_of_returned {a : AbstractState} (coupled : Coupled s a)
    (gone : s.workers queue = .returned) : Deserted queue s := by
  have place : a.workers queue = .returned := coupled.reflects.workers ▸ gone
  have quiet := quiet_of_off coupled.wellFormed
    (AbstractState.off_of_returned coupled.wellFormed place)
  refine ⟨gone, ((coupled.quiescent_iff queue).mpr quiet).empty, fun thread work call => ?_⟩
  rw [coupled.reflects.calls] at call
  have given : a.flusherGiven thread = true := by
    by_contra awaits
    rw [Bool.not_eq_true] at awaits
    have lives := coupled.wellFormed.flushers.awaiting thread work queue call awaits
    rw [quiet.empty, quiet.idle] at lives
    simp at lives
  rw [coupled.reflects.flusher_sem, given]
  rfl

/-- When the destructor of a queue that had been started has returned, the worker has left its
loop, every submission that the queue ever accepted has been handled to its end or was removed,
and whoever flushes one of its items finds its semaphore given; from then on the queue stays so,
accepts nothing and starts no handler. Threads that wait in other drains of the queue may be
left behind, and the memory of the object stays readable here. -/
theorem destroyed_queue_deserted (run : SystemRun (Disposable queue) (State.initial handlers)
    before s) (launched : s.workers queue ≠ .notStarted)
    (apart : (s.queues queue).thread.id ≠ some self)
    (destroys : Destroys (Disposable queue) self queue s span s') :
    (∀ x ∈ (historyOf (before ++ span)).accepted, x.queue = queue →
      x ∈ (historyOf (before ++ span)).finished ∨ x ∈ (historyOf (before ++ span)).removed) ∧
    ∀ later s'', SystemRun anyStep s' later s'' → Deserted queue s'' ∧
      ∀ entry ∈ later, ∀ work handler, entry.2.observation ≠ .accepted work queue handler ∧
        entry.2.observation ≠ .started work queue handler := by
  obtain ⟨a, coupled, unthrown⟩ := invariant_of_run run
    (fun _ action => action ≠ .handlerThrow queue) (fun _ _ _ _ permitted => permitted.returns)
    (fun a => ∀ work, a.workers queue ≠ .thrown work)
    (fun work => by simp [AbstractState.initial])
    (fun _ _ _ _ _ unthrown returns move => AbstractState.unthrown_step unthrown returns move)
  have serving : a.Serving queue self := by
    refine ⟨coupled.reflects.workers ▸ launched, unthrown, ?_⟩
    have task := (coupled.reflects.queues queue).task
    rw [task] at apart
    exact apart
  cases destroys with
  | @returned drained plugged _ first between second answer last drain meanwhile stop =>
      have ending := ending_of_run (ending_of_drain coupled serving drain) meanwhile
      have reached := (run.append drain.run).append meanwhile
      have gone := returned_of_stop reached ending stop
      have whole := reached.append (stop.run.mono fun _ _ permitted => permitted.1)
      obtain ⟨b, tracked⟩ := tracked_of_run whole
      have same : before ++ first ++ between ++ second =
          before ++ (first ++ between ++ second) := by simp only [List.append_assoc]
      rw [same] at tracked
      have place : b.workers queue = .returned := tracked.coupled.reflects.workers ▸ gone
      have off := AbstractState.off_of_returned tracked.coupled.wellFormed place
      constructor
      · rintro x accepted rfl
        exact settled_of_quiet tracked (quiet_of_off tracked.coupled.wellFormed off) accepted
      · intro later s'' onwards
        obtain ⟨labels, c, known, _⟩ := onwards.labels
          (fun s => ∃ a, Coupled s a ∧ a.workers queue = .returned)
          (fun entry => ∀ work handler, entry.2.observation ≠ .accepted work queue handler ∧
            entry.2.observation ≠ .started work queue handler)
          (by
            rintro s action output s' ⟨a, coupled, gone⟩ _ move
            obtain ⟨a', meaning, next⟩ := coupled.step move
            exact ⟨AbstractState.idle_of_returned coupled.wellFormed gone meaning, a', next,
              AbstractState.returned_step gone meaning⟩)
          ⟨b, tracked.coupled, place⟩
        exact ⟨deserted_of_returned known (returned_of_run tracked.coupled gone onwards), labels⟩

end Calls

def disposes (queue : QueueId) (s : State) (action : Action) : Prop :=
  stopsMarked queue s action ∧ action.unplugs? ≠ some queue ∧ action ≠ .handlerThrow queue

instance (queue : QueueId) (s : State) (action : Action) : Decidable (disposes queue s action) :=
  inferInstanceAs (Decidable (_ ∧ _))

theorem disposable_of_disposes {queue : QueueId} {s : State} {action : Action}
    (disposed : disposes queue s action) : Disposable queue s action :=
  ⟨owned_of_marked disposed.1, disposed.2.1, disposed.2.2⟩

/-- A queue is destroyed while the handler of its only item runs. -/
theorem destroyed_queue_deserted_of_running_item :
    ∃ before s span s', SystemRun (Disposable ⟨0⟩) (State.initial fun _ => ⟨0⟩) before s ∧
      Destroys (Disposable ⟨0⟩) (.client ⟨2⟩) ⟨0⟩ s span s' ∧
      (historyOf before).accepted.length = 1 ∧ (historyOf before).finished = [] ∧
      Deserted ⟨0⟩ s' := by
  obtain ⟨before, s, run, tested⟩ := system_run_of_actions (disposes ⟨0⟩)
    (State.initial fun _ => ⟨0⟩)
    [.start (.client ⟨0⟩) ⟨0⟩ none, .submit (.client ⟨0⟩) ⟨0⟩ (some ⟨0⟩), .workerTurn ⟨0⟩]
    (fun before s => (historyOf before).accepted.length = 1 && (historyOf before).finished = [] &&
      s.workers ⟨0⟩ ≠ .notStarted && (s.queues ⟨0⟩).thread.id ≠ some (.client ⟨2⟩) &&
      (s.callActions (disposes ⟨0⟩) (.queueDrain (.client ⟨2⟩) ⟨0⟩ true)
        (.drainqGet (.client ⟨2⟩)) [.handlerReturn ⟨0⟩, .workerTurn ⟨0⟩]).any fun drained =>
          (drained.2.2.callActions
            (fun s action => disposes ⟨0⟩ s action ∧ action ≠ .join (.client ⟨2⟩) true)
            (.stop (.client ⟨2⟩) ⟨0⟩ none) (.join (.client ⟨2⟩) false)
            [.notifyqGet ⟨0⟩, .workerTurn ⟨0⟩]).any fun _ => true)
    (by decide +kernel)
  simp only [Bool.and_eq_true, decide_eq_true_eq] at tested
  obtain ⟨⟨⟨⟨one, unfinished⟩, launched⟩, apart⟩, called⟩ := tested
  obtain ⟨first, _, drained, drain, stopped⟩ := system_call_of_actions (disposes ⟨0⟩) called
  obtain ⟨second, _, s', stop, _⟩ := system_call_of_actions
    (fun s action => disposes ⟨0⟩ s action ∧ action ≠ .join (.client ⟨2⟩) true) stopped
  have disposable := run.mono fun _ _ disposed => disposable_of_disposes disposed
  have destroys : Destroys (Disposable ⟨0⟩) (.client ⟨2⟩) ⟨0⟩ s (first ++ [] ++ second) s' :=
    .returned (drain.mono fun _ _ disposed => disposable_of_disposes disposed) .nil
      (stop.mono fun _ _ permits => ⟨disposable_of_disposes permits.1, permits.2⟩)
  have deserted := (destroyed_queue_deserted disposable launched apart destroys).2 [] s' .nil
  exact ⟨before, s, _, s', disposable, destroys, one, unfinished, deserted.1⟩

end AresCommon.WorkQueue
