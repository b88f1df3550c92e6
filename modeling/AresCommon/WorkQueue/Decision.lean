import AresCommon.WorkQueue.Progress

/-!
# What a submission answers and changes

Two entry points submit an item to a queue, and one of them takes a null pointer for the
queue that the item was last accepted by. The answer depends on flags of the item and of
the queue; a submission that is not accepted changes nothing at all.
-/

namespace AresCommon.WorkQueue

open AresCommon.DataStructures AresCommon.DataStructures.Slist
open AresCommon.Foundation.Transition
open Function (update)

set_option autoImplicit false

/-! ## The queue pointer -/

def acceptingQueue (work : UserId) (last : Option QueueId) (entry : Action × Output) :
    Option QueueId :=
  match entry.2.observation with
  | .accepted other queue _ => if other = work then some queue else last
  | _ => last

def lastQueue (trace : List (Action × Output)) (work : UserId) : Option QueueId :=
  trace.foldl (acceptingQueue work) none

theorem acceptingQueue_removal (a : AbstractState) (work other : UserId) (last : Option QueueId)
    (action : Action) (reply : Reply) :
    acceptingQueue work last (action, ⟨reply, a.removal other⟩) = last := by
  by_cases queued : a.queued other <;> simp [acceptingQueue, AbstractState.removal, queued]

theorem AbstractStep.home {a a' : AbstractState} {action : Action} {output : Output}
    (move : AbstractStep a action output a') (work : UserId) :
    a'.home work = acceptingQueue work (a.home work) (action, output) := by
  cases move with
  | @accepted _ _ other queue target submits acts admitted =>
      simp only [AbstractState.accept, acceptingQueue, Function.update_apply, eq_comm]
  | cancelled | cancelWaits =>
      rw [acceptingQueue_removal]
      rfl
  | @popped queue item rest ready head => cases item <;> rfl
  | _ => rfl

/-- The queue pointer of an item is the queue that accepted it last. -/
theorem home_of_run {handlers : UserId → HandlerId} {trace : List (Action × Output)}
    {a : AbstractState}
    (run : Run AbstractStep anyStep (AbstractState.initial handlers) trace a) (work : UserId) :
    a.home work = lastQueue trace work := by
  refine run.invariant (acceptingQueue work) (fun last a => a.home work = last) ?_ rfl
  rintro last a action output a' known _ move
  rw [← known]
  exact move.home work

/-! ## The decision -/

def Action.asks : Action → Option (Thread × Option QueueId × Option UserId)
  | .submit self queue work => some (self, some queue, work)
  | .workSubmitToQueue self queue work => some (self, queue, work)
  | _ => none

namespace State

variable (s : State) (last : Option QueueId) (self : Thread)

/-- Where an item goes: a running one to the queue it is on, another one to the requested
queue, which is the last one when there is none. -/
def target (work : UserId) (queue : Option QueueId) : Option QueueId :=
  if s.workHas work workRunningBit then last else queue <|> last

/-- The table of answers. `last` is the queue that accepted the item last. -/
def decision (work : UserId) (queue : Option QueueId) : Int :=
  if queue = none ∧ last = none then -eInval
  else if s.workHas work workCancelingBit then -eBusy
  else if s.workHas work workQueuedBit then 0
  else match s.target last work queue with
    | none => -eInval
    | some target =>
        if !s.queueHas target workQueueStartedBit then -eNoDev
        else if (s.queueHas target workQueueDrainBit && (s.queues target).thread.id ≠ some self) ||
            (s.queueHas target workQueuePluggedBit && !s.queueHas target workQueueDrainBit) then
          -eBusy
        else if s.workHas work workRunningBit then 2
        else 1

def answer (work : Option UserId) (queue : Option QueueId) : Int :=
  match work with
  | none => -eInval
  | some work => s.decision last self work queue

end State

/-- What an accepted submission changes, and that it changes nothing else: the QUEUED bit and
the queue pointer of the item, the end of the pending list and the token of the queue. -/
structure Submitted (s s' : State) (work : UserId) (target : QueueId) : Prop where
  item : s'.works (.user work) = { s.works (.user work) with
    flags := flagSet (s.works (.user work)).flags workQueuedBit
    queue := some target }
  items : ∀ other, other ≠ .user work → s'.works other = s.works other
  queue : ∃ pending, s'.queues target = { s.queues target with
    pending := pending
    notifyq := (s.queues target).notifyq.put 0 }
  queues : ∀ other, other ≠ target → s'.queues other = s.queues other
  tail : ∃ nodes, Represents s.nodes (s.queues target).pending nodes ∧
    Represents s'.nodes (s'.queues target).pending (nodes ++ [.user work])
  lists : ∀ other, other ≠ target → ∃ nodes,
    Represents s.nodes (s.queues other).pending nodes ∧
      Represents s'.nodes (s'.queues other).pending nodes
  flusherSems : s'.flusherSems = s.flusherSems
  cancellers : s'.cancellers = s.cancellers
  cancellerNodes : s'.cancellerNodes = s.cancellerNodes
  pendingCancels : s'.pendingCancels = s.pendingCancels
  workers : s'.workers = s.workers
  loops : s'.loops = s.loops
  calls : s'.calls = s.calls

def State.submittedTo (s : State) (work : WorkRef) (target : QueueId) : State :=
  (((s.setPending target (SysSlist.append s.nodes (s.queues target).pending work)).notifyLocked
    target).workFlagSet work workQueuedBit).modifyWork work fun w => { w with queue := some target }

theorem submit_locked_member_accepts {s : State} {self : Thread} {work : WorkRef}
    {target : QueueId} (taken : ¬(s.submitLockedMember target self work).2 < 0) :
    (s.submitLockedMember target self work).1 = (s.setPending target
      (SysSlist.append s.nodes (s.queues target).pending work)).notifyLocked target := by
  unfold State.submitLockedMember at *
  simp only at *
  split at taken
  · exact absurd (show -eNoDev < 0 by decide) taken
  · rename_i started
    rw [if_neg started]
    split at taken
    · exact absurd (show -eBusy < 0 by decide) taken
    · rename_i open'
      rw [if_neg open']

theorem submit_locked_accepts {s s' : State} {self : Thread} {work : WorkRef}
    {queue : Option QueueId} {rc : Int} {target : QueueId}
    (ran : s.submitLocked self work queue = some (s', rc, some target)) :
    s' = s.submittedTo work target := by
  unfold State.submitLocked at ran
  simp only at ran
  split at ran
  · cases ran
  · split at ran
    · split at ran
      · cases ran
      · rename_i goes
        split at ran
        · cases ran
        · rename_i taken
          have appended := submit_locked_member_accepts taken
          cases ran
          unfold State.submittedTo
          rw [← appended]
    · cases ran

theorem entry_accepts {s s' : State} {self : Thread} {work : UserId} {queue : Option QueueId}
    {rc : Int} {target : QueueId} (ran : s.entry self work queue = some (s', rc, some target)) :
    s' = s.submittedTo (.user work) target := by
  cases queue with
  | some queue => exact submit_locked_accepts ran
  | none =>
      unfold State.entry State.resubmit at ran
      simp only at ran
      split at ran
      · cases ran
      · exact submit_locked_accepts ran

theorem submitted_to {s : State} {a : AbstractState} (coupled : Coupled s a) {work : UserId}
    (unqueued : a.queued work = false) (target : QueueId) :
    Submitted s (s.submittedTo (.user work) target) work target := by
  obtain ⟨rep, ok⟩ := coupled
  have fresh : ∀ other, WorkRef.user work ∉ a.pending other := by
    intro other member
    have queued := ((ok.items.pending_user work other).mp member).1
    simp [unqueued] at queued
  have list := rep.list target
  constructor
  case item =>
    simp [State.submittedTo, State.modifyWork, State.workFlagSet, State.notifyLocked,
      State.setPending, State.modifyQueue]
  case items =>
    intro other away
    simp [State.submittedTo, State.modifyWork, State.workFlagSet, State.notifyLocked,
      State.setPending, State.modifyQueue, away]
  case queue =>
    refine ⟨(SysSlist.append s.nodes (s.queues target).pending (.user work)).2, ?_⟩
    simp [State.submittedTo, State.modifyWork, State.workFlagSet, State.notifyLocked,
      State.setPending, State.modifyQueue]
  case queues =>
    intro other away
    simp [State.submittedTo, State.modifyWork, State.workFlagSet, State.notifyLocked,
      State.setPending, State.modifyQueue, away]
  case tail =>
    refine ⟨a.pending target, list, ?_⟩
    simpa [State.submittedTo, State.modifyWork, State.workFlagSet, State.notifyLocked,
      State.setPending, State.modifyQueue] using list.append (fresh target)
  case lists =>
    intro other away
    have kept := (rep.list other).frame fun node member => append_frame list
      (ne_of_mem_of_not_mem member (fresh other))
      fun here => away (ok.disjoint here member).symm
    refine ⟨a.pending other, rep.list other, ?_⟩
    simpa [State.submittedTo, State.modifyWork, State.workFlagSet, State.notifyLocked,
      State.setPending, State.modifyQueue, away] using kept
  all_goals rfl

/-! ## The table and the meaning of a state -/

section Table

variable {s : State} {a : AbstractState} (rep : Reflects s a) {self : Thread} {work : UserId}
variable {queue : Option QueueId}
include rep

theorem Reflects.target : s.target (a.home work) work queue = a.destination work queue := by
  simp only [State.target, AbstractState.destination, (rep.work_has work).1]

theorem Reflects.decision_free (uncancelled : a.canceling work = false)
    (unqueued : a.queued work = false) {target : QueueId}
    (goes : a.destination work queue = some target) :
    s.decision (a.home work) self work queue =
      (a.refusal self target).getD (if a.running (.user work) then 2 else 1) := by
  obtain ⟨running, canceling, queued⟩ := rep.work_has work
  obtain ⟨started, draining, plugged, _⟩ := rep.queue_has target
  have known : ¬(queue = none ∧ a.home work = none) := by
    rintro ⟨rfl, nowhere⟩
    simp [AbstractState.destination, nowhere] at goes
  have task := (rep.queues target).task
  simp only [AbstractState.queue] at task
  rw [← rep.target] at goes
  simp only [State.decision, if_neg known, canceling, queued, uncancelled, unqueued, goes,
    started, draining, plugged, running, task, AbstractState.refusal, Bool.false_eq_true,
    if_false]
  split
  · rfl
  · split <;> simp_all

theorem Reflects.decision_rejected (ok : WellFormed a) {rc : Int}
    (rejected : a.admission self work queue = .error rc) :
    s.decision (a.home work) self work queue = rc := by
  obtain ⟨_, canceling, queued⟩ := rep.work_has work
  by_cases unknown : queue = none ∧ a.home work = none
  · obtain ⟨rfl, nowhere⟩ := unknown
    obtain ⟨unqueued, resting, uncancelled⟩ := ok.items.resting nowhere
    have code : rc = -eInval := by
      simpa [AbstractState.admission, AbstractState.destination, unqueued, resting, uncancelled,
        nowhere, eq_comm] using rejected
    simp [State.decision, nowhere, code]
  · by_cases cancels : a.canceling work = true
    · simp only [AbstractState.admission, if_pos cancels, Except.error.injEq] at rejected
      simp only [State.decision, if_neg unknown, canceling, if_pos cancels, rejected]
    · by_cases waits : a.queued work = true
      · simp only [AbstractState.admission, if_neg cancels, if_pos waits,
          Except.error.injEq] at rejected
        simp only [State.decision, if_neg unknown, canceling, if_neg cancels, queued,
          if_pos waits, rejected]
      · have known : queue ≠ none ∨ a.home work ≠ none := by
          rwa [not_and_or] at unknown
        obtain ⟨target, goes⟩ := ok.destination_known known
        simp only [AbstractState.admission, if_neg cancels, if_neg waits, goes] at rejected
        rw [rep.decision_free (by simpa using cancels) (by simpa using waits) goes]
        cases taken : a.refusal self target with
        | none => simp [taken] at rejected
        | some code =>
            simp only [taken, Except.error.injEq] at rejected
            simp [rejected]

theorem Reflects.decision_accepted {target : QueueId}
    (admitted : a.admission self work queue = .ok target) :
    s.decision (a.home work) self work queue = if a.running (.user work) then 2 else 1 := by
  obtain ⟨uncancelled, unqueued, goes, taken⟩ := AbstractState.admission_ok admitted
  rw [rep.decision_free uncancelled unqueued goes, taken]
  rfl

end Table

/-- Whether a submission is answered by the table, and what it changes. -/
structure Decided (s : State) (last : Option QueueId) (self : Thread)
    (queue : Option QueueId) (work : UserId) (output : Output) (s' : State) : Prop where
  located : s.workHas work workRunningBit = true → last ≠ none
  answer : output.reply = .int (s.decision last self work queue)
  refused : s.decision last self work queue ≤ 0 → s' = s
  accepted : 0 < s.decision last self work queue →
    ∃ target, s.target last work queue = some target ∧ Submitted s s' work target

theorem Coupled.decided {s s' : State} {a : AbstractState} (coupled : Coupled s a)
    {self : Thread} {queue : Option QueueId} {work : UserId} {output : Output}
    (ran : (s.entry self work queue).map (s.submitted work) = some (s', output)) :
    Decided s (a.home work) self queue work output s' := by
  obtain ⟨rep, ok⟩ := coupled
  have located : s.workHas work workRunningBit = true → a.home work ≠ none := by
    intro running nowhere
    rw [(rep.work_has work).1, (ok.items.resting nowhere).2.1] at running
    cases running
  cases verdict : a.admission self work queue with
  | error rc =>
      have row := rep.decision_rejected ok verdict
      have bound := AbstractState.admission_error verdict
      rw [rep.entry_rejected ok verdict] at ran
      cases ran
      refine ⟨located, by rw [row], fun _ => rfl, fun positive => ?_⟩
      rw [row] at positive
      omega
  | ok target =>
      have row := rep.decision_accepted verdict
      obtain ⟨_, unqueued, goes, _⟩ := AbstractState.admission_ok verdict
      obtain ⟨next, accepted, _⟩ := rep.entry_accepted ok verdict
      have changed := entry_accepts accepted
      rw [accepted] at ran
      cases ran
      refine ⟨located, by rw [row], fun negative => ?_, fun _ => ?_⟩
      · rw [row] at negative
        split at negative <;> omega
      · exact ⟨target, rep.target.trans goes, changed ▸ submitted_to ⟨rep, ok⟩ unqueued target⟩

/-- Every call of an entry point returns what the table says. A call that is not accepted
changes nothing, and an accepted one the item and the queue it goes to. -/
theorem submission_decided {allowed : State → Action → Prop} {handlers : UserId → HandlerId}
    {trace : List (Action × Output)} {s : State}
    (run : SystemRun allowed (State.initial handlers) trace s) {action : Action}
    {self : Thread} {queue : Option QueueId} {work : Option UserId}
    (asks : action.asks = some (self, queue, work)) (acts : s.canAct self = true) :
    (∃ output s', s.Step action output s') ∧ ∀ output s', s.Step action output s' →
      (work = none → output.reply = .int (-eInval) ∧ s' = s) ∧
      ∀ item, work = some item →
        Decided s (lastQueue trace item) self queue item output s' := by
  obtain ⟨a, steps, coupled⟩ := coupled_of_run run
  have able : a.canAct self = true := (coupled.reflects.canAct self).symm.trans acts
  cases work with
  | none =>
      have ran : ∀ fuel, s.step fuel action = some (s, .just (.int (-eInval))) := by
        intro fuel
        cases action with
        | submit caller target item | workSubmitToQueue caller target item =>
            cases asks
            simp only [State.step, if_pos acts]
        | _ => cases asks
      refine ⟨⟨_, _, 0, ran 0⟩, ?_⟩
      rintro output s' ⟨fuel, moved⟩
      rw [ran fuel] at moved
      cases moved
      exact ⟨fun _ => ⟨rfl, rfl⟩, fun item given => by cases given⟩
  | some item =>
      have ran : ∀ fuel, s.step fuel action =
          if s.canAct self then (s.entry self item queue).map (s.submitted item) else none := by
        intro fuel
        cases action with
        | submit caller target work =>
            cases asks
            rfl
        | workSubmitToQueue caller target work =>
            cases asks
            cases queue <;> rfl
        | _ => cases asks
      refine ⟨coupled.submit_result able item queue ran, ?_⟩
      rintro output s' ⟨fuel, moved⟩
      rw [ran fuel, if_pos acts] at moved
      refine ⟨fun given => (by cases given), fun _ given => ?_⟩
      cases given
      rw [← home_of_run steps item]
      exact coupled.decided moved

/-- An item that runs on one queue and is submitted to another one stays where it runs. -/
theorem submission_decided_of_running :
    ∃ trace s, SystemRun anyStep (State.initial fun _ => ⟨0⟩) trace s ∧
      s.decision (lastQueue trace ⟨0⟩) (.client ⟨0⟩) ⟨0⟩ (some ⟨1⟩) = 2 ∧
      ∃ output s', s.Step (.submit (.client ⟨0⟩) ⟨1⟩ (some ⟨0⟩)) output s' ∧
        Decided s (lastQueue trace ⟨0⟩) (.client ⟨0⟩) (some ⟨1⟩) ⟨0⟩ output s' := by
  obtain ⟨trace, s, run, tested⟩ := system_run_of_actions (fun _ _ => True)
    (State.initial fun _ => ⟨0⟩)
    [.start (.client ⟨0⟩) ⟨0⟩ none, .submit (.client ⟨0⟩) ⟨0⟩ (some ⟨0⟩), .workerTurn ⟨0⟩]
    (fun trace s => s.canAct (.client ⟨0⟩) &&
      s.decision (lastQueue trace ⟨0⟩) (.client ⟨0⟩) ⟨0⟩ (some ⟨1⟩) = 2)
    (by decide +kernel)
  simp only [Bool.and_eq_true, decide_eq_true_eq] at tested
  have whole := run.unrestricted
  have asked : (Action.submit (.client ⟨0⟩) ⟨1⟩ (some ⟨0⟩)).asks =
      some (.client ⟨0⟩, some ⟨1⟩, some ⟨0⟩) := rfl
  obtain ⟨⟨output, s', moved⟩, decided⟩ := submission_decided whole asked tested.1
  exact ⟨trace, s, whole, tested.2, output, s', moved, (decided output s' moved).2 _ rfl⟩

end AresCommon.WorkQueue
