import AresCommon.WorkQueue.History

/-!
# Synchronous cancels

What a thread may rely on when `work_cancel_sync` returns, and whether it returns
at all: the end of a cancelled item releases one canceller of that item, the
first in the list, although any number may be linked.
-/

namespace AresCommon.WorkQueue

open AresCommon.DataStructures.Slist AresCommon.Foundation.Transition
open Function (update)

set_option autoImplicit false

attribute [local grind =] Function.update_apply

abbrev CancelSyncReturns (self : Thread) (work : UserId) :
    State → List (Action × Output) → Output → State → Prop :=
  SystemCall handlersReturn (.workCancelSync self work) (.cancellerTake self)

/-! ## What the call leaves behind -/

/-- The invocation `x` of the item has finished, or the thread still waits for it
while the item takes no submission. -/
def Pursued (history : History) (a : AbstractState) (self : Thread) (work : UserId)
    (x : Submission) : Prop :=
  x ∈ history.finished ∨ (a.calls self = .cancelling work ∧ a.cancellerGiven self = false ∧
    a.canceling work = true ∧ latest history.started work = some x)

section Invocation

variable {history : History} {a a' : AbstractState} {self : Thread} {work : UserId}
variable {x : Submission}

theorem Pursued.step (pursued : Pursued history a self work x) (ok : WellFormed a)
    {action : Action} {output : Output} (move : AbstractStep a action output a') :
    Pursued (history.record output.observation) a' self work x := by
  have grows := history.record_extends output.observation
  rcases pursued with done | ⟨call, ungiven, marked, current⟩
  · exact .inl (grows.finished.subset done)
  have started := fun other => (record_removal history a other).2
  cases move with
  | flushWaits acts | drainWaits acts | stopWaits acts =>
      have free := AbstractState.idle_of_can_act acts
      refine .inr ⟨?_, ungiven, marked, current⟩
      simp only [AbstractState.flush, AbstractState.requestDrain, AbstractState.requestStop]
      grind
  | flusherTaken other | drainTaken other | joined other =>
      refine .inr ⟨?_, ungiven, marked, current⟩
      grind
  | cancellerTaken other given =>
      refine .inr ⟨?_, ?_, marked, current⟩ <;> grind
  | @cancelled _ other acts =>
      have still := ok.items.canceling_cancel other marked
      exact .inr ⟨call, ungiven, still, (started other).symm ▸ current⟩
  | @cancelledSync _ other acts waiting resting =>
      exact .inr ⟨call, ungiven, ok.items.canceling_cancel other marked, current⟩
  | @cancelWaits thread other acts active =>
      have free := AbstractState.idle_of_can_act acts
      have still := ok.items.canceling_cancel other marked
      refine .inr ⟨?_, ?_, still, (started other).symm ▸ current⟩
      all_goals
        simp only [AbstractState.awaitCancel, AbstractState.cancel]
        grind
  | @popped queue item rest ready head =>
      refine .inr ⟨call, ungiven, marked, ?_⟩
      cases item with
      | flusher thread => exact current
      | user other =>
          have member : WorkRef.user other ∈ a.pending queue := by simp [head]
          have waits := ((ok.items.pending_user other queue).mp member).1
          have unqueued := (ok.items.canceling work marked).2
          have differs : other ≠ work := by
            rintro rfl
            simp [waits] at unqueued
          simpa [WorkRef.startObservation, History.record, latest_append, differs] using current
  | @finished queue other handler inside ends nobody =>
      by_cases same : other = work
      · subst same
        left
        simp [History.record, current]
      · refine .inr ⟨call, ungiven, ?_, current⟩
        grind
  | @finishedCancelled queue other handler thread inside ends waiter =>
      by_cases same : other = work
      · subst same
        left
        simp [History.record, current]
      · have mine := (AbstractState.released_some waiter).2.2
        have differs : thread ≠ self := by
          rintro rfl
          exact same (Call.cancelling.inj (mine.symm.trans call))
        refine .inr ⟨call, ?_, ?_, current⟩ <;> grind
  | refused | start | run | accepted | handlerSet | unplugged | drainDone | stopped | parked
  | woken | flushed | threw => exact .inr ⟨call, ungiven, marked, current⟩

theorem Pursued.rejects (pursued : Pursued history a self work x)
    (unfinished : x ∉ history.finished) {action : Action} {output : Output} {thread : Thread}
    {queue : Option QueueId} (move : AbstractStep a action output a')
    (submits : action.submission? = some (thread, work, queue)) :
    output.reply = .int (-eBusy) := by
  obtain ⟨_, _, marked, _⟩ := pursued.resolve_left unfinished
  cases move with
  | refused refusal =>
      cases refusal with
      | rejected again refused =>
          cases submits.symm.trans again
          simp only [AbstractState.admission, marked, if_true] at refused
          cases refused
          rfl
      | _ => simp [Action.submission?] at submits
  | accepted again acts admitted =>
      cases submits.symm.trans again
      have unmarked := (AbstractState.admission_ok admitted).1
      simp [marked] at unmarked
  | _ => simp [Action.submission?] at submits

theorem Pursued.of_started (ledger : Ledger history a)
    (active : a.running (.user work) = true) (started : x ∈ history.started)
    (same : x.work = work) :
    Pursued (history.record (a.removal work)) ((a.cancel work).awaitCancel work self) self work
      x := by
  have grows := history.record_extends (a.removal work)
  by_cases done : x ∈ history.finished
  · exact .inl (grows.finished.subset done)
  · obtain ⟨_, current⟩ := ledger.active x started done
    have kept := (record_removal history a work).2
    refine .inr ⟨?_, ?_, ?_, ?_⟩
    · simp [AbstractState.awaitCancel]
    · simp [AbstractState.awaitCancel]
    · simp [AbstractState.awaitCancel, AbstractState.cancel, active]
    · rw [kept, ← same, current]

end Invocation

theorem cancel_sync_entry {history : History} {s s' : State} {a : AbstractState}
    {self : Thread} {work : UserId} {output : Output} (tracked : Tracked history s a)
    (move : s.Step (.workCancelSync self work) output s') :
    (∀ x ∈ history.accepted, x.work = work → x ∉ history.started →
      x ∈ (history.observe (.workCancelSync self work, output)).removed) ∧
    ∃ a', Tracked (history.observe (.workCancelSync self work, output)) s' a' ∧
      ∀ x ∈ history.started, x.work = work →
        x ∈ (history.observe (.workCancelSync self work, output)).finished ∨
        (output.waits = true ∧
          Pursued (history.observe (.workCancelSync self work, output)) a' self work x) := by
  have ok := tracked.coupled.wellFormed
  have grows := history.record_extends output.observation
  have removes : output.observation = a.removal work → ∀ x ∈ history.accepted, x.work = work →
      x ∉ history.started → x ∈ (history.record output.observation).removed := by
    intro observed x accepted same unstarted
    by_cases removed : x ∈ history.removed
    · exact grows.removed.subset removed
    · have waits := (tracked.ledger.unremoved ok x).mp ⟨accepted, removed⟩
      obtain ⟨queued, last⟩ := waits.resolve_left unstarted
      rw [same] at queued last
      simp [observed, AbstractState.removal, queued, History.record, last]
  have rests : a.running (.user work) = false → ∀ x ∈ history.started, x.work = work →
      x ∈ (history.record output.observation).finished := by
    intro resting x started same
    apply grows.finished.subset
    by_contra unfinished
    have active := (tracked.ledger.active x started unfinished).1
    simp [same, resting] at active
  obtain ⟨a', meaning, next⟩ := tracked.step move
  cases meaning with
  | refused refusal =>
      cases refusal with
      | rejected submits => cases submits
      | nothingToCancel unqueued resting =>
          refine ⟨removes (by simp [AbstractState.removal, unqueued, Output.just]), _, next, ?_⟩
          exact fun x started same => .inl (rests resting x started same)
  | accepted submits => cases submits
  | cancelledSync acts waiting resting =>
      refine ⟨removes (by simp [AbstractState.removal, waiting]), _, next, ?_⟩
      exact fun x started same => .inl (rests resting x started same)
  | cancelWaits acts active =>
      refine ⟨removes rfl, _, next, ?_⟩
      exact fun x started same => .inr ⟨rfl, Pursued.of_started tracked.ledger active started same⟩

/-- Every invocation of the item that had begun at the entry of a call is over or
pursued by the calling thread. -/
def CancelInvariant (begun : List Submission) (self : Thread) (work : UserId)
    (history : History) (s : State) : Prop :=
  ∃ a, Tracked history s a ∧ ∀ x ∈ begun, x.work = work → Pursued history a self work x

theorem CancelInvariant.step {begun : List Submission} {self : Thread} {work : UserId}
    {history : History} {s s' : State} {action : Action} {output : Output}
    (holds : CancelInvariant begun self work history s) (move : s.Step action output s') :
    CancelInvariant begun self work (history.observe (action, output)) s' := by
  obtain ⟨a, tracked, pursued⟩ := holds
  obtain ⟨a', meaning, next⟩ := tracked.step move
  exact ⟨a', next, fun x member same =>
    (pursued x member same).step tracked.coupled.wellFormed meaning⟩

theorem CancelInvariant.entry {self : Thread} {work : UserId} {history : History}
    {s s' : State} {a : AbstractState} {output : Output} (tracked : Tracked history s a)
    (move : s.Step (.workCancelSync self work) output s') :
    CancelInvariant history.started self work
      (history.observe (.workCancelSync self work, output)) s' := by
  obtain ⟨_, a', next, settled⟩ := cancel_sync_entry tracked move
  refine ⟨a', next, fun x member same => ?_⟩
  rcases settled x member same with finished | ⟨_, pursued⟩
  · exact .inl finished
  · exact pursued

theorem CancelInvariant.released {begun : List Submission} {self : Thread} {work : UserId}
    {history : History} {s s' : State} {output : Output}
    (holds : CancelInvariant begun self work history s)
    (move : s.Step (.cancellerTake self) output s') {x : Submission} (member : x ∈ begun)
    (same : x.work = work) : x ∈ history.finished := by
  obtain ⟨a, tracked, pursued⟩ := holds
  obtain ⟨a', meaning, _⟩ := tracked.step move
  rcases pursued x member same with finished | ⟨_, ungiven, _⟩
  · exact finished
  · simp [meaning.canceller_take.1] at ungiven

theorem never_started {handlers : UserId → HandlerId} {trace later : List (Action × Output)}
    {s : State} (run : SystemRun handlersReturn (State.initial handlers) (trace ++ later) s)
    {x : Submission} (removed : x ∈ (historyOf trace).removed) :
    x ∉ (historyOf (trace ++ later)).started := by
  obtain ⟨a, tracked⟩ := tracked_of_run run
  have still := (history_extends trace later).removed.subset removed
  intro started
  have kept := (tracked.ledger.unremoved tracked.coupled.wellFormed x).mpr (.inl started)
  exact kept.2 still

section Call

variable {handlers : UserId → HandlerId} {before span : List (Action × Output)} {s s' : State}
variable {self : Thread} {work : UserId} {output : Output}

/-- The invocations that had begun before the call are over at its return. -/
theorem cancel_sync_finishes (run : SystemRun handlersReturn (State.initial handlers) before s)
    (call : CancelSyncReturns self work s span output s') {x : Submission}
    (started : x ∈ (historyOf before).started) (same : x.work = work) :
    x ∈ (historyOf (before ++ span)).finished := by
  obtain ⟨a, tracked⟩ := tracked_of_run run
  rw [history_of_append]
  refine call.rule History.observe (CancelInvariant (historyOf before).started self work)
    (fun history _ _ => x ∈ history.finished) ?_ ?_
    (fun _ _ _ _ _ holds _ move => holds.step move) ?_
  · intro output state move direct
    obtain ⟨_, _, _, settled⟩ := cancel_sync_entry tracked move
    exact (settled x started same).resolve_right fun pursued => direct pursued.1
  · exact fun output state move _ => .entry tracked move
  · intro history state output state' holds move
    have grows := history.record_extends output.observation
    exact grows.finished.subset (holds.released move started same)

/-- An instance that was queued at the entry of the call is never run. -/
theorem cancel_sync_discards (run : SystemRun handlersReturn (State.initial handlers) before s)
    (call : CancelSyncReturns self work s span output s') {x : Submission}
    (accepted : x ∈ (historyOf before).accepted) (same : x.work = work)
    (unstarted : x ∉ (historyOf before).started) {later : List (Action × Output)} {s'' : State}
    (continued : SystemRun handlersReturn s' later s'') :
    x ∉ (historyOf (before ++ span ++ later)).started := by
  obtain ⟨a, tracked⟩ := tracked_of_run run
  obtain ⟨entry, entered, rest, rfl, move⟩ := call.enters
  have removed := (cancel_sync_entry tracked move).1 x accepted same unstarted
  have whole := (run.append call.run).append continued
  rw [List.append_assoc, List.cons_append, ← List.singleton_append,
    ← List.append_assoc] at whole ⊢
  refine never_started whole ?_
  rwa [history_of_append]

/-- While an invocation that had begun before the call lasts, the item is not taken. -/
theorem cancel_sync_rejects (run : SystemRun handlersReturn (State.initial handlers) before s)
    (call : CancelSyncReturns self work s span output s')
    {first rest : List (Action × Output)} {action : Action} {answer : Output} {thread : Thread}
    {queue : Option QueueId} (split : span = first ++ (action, answer) :: rest)
    (submits : action.submission? = some (thread, work, queue)) {x : Submission}
    (started : x ∈ (historyOf before).started) (same : x.work = work)
    (unfinished : x ∉ (historyOf (before ++ first)).finished) :
    answer.reply = .int (-eBusy) := by
  obtain ⟨a, tracked⟩ := tracked_of_run run
  have other : action ≠ .workCancelSync self work ∧ action ≠ .cancellerTake self := by
    constructor
    · rintro rfl
      cases submits
    · rintro rfl
      cases submits
  obtain ⟨state, state', ⟨b, known, pursued⟩, move⟩ := call.during History.observe
    (CancelInvariant (historyOf before).started self work)
    (fun output state move _ => .entry tracked move)
    (fun _ _ _ _ _ holds _ move => holds.step move) split other
  obtain ⟨b', meaning, _⟩ := known.step move
  rw [history_of_append] at unfinished
  exact (pursued x started same).rejects unfinished meaning submits

end Call

/-- When `work_cancel_sync` returns, the invocation of the item that was in
progress has finished, a queued instance will never be run, and until that
invocation ended no submission of the item was taken. -/
theorem cancel_sync_postcondition {handlers : UserId → HandlerId}
    {before span : List (Action × Output)} {s s' : State} {self : Thread} {work : UserId}
    {output : Output} (run : SystemRun handlersReturn (State.initial handlers) before s)
    (call : CancelSyncReturns self work s span output s') :
    (∀ x ∈ (historyOf before).started, x.work = work →
      x ∈ (historyOf (before ++ span)).finished) ∧
    (∀ x ∈ (historyOf before).accepted, x.work = work → x ∉ (historyOf before).started →
      ∀ later s'', SystemRun handlersReturn s' later s'' →
        x ∉ (historyOf (before ++ span ++ later)).started) ∧
    ∀ first action answer rest thread queue, span = first ++ (action, answer) :: rest →
      action.submission? = some (thread, work, queue) →
      (∃ x ∈ (historyOf before).started, x.work = work ∧
        x ∉ (historyOf (before ++ first)).finished) → answer.reply = .int (-eBusy) := by
  refine ⟨fun x started same => cancel_sync_finishes run call started same, ?_, ?_⟩
  · intro x accepted same unstarted later s'' continued
    exact cancel_sync_discards run call accepted same unstarted continued
  · rintro first action answer rest thread queue split submits ⟨x, started, same, unfinished⟩
    exact cancel_sync_rejects run call split submits started same unfinished

/-- A cancel of an item that runs and is queued again, with a submission in between. -/
theorem cancel_sync_of_resubmission :
    ∃ before span s s' output, SystemRun handlersReturn (State.initial fun _ => ⟨0⟩) before s ∧
      CancelSyncReturns (.client ⟨0⟩) ⟨0⟩ s span output s' ∧
      (historyOf before).started.map Submission.ticket = [0] ∧
      (historyOf before).accepted.map Submission.ticket = [0, 1] ∧
      (∀ x ∈ (historyOf before).started, x.work = ⟨0⟩ →
        x ∈ (historyOf (before ++ span)).finished) ∧
      (∀ x ∈ (historyOf before).accepted, x.work = ⟨0⟩ → x ∉ (historyOf before).started →
        ∀ later s'', SystemRun handlersReturn s' later s'' →
          x ∉ (historyOf (before ++ span ++ later)).started) ∧
      ∀ first answer rest, span = first ++ (.submit (.client ⟨1⟩) ⟨0⟩ (some ⟨0⟩), answer) :: rest →
        (∃ x ∈ (historyOf before).started, x.work = ⟨0⟩ ∧
          x ∉ (historyOf (before ++ first)).finished) → answer.reply = .int (-eBusy) := by
  obtain ⟨before, s, run, tested⟩ := system_run_of_actions handlersReturn
    (State.initial fun _ => ⟨0⟩)
    [.start (.client ⟨0⟩) ⟨0⟩ none, .submit (.client ⟨0⟩) ⟨0⟩ (some ⟨0⟩), .workerTurn ⟨0⟩,
      .submit (.worker ⟨0⟩) ⟨0⟩ (some ⟨0⟩)]
    (fun before s => ((historyOf before).started.map Submission.ticket = [0] &&
        (historyOf before).accepted.map Submission.ticket = [0, 1]) &&
      (s.callActions handlersReturn (.workCancelSync (.client ⟨0⟩) ⟨0⟩)
        (.cancellerTake (.client ⟨0⟩))
        [.submit (.client ⟨1⟩) ⟨0⟩ (some ⟨0⟩), .handlerReturn ⟨0⟩]).any fun _ => true)
    (by decide +kernel)
  simp only [Bool.and_eq_true, decide_eq_true_eq] at tested
  obtain ⟨⟨begun, taken⟩, called⟩ := tested
  obtain ⟨span, output, s', call, _⟩ := system_call_of_actions handlersReturn called
  obtain ⟨finished, never, rejected⟩ := cancel_sync_postcondition run call
  exact ⟨before, span, s, s', output, run, call, begun, taken, finished, never,
    fun first answer rest split => rejected first _ answer rest _ _ split rfl⟩

end AresCommon.WorkQueue
