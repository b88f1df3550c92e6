import AresCommon.WorkQueue.History

/-!
# Waiting for an item to be flushed

A flusher is put right behind its item if that is queued, else to the front of
the queue that runs it. Either way everything of the item that was queued or
running comes before the flusher, and no later edit of the list changes that.
-/

namespace AresCommon.WorkQueue

open AresCommon.DataStructures.Slist AresCommon.Foundation.Transition
open Function (update)

set_option autoImplicit false

abbrev FlushReturns (self : Thread) (work : UserId) :
    State → List (Action × Output) → Output → State → Prop :=
  SystemCall handlersReturn (.workFlush self work) (.flusherTake self)

/-- The flusher of `self` comes after the submission `x` of `work`. -/
inductive Ahead (history : History) (a : AbstractState) (self : Thread) (work : UserId)
    (queue : QueueId) (x : Submission) : Prop where
  | running (active : a.running (.user work) = true) (located : a.home work = some queue)
      (current : latest history.started work = some x)
      (linked : .flusher self ∈ a.pending queue)
  | queued (last : latest history.accepted work = some x)
      (order : [.user work, .flusher self].Sublist (a.pending queue))

/-- What a waiting flush owes to the submission `x`. -/
def FlushOwes (history : History) (a : AbstractState) (self : Thread) (work : UserId)
    (queue : QueueId) (x : Submission) : Prop :=
  x ∈ history.removed ∨ x ∈ history.finished ∨ Ahead history a self work queue x

section Steps

variable {history : History} {a a' : AbstractState} {self : Thread} {work : UserId}
variable {queue : QueueId} {x : Submission}

theorem Ahead.linked (ahead : Ahead history a self work queue x) :
    .flusher self ∈ a.pending queue := by
  cases ahead with
  | running _ _ _ linked => exact linked
  | queued _ order => exact order.subset (by simp)

theorem Ahead.keep (ahead : Ahead history a self work queue x)
    (running : a'.running (.user work) = a.running (.user work))
    (home : a.running (.user work) = true → a'.home work = a.home work)
    (pending : (a.pending queue).Sublist (a'.pending queue)) :
    Ahead history a' self work queue x := by
  cases ahead with
  | running active located current linked =>
      exact .running (running.trans active) ((home active).trans located) current
        (pending.subset linked)
  | queued last order => exact .queued last (order.trans pending)

theorem Ahead.accept (ahead : Ahead history a self work queue x) (ok : WellFormed a)
    {other : UserId} {target : QueueId} {handler : WorkHandler}
    (unqueued : a.queued other = false)
    (stays : a.running (.user other) = true → a.home other = some target) :
    Ahead (history.record (.accepted other target handler)) (a.accept other target) self work
      queue x := by
  have longer : (a.pending queue).Sublist ((a.accept other target).pending queue) := by
    simp only [AbstractState.accept]
    by_cases here : queue = target
    · subst here
      rw [Function.update_self]
      exact List.sublist_append_left _ _
    · rw [Function.update_of_ne here]
  cases ahead with
  | running active located current linked =>
      refine .running active ?_ current (longer.subset linked)
      by_cases same : work = other
      · subst same
        simp only [AbstractState.accept, Function.update_self]
        rw [← stays active, located]
      · simpa only [AbstractState.accept, Function.update_of_ne same] using located
  | queued last order =>
      have member : WorkRef.user work ∈ a.pending queue := order.subset (by simp)
      have differs : other ≠ work := by
        rintro rfl
        have waits := ((ok.items.pending_user other queue).mp member).1
        simp [unqueued] at waits
      refine .queued ?_ (order.trans longer)
      simpa [History.record, latest_append, differs] using last

theorem Ahead.cancel (ahead : Ahead history a self work queue x) (ok : WellFormed a)
    (other : UserId) :
    FlushOwes (history.record (a.removal other)) (a.cancel other) self work queue x := by
  obtain ⟨accepted, started⟩ := record_removal history a other
  cases ahead with
  | running active located current linked =>
      refine .inr (.inr (.running active located (started ▸ current) ?_))
      exact (List.mem_erase_of_ne (by simp)).mpr linked
  | queued last order =>
      by_cases same : other = work
      · subst same
        have member : WorkRef.user other ∈ a.pending queue := order.subset (by simp)
        have waits := ((ok.items.pending_user other queue).mp member).1
        left
        simp [AbstractState.removal, waits, History.record, last]
      · refine .inr (.inr (.queued (accepted ▸ last) ?_))
        have erased := order.erase (.user other)
        rwa [List.erase_of_not_mem (by simp [same])] at erased

theorem record_start_accepted (item : WorkRef) (target : QueueId) (handler : WorkHandler) :
    (history.record (item.startObservation target handler)).accepted = history.accepted := by
  cases item <;> rfl

theorem Ahead.pop_elsewhere (ahead : Ahead history a self work queue x) (ok : WellFormed a)
    {target : QueueId} {item : WorkRef} {rest : List WorkRef} (away : queue ≠ target)
    (head : a.pending target = item :: rest) :
    Ahead (history.record (item.startObservation target (a.handlerOf item)))
      (a.pop target item rest) self work queue x := by
  have same : (a.pop target item rest).pending queue = a.pending queue :=
    Function.update_of_ne away _ _
  cases ahead with
  | running active located current linked =>
      have other : item ≠ .user work := by
        rintro rfl
        have member : WorkRef.user work ∈ a.pending target := by simp [head]
        have home := ((ok.items.pending_user work target).mp member).2
        exact away (Option.some.inj (located.symm.trans home))
      refine .running ?_ located ?_ (same ▸ linked)
      · simpa [AbstractState.pop, Ne.symm other] using active
      · cases item with
        | flusher thread => exact current
        | user id =>
            have differs : id ≠ work := fun equal => other (congrArg WorkRef.user equal)
            simpa [WorkRef.startObservation, History.record, latest_append, differs] using current
  | queued last order =>
      exact .queued ((record_start_accepted item target _).symm ▸ last) (same ▸ order)

theorem Ahead.pop_here (ahead : Ahead history a self work queue x) (ok : WellFormed a)
    (ledger : Ledger history a) {item : WorkRef} {rest : List WorkRef}
    (ready : a.workers queue = .atTop) (head : a.pending queue = item :: rest) :
    Ahead (history.record (item.startObservation queue (a.handlerOf item)))
      (a.pop queue item rest) self work queue x := by
  have front : (a.pop queue item rest).pending queue = rest := Function.update_self _ _ _
  cases ahead with
  | running active located current linked =>
      have held := (ok.items.item_user work queue).mpr ⟨active, located⟩
      simp [ready, WorkerPc.item] at held
  | queued last order =>
      rw [head] at order
      by_cases popped : item = .user work
      · subst popped
        have member : WorkRef.user work ∈ a.pending queue := by simp [head]
        obtain ⟨y, found, same, located, record⟩ := ledger.record_started ok member
        cases last.symm.trans found
        have behind : WorkRef.flusher self ∈ rest := by
          have tail := List.cons_sublist_cons.mp order
          exact tail.subset (by simp)
        refine .running ?_ ?_ ?_ (front.symm ▸ behind)
        · simp [AbstractState.pop]
        · exact ((ok.items.pending_user work queue).mp member).2
        · simp only [WorkRef.startObservation, AbstractState.handlerOf, record, latest_append,
            same, if_true]
      · refine .queued ((record_start_accepted item queue _).symm ▸ last) (front.symm ▸ ?_)
        exact List.Sublist.of_cons_of_ne (Ne.symm popped) order

theorem Ahead.finish (ahead : Ahead history a self work queue x) (target : QueueId)
    (other : UserId) :
    FlushOwes (history.record (.finished other target)) (a.complete target (.user other)) self
      work queue x := by
  cases ahead with
  | running active located current linked =>
      by_cases same : other = work
      · subst same
        right; left
        simp [History.record, current]
      · refine .inr (.inr (.running ?_ located current linked))
        simpa [AbstractState.complete, Ne.symm same] using active
  | queued last order => exact .inr (.inr (.queued last order))

/-- The entry of the flush puts the flusher behind every live instance. -/
theorem Ahead.of_live (ok : WellFormed a) (ledger : Ledger history a)
    (located : a.home work = some queue) (live : x ∈ history.live work) :
    Ahead history (a.flush work queue self) self work queue x := by
  rcases (ledger.live_iff ok work x).mp live with ⟨waits, last⟩ | ⟨active, current⟩
  · have member := (ok.items.pending_user work queue).mpr ⟨waits, located⟩
    refine .queued last ?_
    simp only [AbstractState.flush, Function.update_self, waits, if_true]
    exact insert_after_order member
  · refine .running active located current ?_
    refine (FlushersOk.mem_flush (fun waits => ?_) _ _).mpr (.inr ⟨rfl, rfl⟩)
    exact (ok.items.pending_user work queue).mpr ⟨waits, located⟩

theorem Ahead.step (ahead : Ahead history a self work queue x) (ok : WellFormed a)
    (ledger : Ledger history a) {action : Action} {output : Output}
    (move : AbstractStep a action output a') :
    FlushOwes (history.record output.observation) a' self work queue x := by
  cases move with
  | accepted submits acts admitted =>
      obtain ⟨_, unqueued, goes, _⟩ := AbstractState.admission_ok admitted
      refine .inr (.inr (ahead.accept ok unqueued fun active => ?_))
      rw [← AbstractState.destination_of_running active, goes]
  | @flushWaits other _ target acts active located =>
      refine .inr (.inr (ahead.keep rfl (fun _ => rfl) ?_))
      simp only [AbstractState.flush]
      by_cases here : queue = target
      · subst here
        rw [Function.update_self]
        split
        · exact sublist_insert_after _ _ _
        · exact List.sublist_cons_self _ _
      · rw [Function.update_of_ne here]
  | cancelled acts => exact ahead.cancel ok _
  | @cancelledSync _ other acts waiting resting =>
      have cancelled := ahead.cancel ok other
      simpa [AbstractState.removal, waiting] using cancelled
  | @cancelWaits _ other acts active =>
      rcases ahead.cancel ok other with removed | finished | still
      · exact .inl removed
      · exact .inr (.inl finished)
      · exact .inr (.inr (still.keep rfl (fun _ => rfl) (List.Sublist.refl _)))
  | @popped target item rest ready head =>
      right; right
      by_cases here : queue = target
      · subst here
        exact ahead.pop_here ok ledger ready head
      · exact ahead.pop_elsewhere ok here head
  | @finished target other handler inside | @finishedCancelled target other handler thread inside =>
      rcases ahead.finish target other with removed | finished | still
      · exact .inl removed
      · exact .inr (.inl finished)
      · exact .inr (.inr (still.keep rfl (fun _ => rfl) (List.Sublist.refl _)))
  | flushed inside =>
      exact .inr (.inr (ahead.keep (by simp [AbstractState.complete]) (fun _ => rfl)
        (List.Sublist.refl _)))
  | @start _ target _ acts unstarted | @run _ target _ acts outside unstarted =>
      refine .inr (.inr (ahead.keep rfl (fun _ => rfl) ?_))
      simp only [AbstractState.launch]
      by_cases here : queue = target
      · subst here
        rw [ok.queues.vacant unstarted]
        exact List.nil_sublist _
      · rw [Function.update_of_ne here]
  | refused | flusherTaken | cancellerTaken | handlerSet | drainWaits | drainTaken | unplugged
  | stopWaits | joined | drainDone | stopped | parked | woken | threw =>
      exact .inr (.inr (ahead.keep rfl (fun _ => rfl) (List.Sublist.refl _)))

theorem FlushOwes.step (owes : FlushOwes history a self work queue x) (ok : WellFormed a)
    (ledger : Ledger history a) {action : Action} {output : Output}
    (move : AbstractStep a action output a') :
    FlushOwes (history.record output.observation) a' self work queue x := by
  have grows := history.record_extends output.observation
  rcases owes with removed | finished | ahead
  · exact .inl (grows.removed.subset removed)
  · exact .inr (.inl (grows.finished.subset finished))
  · exact ahead.step ok ledger move

theorem FlushOwes.settled (owes : FlushOwes history a self work queue x) (ok : WellFormed a)
    (given : a.flusherGiven self = true) : x ∈ history.finished ∨ x ∈ history.removed := by
  rcases owes with removed | finished | ahead
  · exact .inr removed
  · exact .inl finished
  · have waiting := (ok.flushers.pending_flusher self queue ahead.linked).2.1
    simp [given] at waiting

end Steps

/-- Every submission in `owed` is owed to the flush that `self` waits in. -/
def FlushInvariant (owed : List Submission) (self : Thread) (work : UserId)
    (history : History) (s : State) : Prop :=
  ∃ a queue, Tracked history s a ∧ ∀ x ∈ owed, FlushOwes history a self work queue x

section Invariant

variable {owed : List Submission} {self : Thread} {work : UserId} {history : History}
variable {s s' : State} {output : Output}

theorem FlushInvariant.entry {a : AbstractState} (tracked : Tracked history s a)
    (move : s.Step (.workFlush self work) output s') (blocks : output.waits = true) :
    FlushInvariant (history.live work) self work
      (history.observe (.workFlush self work, output)) s' := by
  obtain ⟨a', meaning, next⟩ := tracked.step move
  rcases meaning.work_flush with ⟨_, _, rfl⟩ | ⟨queue, located, rfl, rfl⟩
  · cases blocks
  · exact ⟨_, queue, next, fun x live =>
      .inr (.inr (Ahead.of_live tracked.coupled.wellFormed tracked.ledger located live))⟩

theorem FlushInvariant.step {action : Action}
    (holds : FlushInvariant owed self work history s) (move : s.Step action output s') :
    FlushInvariant owed self work (history.observe (action, output)) s' := by
  obtain ⟨a, queue, tracked, owes⟩ := holds
  obtain ⟨a', meaning, next⟩ := tracked.step move
  exact ⟨a', queue, next, fun x member =>
    (owes x member).step tracked.coupled.wellFormed tracked.ledger meaning⟩

theorem FlushInvariant.released (holds : FlushInvariant owed self work history s)
    (move : s.Step (.flusherTake self) output s') :
    output = .just (.bool true) ∧
      ∀ x ∈ owed, x ∈ history.finished ∨ x ∈ history.removed := by
  obtain ⟨a, queue, tracked, owes⟩ := holds
  obtain ⟨a', meaning, _⟩ := tracked.step move
  obtain ⟨given, answer, _⟩ := meaning.flusher_take
  exact ⟨answer, fun x member => (owes x member).settled tracked.coupled.wellFormed given⟩

end Invariant

/-- When `work_flush` returns true, every instance of the item that was queued or
running at its critical section has finished or was removed; when it returns
false there was none. -/
theorem flush_postcondition {handlers : UserId → HandlerId} {before span : List (Action × Output)}
    {s s' : State} {self : Thread} {work : UserId} {output : Output}
    (run : SystemRun handlersReturn (State.initial handlers) before s)
    (call : FlushReturns self work s span output s') :
    (output.reply = .bool true → ∀ x ∈ (historyOf before).live work,
      x ∈ (historyOf (before ++ span)).finished ∨ x ∈ (historyOf (before ++ span)).removed) ∧
    (output.reply = .bool false → s.workHas work workQueuedBit = false ∧
      s.workHas work workRunningBit = false) := by
  obtain ⟨a, tracked⟩ := tracked_of_run run
  obtain ⟨running, _, queued⟩ := tracked.coupled.reflects.work_has work
  rw [history_of_append, queued, running]
  refine call.rule History.observe (FlushInvariant ((historyOf before).live work) self work)
    (fun history output _ => (output.reply = .bool true →
        ∀ x ∈ (historyOf before).live work, x ∈ history.finished ∨ x ∈ history.removed) ∧
      (output.reply = .bool false → a.queued work = false ∧ a.running (.user work) = false))
    ?_ ?_ ?_ ?_
  · intro output state move direct
    obtain ⟨a', meaning, _⟩ := tracked.step move
    rcases meaning.work_flush with ⟨unqueued, resting, rfl⟩ | ⟨queue, _, rfl, _⟩
    · simp [Output.just, unqueued, resting]
    · exact absurd rfl direct
  · exact fun output state move blocks => .entry tracked move blocks
  · exact fun _ _ _ _ _ holds _ move => holds.step move
  · intro history state output state' holds move
    obtain ⟨rfl, settled⟩ := holds.released move
    exact ⟨fun _ => settled, by simp [Output.just]⟩

/-- A flush of an item that is running and queued again waits for both instances. -/
theorem flush_of_resubmission :
    ∃ before span s s' output, SystemRun handlersReturn (State.initial fun _ => ⟨0⟩) before s ∧
      FlushReturns (.client ⟨0⟩) ⟨0⟩ s span output s' ∧ output.reply = .bool true ∧
      ((historyOf before).live ⟨0⟩).length = 2 ∧
      ∀ x ∈ (historyOf before).live ⟨0⟩,
        x ∈ (historyOf (before ++ span)).finished ∨ x ∈ (historyOf (before ++ span)).removed := by
  obtain ⟨before, s, run, tested⟩ := system_run_of_actions handlersReturn
    (State.initial fun _ => ⟨0⟩)
    [.start (.client ⟨0⟩) ⟨0⟩ none, .submit (.client ⟨0⟩) ⟨0⟩ (some ⟨0⟩), .workerTurn ⟨0⟩,
      .submit (.worker ⟨0⟩) ⟨0⟩ (some ⟨0⟩)]
    (fun before s => ((historyOf before).live ⟨0⟩).length = 2 &&
      (s.callActions handlersReturn (.workFlush (.client ⟨0⟩) ⟨0⟩) (.flusherTake (.client ⟨0⟩))
        [.handlerReturn ⟨0⟩, .workerTurn ⟨0⟩, .handlerReturn ⟨0⟩, .workerTurn ⟨0⟩,
          .handlerReturn ⟨0⟩]).any fun call => call.2.1.reply = .bool true)
    (by decide +kernel)
  obtain ⟨both, called⟩ := Bool.and_eq_true_iff.mp tested
  obtain ⟨span, output, s', call, replied⟩ := system_call_of_actions handlersReturn called
  have answer : output.reply = .bool true := by simpa using replied
  exact ⟨before, span, s, s', output, run, call, answer, by simpa using both,
    (flush_postcondition run call).1 answer⟩

end AresCommon.WorkQueue
