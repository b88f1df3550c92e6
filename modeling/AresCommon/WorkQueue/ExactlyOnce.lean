import AresCommon.WorkQueue.History

/-!
# Exactly-once execution in order of acceptance

The queue as a whole refines a first-in first-out queue with deletion, for any
number of items, queues and threads.
-/

namespace AresCommon.WorkQueue

open AresCommon.DataStructures.Slist AresCommon.Foundation AresCommon.Foundation.Transition

set_option autoImplicit false

def State.pendingItem (s : State) : WorkRef → Option (UserId × WorkHandler)
  | .user work => some (work, (s.works (.user work)).handler)
  | .flusher _ => none

def Submission.item (x : Submission) : UserId × WorkHandler := (x.work, x.handler)

theorem Ledger.waiting_items {history : History} {s : State} {a : AbstractState}
    (ledger : Ledger history a) (coupled : Coupled s a) (queue : QueueId) :
    ((a.pending queue).filterMap history.waiting).map Submission.item =
      (a.pending queue).filterMap s.pendingItem := by
  rw [List.map_filterMap]
  apply List.filterMap_congr
  intro node member
  cases node with
  | flusher thread => rfl
  | user work =>
      obtain ⟨x, found, same, _, handler, _⟩ := ledger.waits coupled.wellFormed member
      simp [History.waiting, State.pendingItem, found, Submission.item, same, handler,
        coupled.reflects.user_work]

/-- Submissions are accepted by the calls that return 1 or 2, and by no other. -/
def AcceptanceShown (entry : Action × Output) : Prop :=
  (∃ work queue handler, entry.2.observation = .accepted work queue handler) ↔
    ∃ self work queue, entry.1.submission? = some (self, work, queue) ∧
      (entry.2.reply = .int 1 ∨ entry.2.reply = .int 2)

theorem acceptance_shown {a a' : AbstractState} {action : Action} {output : Output}
    (move : AbstractStep a action output a') : AcceptanceShown (action, output) := by
  unfold AcceptanceShown
  cases move with
  | refused refusal =>
      cases refusal with
      | rejected again refused =>
          have bound := AbstractState.admission_error refused
          simp only [Output.just, reduceCtorEq, exists_false, Reply.int.injEq, false_iff]
          rintro ⟨self, work, queue, _, one | two⟩ <;> omega
      | _ => simp [Output.just, Action.submission?]
  | @accepted _ self work queue target submits acts admitted =>
      have replied : (if a.running (.user work) then (2 : Int) else 1) = 1 ∨
          (if a.running (.user work) then (2 : Int) else 1) = 2 := by
        split <;> simp
      simp only [Observation.accepted.injEq, Reply.int.injEq]
      exact ⟨fun _ => ⟨self, work, queue, submits, replied⟩,
        fun _ => ⟨work, target, _, rfl, rfl, rfl⟩⟩
  | cancelled | cancelWaits =>
      simp only [AbstractState.removal, Action.submission?]
      split <;> simp
  | @popped queue item rest ready head =>
      cases item <;> simp [WorkRef.startObservation, Action.submission?]
  | _ => simp [Output.just, Action.submission?]

/-- What a queue has started, followed by what it has pending, is what it has
accepted without what was removed: item by item, in order, with the handler of the
submission. -/
theorem exactly_once_fifo {handlers : UserId → HandlerId} {trace : List (Action × Output)}
    {s : State} (run : SystemRun handlersReturn (State.initial handlers) trace s)
    (queue : QueueId) :
    (∀ entry ∈ trace, AcceptanceShown entry) ∧
      ∃ nodes, Represents s.nodes (s.queues queue).pending nodes ∧ ∃ ledger : Fifo Submission,
        ledger.accepted = onQueue queue (historyOf trace).accepted ∧
        ledger.removed = onQueue queue (historyOf trace).removed ∧
        ledger.delivered = onQueue queue (historyOf trace).started ∧
        ledger.waiting.map Submission.item = nodes.filterMap s.pendingItem := by
  have shown := run.labels (fun s => ∃ a, Coupled s a) AcceptanceShown
    (by
      rintro s action output s' ⟨a, coupled⟩ _ move
      obtain ⟨a', meaning, next⟩ := coupled.step move
      exact ⟨acceptance_shown meaning, a', next⟩)
    ⟨_, initial_coupled handlers⟩
  obtain ⟨a, coupled, ledger⟩ := tracked_of_run run
  obtain ⟨fifo, accepted, removed, delivered, waiting⟩ := ledger.fifo queue
  refine ⟨shown.1, _, coupled.reflects.list queue, fifo, accepted, removed, delivered, ?_⟩
  rw [waiting, ledger.waiting_items coupled]

/-- Three items, one submitted again by its own handler, one removed, one flushed. -/
theorem exactly_once_fifo_of_three :
    ∃ trace s, SystemRun handlersReturn (State.initial fun work => ⟨work.address⟩) trace s ∧
      (historyOf trace).started.map Submission.ticket = [0, 1] ∧
      (historyOf trace).removed.map Submission.ticket = [2] ∧
      ∃ nodes, Represents s.nodes (s.queues ⟨0⟩).pending nodes ∧ ∃ ledger : Fifo Submission,
        ledger.accepted = onQueue ⟨0⟩ (historyOf trace).accepted ∧
        ledger.removed = onQueue ⟨0⟩ (historyOf trace).removed ∧
        ledger.delivered = onQueue ⟨0⟩ (historyOf trace).started ∧
        ledger.waiting.map Submission.item = nodes.filterMap s.pendingItem := by
  obtain ⟨trace, s, run, tested⟩ := system_run_of_actions handlersReturn
    (State.initial fun work => ⟨work.address⟩)
    [.start (.client ⟨0⟩) ⟨0⟩ none, .submit (.client ⟨0⟩) ⟨0⟩ (some ⟨0⟩),
      .submit (.client ⟨0⟩) ⟨0⟩ (some ⟨1⟩), .submit (.client ⟨0⟩) ⟨0⟩ (some ⟨2⟩), .workerTurn ⟨0⟩,
      .workSubmitToQueue (.worker ⟨0⟩) none (some ⟨0⟩), .workFlush (.client ⟨1⟩) ⟨1⟩,
      .workCancel (.client ⟨0⟩) ⟨2⟩, .handlerReturn ⟨0⟩, .workerTurn ⟨0⟩]
    (fun trace _ => (historyOf trace).started.map Submission.ticket = [0, 1] &&
      (historyOf trace).removed.map Submission.ticket = [2])
    (by decide +kernel)
  simp only [Bool.and_eq_true, decide_eq_true_eq] at tested
  exact ⟨trace, s, run, tested.1, tested.2, (exactly_once_fifo run ⟨0⟩).2⟩

end AresCommon.WorkQueue
