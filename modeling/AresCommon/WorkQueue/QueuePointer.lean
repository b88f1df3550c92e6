import AresCommon.WorkQueue.Decision

/-!
# Calls through the queue pointer of an item

Flushing, cancelling and submitting an item call members of the `WorkQ` that its queue
pointer names. The pointer is null until a queue has accepted the item. All entry points but
one test something that implies it was accepted; `work_cancel` does not.
-/

namespace AresCommon.WorkQueue

open AresCommon.Foundation.Transition

set_option autoImplicit false

namespace State

variable (s : State)

/-- `work_flush_locked`: `queue->flusher_locked` and `queue->notify_locked`. -/
def workFlushUses (work : UserId) : List (Option QueueId) :=
  if (s.works (.user work)).flags &&& (bit workQueuedBit ||| bit workRunningBit) != 0 then
    [(s.works (.user work)).queue, (s.works (.user work)).queue]
  else []

/-- `cancel_async_locked`: `queue->remove_locked`. -/
def cancelAsyncUses (work : UserId) : List (Option QueueId) :=
  if s.workHas work workCancelingBit then [] else [(s.works (.user work)).queue]

/-- `submit_locked`: `(*queue)->submit_locked`, where `*queue` is the queue pointer of the
item if the item runs or if `*queue` was null. -/
def submitUses (work : UserId) (queue : Option QueueId) : List (Option QueueId) :=
  if s.workHas work workCancelingBit then []
  else if s.workHas work workQueuedBit then []
  else if s.workHas work workRunningBit || queue.isNone then [(s.works (.user work)).queue]
  else []

def queueUses : Action → List (Option QueueId)
  | .submit _ queue (some work) => s.submitUses work (some queue)
  | .workSubmitToQueue _ (some queue) (some work) => s.submitUses work (some queue)
  | .workSubmitToQueue _ none (some work) =>
      if (s.works (.user work)).queue = none then [] else s.submitUses work none
  | .workFlush _ work => s.workFlushUses work
  | .workCancel _ work => s.cancelAsyncUses work
  | .workCancelSync _ work =>
      if s.workBusyGetLocked (.user work) ≠ 0 then s.cancelAsyncUses work else []
  | _ => []

end State

/-! ## What each entry point has tested -/

section Uses

variable {s : State} {a : AbstractState} (coupled : Coupled s a)
include coupled

theorem Coupled.pointer_of_active {work : UserId}
    (active : a.queued work = true ∨ a.running (.user work) = true ∨ a.canceling work = true) :
    (s.works (.user work)).queue ≠ none := by
  obtain ⟨rep, ok⟩ := coupled
  rw [rep.user_work]
  intro nowhere
  obtain ⟨unqueued, resting, uncancelled⟩ := ok.items.resting nowhere
  simp [unqueued, resting, uncancelled] at active

theorem Coupled.flush_uses (work : UserId) :
    ∀ pointer ∈ s.workFlushUses work, pointer ≠ none := by
  intro pointer used
  have flags := coupled.reflects.user_work work
  unfold State.workFlushUses at used
  split at used
  · rename_i tested
    have active : a.queued work = true ∨ a.running (.user work) = true := by
      rw [flags, work_flags_flushable] at tested
      exact Bool.or_eq_true_iff.mp tested
    have known := coupled.pointer_of_active (active.imp id .inl)
    simp only [List.mem_cons, List.not_mem_nil, or_false, or_self] at used
    rw [used]
    exact known
  · simp at used

theorem Coupled.submit_uses {work : UserId} {queue : Option QueueId}
    (known : queue ≠ none ∨ (s.works (.user work)).queue ≠ none) :
    ∀ pointer ∈ s.submitUses work queue, pointer ≠ none := by
  intro pointer used
  unfold State.submitUses at used
  split at used
  · simp at used
  · split at used
    · simp at used
    · split at used
      · rename_i through
        rw [List.mem_singleton] at used
        rw [used]
        rcases Bool.or_eq_true_iff.mp through with running | absent
        · rw [(coupled.reflects.work_has work).1] at running
          exact coupled.pointer_of_active (.inr (.inl running))
        · exact known.resolve_left fun given => given (by simpa using absent)
      · simp at used

theorem Coupled.cancel_uses_iff (work : UserId) :
    (∀ pointer ∈ s.cancelAsyncUses work, pointer ≠ none) ↔
      (s.works (.user work)).queue ≠ none := by
  unfold State.cancelAsyncUses
  split
  · rename_i canceling
    rw [(coupled.reflects.work_has work).2.1] at canceling
    exact iff_of_true (by simp) (coupled.pointer_of_active (.inr (.inr canceling)))
  · simp

theorem Coupled.cancel_sync_uses {work : UserId} (busy : s.workBusyGetLocked (.user work) ≠ 0) :
    ∀ pointer ∈ s.cancelAsyncUses work, pointer ≠ none := by
  refine (coupled.cancel_uses_iff work).mpr fun nowhere => busy ?_
  have home : a.home work = none := by
    rw [coupled.reflects.user_work] at nowhere
    exact nowhere
  obtain ⟨unqueued, resting, uncancelled⟩ := coupled.wellFormed.items.resting home
  simp [State.workBusyGetLocked, coupled.reflects.user_work, unqueued, resting, uncancelled,
    work_flags_none]

/-- A call uses a null pointer exactly when it cancels an item that has none. -/
theorem Coupled.queue_uses_iff (action : Action) :
    (∀ pointer ∈ s.queueUses action, pointer ≠ none) ↔
      ∀ self work, action = .workCancel self work → (s.works (.user work)).queue ≠ none := by
  have other (safe : ∀ pointer ∈ s.queueUses action, pointer ≠ none)
      (differs : ∀ self work, action ≠ .workCancel self work) :
      (∀ pointer ∈ s.queueUses action, pointer ≠ none) ↔
        ∀ self work, action = .workCancel self work → (s.works (.user work)).queue ≠ none :=
    iff_of_true safe fun self work same => absurd same (differs self work)
  cases action with
  | workCancel self work =>
      refine (coupled.cancel_uses_iff work).trans ⟨?_, fun known => known self work rfl⟩
      rintro known _ _ ⟨⟩
      exact known
  | submit self queue work =>
      refine other ?_ (by simp)
      cases work with
      | none => simp [State.queueUses]
      | some work => exact coupled.submit_uses (.inl (by simp))
  | workSubmitToQueue self queue work =>
      refine other ?_ (by simp)
      cases work with
      | none => simp [State.queueUses]
      | some work =>
          cases queue with
          | some queue => exact coupled.submit_uses (.inl (by simp))
          | none =>
              simp only [State.queueUses]
              split
              · simp
              · rename_i known
                exact coupled.submit_uses (.inr known)
  | workFlush self work => exact other (coupled.flush_uses work) (by simp)
  | workCancelSync self work =>
      refine other ?_ (by simp)
      simp only [State.queueUses]
      split
      · rename_i busy
        exact coupled.cancel_sync_uses busy
      · simp
  | _ => exact other (by simp [State.queueUses]) (by simp)

end Uses

/-- In a run no member of `WorkQ` is called through a null queue pointer exactly when every
`work_cancel` is of an item that a queue has accepted before. -/
theorem queue_pointers_non_null_iff {handlers : UserId → HandlerId}
    {trace : List (Action × Output)} {s : State}
    (run : SystemRun anyStep (State.initial handlers) trace s) :
    (∀ before action output after state, trace = before ++ (action, output) :: after →
      SystemRun anyStep (State.initial handlers) before state →
        ∀ pointer ∈ state.queueUses action, pointer ≠ none) ↔
    ∀ before self work output after,
      trace = before ++ (.workCancel self work, output) :: after →
        lastQueue before work ≠ none := by
  have located {before : List (Action × Output)} {state : State}
      (reached : SystemRun anyStep (State.initial handlers) before state) :
      ∃ a, Coupled state a ∧ ∀ work,
        (state.works (.user work)).queue = lastQueue before work := by
    obtain ⟨a, steps, coupled⟩ := coupled_of_run reached
    refine ⟨a, coupled, fun work => ?_⟩
    rw [coupled.reflects.user_work]
    exact home_of_run steps work
  constructor
  · intro safe before self work output after split
    subst split
    obtain ⟨state, reached, _⟩ := run.split
    obtain ⟨a, coupled, pointers⟩ := located reached
    rw [← pointers]
    exact (coupled.queue_uses_iff _).mp (safe before _ output after state rfl reached) self work
      rfl
  · intro known before action output after state split reached
    obtain ⟨a, coupled, pointers⟩ := located reached
    refine (coupled.queue_uses_iff action).mpr ?_
    rintro self work rfl
    rw [pointers]
    exact known before self work output after split

/-- An item is accepted, cancelled, refused by a queue that was not started, and flushed. -/
theorem queue_pointers_non_null_of_accepted :
    ∃ trace s, SystemRun anyStep (State.initial fun _ => ⟨0⟩) trace s ∧
      trace.map Prod.fst = [.start (.client ⟨0⟩) ⟨0⟩ none,
        .submit (.client ⟨0⟩) ⟨0⟩ (some ⟨0⟩), .workCancel (.client ⟨0⟩) ⟨0⟩,
        .submit (.client ⟨0⟩) ⟨1⟩ (some ⟨1⟩), .workFlush (.client ⟨0⟩) ⟨1⟩] ∧
      ∀ before action output after state, trace = before ++ (action, output) :: after →
        SystemRun anyStep (State.initial fun _ => ⟨0⟩) before state →
          ∀ pointer ∈ state.queueUses action, pointer ≠ none := by
  obtain ⟨trace, s, run, tested⟩ := system_run_of_actions (fun _ _ => True)
    (State.initial fun _ => ⟨0⟩)
    [.start (.client ⟨0⟩) ⟨0⟩ none, .submit (.client ⟨0⟩) ⟨0⟩ (some ⟨0⟩),
      .workCancel (.client ⟨0⟩) ⟨0⟩, .submit (.client ⟨0⟩) ⟨1⟩ (some ⟨1⟩),
      .workFlush (.client ⟨0⟩) ⟨1⟩]
    (fun trace _ => trace.map Prod.fst = [.start (.client ⟨0⟩) ⟨0⟩ none,
        .submit (.client ⟨0⟩) ⟨0⟩ (some ⟨0⟩), .workCancel (.client ⟨0⟩) ⟨0⟩,
        .submit (.client ⟨0⟩) ⟨1⟩ (some ⟨1⟩), .workFlush (.client ⟨0⟩) ⟨1⟩] &&
      lastQueue (trace.take 2) ⟨0⟩ = some ⟨0⟩)
    (by decide +kernel)
  simp only [Bool.and_eq_true, decide_eq_true_eq] at tested
  have whole := run.unrestricted
  refine ⟨trace, s, whole, tested.1, (queue_pointers_non_null_iff whole).mpr ?_⟩
  intro before self work output after split
  have actions := congrArg (List.map Prod.fst) split
  rw [tested.1] at actions
  rcases before with _ | ⟨e0, _ | ⟨e1, _ | ⟨e2, _ | ⟨e3, _ | ⟨e4, rest⟩⟩⟩⟩⟩ <;>
    simp only [List.nil_append, List.cons_append, List.map_cons, List.cons.injEq,
      reduceCtorEq, false_and, and_false] at actions
  · obtain ⟨_, _, same, _⟩ := actions
    cases same
    have first : trace.take 2 = [e0, e1] := by rw [split]; rfl
    rw [← first, tested.2]
    simp
  · simp at actions

/-- `work_cancel` of an item that was never submitted. -/
theorem cancel_of_new_item :
    ¬∀ handlers trace s, SystemRun anyStep (State.initial handlers) trace s →
      ∀ before action output after state, trace = before ++ (action, output) :: after →
        SystemRun anyStep (State.initial handlers) before state →
          ∀ pointer ∈ state.queueUses action, pointer ≠ none := by
  intro always
  obtain ⟨trace, s, run, tested⟩ := system_run_of_actions (fun _ _ => True)
    (State.initial fun _ => ⟨0⟩) [.workCancel (.client ⟨0⟩) ⟨0⟩]
    (fun trace _ => trace = [(.workCancel (.client ⟨0⟩) ⟨0⟩, .just (.int 0))])
    (by decide +kernel)
  simp only [decide_eq_true_eq] at tested
  have used : none ∈ (State.initial fun _ => ⟨0⟩).queueUses (.workCancel (.client ⟨0⟩) ⟨0⟩) := by
    decide
  exact always _ trace s run.unrestricted [] _ _ [] _ tested .nil none used rfl

end AresCommon.WorkQueue
