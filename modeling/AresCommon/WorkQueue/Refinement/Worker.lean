import Mathlib.Data.List.Find
import AresCommon.WorkQueue.Refinement.Clients

/-!
# The critical sections of the worker loop

The turn at the top of the loop, the wake-up, and the section that completes an
item with its flusher or canceller.
-/

namespace AresCommon.WorkQueue

open AresCommon.DataStructures AresCommon.DataStructures.Slist
open AresCommon.Synchronization AresCommon.Foundation.Transition
open Function (update)

set_option autoImplicit false

section Sections

variable {s : State} {a : AbstractState} (rep : Reflects s a)
include rep

/-! ## The worker loop -/

theorem Reflects.popped {queue : QueueId} {work : WorkRef} {rest : List WorkRef}
    (head : a.pending queue = work :: rest) :
    Reflects (s.turnLocked queue) (a.pop queue work rest) ∧
      (s.turnLocked queue).workers queue = .running work (a.handlerOf work) := by
  have list := (rep.queues queue).pending
  simp only [AbstractState.queue, head] at list
  obtain ⟨fetched, remaining⟩ := list.get_cons
  have dropped : Reflects (s.setPending queue
      (s.nodes, (SysSlist.get s.nodes (s.queues queue).pending).2))
      { a with pending := update a.pending queue rest } :=
    rep.set_pending remaining fun _ _ _ _ => rfl
  have busy := dropped.write_flags queue (flagSet · workQueueBusyBit) (a.started queue) true
    (a.draining queue) (a.plugged queue) (a.stopping queue) (a.noYield queue) (by simp)
  simp only [Function.update_eq_self] at busy
  cases work with
  | user id =>
      have running := busy.write_user id
        (fun w => { w with flags := flagSet w.flags workRunningBit }) true (a.canceling id)
        (a.queued id) (a.home id) (a.handler id) (by simp)
      simp only [Function.update_eq_self] at running
      have waitless := running.write_user id
        (fun w => { w with flags := flagClear w.flags workQueuedBit }) true (a.canceling id)
        false (a.home id) (a.handler id) (by simp)
      simp only [Function.update_eq_self, Function.update_idem] at waitless
      have moved := waitless.set_running queue (.user id)
      have unqueued : (fun other => if WorkRef.user id = WorkRef.user other then false
          else a.queued other) = update a.queued id false := by
        funext other
        by_cases same : other = id
        · simp [same]
        · simp [same, Ne.symm same]
      simp only [State.turnLocked, fetched, AbstractState.pop, unqueued]
      exact ⟨moved, (congrFun moved.workers queue).trans (Function.update_self _ _ _)⟩
  | flusher thread =>
      have running := busy.write_flusher thread
        (fun w => { w with flags := flagSet w.flags workRunningBit }) true (by simp)
      have waitless := running.write_flusher thread
        (fun w => { w with flags := flagClear w.flags workQueuedBit }) true (by simp)
      simp only [Function.update_idem] at waitless
      have moved := waitless.set_running queue (.flusher thread)
      simp only [State.turnLocked, fetched, AbstractState.pop, reduceCtorEq, if_false]
      exact ⟨moved, (congrFun moved.workers queue).trans (Function.update_self _ _ _)⟩

/-- The turn on an empty list looks at DRAIN, then at STOP. -/
theorem Reflects.turn_empty {queue : QueueId} (empty : a.pending queue = []) :
    s.turnLocked queue =
      if a.draining queue then
        ((s.queueFlagClear queue workQueueDrainBit).modifyQueue queue
          fun q => { q with drainq := q.drainq.put 1 }).setWorker queue .parked
      else if a.stopping queue then
        (s.modifyQueue queue fun q => { q with flags := 0 }).setWorker queue .returned
      else s.setWorker queue .parked := by
  have list := (rep.queues queue).pending
  simp only [AbstractState.queue, empty] at list
  simp only [State.turnLocked, list.get_nil, (rep.queues queue).flags, queue_flags_test,
    AbstractState.queue]

theorem Reflects.drain_finished (queue : QueueId) :
    Reflects
      (((s.queueFlagClear queue workQueueDrainBit).modifyQueue queue
        fun q => { q with drainq := q.drainq.put 1 }).setWorker queue .parked)
      (a.finishDrain queue) := by
  have cleared := rep.write_flags queue (flagClear · workQueueDrainBit) (a.started queue)
    (a.busy queue) false (a.plugged queue) (a.stopping queue) (a.noYield queue) (by simp)
  simp only [Function.update_eq_self] at cleared
  have token := cleared.write_drainq queue (·.put 1) (cleared.queues queue).drainq.put
  exact token.set_worker queue .parked

omit rep in
theorem Reflects.leave_loop {workers : QueueId → WorkerPc}
    (moved : Reflects s { a with workers := workers }) (queue : QueueId) :
    Reflects (s.leaveLoop queue) { a with workers := workers, loops := a.loopsWithout queue } := by
  have task := (moved.queues queue).task
  simp only [AbstractState.queue] at task
  unfold State.leaveLoop AbstractState.loopsWithout
  rw [task]
  cases holder : (a.task queue).id with
  | none => exact { moved with loops := moved.loops }
  | some thread =>
    cases thread with
    | client id => exact { moved with loops := by simp only [moved.loops] }
    | worker runner => exact { moved with loops := moved.loops }

theorem Reflects.stopped (queue : QueueId) :
    Reflects
      (((s.modifyQueue queue fun q => { q with flags := 0 }).setWorker queue
        .returned).leaveLoop queue)
      (a.leave queue) := by
  have cleared := rep.write_flags queue (fun _ => 0) false false false false false false
    queue_flags_zero.symm
  exact (cleared.set_worker queue .returned).leave_loop queue

theorem Reflects.woken {queue : QueueId} {token : UInt8} {rest : TokenQueue}
    (got : (s.queues queue).notifyq.get = some (token, rest)) :
    a.notified queue = true ∧
      Reflects
        ((s.modifyQueue queue fun q => { q with notifyq := rest }).setWorker queue .atTop)
        { a with
          notified := update a.notified queue false
          workers := update a.workers queue .atTop } := by
  obtain ⟨present, _, empty⟩ := (rep.queues queue).notifyq.get got
  have taken := rep.write_notifyq queue (fun _ => rest) empty
  exact ⟨present, taken.set_worker queue .atTop⟩

/-- A canceller that is still linked has not been given, so releasing it never
exceeds its count. -/
theorem Reflects.unlock_canceller (ok : CancellersOk a) {thread : Thread}
    (member : thread ∈ a.cancels) :
    ∃ sem, (s.cancellers thread).sem.unlock = .ok sem ∧ sem.getCount = 1 := by
  obtain ⟨_, ungiven⟩ := (ok.linked thread).mp member
  have count := rep.canceller_sem thread
  rw [ungiven, Bool.toNat_false] at count
  obtain ⟨sem, unlocked, given⟩ :=
    Semaphore.unlock_of_room (show (s.cancellers thread).sem.getCount < 1 by omega)
  exact ⟨sem, unlocked, by omega⟩

theorem Reflects.give_canceller {thread : Thread} {sem : Semaphore 1}
    (given : sem.getCount = 1) :
    Reflects (s.setCanceller thread { s.cancellers thread with sem := sem })
      { a with cancellerGiven := update a.cancellerGiven thread true } :=
  { rep with
    canceller_sem := by
      intro other
      by_cases same : other = thread
      · subst same
        simp [State.setCanceller, given]
      · simp only [State.setCanceller, Function.update_of_ne same]
        exact rep.canceller_sem other
    canceller_work := by
      intro other item call
      have before := rep.canceller_work other item call
      by_cases same : other = thread
      · subst same
        simp only [State.setCanceller, Function.update_self]
        exact before
      · simp only [State.setCanceller, Function.update_of_ne same]
        exact before }

theorem Reflects.finalize_cancel_locked (ok : CancellersOk a) {fuel : Nat} {work : UserId}
    {s' : State} (ran : s.finalizeCancelLocked fuel (.user work) = some s') :
    Reflects s' (match a.cancels.find? (a.cancelsWork work) with
      | none => { a with canceling := update a.canceling work false }
      | some thread =>
          { a with
            canceling := update a.canceling work false
            cancels := a.cancels.erase thread
            cancellerGiven := update a.cancellerGiven thread true }) := by
  have cleared := rep.write_user work
    (fun w => { w with flags := flagClear w.flags workCancelingBit }) (a.running (.user work))
    false (a.queued work) (a.home work) (a.handler work) (by simp)
  simp only [Function.update_eq_self] at cleared
  have matching : ∀ thread ∈ a.cancels,
      decide ((s.cancellers thread).work = some (.user work)) = a.cancelsWork work thread := by
    intro thread member
    obtain ⟨⟨item, call⟩, _⟩ := (ok.linked thread).mp member
    simp [rep.canceller_work thread item call, AbstractState.cancelsWork, call]
  unfold State.finalizeCancelLocked at ran
  cases searched : SysSlist.removeFirst fuel
      (s.workFlagClear (.user work) workCancelingBit).cancellerNodes
      (s.workFlagClear (.user work) workCancelingBit).pendingCancels
      (fun wc => ((s.workFlagClear (.user work) workCancelingBit).cancellers wc).work =
        some (.user work)) with
  | none => simp [searched] at ran
  | some outcome =>
      obtain ⟨result, nodes, list⟩ := outcome
      obtain ⟨found, erased, _⟩ := remove_first cleared.cancels searched
      rw [erase_p_found, ← found] at erased
      have first : result = a.cancels.find? (a.cancelsWork work) :=
        found.trans (List.find?_congr matching)
      simp only [searched] at ran
      rw [← first]
      cases result with
      | none =>
          simp only [Option.some.injEq] at ran
          subst ran
          exact { cleared with cancels := erased }
      | some thread =>
          have member := List.mem_of_find?_eq_some first.symm
          obtain ⟨sem, unlocked, given⟩ := rep.unlock_canceller ok member
          have unlock : ((s.workFlagClear (.user work) workCancelingBit).cancellers
              thread).sem.unlock = .ok sem := unlocked
          simp only [unlock, Option.some.injEq] at ran
          subst ran
          have unlinked : Reflects
              { s.workFlagClear (.user work) workCancelingBit with
                cancellerNodes := nodes, pendingCancels := list }
              { a with
                canceling := update a.canceling work false
                cancels := a.cancels.erase thread } := { cleared with cancels := erased }
          exact unlinked.give_canceller given

theorem Reflects.finalize_cancel_terminates (ok : CancellersOk a) (work : UserId) :
    ∃ fuel s', s.finalizeCancelLocked fuel (.user work) = some s' := by
  obtain ⟨⟨result, nodes, list⟩, searched⟩ := remove_first_terminates rep.cancels
    (fun wc => (s.cancellers wc).work = some (.user work)) (Nat.le_refl _)
  refine ⟨a.cancels.length, ?_⟩
  have found := (remove_first rep.cancels searched).1
  have search : SysSlist.removeFirst a.cancels.length
      (s.workFlagClear (.user work) workCancelingBit).cancellerNodes
      (s.workFlagClear (.user work) workCancelingBit).pendingCancels
      (fun wc => ((s.workFlagClear (.user work) workCancelingBit).cancellers wc).work =
        some (.user work)) = some (result, nodes, list) := searched
  unfold State.finalizeCancelLocked
  simp only [search]
  cases result with
  | none => exact ⟨_, rfl⟩
  | some thread =>
      have member := List.mem_of_find?_eq_some found.symm
      obtain ⟨sem, unlocked, _⟩ := rep.unlock_canceller ok member
      have unlock : ((s.workFlagClear (.user work) workCancelingBit).cancellers
          thread).sem.unlock = .ok sem := unlocked
      simp only [unlock]
      exact ⟨_, rfl⟩

theorem Reflects.settled (queue : QueueId) :
    Reflects ((s.queueFlagClear queue workCancelingBit).setWorker queue .atTop)
      { a with
        busy := update a.busy queue false
        workers := update a.workers queue .atTop } := by
  have cleared := rep.write_flags queue (flagClear · workCancelingBit) (a.started queue) false
    (a.draining queue) (a.plugged queue) (a.stopping queue) (a.noYield queue) (by simp)
  simp only [Function.update_eq_self] at cleared
  exact cleared.set_worker queue .atTop

/-! ## The completion of an item, in its two parts -/

theorem Reflects.complete_flush_user (work : UserId) :
    ∃ s', s.completeFlush (.user work) = some s' ∧
      Reflects s' { a with running := update a.running (.user work) false } := by
  have rested := rep.write_user work
    (fun w => { w with flags := flagClear w.flags workRunningBit }) false (a.canceling work)
    (a.queued work) (a.home work) (a.handler work) (by simp)
  simp only [Function.update_eq_self] at rested
  have word : ((s.workFlagClear (.user work) workRunningBit).works (.user work)).flags =
      workFlags false (a.canceling work) (a.queued work) false := by
    simp [State.workFlagClear, State.modifyWork, rep.user_work]
  refine ⟨_, ?_, rested⟩
  simp only [State.completeFlush, word, work_flags_test, Bool.false_eq_true, if_false]
  rfl

theorem Reflects.complete_flush_flusher (ok : FlushersOk a) {queue : QueueId}
    {thread : Thread} {handler : WorkHandler}
    (inside : a.workers queue = .running (.flusher thread) handler) :
    ∃ s', s.completeFlush (.flusher thread) = some s' ∧
      Reflects s' { a with
        running := update a.running (.flusher thread) false
        flusherGiven := update a.flusherGiven thread true } := by
  have here : (a.workers queue).item = some (.flusher thread) := by rw [inside]; rfl
  obtain ⟨⟨work, call⟩, ungiven, running⟩ := ok.item_flusher thread queue here
  have flying : a.awaitsFlush thread = true := by simp [AbstractState.awaitsFlush, call, ungiven]
  have count := rep.flusher_sem thread
  rw [ungiven, Bool.toNat_false] at count
  obtain ⟨sem, unlocked, given⟩ :=
    Semaphore.unlock_of_room (show (s.flusherSems thread).getCount < 1 by omega)
  have unlock : ((((s.workFlagClear (.flusher thread) workRunningBit).workFlagClear
      (.flusher thread) workFlushingBit).flusherSems thread)).unlock = .ok sem := unlocked
  have released : Reflects
      (((s.workFlagClear (.flusher thread) workRunningBit).workFlagClear
        (.flusher thread) workFlushingBit).setFlusherSem thread sem)
      { a with
        running := update a.running (.flusher thread) false
        flusherGiven := update a.flusherGiven thread true } :=
    { rep with
      user_work := by
        intro other
        have before := rep.user_work other
        simpa [State.setFlusherSem, State.workFlagClear, State.modifyWork] using before
      flusher_work := by
        intro other
        have before := rep.flusher_work other
        by_cases same : other = thread
        · subst same
          simp [State.setFlusherSem, State.workFlagClear, State.modifyWork, before,
            AbstractState.awaitsFlush, call]
        · simpa [State.setFlusherSem, State.workFlagClear, State.modifyWork, same,
            AbstractState.awaitsFlush] using before
      flusher_sem := by
        intro other
        by_cases same : other = thread
        · subst same
          simp [State.setFlusherSem, given, count]
        · simp only [State.setFlusherSem, Function.update_of_ne same]
          exact rep.flusher_sem other }
  have marked := rep.flusher_work thread
  rw [running, flying] at marked
  have flushing : flagTest ((s.workFlagClear (.flusher thread) workRunningBit).works
      (.flusher thread)).flags workFlushingBit = true := by
    simp [State.workFlagClear, State.modifyWork, marked]
  refine ⟨_, ?_, released⟩
  simp only [State.completeFlush, State.finalizeFlushLocked, flushing, unlock, if_true]

theorem Reflects.complete_cancel_flusher (fuel : Nat) (queue : QueueId) (thread : Thread) :
    ∃ s', s.completeCancel fuel queue (.flusher thread) = some s' ∧
      Reflects s' { a with
        busy := update a.busy queue false
        workers := update a.workers queue .atTop } := by
  refine ⟨_, ?_, rep.settled queue⟩
  simp only [State.completeCancel, rep.flusher_work, work_flags_test, Bool.false_eq_true,
    if_false, Option.bind_eq_bind, Option.bind_some]
  rfl

theorem Reflects.complete_cancel_user (ok : CancellersOk a) {fuel : Nat} {queue : QueueId}
    {work : UserId} {s' : State} (ran : s.completeCancel fuel queue (.user work) = some s') :
    Reflects s' (match a.released work with
      | none =>
          { a with
            busy := update a.busy queue false
            workers := update a.workers queue .atTop
            canceling := update a.canceling work false }
      | some thread =>
          { a with
            busy := update a.busy queue false
            workers := update a.workers queue .atTop
            canceling := update a.canceling work false
            cancels := a.cancels.erase thread
            cancellerGiven := update a.cancellerGiven thread true }) := by
  simp only [State.completeCancel, rep.user_work, work_flags_test, Option.bind_eq_bind] at ran
  obtain ⟨middle, cancelled, settled⟩ := Option.bind_eq_some_iff.mp ran
  cases settled
  unfold AbstractState.released
  by_cases canceling : a.canceling work
  · simp only [canceling, if_true] at cancelled ⊢
    have released := rep.finalize_cancel_locked ok cancelled
    cases first : a.cancels.find? (a.cancelsWork work) with
    | none =>
        rw [first] at released
        exact released.settled queue
    | some thread =>
        rw [first] at released
        exact released.settled queue
  · simp only [canceling, Bool.false_eq_true, if_false, Option.some.injEq] at cancelled ⊢
    subst cancelled
    have same : update a.canceling work false = a.canceling := by
      rw [Function.update_eq_self_iff]
      simpa using canceling
    rw [same]
    exact rep.settled queue

theorem Reflects.complete_cancel_terminates (ok : CancellersOk a) (queue : QueueId)
    (work : UserId) : ∃ fuel s', s.completeCancel fuel queue (.user work) = some s' := by
  obtain ⟨fuel, middle, released⟩ := rep.finalize_cancel_terminates ok work
  refine ⟨fuel, ?_⟩
  simp only [State.completeCancel, rep.user_work, work_flags_test, Option.bind_eq_bind]
  by_cases canceling : a.canceling work
  · simp only [canceling, if_true, released]
    exact ⟨_, rfl⟩
  · simp only [canceling, Bool.false_eq_true, if_false]
    exact ⟨_, rfl⟩

/-! ## The completion as a whole -/

theorem Reflects.completed_flush (ok : FlushersOk a) (fuel : Nat) {queue : QueueId}
    {thread : Thread} {handler : WorkHandler}
    (inside : a.workers queue = .running (.flusher thread) handler) :
    ∃ s', s.completeLocked fuel queue (.flusher thread) = some s' ∧
      Reflects s' { a.complete queue (.flusher thread) with
        flusherGiven := update a.flusherGiven thread true } := by
  obtain ⟨middle, flushed, released⟩ := rep.complete_flush_flusher ok inside
  obtain ⟨s', settled, meaning⟩ := released.complete_cancel_flusher fuel queue thread
  refine ⟨s', ?_, meaning⟩
  rw [State.complete_locked_parts, flushed, Option.bind_some, settled]

theorem Reflects.completed (ok : CancellersOk a) {fuel : Nat} {queue : QueueId}
    {work : UserId} {s' : State} (ran : s.completeLocked fuel queue (.user work) = some s') :
    Reflects s' (match a.released work with
      | none => { a.complete queue (.user work) with canceling := update a.canceling work false }
      | some thread =>
          { a.complete queue (.user work) with
            canceling := update a.canceling work false
            cancels := a.cancels.erase thread
            cancellerGiven := update a.cancellerGiven thread true }) := by
  obtain ⟨middle, flushed, rested⟩ := rep.complete_flush_user work
  rw [State.complete_locked_parts, flushed, Option.bind_some] at ran
  exact rested.complete_cancel_user (ok.congr rfl rfl fun _ _ => .rfl) ran

theorem Reflects.complete_terminates (ok : CancellersOk a) (queue : QueueId) (work : UserId) :
    ∃ fuel s', s.completeLocked fuel queue (.user work) = some s' := by
  obtain ⟨middle, flushed, rested⟩ := rep.complete_flush_user work
  obtain ⟨fuel, s', settled⟩ :=
    rested.complete_cancel_terminates (ok.congr rfl rfl fun _ _ => .rfl) queue work
  refine ⟨fuel, s', ?_⟩
  rw [State.complete_locked_parts, flushed, Option.bind_some, settled]

end Sections

end AresCommon.WorkQueue
