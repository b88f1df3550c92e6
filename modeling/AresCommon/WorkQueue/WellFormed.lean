import AresCommon.WorkQueue.Abstract

/-!
# The invariants of the work queues

Five groups of facts that hold between any two actions, whatever the threads
do: about clients' items, about flushers, about the flags of a queue, about
cancellers, and about the threads of the worker loops. Each group has one lemma
for every operation that touches what it speaks about, and a step lemma
assembled from them.
-/

namespace AresCommon.WorkQueue

open AresCommon.DataStructures.Slist AresCommon.Foundation.Transition
open Function (update)

set_option autoImplicit false

attribute [local grind =] Function.update_apply WorkerPc.item

/-- A queued item waits on its own queue only, a running item is in the hands
of the worker of its own queue only, and a cancelled one runs without waiting. -/
structure ItemsOk (a : AbstractState) : Prop where
  pending_user : ∀ work queue, WorkRef.user work ∈ a.pending queue ↔
    a.queued work = true ∧ a.home work = some queue
  item_user : ∀ work queue, (a.workers queue).item = some (.user work) ↔
    a.running (.user work) = true ∧ a.home work = some queue
  located : ∀ work, a.queued work = true ∨ a.running (.user work) = true →
    ∃ queue, a.home work = some queue
  canceling : ∀ work, a.canceling work = true →
    a.running (.user work) = true ∧ a.queued work = false
  nodup : ∀ queue, (a.pending queue).Nodup

/-- A thread waits for its flusher exactly while that is in the list or in the
hands of the worker of the queue it was sent to. -/
structure FlushersOk (a : AbstractState) : Prop where
  pending_flusher : ∀ thread queue, WorkRef.flusher thread ∈ a.pending queue →
    (∃ work, a.calls thread = .flushing work queue) ∧ a.flusherGiven thread = false ∧
      a.running (.flusher thread) = false
  item_flusher : ∀ thread queue, (a.workers queue).item = some (.flusher thread) →
    (∃ work, a.calls thread = .flushing work queue) ∧ a.flusherGiven thread = false ∧
      a.running (.flusher thread) = true
  awaiting : ∀ thread work queue, a.calls thread = .flushing work queue →
    a.flusherGiven thread = false →
      WorkRef.flusher thread ∈ a.pending queue ∨
        (a.workers queue).item = some (.flusher thread)
  running_flusher : ∀ thread, a.running (.flusher thread) = true →
    ∃ queue, (a.workers queue).item = some (.flusher thread)
  given : ∀ thread, a.flusherGiven thread = true →
    ∃ work queue, a.calls thread = .flushing work queue

structure QueuesOk (a : AbstractState) : Prop where
  started_iff : ∀ queue, a.started queue = true ↔
    a.workers queue ≠ .notStarted ∧ a.workers queue ≠ .returned
  busy_eq : ∀ queue, a.busy queue = (a.workers queue).item.isSome
  dormant : ∀ queue, a.started queue = false →
    a.pending queue = [] ∧ a.draining queue = false ∧ a.plugged queue = false ∧
      a.stopping queue = false ∧ a.noYield queue = false

/-- A thread waits for its canceller exactly while that is linked. -/
structure CancellersOk (a : AbstractState) : Prop where
  linked : ∀ thread, thread ∈ a.cancels ↔
    (∃ work, a.calls thread = .cancelling work) ∧ a.cancellerGiven thread = false
  given : ∀ thread, a.cancellerGiven thread = true → ∃ work, a.calls thread = .cancelling work
  nodup : a.cancels.Nodup

/-- The thread of a queue is inside the loop of that queue until it has left. -/
structure ThreadsOk (a : AbstractState) : Prop where
  owner : ∀ queue other, (a.task queue).id = some (.worker other) → other = queue
  inside : ∀ queue thread, (a.task queue).id = some thread →
    a.workers queue ≠ .notStarted → (a.workers queue).left = false →
      a.loops thread = some queue

structure WellFormed (a : AbstractState) : Prop where
  items : ItemsOk a
  flushers : FlushersOk a
  queues : QueuesOk a
  cancellers : CancellersOk a
  threads : ThreadsOk a

variable {a a' : AbstractState}

theorem item_reposition (workers : QueueId → WorkerPc) {queue : QueueId} {pc : WorkerPc}
    (same : pc.item = (workers queue).item) (other : QueueId) :
    (update workers queue pc other).item = (workers other).item := by
  grind

theorem QueuesOk.vacant (ok : QueuesOk a) {queue : QueueId}
    (unstarted : a.workers queue = .notStarted) : a.pending queue = [] := by
  have started := ok.started_iff queue
  have dormant := ok.dormant queue
  grind

/-! ## Clients' items -/

namespace ItemsOk

variable (ok : ItemsOk a)
include ok

theorem congr (running : a'.running = a.running) (canceling : a'.canceling = a.canceling)
    (queued : a'.queued = a.queued) (home : a'.home = a.home)
    (pending : a'.pending = a.pending)
    (items : ∀ queue, (a'.workers queue).item = (a.workers queue).item) : ItemsOk a' := by
  constructor
  · rw [pending, queued, home]
    exact ok.pending_user
  · intro work queue
    rw [items, running, home]
    exact ok.item_user work queue
  · rw [queued, running, home]
    exact ok.located
  · rw [canceling, running, queued]
    exact ok.canceling
  · rw [pending]
    exact ok.nodup

theorem resting {work : UserId} (nowhere : a.home work = none) :
    a.queued work = false ∧ a.running (.user work) = false ∧ a.canceling work = false := by
  have located := ok.located work
  have canceling := ok.canceling work
  grind

theorem launch {queue : QueueId} {config : Option WorkQConfig} {runner : Thread}
    {joinable : Bool} (vacant : a.pending queue = []) (idle : (a.workers queue).item = none) :
    ItemsOk (a.launch queue config runner joinable) := by
  have pending : (a.launch queue config runner joinable).pending = a.pending := by
    simp only [AbstractState.launch, ← vacant, Function.update_eq_self]
  refine ok.congr rfl rfl rfl rfl pending ?_
  intro other
  simp only [AbstractState.launch]
  grind

theorem accept {work : UserId} {queue : QueueId} (unqueued : a.queued work = false)
    (uncancelled : a.canceling work = false)
    (stays : a.running (.user work) = true → a.home work = some queue) :
    ItemsOk (a.accept work queue) := by
  constructor <;> simp only [AbstractState.accept]
  case pending_user =>
    intro other target
    have before := ok.pending_user other target
    grind
  case item_user =>
    intro other target
    have before := ok.item_user other target
    grind
  case located =>
    intro other active
    have before := ok.located other
    grind
  case canceling =>
    intro other cancelled
    have before := ok.canceling other cancelled
    grind
  case nodup =>
    intro target
    have absent : WorkRef.user work ∉ a.pending queue := fun member =>
      absurd ((ok.pending_user work queue).mp member).1 (by simp [unqueued])
    have before := ok.nodup target
    grind

theorem flush {work : UserId} {queue : QueueId} {thread : Thread}
    (fresh : WorkRef.flusher thread ∉ a.pending queue) :
    ItemsOk (a.flush work queue thread) := by
  constructor <;> simp only [AbstractState.flush]
  case pending_user =>
    intro other target
    have before := ok.pending_user other target
    grind [mem_insert_after]
  case item_user => exact ok.item_user
  case located => exact ok.located
  case canceling => exact ok.canceling
  case nodup =>
    intro target
    have before := ok.nodup target
    grind [insert_after_nodup]

theorem cancel {work : UserId} : ItemsOk (a.cancel work) := by
  constructor <;> simp only [AbstractState.cancel]
  case pending_user =>
    intro other target
    rw [(ok.nodup target).mem_erase_iff]
    have before := ok.pending_user other target
    grind
  case item_user => exact ok.item_user
  case located =>
    intro other active
    have before := ok.located other
    grind
  case canceling =>
    intro other cancelled
    have before := ok.canceling other
    grind
  case nodup =>
    intro target
    exact (ok.nodup target).erase _

theorem pop {queue : QueueId} {work : WorkRef} {rest : List WorkRef}
    (ready : a.workers queue = .atTop) (head : a.pending queue = work :: rest) :
    ItemsOk (a.pop queue work rest) := by
  have distinct := ok.nodup queue
  rw [head, List.nodup_cons] at distinct
  have idle : (a.workers queue).item = none := by rw [ready]; rfl
  constructor <;> simp only [AbstractState.pop]
  case pending_user =>
    intro other target
    have popped := ok.pending_user other queue
    have before := ok.pending_user other target
    grind
  case item_user =>
    intro other target
    have popped := ok.pending_user other queue
    have before := ok.item_user other target
    have here := ok.item_user other queue
    grind
  case located =>
    intro other active
    have popped := ok.pending_user other queue
    have before := ok.located other
    grind
  case canceling =>
    intro other cancelled
    have before := ok.canceling other cancelled
    grind
  case nodup =>
    intro target
    have before := ok.nodup target
    grind

theorem complete {queue : QueueId} {work : WorkRef} {handler : WorkHandler}
    (inside : a.workers queue = .running work handler) {canceling : UserId → Bool}
    (kept : ∀ other, canceling other = true →
      a.canceling other = true ∧ work ≠ .user other) :
    ItemsOk { a.complete queue work with canceling } := by
  have here : (a.workers queue).item = some work := by rw [inside]; rfl
  constructor <;> simp only [AbstractState.complete]
  case pending_user => exact ok.pending_user
  case item_user =>
    intro other target
    have before := ok.item_user other target
    have own := ok.item_user other queue
    grind
  case located =>
    intro other active
    have before := ok.located other
    grind
  case canceling =>
    intro other cancelled
    obtain ⟨marked, apart⟩ := kept other cancelled
    have before := ok.canceling other marked
    grind
  case nodup => exact ok.nodup

theorem finish {queue : QueueId} {work : UserId} {handler : WorkHandler}
    (inside : a.workers queue = .running (.user work) handler) :
    ItemsOk { a.complete queue (.user work) with
      canceling := update a.canceling work false } := by
  apply ok.complete inside
  intro other cancelled
  have apart : other ≠ work := by
    rintro rfl
    simp at cancelled
  rw [Function.update_of_ne apart] at cancelled
  exact ⟨cancelled, fun same => apart (WorkRef.user.inj same).symm⟩

theorem finishFlush {queue : QueueId} {thread : Thread} {handler : WorkHandler}
    (inside : a.workers queue = .running (.flusher thread) handler) :
    ItemsOk (a.complete queue (.flusher thread)) := by
  apply ok.complete inside
  intro other cancelled
  exact ⟨cancelled, by simp⟩

theorem canceling_cancel {work : UserId} (other : UserId) (marked : a.canceling work = true) :
    (a.cancel other).canceling work = true := by
  have active := (ok.canceling work marked).1
  simp only [AbstractState.cancel]
  grind

end ItemsOk

theorem ItemsOk.step {action : Action} {output : Output} (ok : ItemsOk a)
    (flushers : FlushersOk a) (queues : QueuesOk a)
    (move : AbstractStep a action output a') : ItemsOk a' := by
  cases move with
  | refused _ => exact ok
  | @start _ queue _ _ unstarted | @run _ queue _ _ _ unstarted =>
      have idle : (a.workers queue).item = none := by rw [unstarted]; rfl
      exact ok.launch (queues.vacant unstarted) idle
  | accepted submits acts admitted =>
      obtain ⟨uncancelled, unqueued, goes, _⟩ := AbstractState.admission_ok admitted
      refine ok.accept unqueued uncancelled fun active => ?_
      rw [← AbstractState.destination_of_running active, goes]
  | flushWaits acts active located =>
      have free := AbstractState.idle_of_can_act acts
      apply ok.flush
      intro member
      obtain ⟨⟨_, call⟩, _⟩ := flushers.pending_flusher _ _ member
      simp [free] at call
  | cancelled acts => exact ok.cancel
  | cancelledSync acts waiting resting => exact ok.cancel
  | cancelWaits acts active => exact ok.cancel.congr rfl rfl rfl rfl rfl fun _ => rfl
  | popped ready head => exact ok.pop ready head
  | finished inside => exact ok.finish inside
  | finishedCancelled inside =>
      exact (ok.finish inside).congr rfl rfl rfl rfl rfl fun _ => rfl
  | flushed inside => exact (ok.finishFlush inside).congr rfl rfl rfl rfl rfl fun _ => rfl
  | drainDone ready | stopped ready | parked ready | woken ready | threw ready =>
      refine ok.congr rfl rfl rfl rfl rfl (item_reposition _ ?_)
      rw [ready]
      rfl
  | flusherTaken | cancellerTaken | handlerSet | drainWaits | drainTaken | unplugged
  | stopWaits | joined => exact ok.congr rfl rfl rfl rfl rfl fun _ => rfl

/-! ## Flushers -/

namespace FlushersOk

variable (ok : FlushersOk a)
include ok

theorem congr (running : ∀ thread, a'.running (.flusher thread) = a.running (.flusher thread))
    (given : a'.flusherGiven = a.flusherGiven)
    (calls : ∀ thread work queue,
      a'.calls thread = .flushing work queue ↔ a.calls thread = .flushing work queue)
    (pending : ∀ thread queue,
      WorkRef.flusher thread ∈ a'.pending queue ↔ WorkRef.flusher thread ∈ a.pending queue)
    (items : ∀ thread queue, (a'.workers queue).item = some (.flusher thread) ↔
      (a.workers queue).item = some (.flusher thread)) : FlushersOk a' := by
  constructor
  · simp only [pending, calls, given, running]
    exact ok.pending_flusher
  · simp only [items, calls, given, running]
    exact ok.item_flusher
  · simp only [items, calls, given, pending]
    exact ok.awaiting
  · simp only [items, running]
    exact ok.running_flusher
  · simp only [calls, given]
    exact ok.given

theorem absent {thread : Thread} (elsewhere : ∀ work queue,
    a.calls thread ≠ .flushing work queue) :
    (∀ queue, WorkRef.flusher thread ∉ a.pending queue) ∧
      (∀ queue, (a.workers queue).item ≠ some (.flusher thread)) ∧
      a.running (.flusher thread) = false ∧ a.flusherGiven thread = false := by
  have given := ok.given thread
  have running := ok.running_flusher thread
  have pending := ok.pending_flusher thread
  have items := ok.item_flusher thread
  grind

omit ok in
theorem mem_flush {work : UserId} {queue : QueueId} {thread : Thread}
    (linked : a.queued work = true → WorkRef.user work ∈ a.pending queue)
    (item : WorkRef) (target : QueueId) :
    item ∈ (a.flush work queue thread).pending target ↔
      item ∈ a.pending target ∨ (item = .flusher thread ∧ target = queue) := by
  simp only [AbstractState.flush]
  grind [mem_insert_after]

theorem flush {work : UserId} {queue : QueueId} {thread : Thread}
    (free : a.calls thread = .idle)
    (linked : a.queued work = true → WorkRef.user work ∈ a.pending queue) :
    FlushersOk (a.flush work queue thread) := by
  obtain ⟨unlisted, unheld, resting, ungiven⟩ := ok.absent fun item target =>
    show a.calls thread ≠ .flushing item target by simp [free]
  constructor
  case pending_flusher =>
    intro other target member
    rcases (mem_flush linked _ _).mp member with earlier | ⟨same, rfl⟩
    · have differs : other ≠ thread := fun same => unlisted target (same ▸ earlier)
      simpa [AbstractState.flush, differs] using ok.pending_flusher other target earlier
    · obtain rfl := WorkRef.flusher.inj same
      simp [AbstractState.flush, resting]
  case item_flusher =>
    intro other target held
    have differs : other ≠ thread := fun same => unheld target (same ▸ held)
    simpa [AbstractState.flush, differs] using ok.item_flusher other target held
  case awaiting =>
    intro other item target
    rw [mem_flush linked]
    have before := ok.awaiting other item target
    simp only [AbstractState.flush]
    grind
  case running_flusher => exact ok.running_flusher
  case given =>
    intro other
    have before := ok.given other
    simp only [AbstractState.flush]
    grind

theorem taken {thread : Thread} (given : a.flusherGiven thread = true) :
    FlushersOk { a with
      flusherGiven := update a.flusherGiven thread false
      calls := update a.calls thread .idle } := by
  constructor <;> dsimp only
  case pending_flusher =>
    intro other target
    have before := ok.pending_flusher other target
    grind
  case item_flusher =>
    intro other target
    have before := ok.item_flusher other target
    grind
  case awaiting =>
    intro other item target
    have before := ok.awaiting other item target
    grind
  case running_flusher => exact ok.running_flusher
  case given =>
    intro other
    have before := ok.given other
    grind

theorem pop {queue : QueueId} {work : WorkRef} {rest : List WorkRef}
    (distinct : (a.pending queue).Nodup) (ready : a.workers queue = .atTop)
    (head : a.pending queue = work :: rest) : FlushersOk (a.pop queue work rest) := by
  rw [head, List.nodup_cons] at distinct
  have idle : (a.workers queue).item = none := by rw [ready]; rfl
  constructor <;> simp only [AbstractState.pop]
  case pending_flusher =>
    intro other target
    have before := ok.pending_flusher other target
    have popped := ok.pending_flusher other queue
    grind
  case item_flusher =>
    intro other target
    have before := ok.item_flusher other target
    have popped := ok.pending_flusher other queue
    grind
  case awaiting =>
    intro other item target
    have before := ok.awaiting other item target
    grind
  case running_flusher =>
    intro other active
    by_cases same : work = .flusher other
    · exact ⟨queue, by grind⟩
    · obtain ⟨target, held⟩ := ok.running_flusher other (by grind)
      exact ⟨target, by grind⟩
  case given => exact ok.given

theorem flushed {queue : QueueId} {thread : Thread} {handler : WorkHandler}
    (inside : a.workers queue = .running (.flusher thread) handler) :
    FlushersOk { a.complete queue (.flusher thread) with
      flusherGiven := update a.flusherGiven thread true } := by
  have here : (a.workers queue).item = some (.flusher thread) := by rw [inside]; rfl
  obtain ⟨⟨work, call⟩, ungiven, active⟩ := ok.item_flusher thread queue here
  constructor <;> simp only [AbstractState.complete]
  case pending_flusher =>
    intro other target
    have before := ok.pending_flusher other target
    grind
  case item_flusher =>
    intro other target
    have before := ok.item_flusher other target
    grind
  case awaiting =>
    intro other item target
    have before := ok.awaiting other item target
    grind
  case running_flusher =>
    intro other running
    obtain ⟨target, held⟩ := ok.running_flusher other (by grind)
    exact ⟨target, by grind⟩
  case given =>
    intro other
    have before := ok.given other
    grind

end FlushersOk

theorem FlushersOk.step {action : Action} {output : Output} (ok : FlushersOk a)
    (items : ItemsOk a) (queues : QueuesOk a) (move : AbstractStep a action output a') :
    FlushersOk a' := by
  cases move with
  | refused _ => exact ok
  | @start _ queue _ _ unstarted | @run _ queue _ _ _ unstarted =>
      have vacant := queues.vacant unstarted
      refine ok.congr (fun _ => rfl) rfl (fun _ _ _ => .rfl) ?_ ?_
      all_goals
        intro other target
        simp only [AbstractState.launch]
        grind
  | @accepted action _ work _ target submits acts admitted =>
      refine ok.congr (fun _ => rfl) rfl (fun _ _ _ => .rfl) ?_ (fun _ _ => .rfl)
      intro other queue
      simp only [AbstractState.accept]
      grind
  | flushWaits acts active located =>
      refine ok.flush (AbstractState.idle_of_can_act acts) fun waiting => ?_
      exact (items.pending_user _ _).mpr ⟨waiting, located⟩
  | flusherTaken call given => exact ok.taken given
  | cancelled | cancelledSync =>
      refine ok.congr (fun _ => rfl) rfl (fun _ _ _ => .rfl) ?_ (fun _ _ => .rfl)
      intro other queue
      exact List.mem_erase_of_ne (by simp)
  | cancelWaits acts active =>
      have free := AbstractState.idle_of_can_act acts
      refine ok.congr (fun _ => rfl) rfl ?_ ?_ (fun _ _ => .rfl)
      · intro other work queue
        simp only [AbstractState.awaitCancel, AbstractState.cancel]
        grind
      · intro other queue
        exact List.mem_erase_of_ne (by simp)
  | popped ready head => exact ok.pop (items.nodup _) ready head
  | finished inside | finishedCancelled inside =>
      refine ok.congr ?_ rfl (fun _ _ _ => .rfl) (fun _ _ => .rfl) ?_
      · intro other
        simp [AbstractState.complete]
      · intro other queue
        simp only [AbstractState.complete]
        grind
  | flushed inside => exact ok.flushed inside
  | drainDone ready | stopped ready | parked ready | woken ready | threw ready =>
      refine ok.congr (fun _ => rfl) rfl (fun _ _ _ => .rfl) (fun _ _ => .rfl) ?_
      intro other queue
      exact Eq.congr_left (item_reposition a.workers (by rw [ready]; rfl) queue)
  | drainWaits acts | stopWaits acts =>
      have free := AbstractState.idle_of_can_act acts
      refine ok.congr (fun _ => rfl) rfl ?_ (fun _ _ => .rfl) (fun _ _ => .rfl)
      intro other work queue
      simp only [AbstractState.requestDrain, AbstractState.requestStop]
      grind
  | cancellerTaken call | drainTaken call | joined call =>
      refine ok.congr (fun _ => rfl) rfl ?_ (fun _ _ => .rfl) (fun _ _ => .rfl)
      intro other work queue
      grind
  | handlerSet | unplugged =>
      exact ok.congr (fun _ => rfl) rfl (fun _ _ _ => .rfl) (fun _ _ => .rfl) (fun _ _ => .rfl)

/-! ## Flags of a queue -/

namespace QueuesOk

variable (ok : QueuesOk a)
include ok

theorem congr (started : a'.started = a.started) (busy : a'.busy = a.busy)
    (workers : a'.workers = a.workers)
    (dormant : ∀ queue, a'.started queue = false →
      a'.pending queue = [] ∧ a'.draining queue = false ∧ a'.plugged queue = false ∧
        a'.stopping queue = false ∧ a'.noYield queue = false) : QueuesOk a' := by
  constructor
  · rw [started, workers]
    exact ok.started_iff
  · rw [busy, workers]
    exact ok.busy_eq
  · exact dormant

theorem started_of_active {work : WorkRef} {queue : QueueId}
    (active : work ∈ a.pending queue ∨ (a.workers queue).item = some work) :
    a.started queue = true := by
  have started := ok.started_iff queue
  have dormant := ok.dormant queue
  grind

theorem move {queue : QueueId} {pc : WorkerPc}
    (workers : a'.workers = update a.workers queue pc)
    (started : a'.started queue = true ↔ pc ≠ .notStarted ∧ pc ≠ .returned)
    (busy : a'.busy queue = pc.item.isSome)
    (dormant : a'.started queue = false → a'.pending queue = [] ∧ a'.draining queue = false ∧
      a'.plugged queue = false ∧ a'.stopping queue = false ∧ a'.noYield queue = false)
    (elsewhere : ∀ other, other ≠ queue → a'.started other = a.started other ∧
      a'.busy other = a.busy other ∧ a'.pending other = a.pending other ∧
      a'.draining other = a.draining other ∧ a'.plugged other = a.plugged other ∧
      a'.stopping other = a.stopping other ∧ a'.noYield other = a.noYield other) :
    QueuesOk a' := by
  constructor
  · intro other
    rw [workers]
    have before := ok.started_iff other
    have away := elsewhere other
    grind
  · intro other
    rw [workers]
    have before := ok.busy_eq other
    have away := elsewhere other
    grind
  · intro other off
    by_cases here : other = queue
    · subst here
      exact dormant off
    · obtain ⟨started, _, pending, draining, plugged, stopping, noYield⟩ := elsewhere other here
      rw [pending, draining, plugged, stopping, noYield]
      exact ok.dormant other (started ▸ off)

end QueuesOk

theorem QueuesOk.step {action : Action} {output : Output} (ok : QueuesOk a)
    (items : ItemsOk a) (move : AbstractStep a action output a') : QueuesOk a' := by
  cases move with
  | refused _ => exact ok
  | @start _ queue _ _ unstarted | @run _ queue _ _ _ unstarted =>
      refine ok.move rfl ?_ ?_ ?_ ?_
      all_goals
        simp only [AbstractState.launch]
        grind
  | @accepted action _ work _ target submits acts admitted =>
      have on := (AbstractState.refusal_none (AbstractState.admission_ok admitted).2.2.2).1
      refine ok.congr rfl rfl rfl fun queue (off : a.started queue = false) => ?_
      have dormant := ok.dormant queue off
      have differs : queue ≠ target := fun same => by simp [← same, off] at on
      simpa [AbstractState.accept, differs] using dormant
  | @flushWaits self work queue acts active located =>
      have on : a.started queue = true := by
        rcases active with waiting | running
        · exact ok.started_of_active (.inl ((items.pending_user _ _).mpr ⟨waiting, located⟩))
        · exact ok.started_of_active (.inr ((items.item_user _ _).mpr ⟨running, located⟩))
      refine ok.congr rfl rfl rfl fun target (off : a.started target = false) => ?_
      have dormant := ok.dormant target off
      have differs : target ≠ queue := fun same => by simp [← same, off] at on
      simpa [AbstractState.flush, differs] using dormant
  | cancelled | cancelledSync | cancelWaits =>
      refine ok.congr rfl rfl rfl fun queue off => ?_
      have dormant := ok.dormant queue off
      simpa [AbstractState.cancel, AbstractState.awaitCancel, dormant.1] using dormant.2
  | @drainWaits _ queue _ _ on | @stopWaits _ queue _ _ on =>
      refine ok.congr rfl rfl rfl fun target (off : a.started target = false) => ?_
      have dormant := ok.dormant target off
      have differs : target ≠ queue := fun same => by simp [← same, off] at on
      simpa [AbstractState.requestDrain, AbstractState.requestStop, differs] using dormant
  | unplugged =>
      refine ok.congr rfl rfl rfl fun target off => ?_
      have dormant := ok.dormant target off
      grind
  | @popped queue work rest ready head =>
      have on := ok.started_iff queue
      refine ok.move rfl ?_ ?_ ?_ ?_
      all_goals
        simp only [AbstractState.pop]
        grind
  | @drainDone queue ready =>
      have on := ok.started_iff queue
      have busy := ok.busy_eq queue
      refine ok.move rfl ?_ ?_ ?_ ?_
      all_goals
        simp only [AbstractState.finishDrain]
        grind
  | @stopped queue ready empty =>
      refine ok.move rfl ?_ ?_ ?_ ?_
      all_goals
        simp only [AbstractState.leave]
        grind
  | @parked queue ready | @woken queue ready | @threw queue _ _ ready =>
      have on := ok.started_iff queue
      have busy := ok.busy_eq queue
      refine ok.move rfl ?_ ?_ ?_ ?_
      all_goals grind
  | @finished queue _ _ inside | @finishedCancelled queue _ _ _ inside
  | @flushed queue _ _ inside =>
      have on := ok.started_iff queue
      refine ok.move rfl ?_ ?_ ?_ ?_
      all_goals
        simp only [AbstractState.complete]
        grind
  | flusherTaken | cancellerTaken | handlerSet | drainTaken | joined =>
      exact ok.congr rfl rfl rfl ok.dormant

/-! ## Cancellers -/

namespace CancellersOk

variable (ok : CancellersOk a)
include ok

theorem congr (cancels : a'.cancels = a.cancels)
    (given : a'.cancellerGiven = a.cancellerGiven)
    (calls : ∀ thread work,
      a'.calls thread = .cancelling work ↔ a.calls thread = .cancelling work) :
    CancellersOk a' := by
  constructor
  · simp only [cancels, calls, given]
    exact ok.linked
  · simp only [calls, given]
    exact ok.given
  · rw [cancels]
    exact ok.nodup

theorem awaitCancel {work : UserId} {thread : Thread} (free : a.calls thread = .idle) :
    CancellersOk (a.awaitCancel work thread) := by
  have fresh : thread ∉ a.cancels := by
    have linked := ok.linked thread
    grind
  constructor <;> simp only [AbstractState.awaitCancel]
  case linked =>
    intro other
    have before := ok.linked other
    by_cases same : other = thread
    · subst same
      simp
    · simpa [same] using before
  case given =>
    intro other given
    have before := ok.given other
    grind
  case nodup =>
    rw [← List.concat_eq_append]
    exact ok.nodup.concat fresh

theorem taken {thread : Thread} (given : a.cancellerGiven thread = true) :
    CancellersOk { a with
      cancellerGiven := update a.cancellerGiven thread false
      calls := update a.calls thread .idle } := by
  constructor <;> dsimp only
  case linked =>
    intro other
    have before := ok.linked other
    grind
  case given =>
    intro other
    have before := ok.given other
    grind
  case nodup => exact ok.nodup

theorem release {thread : Thread} (member : thread ∈ a.cancels)
    (cancels : a'.cancels = a.cancels.erase thread)
    (given : a'.cancellerGiven = update a.cancellerGiven thread true)
    (calls : a'.calls = a.calls) : CancellersOk a' := by
  obtain ⟨call, _⟩ := (ok.linked thread).mp member
  constructor
  · intro other
    rw [cancels, given, calls, ok.nodup.mem_erase_iff]
    have before := ok.linked other
    grind
  · intro other
    rw [given, calls]
    have before := ok.given other
    grind
  · rw [cancels]
    exact ok.nodup.erase _

end CancellersOk

theorem AbstractState.released_some {work : UserId} {thread : Thread}
    (waiter : a.released work = some thread) :
    a.canceling work = true ∧ thread ∈ a.cancels ∧ a.calls thread = .cancelling work := by
  unfold released at waiter
  split at waiter
  · rename_i canceling
    have matched := List.find?_some waiter
    simp only [cancelsWork, decide_eq_true_eq] at matched
    exact ⟨canceling, List.mem_of_find?_eq_some waiter, matched⟩
  · cases waiter

theorem CancellersOk.step {action : Action} {output : Output} (ok : CancellersOk a)
    (move : AbstractStep a action output a') : CancellersOk a' := by
  cases move with
  | @cancelWaits _ work acts active =>
      have cancelled : CancellersOk (a.cancel work) := ok.congr rfl rfl fun _ _ => .rfl
      exact cancelled.awaitCancel (AbstractState.idle_of_can_act acts)
  | cancellerTaken call given => exact ok.taken given
  | finishedCancelled inside ends waiter =>
      exact ok.release (AbstractState.released_some waiter).2.1 rfl rfl rfl
  | flushWaits acts | drainWaits acts | stopWaits acts =>
      have free := AbstractState.idle_of_can_act acts
      refine ok.congr rfl rfl ?_
      intro other work
      simp only [AbstractState.requestDrain, AbstractState.requestStop, AbstractState.flush]
      grind
  | flusherTaken call | drainTaken call | joined call =>
      refine ok.congr rfl rfl ?_
      intro other work
      grind
  | refused | start | run | accepted | cancelled | cancelledSync | handlerSet | unplugged
  | popped | drainDone | stopped | parked | woken | finished | flushed | threw =>
      exact ok.congr rfl rfl fun _ _ => .rfl

/-! ## Threads of the worker loops -/

namespace ThreadsOk

variable (ok : ThreadsOk a)
include ok

theorem congr (task : ∀ queue, (a'.task queue).id = (a.task queue).id)
    (loops : a'.loops = a.loops)
    (workers : ∀ queue, a'.workers queue ≠ .notStarted → (a'.workers queue).left = false →
      a.workers queue ≠ .notStarted ∧ (a.workers queue).left = false) : ThreadsOk a' := by
  constructor
  · intro queue other
    rw [task]
    exact ok.owner queue other
  · intro queue thread
    rw [task, loops]
    intro owns begun inside
    obtain ⟨before, remains⟩ := workers queue begun inside
    exact ok.inside queue thread owns before remains

theorem launch {queue : QueueId} {config : Option WorkQConfig} {runner : Thread}
    {joinable : Bool} (fresh : runner = .worker queue ∨
      (∃ id, runner = .client id) ∧ a.loops runner = none) :
    ThreadsOk (a.launch queue config runner joinable) := by
  constructor <;> simp only [AbstractState.launch]
  case owner =>
    intro target other
    have before := ok.owner target other
    grind
  case inside =>
    intro target thread owns begun inside
    by_cases here : target = queue
    · subst here
      simp only [Function.update_self, Option.some.injEq] at owns
      rw [owns, Function.update_self]
    · simp only [Function.update_of_ne here] at owns begun inside
      have before := ok.inside target thread owns begun inside
      have owner := ok.owner target
      grind

theorem leave {queue : QueueId} {pc : WorkerPc} (begun : a.workers queue ≠ .notStarted)
    (remains : (a.workers queue).left = false) (left : pc.left = true)
    (task : a'.task = a.task) (loops : a'.loops = a.loopsWithout queue)
    (workers : a'.workers = update a.workers queue pc) : ThreadsOk a' := by
  constructor
  · rw [task]
    exact ok.owner
  · rw [task, loops, workers]
    intro target thread owns started inside
    by_cases here : target = queue
    · subst here
      simp [left] at inside
    · simp only [Function.update_of_ne here] at started inside
      have before := ok.inside target thread owns started inside
      have stranger : (a.task queue).id ≠ some thread := by
        intro mine
        have there := ok.inside queue thread mine begun remains
        exact here (Option.some.inj (before.symm.trans there))
      rw [AbstractState.loops_without_of_ne stranger, before]

end ThreadsOk

theorem ThreadsOk.step {action : Action} {output : Output} (ok : ThreadsOk a)
    (move : AbstractStep a action output a') : ThreadsOk a' := by
  cases move with
  | start => exact ok.launch (.inl rfl)
  | @run self _ _ _ outside => exact ok.launch (.inr ⟨⟨self, rfl⟩, outside⟩)
  | stopped ready => exact ok.leave (by simp [ready]) (by rw [ready]; rfl) rfl rfl rfl rfl
  | threw inside => exact ok.leave (by simp [inside]) (by rw [inside]; rfl) rfl rfl rfl rfl
  | @popped queue _ _ ready | @drainDone queue ready | @parked queue ready
  | @woken queue ready | @finished queue _ _ ready | @finishedCancelled queue _ _ _ ready
  | @flushed queue _ _ ready =>
      refine ok.congr (fun _ => rfl) rfl ?_
      intro other
      simp only [AbstractState.pop, AbstractState.finishDrain, AbstractState.complete]
      grind [WorkerPc.left]
  | @joined _ queue =>
      refine ok.congr ?_ rfl fun _ begun inside => ⟨begun, inside⟩
      intro other
      grind
  | refused | accepted | flushWaits | flusherTaken | cancelled | cancelledSync | cancelWaits
  | cancellerTaken | handlerSet | drainWaits | drainTaken | unplugged | stopWaits =>
      exact ok.congr (fun _ => rfl) rfl fun _ begun inside => ⟨begun, inside⟩

theorem ThreadsOk.silent (ok : ThreadsOk a) {queue : QueueId} {thread : Thread}
    (owns : (a.task queue).id = some thread) (begun : a.workers queue ≠ .notStarted)
    (remains : (a.workers queue).left = false) (idle : (a.workers queue).item = none) :
    a.canAct thread = false := by
  have loops := ok.inside queue thread owns begun remains
  unfold AbstractState.canAct mayAct
  rw [loops]
  grind

/-! ## All together -/

theorem initial_well_formed (handlers : UserId → HandlerId) :
    WellFormed (AbstractState.initial handlers) := by
  constructor <;> constructor <;> simp [AbstractState.initial, WorkerPc.item, WorkQ.constructed]

theorem WellFormed.step {action : Action} {output : Output} (ok : WellFormed a)
    (move : AbstractStep a action output a') : WellFormed a' where
  items := ok.items.step ok.flushers ok.queues move
  flushers := ok.flushers.step ok.items ok.queues move
  queues := ok.queues.step ok.items move
  cancellers := ok.cancellers.step move
  threads := ok.threads.step move

end AresCommon.WorkQueue
