import AresCommon.WorkQueue.WellFormed

/-!
# How the shared state represents its meaning

`Reflects s a` reads the flag words, the linked lists, the token queues and the
semaphores of `s`. Each critical section gets one lemma that says what it
computes on a state with a meaning.
-/

namespace AresCommon.WorkQueue

open AresCommon.DataStructures AresCommon.DataStructures.Slist
open AresCommon.Synchronization
open Function (update)

set_option autoImplicit false

attribute [local grind =] Function.update_apply

/-! ## Token queues -/

structure Token (tokens : TokenQueue) (item : UInt8) (present : Bool) : Prop where
  wf : tokens.WellFormed
  contents : tokens.contents = if present then [item] else []

namespace Token

variable {tokens : TokenQueue} {item : UInt8} {present : Bool}

theorem put (token : Token tokens item present) : Token (tokens.put item) item true := by
  unfold TokenQueue.put
  rw [BoundedQueue.put_nonblocking_overwrite]
  obtain ⟨wf, contents⟩ := BoundedQueue.store_token token.wf item
  exact ⟨wf, contents⟩

theorem clear (tokens : TokenQueue) (item : UInt8) : Token tokens.clear item false :=
  ⟨tokens.clear_wellFormed Nat.one_pos, rfl⟩

theorem get {rest : TokenQueue} {got : UInt8} (token : Token tokens item present)
    (taken : tokens.get = some (got, rest)) :
    present = true ∧ got = item ∧ Token rest item false := by
  obtain ⟨wf, contents⟩ := BoundedQueue.get_some token.wf taken
  rw [token.contents] at contents
  cases present with
  | false => simp at contents
  | true =>
      simp only [if_true, List.cons.injEq] at contents
      exact ⟨rfl, contents.1.symm, wf, contents.2.symm⟩

theorem get_of_present (token : Token tokens item true) :
    ∃ outcome, tokens.get = some outcome := by
  have nonempty : tokens.size ≠ 0 := by
    rw [← tokens.contents_length, token.contents]
    simp
  exact Option.ne_none_iff_exists'.mp ((tokens.get_none_iff).not.mpr nonempty)

end Token

/-! ## The representation relation -/

structure AbstractQueue where
  pending : List WorkRef
  started : Bool
  busy : Bool
  draining : Bool
  plugged : Bool
  stopping : Bool
  noYield : Bool
  notified : Bool
  drained : Bool
  task : Task

def AbstractState.queue (a : AbstractState) (queue : QueueId) : AbstractQueue where
  pending := a.pending queue
  started := a.started queue
  busy := a.busy queue
  draining := a.draining queue
  plugged := a.plugged queue
  stopping := a.stopping queue
  noYield := a.noYield queue
  notified := a.notified queue
  drained := a.drained queue
  task := a.task queue

structure QueueReflects (nodes : Links WorkRef) (q : WorkQ) (meaning : AbstractQueue) :
    Prop where
  flags : q.flags = queueFlags meaning.started meaning.busy meaning.draining meaning.plugged
    meaning.stopping meaning.noYield
  pending : Represents nodes q.pending meaning.pending
  notifyq : Token q.notifyq 0 meaning.notified
  drainq : Token q.drainq 1 meaning.drained
  task : q.thread = meaning.task

structure Reflects (s : State) (a : AbstractState) : Prop where
  user_work : ∀ work, s.works (.user work) =
    { flags := workFlags (a.running (.user work)) (a.canceling work) (a.queued work) false
      queue := a.home work
      handler := .client (a.handler work) }
  flusher_work : ∀ thread, s.works (.flusher thread) =
    { flags := workFlags (a.running (.flusher thread)) false false (a.awaitsFlush thread)
      queue := none
      handler := .handleFlush }
  queues : ∀ queue, QueueReflects s.nodes (s.queues queue) (a.queue queue)
  flusher_sem : ∀ thread, (s.flusherSems thread).getCount = (a.flusherGiven thread).toNat
  canceller_sem : ∀ thread, (s.cancellers thread).sem.getCount = (a.cancellerGiven thread).toNat
  canceller_work : ∀ thread work, a.calls thread = .cancelling work →
    (s.cancellers thread).work = some (.user work)
  cancels : Represents s.cancellerNodes s.pendingCancels a.cancels
  workers : s.workers = a.workers
  loops : s.loops = a.loops
  calls : s.calls = a.calls

theorem initial_reflects (handlers : UserId → HandlerId) :
    Reflects (State.initial handlers) (AbstractState.initial handlers) where
  user_work _ := by
    simp only [State.initial, Work.ofHandler, AbstractState.initial, work_flags_none]
  flusher_work _ := by
    simp only [State.initial, Work.ofHandler, AbstractState.initial, AbstractState.awaitsFlush,
      work_flags_none]
  queues _ :=
    { flags := queue_flags_zero.symm
      pending := Represents.of_init _
      notifyq := ⟨BoundedQueue.uninitialised_wellFormed Nat.one_pos _, rfl⟩
      drainq := ⟨BoundedQueue.uninitialised_wellFormed Nat.one_pos _, rfl⟩
      task := rfl }
  flusher_sem _ := rfl
  canceller_sem _ := rfl
  canceller_work _ _ call := by cases call
  cancels := Represents.of_init _
  workers := rfl
  loops := rfl
  calls := rfl

theorem WellFormed.disjoint {a : AbstractState} (ok : WellFormed a) {work : WorkRef}
    {queue other : QueueId} (here : work ∈ a.pending queue) (there : work ∈ a.pending other) :
    queue = other := by
  cases work with
  | user id =>
      have first := (ok.items.pending_user id queue).mp here
      have second := (ok.items.pending_user id other).mp there
      exact Option.some.inj (first.2.symm.trans second.2)
  | flusher thread =>
      obtain ⟨⟨work, call⟩, _⟩ := ok.flushers.pending_flusher thread queue here
      obtain ⟨⟨item, again⟩, _⟩ := ok.flushers.pending_flusher thread other there
      have same := call.symm.trans again
      injection same

/-- A queue keeps its meaning when its own nodes are left alone. -/
theorem QueueReflects.frame {nodes nodes' : Links WorkRef} {q : WorkQ}
    {meaning : AbstractQueue} (rep : QueueReflects nodes q meaning)
    (same : ∀ node ∈ meaning.pending, nodes' node = nodes node) :
    QueueReflects nodes' q meaning :=
  { rep with pending := rep.pending.frame same }

section Operations

variable {s : State} {a : AbstractState} (rep : Reflects s a)
include rep

theorem Reflects.canAct (thread : Thread) : s.canAct thread = a.canAct thread := by
  simp only [State.canAct, AbstractState.canAct, rep.calls, rep.loops, rep.workers]

theorem Reflects.work_has (work : UserId) :
    s.workHas work workRunningBit = a.running (.user work) ∧
    s.workHas work workCancelingBit = a.canceling work ∧
    s.workHas work workQueuedBit = a.queued work := by
  simp [State.workHas, rep.user_work]

theorem Reflects.queue_has (queue : QueueId) :
    s.queueHas queue workQueueStartedBit = a.started queue ∧
    s.queueHas queue workQueueDrainBit = a.draining queue ∧
    s.queueHas queue workQueuePluggedBit = a.plugged queue ∧
    s.queueHas queue workQueueStopBit = a.stopping queue := by
  simp [State.queueHas, (rep.queues queue).flags, AbstractState.queue]

theorem Reflects.list (queue : QueueId) :
    Represents s.nodes (s.queues queue).pending (a.pending queue) :=
  (rep.queues queue).pending

theorem Reflects.handler (work : WorkRef) : (s.works work).handler = a.handlerOf work := by
  cases work with
  | user id => rw [rep.user_work]; rfl
  | flusher thread => rw [rep.flusher_work]; rfl

theorem Reflects.modify_queue {a' : AbstractState} {queue : QueueId} {change : WorkQ → WorkQ}
    (here : QueueReflects s.nodes (change (s.queues queue)) (a'.queue queue))
    (elsewhere : ∀ other, other ≠ queue → a'.queue other = a.queue other) (other : QueueId) :
    QueueReflects s.nodes ((s.modifyQueue queue change).queues other) (a'.queue other) := by
  by_cases same : other = queue
  · subst same
    simpa only [State.modifyQueue, Function.update_self] using here
  · rw [elsewhere other same]
    simpa only [State.modifyQueue, Function.update_of_ne same] using rep.queues other

theorem Reflects.set_worker (queue : QueueId) (pc : WorkerPc) :
    Reflects (s.setWorker queue pc) { a with workers := update a.workers queue pc } :=
  { rep with workers := by simp only [State.setWorker, rep.workers] }

theorem Reflects.set_running (queue : QueueId) (work : WorkRef) :
    Reflects (s.setWorker queue (.running work (s.works work).handler))
      { a with workers := update a.workers queue (.running work (a.handlerOf work)) } := by
  rw [rep.handler]
  exact rep.set_worker queue _

theorem Reflects.flusher_works {s' : State} {a' : AbstractState} {thread : Thread}
    (before : a.awaitsFlush thread = false) (after : a'.awaitsFlush thread = false)
    (works : s'.works = s.works) (running : a'.running = a.running)
    (others : ∀ other, other ≠ thread →
      a'.calls other = a.calls other ∧ a'.flusherGiven other = a.flusherGiven other) :
    ∀ other, s'.works (.flusher other) =
      { flags := workFlags (a'.running (.flusher other)) false false (a'.awaitsFlush other)
        queue := none
        handler := .handleFlush } := by
  have awaits : a'.awaitsFlush = a.awaitsFlush := by
    funext other
    by_cases same : other = thread
    · rw [same, before, after]
    · obtain ⟨call, given⟩ := others other same
      simp only [AbstractState.awaitsFlush, call, given]
  intro other
  rw [works, running, awaits]
  exact rep.flusher_work other

theorem Reflects.set_call {thread : Thread} {call : Call}
    (landed : a.awaitsFlush thread = false)
    (entered : call = .idle ∨ (∃ queue, call = .draining queue) ∨
      ∃ queue timeout, call = .joining queue timeout) :
    Reflects (s.setCall thread call) { a with calls := update a.calls thread call } :=
  { rep with
    calls := by simp only [State.setCall, rep.calls]
    flusher_work := by
      refine rep.flusher_works landed ?_ ?_ ?_ fun other apart => ?_
      · rcases entered with rfl | ⟨queue, rfl⟩ | ⟨queue, timeout, rfl⟩ <;>
          simp [AbstractState.awaitsFlush]
      · rfl
      · rfl
      · simp [apart]
    canceller_work := by
      intro other work cancelling
      refine rep.canceller_work other work ?_
      dsimp only at cancelling
      grind }

/-! ## Launching a queue -/

theorem Reflects.launch (queue : QueueId) (config : Option WorkQConfig) (runner : Thread)
    (joinable : Bool) :
    Reflects (s.launch queue config runner joinable)
      (a.launch queue config runner joinable) :=
  { rep with
    queues := by
      intro other
      by_cases here : other = queue
      · subst here
        constructor <;>
          simp only [State.launch, State.setWorker, State.modifyQueue, AbstractState.queue,
            AbstractState.launch, Function.update_self]
        case flags => exact queue_flags_launched _
        case pending => exact Represents.of_init _
        case notifyq => exact Token.clear _ _
        case drainq => exact Token.clear _ _
      · have before := rep.queues other
        simpa [State.launch, State.setWorker, State.modifyQueue, AbstractState.queue,
          AbstractState.launch, here] using before
    workers := by
      simp only [State.launch, State.setWorker, State.modifyQueue, AbstractState.launch,
        rep.workers]
    loops := by
      simp only [State.launch, State.setWorker, State.modifyQueue, AbstractState.launch,
        rep.loops] }

/-! ## Assignments to one field -/

theorem Reflects.write_flags (queue : QueueId) (word : Flags → Flags)
    (started busy draining plugged stopping noYield : Bool)
    (assigned : word (queueFlags (a.started queue) (a.busy queue) (a.draining queue)
      (a.plugged queue) (a.stopping queue) (a.noYield queue)) =
        queueFlags started busy draining plugged stopping noYield) :
    Reflects (s.modifyQueue queue fun q => { q with flags := word q.flags })
      { a with
        started := update a.started queue started
        busy := update a.busy queue busy
        draining := update a.draining queue draining
        plugged := update a.plugged queue plugged
        stopping := update a.stopping queue stopping
        noYield := update a.noYield queue noYield } :=
  { rep with
    queues := by
      have before := rep.queues queue
      refine rep.modify_queue ?_ ?_
      · refine { before with flags := ?_ }
        rw [before.flags]
        simpa only [AbstractState.queue, Function.update_self] using assigned
      · intro other away
        simp [AbstractState.queue, away] }

theorem Reflects.write_notifyq (queue : QueueId) (change : TokenQueue → TokenQueue)
    {present : Bool} (token : Token (change (s.queues queue).notifyq) 0 present) :
    Reflects (s.modifyQueue queue fun q => { q with notifyq := change q.notifyq })
      { a with notified := update a.notified queue present } :=
  { rep with
    queues := by
      have before := rep.queues queue
      refine rep.modify_queue ?_ ?_
      · refine { before with notifyq := ?_ }
        simpa only [AbstractState.queue, Function.update_self] using token
      · intro other away
        simp [AbstractState.queue, away] }

theorem Reflects.write_drainq (queue : QueueId) (change : TokenQueue → TokenQueue)
    {present : Bool} (token : Token (change (s.queues queue).drainq) 1 present) :
    Reflects (s.modifyQueue queue fun q => { q with drainq := change q.drainq })
      { a with drained := update a.drained queue present } :=
  { rep with
    queues := by
      have before := rep.queues queue
      refine rep.modify_queue ?_ ?_
      · refine { before with drainq := ?_ }
        simpa only [AbstractState.queue, Function.update_self] using token
      · intro other away
        simp [AbstractState.queue, away] }

theorem Reflects.notify_locked (queue : QueueId) :
    Reflects (s.notifyLocked queue) { a with notified := update a.notified queue true } :=
  rep.write_notifyq queue (·.put 0) (rep.queues queue).notifyq.put

theorem Reflects.set_pending {queue : QueueId} {list : Links WorkRef × SysSlist WorkRef}
    {pending : List WorkRef} (here : Represents list.1 list.2 pending)
    (elsewhere : ∀ other, other ≠ queue → ∀ node ∈ a.pending other,
      list.1 node = s.nodes node) :
    Reflects (s.setPending queue list) { a with pending := update a.pending queue pending } :=
  { rep with
    queues := by
      intro other
      by_cases same : other = queue
      · subst same
        have before := rep.queues other
        simp only [State.setPending, State.modifyQueue, AbstractState.queue,
          Function.update_self]
        exact { before with pending := here }
      · have before := (rep.queues other).frame (elsewhere other same)
        simpa [State.setPending, State.modifyQueue, AbstractState.queue, same] using before }

theorem Reflects.write_user (work : UserId) (change : Work → Work)
    (running canceling queued : Bool) (home : Option QueueId) (handler : HandlerId)
    (assigned : change
        { flags := workFlags (a.running (.user work)) (a.canceling work) (a.queued work) false
          queue := a.home work
          handler := .client (a.handler work) } =
        { flags := workFlags running canceling queued false
          queue := home
          handler := .client handler }) :
    Reflects (s.modifyWork (.user work) change)
      { a with
        running := update a.running (.user work) running
        canceling := update a.canceling work canceling
        queued := update a.queued work queued
        home := update a.home work home
        handler := update a.handler work handler } :=
  { rep with
    user_work := by
      intro other
      by_cases same : other = work
      · subst same
        simp only [State.modifyWork, Function.update_self, rep.user_work, assigned]
      · have differs : WorkRef.user other ≠ WorkRef.user work := by simpa using same
        simp only [State.modifyWork, Function.update_of_ne same, Function.update_of_ne differs,
          rep.user_work]
    flusher_work := by
      intro thread
      have before := rep.flusher_work thread
      have differs : WorkRef.flusher thread ≠ WorkRef.user work := by simp
      simp only [State.modifyWork, Function.update_of_ne differs]
      exact before }

theorem Reflects.write_flusher (thread : Thread) (change : Work → Work) (running : Bool)
    (assigned : change
        { flags := workFlags (a.running (.flusher thread)) false false (a.awaitsFlush thread)
          queue := none
          handler := .handleFlush } =
        { flags := workFlags running false false (a.awaitsFlush thread)
          queue := none
          handler := .handleFlush }) :
    Reflects (s.modifyWork (.flusher thread) change)
      { a with running := update a.running (.flusher thread) running } :=
  { rep with
    user_work := by
      intro work
      have differs : WorkRef.user work ≠ WorkRef.flusher thread := by simp
      simp only [State.modifyWork, Function.update_of_ne differs]
      exact rep.user_work work
    flusher_work := by
      intro other
      by_cases same : other = thread
      · subst same
        simp only [State.modifyWork, Function.update_self, rep.flusher_work, assigned]
        rfl
      · have differs : WorkRef.flusher other ≠ WorkRef.flusher thread := by simpa using same
        simp only [State.modifyWork, Function.update_of_ne differs]
        exact rep.flusher_work other }

end Operations

end AresCommon.WorkQueue
