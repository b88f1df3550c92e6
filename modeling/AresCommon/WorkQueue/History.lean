import AresCommon.Foundation.Fifo
import AresCommon.WorkQueue.Refinement

/-!
# Submissions and what becomes of them

The history of a run, folded over the recorded observations. An accepted
submission gets a ticket; a removal or a start concerns the submission of the
item that was accepted last, the end of a handler the one that was started
last. The ledger invariant says that these readings are right: for every queue
the accepted, removed, started and waiting submissions are a `Fifo`.
-/

namespace AresCommon.WorkQueue

open AresCommon.DataStructures.Slist AresCommon.Foundation AresCommon.Foundation.Transition
open Function (update)

set_option autoImplicit false

structure Submission where
  ticket : Nat
  work : UserId
  queue : QueueId
  handler : WorkHandler
  deriving DecidableEq, Repr

def latest (list : List Submission) (work : UserId) : Option Submission :=
  (list.filter fun x => x.work = work).getLast?

def onQueue (queue : QueueId) (list : List Submission) : List Submission :=
  list.filter fun x => x.queue = queue

structure History where
  accepted : List Submission
  removed : List Submission
  started : List Submission
  finished : List Submission

namespace History

def empty : History where
  accepted := []
  removed := []
  started := []
  finished := []

/-- A start is recorded with the item, queue and handler that were observed, under
the ticket of the submission accepted last. -/
def record (history : History) : Observation → History
  | .none => history
  | .accepted work queue handler =>
      { history with
        accepted := history.accepted ++ [⟨history.accepted.length, work, queue, handler⟩] }
  | .removed work =>
      { history with removed := history.removed ++ (latest history.accepted work).toList }
  | .started work queue handler =>
      { history with
        started := history.started ++
          [⟨((latest history.accepted work).elim 0 Submission.ticket), work, queue, handler⟩] }
  | .finished work _ =>
      { history with finished := history.finished ++ (latest history.started work).toList }

def observe (history : History) (entry : Action × Output) : History :=
  history.record entry.2.observation

/-- The submission that a pending node stands for; flushers stand for none. -/
def waiting (history : History) : WorkRef → Option Submission
  | .user work => latest history.accepted work
  | .flusher _ => none

def live (history : History) (work : UserId) : List Submission :=
  history.accepted.filter fun x =>
    x.work = work ∧ x ∉ history.removed ∧ x ∉ history.finished

end History

/-- Every record of one history is, at its end, continued by another. -/
structure History.Extends (history later : History) : Prop where
  accepted : history.accepted <+: later.accepted
  removed : history.removed <+: later.removed
  started : history.started <+: later.started
  finished : history.finished <+: later.finished

theorem History.record_extends (history : History) (observation : Observation) :
    history.Extends (history.record observation) := by
  cases observation <;>
    exact ⟨by simp [record], by simp [record], by simp [record], by simp [record]⟩

theorem History.foldl_extends (history : History) (trace : List (Action × Output)) :
    history.Extends (trace.foldl History.observe history) := by
  induction trace generalizing history with
  | nil => exact ⟨List.prefix_rfl, List.prefix_rfl, List.prefix_rfl, List.prefix_rfl⟩
  | cons entry rest ih =>
      have now := history.record_extends entry.2.observation
      have later := ih (history.observe entry)
      exact ⟨now.accepted.trans later.accepted, now.removed.trans later.removed,
        now.started.trans later.started, now.finished.trans later.finished⟩

def historyOf (trace : List (Action × Output)) : History :=
  trace.foldl History.observe .empty

theorem history_of_append (trace later : List (Action × Output)) :
    historyOf (trace ++ later) = later.foldl History.observe (historyOf trace) := by
  simp only [historyOf, List.foldl_append]

theorem history_extends (trace later : List (Action × Output)) :
    (historyOf trace).Extends (historyOf (trace ++ later)) := by
  rw [history_of_append]
  exact (historyOf trace).foldl_extends later

section Latest

variable {list : List Submission} {work : UserId} {x : Submission}

theorem latest_append (list : List Submission) (x : Submission) (work : UserId) :
    latest (list ++ [x]) work = if x.work = work then some x else latest list work := by
  unfold latest
  by_cases same : x.work = work <;> simp [List.filter_append, same]

theorem latest_some (found : latest list work = some x) : x ∈ list ∧ x.work = work := by
  have member := List.mem_of_getLast? found
  simpa using List.mem_filter.mp member

theorem on_queue_append (queue : QueueId) (list : List Submission) (x : Submission) :
    onQueue queue (list ++ [x]) =
      if x.queue = queue then onQueue queue list ++ [x] else onQueue queue list := by
  unfold onQueue
  by_cases same : x.queue = queue <;> simp [List.filter_append, same]

theorem mem_on_queue : x ∈ onQueue x.queue list ↔ x ∈ list := by
  simp [onQueue]

end Latest

theorem filter_map_erase {Node Value : Type} [DecidableEq Node] [DecidableEq Value]
    {read : Node → Option Value} {node : Node} {value : Value} (reads : read node = some value)
    (nodes : List Node) (only : ∀ other ∈ nodes, read other = some value → other = node) :
    (nodes.erase node).filterMap read = (nodes.filterMap read).erase value := by
  induction nodes with
  | nil => rfl
  | cons first rest ih =>
      by_cases same : first = node
      · subst same
        simp [reads]
      · have later := ih fun other member => only other (List.mem_cons_of_mem _ member)
        have kept : (first :: rest).erase node = first :: rest.erase node :=
          List.erase_cons_tail (by simpa using same)
        rw [kept]
        cases seen : read first with
        | none => simp [seen, later]
        | some other =>
            have differs : other ≠ value := by
              rintro rfl
              exact same (only first List.mem_cons_self seen)
            simp [seen, later, differs]

theorem record_removal (history : History) (a : AbstractState) (work : UserId) :
    (history.record (a.removal work)).accepted = history.accepted ∧
      (history.record (a.removal work)).started = history.started := by
  unfold AbstractState.removal
  split <;> exact ⟨rfl, rfl⟩

/-! ## The ledger invariant -/

structure Ledger (history : History) (a : AbstractState) : Prop where
  tickets : history.accepted.map Submission.ticket = List.range history.accepted.length
  fifo : ∀ queue, ∃ ledger : Fifo Submission,
    ledger.accepted = onQueue queue history.accepted ∧
    ledger.removed = onQueue queue history.removed ∧
    ledger.delivered = onQueue queue history.started ∧
    ledger.waiting = (a.pending queue).filterMap history.waiting
  queued : ∀ work, a.queued work = true → ∃ x, latest history.accepted work = some x ∧
    a.home work = some x.queue ∧ x.handler = .client (a.handler work)
  active : ∀ x ∈ history.started, x ∉ history.finished →
    a.running (.user x.work) = true ∧ latest history.started x.work = some x
  running : ∀ work, a.running (.user work) = true →
    ∃ x, latest history.started work = some x ∧ x ∉ history.finished ∧
      a.home work = some x.queue
  ended : ∀ x ∈ history.finished, x ∈ history.started

namespace Ledger

variable {history : History} {a a' : AbstractState} (ledger : Ledger history a)

theorem initial (handlers : UserId → HandlerId) :
    Ledger .empty (AbstractState.initial handlers) := by
  constructor <;> simp [History.empty, AbstractState.initial]
  intro queue
  exact ⟨.empty, rfl, rfl, rfl, rfl⟩

include ledger

theorem congr
    (pending : ∀ queue, (a'.pending queue).filterMap history.waiting =
      (a.pending queue).filterMap history.waiting)
    (queued : a'.queued = a.queued) (home : a'.home = a.home) (handler : a'.handler = a.handler)
    (running : ∀ work, a'.running (.user work) = a.running (.user work)) :
    Ledger history a' := by
  constructor
  · exact ledger.tickets
  · simp only [pending]
    exact ledger.fifo
  · rw [queued, home, handler]
    exact ledger.queued
  · simp only [running]
    exact ledger.active
  · simp only [running, home]
    exact ledger.running
  · exact ledger.ended

theorem fresh_ticket (work : UserId) (queue : QueueId) (handler : WorkHandler) :
    (⟨history.accepted.length, work, queue, handler⟩ : Submission) ∉ history.accepted := by
  intro member
  have ticket := List.mem_map_of_mem (f := Submission.ticket) member
  rw [ledger.tickets] at ticket
  simp at ticket

theorem accept (ok : WellFormed a) {work : UserId} {queue : QueueId}
    (unqueued : a.queued work = false)
    (stays : a.running (.user work) = true → a.home work = some queue) :
    Ledger (history.record (.accepted work queue (.client (a.handler work))))
      (a.accept work queue) := by
  have fresh := ledger.fresh_ticket work queue (.client (a.handler work))
  have unlisted : ∀ target, WorkRef.user work ∉ a.pending target := by
    intro target member
    have queued := ((ok.items.pending_user work target).mp member).1
    simp [unqueued] at queued
  have reads : ∀ target, (a.pending target).filterMap
      (history.record (.accepted work queue (.client (a.handler work)))).waiting =
        (a.pending target).filterMap history.waiting := by
    intro target
    apply List.filterMap_congr
    intro node member
    cases node with
    | flusher thread => rfl
    | user other =>
        have differs : work ≠ other := by
          rintro rfl
          exact unlisted target member
        simp [History.waiting, History.record, latest_append, differs]
  constructor
  case tickets =>
    simp [History.record, ledger.tickets, List.range_succ]
  case fifo =>
    intro target
    obtain ⟨fifo, accepted, removed, delivered, waiting⟩ := ledger.fifo target
    by_cases here : target = queue
    · subst here
      have unseen : (⟨history.accepted.length, work, target, .client (a.handler work)⟩ :
          Submission) ∉ fifo.accepted := by
        rw [accepted]
        exact fun member => fresh (List.mem_filter.mp member).1
      refine ⟨fifo.accept _ unseen, ?_, removed, delivered, ?_⟩
      · simp [Fifo.accept, accepted, History.record, on_queue_append]
      · simp only [Fifo.accept, waiting, AbstractState.accept, Function.update_self,
          List.filterMap_append, reads]
        simp [History.waiting, History.record, latest_append]
    · refine ⟨fifo, ?_, removed, delivered, ?_⟩
      · simp [accepted, History.record, on_queue_append, Ne.symm here]
      · simp only [AbstractState.accept, Function.update_of_ne here, reads, waiting]
  case queued =>
    intro other waits
    by_cases same : other = work
    · subst same
      refine ⟨⟨history.accepted.length, other, queue, .client (a.handler other)⟩, ?_, ?_, rfl⟩
      · simp [History.record, latest_append]
      · simp [AbstractState.accept]
    · simp only [AbstractState.accept, Function.update_of_ne same] at waits ⊢
      obtain ⟨x, found, home, handler⟩ := ledger.queued other waits
      exact ⟨x, by simp [History.record, latest_append, Ne.symm same, found], home, handler⟩
  case active => exact ledger.active
  case running =>
    intro other active
    obtain ⟨x, found, unfinished, home⟩ := ledger.running other active
    refine ⟨x, found, unfinished, ?_⟩
    by_cases same : other = work
    · subst same
      simp only [AbstractState.accept, Function.update_self]
      rw [← stays active, home]
    · simpa [AbstractState.accept, same] using home
  case ended => exact ledger.ended

theorem waits (ok : WellFormed a) {work : UserId} {queue : QueueId}
    (member : WorkRef.user work ∈ a.pending queue) :
    ∃ x, latest history.accepted work = some x ∧ x.work = work ∧ x.queue = queue ∧
      x.handler = .client (a.handler work) ∧
      ∀ node, history.waiting node = some x → node = .user work := by
  obtain ⟨queued, home⟩ := (ok.items.pending_user work queue).mp member
  obtain ⟨x, found, located, handler⟩ := ledger.queued work queued
  obtain ⟨_, same⟩ := latest_some found
  refine ⟨x, found, same, Option.some.inj (located.symm.trans home), handler, ?_⟩
  intro node reads
  cases node with
  | flusher thread => simp [History.waiting] at reads
  | user other =>
      have again := (latest_some reads).2
      rw [← again, same]

theorem cancel_queued (ok : WellFormed a) {work : UserId} (queued : a.queued work = true) :
    Ledger (history.record (.removed work)) (a.cancel work) := by
  obtain ⟨queue, home⟩ := ok.items.located work (.inl queued)
  have member := (ok.items.pending_user work queue).mpr ⟨queued, home⟩
  obtain ⟨x, found, same, located, handler, only⟩ := ledger.waits ok member
  have record : history.record (.removed work) =
      { history with removed := history.removed ++ [x] } := by
    simp [History.record, found]
  rw [record]
  constructor
  case tickets => exact ledger.tickets
  case fifo =>
    intro target
    obtain ⟨fifo, accepted, removed, delivered, waiting⟩ := ledger.fifo target
    by_cases here : target = queue
    · subst here
      have reads : history.waiting (.user work) = some x := found
      have present : x ∈ fifo.waiting := by
        rw [waiting]
        exact List.mem_filterMap.mpr ⟨_, member, reads⟩
      refine ⟨fifo.remove x present, accepted, ?_, delivered, ?_⟩
      · simp [Fifo.remove, removed, on_queue_append, located]
      · simp only [Fifo.remove, waiting, AbstractState.cancel]
        exact (filter_map_erase reads _ fun other _ => only other).symm
    · refine ⟨fifo, accepted, ?_, delivered, ?_⟩
      · simp [removed, on_queue_append, located, Ne.symm here]
      · have absent : WorkRef.user work ∉ a.pending target := fun there =>
          here (ok.disjoint there member)
        simp only [AbstractState.cancel, List.erase_of_not_mem absent, waiting]
        rfl
  case queued =>
    intro other waits
    by_cases same : other = work
    · simp [AbstractState.cancel, same] at waits
    · simp only [AbstractState.cancel, Function.update_of_ne same] at waits
      exact ledger.queued other waits
  case active => exact ledger.active
  case running => exact ledger.running
  case ended => exact ledger.ended

theorem cancel_unqueued (ok : WellFormed a) {work : UserId} (unqueued : a.queued work = false) :
    Ledger history (a.cancel work) := by
  have unlisted : ∀ queue, (a.pending queue).erase (.user work) = a.pending queue := by
    intro queue
    apply List.erase_of_not_mem
    intro member
    have waits := ((ok.items.pending_user work queue).mp member).1
    simp [unqueued] at waits
  have kept : update a.queued work false = a.queued := by
    rw [Function.update_eq_self_iff, unqueued]
  exact ledger.congr (by simp [AbstractState.cancel, unlisted]) kept rfl rfl fun _ => rfl

theorem cancel (ok : WellFormed a) (work : UserId) :
    Ledger (history.record (a.removal work)) (a.cancel work) := by
  unfold AbstractState.removal
  cases queued : a.queued work with
  | true => exact ledger.cancel_queued ok queued
  | false => exact ledger.cancel_unqueued ok queued

theorem record_started (ok : WellFormed a) {queue : QueueId} {work : UserId}
    (member : WorkRef.user work ∈ a.pending queue) :
    ∃ x, latest history.accepted work = some x ∧ x.work = work ∧ x.queue = queue ∧
      history.record (.started work queue (.client (a.handler work))) =
        { history with started := history.started ++ [x] } := by
  obtain ⟨x, found, same, located, handler, _⟩ := ledger.waits ok member
  have reading : (⟨x.ticket, work, queue, .client (a.handler work)⟩ : Submission) = x := by
    rw [← handler, ← same, ← located]
  refine ⟨x, found, same, located, ?_⟩
  simp only [History.record, found, Option.elim_some, reading]

theorem unstarted (ok : WellFormed a) {queue : QueueId} {work : UserId} {x : Submission}
    (member : WorkRef.user work ∈ a.pending queue)
    (found : latest history.accepted work = some x) : x ∉ history.started := by
  obtain ⟨y, found', _, located, _⟩ := ledger.waits ok member
  cases found.symm.trans found'
  obtain ⟨fifo, _, _, delivered, waiting⟩ := ledger.fifo queue
  have waits : x ∈ fifo.waiting := by
    rw [waiting]
    exact List.mem_filterMap.mpr ⟨_, member, found⟩
  have undelivered := fifo.undelivered_of_waiting waits
  rw [delivered] at undelivered
  exact fun started => undelivered (located ▸ mem_on_queue.mpr started)

/-- An accepted submission that was not removed has been started, or it is the
one its item is queued for. -/
theorem unremoved (ok : WellFormed a) (x : Submission) :
    x ∈ history.accepted ∧ x ∉ history.removed ↔
      x ∈ history.started ∨
        (a.queued x.work = true ∧ latest history.accepted x.work = some x) := by
  obtain ⟨fifo, accepted, removed, delivered, waiting⟩ := ledger.fifo x.queue
  have survives := fifo.survives x
  rw [accepted, removed, delivered, mem_on_queue, mem_on_queue, mem_on_queue] at survives
  rw [← survives, waiting, List.mem_filterMap]
  apply or_congr_right
  constructor
  · rintro ⟨node, member, reads⟩
    cases node with
    | flusher thread => cases reads
    | user work =>
        have same := (latest_some reads).2
        rw [same]
        exact ⟨((ok.items.pending_user work x.queue).mp member).1, reads⟩
  · rintro ⟨waits, found⟩
    obtain ⟨y, found', home, _⟩ := ledger.queued x.work waits
    cases found.symm.trans found'
    exact ⟨.user x.work, (ok.items.pending_user _ _).mpr ⟨waits, home⟩, found⟩

/-- The live instances of an item: the submission accepted last while QUEUED is
set, the one started last while RUNNING is set. -/
theorem live_iff (ok : WellFormed a) (work : UserId) (x : Submission) :
    x ∈ history.live work ↔
      (a.queued work = true ∧ latest history.accepted work = some x) ∨
        (a.running (.user work) = true ∧ latest history.started work = some x) := by
  have unremoved := ledger.unremoved ok x
  simp only [History.live, List.mem_filter, decide_eq_true_eq]
  constructor
  · rintro ⟨accepted, rfl, kept, unfinished⟩
    rcases unremoved.mp ⟨accepted, kept⟩ with started | waits
    · exact .inr (ledger.active x started unfinished)
    · exact .inl waits
  · rintro (⟨waits, found⟩ | ⟨runs, found⟩)
    · obtain ⟨accepted, rfl⟩ := latest_some found
      have kept := unremoved.mpr (.inr ⟨waits, found⟩)
      refine ⟨accepted, rfl, kept.2, fun finished => ?_⟩
      obtain ⟨queue, home⟩ := ok.items.located x.work (.inl waits)
      have member := (ok.items.pending_user _ _).mpr ⟨waits, home⟩
      exact ledger.unstarted ok member found (ledger.ended x finished)
    · obtain ⟨started, rfl⟩ := latest_some found
      have kept := unremoved.mpr (.inl started)
      obtain ⟨y, found', unfinished, _⟩ := ledger.running x.work runs
      cases found.symm.trans found'
      exact ⟨kept.1, rfl, kept.2, unfinished⟩

theorem pop (ok : WellFormed a) {queue : QueueId} {work : UserId} {rest : List WorkRef}
    (ready : a.workers queue = .atTop) (head : a.pending queue = .user work :: rest) :
    Ledger (history.record (.started work queue (.client (a.handler work))))
      (a.pop queue (.user work) rest) := by
  have member : WorkRef.user work ∈ a.pending queue := by simp [head]
  obtain ⟨x, found, same, located, record⟩ := ledger.record_started ok member
  obtain ⟨_, home⟩ := (ok.items.pending_user work queue).mp member
  have resting : a.running (.user work) = false := by
    by_contra active
    have held := (ok.items.item_user work queue).mpr ⟨by simpa using active, home⟩
    simp [ready, WorkerPc.item] at held
  have unstarted := ledger.unstarted ok member found
  rw [record]
  constructor
  case tickets => exact ledger.tickets
  case fifo =>
    intro target
    obtain ⟨fifo, accepted, removed, delivered, waiting⟩ := ledger.fifo target
    by_cases here : target = queue
    · subst here
      have front : fifo.waiting = x :: rest.filterMap history.waiting := by
        have reads : history.waiting (.user work) = some x := found
        rw [waiting, head, List.filterMap_cons_some reads]
      refine ⟨fifo.deliver x _ front, accepted, removed, ?_, ?_⟩
      · simp [Fifo.deliver, delivered, on_queue_append, located]
      · simp [Fifo.deliver, AbstractState.pop]
        rfl
    · refine ⟨fifo, accepted, removed, ?_, ?_⟩
      · simp [delivered, on_queue_append, located, Ne.symm here]
      · simp only [AbstractState.pop, Function.update_of_ne here, waiting]
        rfl
  case queued =>
    intro other waits
    by_cases gone : work = other
    · simp [AbstractState.pop, gone] at waits
    · have still : a.queued other = true := by simpa [AbstractState.pop, gone] using waits
      exact ledger.queued other still
  case active =>
    intro y started unfinished
    rcases List.mem_append.mp started with earlier | now
    · obtain ⟨running, last⟩ := ledger.active y earlier unfinished
      have differs : y.work ≠ work := by
        intro equal
        simp [equal, resting] at running
      simp [AbstractState.pop, latest_append, differs, same, Ne.symm differs, running, last]
    · rw [List.mem_singleton.mp now]
      simp [AbstractState.pop, latest_append, same]
  case running =>
    intro other active
    by_cases equal : other = work
    · subst equal
      refine ⟨x, by simp [latest_append, same], fun ended => unstarted (ledger.ended x ended), ?_⟩
      simp [AbstractState.pop, home, located]
    · simp only [AbstractState.pop] at active
      rw [Function.update_of_ne (by simpa using equal)] at active
      obtain ⟨y, last, unfinished, there⟩ := ledger.running other active
      refine ⟨y, ?_, unfinished, there⟩
      simp [latest_append, same, Ne.symm equal, last]
  case ended =>
    intro y finished
    exact List.mem_append_left _ (ledger.ended y finished)

theorem finish {queue : QueueId} {work : UserId} (active : a.running (.user work) = true) :
    Ledger (history.record (.finished work queue)) (a.complete queue (.user work)) := by
  obtain ⟨x, last, unfinished, home⟩ := ledger.running work active
  obtain ⟨started, same⟩ := latest_some last
  have record : history.record (.finished work queue) =
      { history with finished := history.finished ++ [x] } := by
    simp [History.record, last]
  rw [record]
  constructor
  case tickets => exact ledger.tickets
  case fifo => exact ledger.fifo
  case queued => exact ledger.queued
  case active =>
    intro y begun open'
    have stillOpen : y ∉ history.finished := fun ended => open' (List.mem_append_left _ ended)
    obtain ⟨running, current⟩ := ledger.active y begun stillOpen
    have differs : y.work ≠ work := by
      intro equal
      rw [equal, last] at current
      exact open' (by simp [Option.some.inj current])
    simp [AbstractState.complete, differs, running, current]
  case running =>
    intro other runs
    have differs : other ≠ work := by
      rintro rfl
      simp [AbstractState.complete] at runs
    simp only [AbstractState.complete] at runs
    rw [Function.update_of_ne (by simpa using differs)] at runs
    obtain ⟨y, current, stillOpen, there⟩ := ledger.running other runs
    refine ⟨y, current, ?_, there⟩
    rw [List.mem_append, List.mem_singleton, not_or]
    refine ⟨stillOpen, ?_⟩
    rintro rfl
    exact differs ((latest_some current).2.symm.trans same)
  case ended =>
    intro y finished
    rcases List.mem_append.mp finished with earlier | now
    · exact ledger.ended y earlier
    · rw [List.mem_singleton.mp now]
      exact started

theorem set_handler {work : UserId} {handler : HandlerId} (unqueued : a.queued work = false) :
    Ledger history { a with handler := update a.handler work handler } :=
  { ledger with
    queued := by
      intro other waits
      have differs : other ≠ work := by
        rintro rfl
        exact absurd waits (by simp [unqueued])
      obtain ⟨x, found, home, same⟩ := ledger.queued other waits
      exact ⟨x, found, home, by simpa [differs] using same⟩ }

theorem step (ok : WellFormed a) {action : Action} {output : Output}
    (move : AbstractStep a action output a') :
    Ledger (history.record output.observation) a' := by
  cases move with
  | accepted submits acts admitted =>
      obtain ⟨_, unqueued, goes, _⟩ := AbstractState.admission_ok admitted
      refine ledger.accept ok unqueued fun active => ?_
      rw [← AbstractState.destination_of_running active, goes]
  | @flushWaits _ _ queue acts active located =>
      refine ledger.congr ?_ rfl rfl rfl fun _ => rfl
      intro target
      simp only [AbstractState.flush]
      by_cases here : target = queue
      · subst here
        rw [Function.update_self]
        split
        · exact insert_after_filter_map _ rfl _
        · rfl
      · rw [Function.update_of_ne here]
  | cancelled acts => exact ledger.cancel ok _
  | @cancelledSync _ work acts waiting resting =>
      have cancelled := ledger.cancel ok work
      simpa [AbstractState.removal, waiting] using cancelled
  | cancelWaits acts active =>
      exact (ledger.cancel ok _).congr (fun _ => rfl) rfl rfl rfl fun _ => rfl
  | handlerSet acts unqueued resting => exact ledger.set_handler unqueued
  | @popped queue work rest ready head =>
      cases work with
      | user id => exact ledger.pop ok ready head
      | flusher thread =>
          refine ledger.congr ?_ (by simp [AbstractState.pop]) rfl rfl fun _ => by
            simp [AbstractState.pop]
          intro target
          simp only [AbstractState.pop]
          by_cases here : target = queue
          · subst here
            rw [Function.update_self, head]
            rfl
          · rw [Function.update_of_ne here]
  | @finished queue work handler inside | @finishedCancelled queue work handler thread inside =>
      have held : (a.workers queue).item = some (.user work) := by rw [inside]; rfl
      have active := ((ok.items.item_user work queue).mp held).1
      exact (ledger.finish active).congr (fun _ => rfl) rfl rfl rfl fun _ => rfl
  | flushed inside =>
      refine ledger.congr (fun _ => rfl) rfl rfl rfl fun _ => ?_
      simp [AbstractState.complete]
  | @start _ queue _ acts unstarted | @run _ queue _ acts outside unstarted =>
      refine ledger.congr ?_ rfl rfl rfl fun _ => rfl
      intro target
      simp only [AbstractState.launch]
      by_cases here : target = queue
      · subst here
        rw [Function.update_self, ok.queues.vacant unstarted]
      · rw [Function.update_of_ne here]
  | refused | flusherTaken | cancellerTaken | drainWaits | drainTaken | unplugged | stopWaits
  | joined | drainDone | stopped | parked | woken | threw =>
      exact ledger.congr (fun _ => rfl) rfl rfl rfl fun _ => rfl

end Ledger

structure Tracked (history : History) (s : State) (a : AbstractState) : Prop where
  coupled : Coupled s a
  ledger : Ledger history a

theorem Tracked.step {history : History} {s s' : State} {a : AbstractState} {action : Action}
    {output : Output} (tracked : Tracked history s a) (move : s.Step action output s') :
    ∃ a', AbstractStep a action output a' ∧
      Tracked (history.observe (action, output)) s' a' := by
  obtain ⟨a', meaning, coupled⟩ := tracked.coupled.step move
  exact ⟨a', meaning, coupled, tracked.ledger.step tracked.coupled.wellFormed meaning⟩

theorem tracked_of_run {allowed : State → Action → Prop} {handlers : UserId → HandlerId}
    {trace : List (Action × Output)} {s : State}
    (run : SystemRun allowed (State.initial handlers) trace s) :
    ∃ a, Tracked (historyOf trace) s a := by
  refine run.invariant History.observe (fun history s => ∃ a, Tracked history s a) ?_
    ⟨_, initial_coupled handlers, Ledger.initial handlers⟩
  rintro history s action output s' ⟨a, tracked⟩ _ move
  obtain ⟨a', _, next⟩ := tracked.step move
  exact ⟨a', next⟩

end AresCommon.WorkQueue
