import Mathlib.Data.Set.Card
import AresCommon.WorkQueue.Drain

/-!
# Drain waiters

Every thread that waits in `queue_drain` waits for one token. A request that is
made while DRAIN is set gets no token of its own, and a token that is put over an
old one is lost. As long as neither happens, the waiting threads are as many as
the tokens that are in `drainq` or still to come.
-/

namespace AresCommon.WorkQueue

open AresCommon.Foundation.Transition
open Function (update)

set_option autoImplicit false

attribute [local grind =] Function.update_apply

def Action.drains? : Action → Option QueueId
  | .queueDrain _ queue _ => some queue
  | _ => none

def Action.turns? : Action → Option QueueId
  | .workerTurn queue => some queue
  | _ => none

/-- No drain is requested while another request is pending, and no drain completes
while the token of an earlier one has not been taken. -/
structure DrainsCounted (queue : QueueId) (s : State) (action : Action) : Prop where
  request : action.drains? = some queue → s.queueHas queue workQueueDrainBit = false
  token : action.turns? = some queue → (s.queues queue).pending.isEmpty = true →
    s.queueHas queue workQueueDrainBit = true → (s.queues queue).drainq.size = 0

/-- Once no drain is pending, there is a token for every thread that waits. -/
def DrainWaitersServed (queue : QueueId) (s : State) : Prop :=
  s.queueHas queue workQueueDrainBit = false →
    {thread | s.calls thread = .draining queue}.encard ≤ (s.queues queue).drainq.size

namespace AbstractState

structure DrainsCounted (queue : QueueId) (a : AbstractState) (action : Action) : Prop where
  request : action.drains? = some queue → a.draining queue = false
  token : action.turns? = some queue → a.pending queue = [] → a.draining queue = true →
    a.drained queue = false

def drainWaiters (a : AbstractState) (queue : QueueId) : Set Thread :=
  {thread | a.calls thread = .draining queue}

def drainTokens (a : AbstractState) (queue : QueueId) : ℕ∞ :=
  (a.drained queue).toNat + (a.draining queue).toNat

structure WaitersCounted (queue : QueueId) (a : AbstractState) : Prop where
  balance : (a.drainWaiters queue).encard = a.drainTokens queue
  unborn : a.workers queue = .notStarted → a.drained queue = false

end AbstractState

open AbstractState

variable {a a' : AbstractState} {queue : QueueId}

theorem drain_waiters_congr
    (calls : ∀ thread, a'.calls thread = .draining queue ↔ a.calls thread = .draining queue) :
    a'.drainWaiters queue = a.drainWaiters queue :=
  Set.ext calls

theorem drain_waiters_enter {self : Thread} (free : a.calls self = .idle)
    (calls : a'.calls = update a.calls self (.draining queue)) :
    (a'.drainWaiters queue).encard = (a.drainWaiters queue).encard + 1 := by
  have outside : self ∉ a.drainWaiters queue := by
    simp [AbstractState.drainWaiters, free]
  have joined : a'.drainWaiters queue = insert self (a.drainWaiters queue) := by
    ext thread
    simp only [AbstractState.drainWaiters, calls, Set.mem_ofPred_eq, Set.mem_insert_iff]
    grind
  rw [joined, Set.encard_insert_of_notMem outside]

theorem drain_waiters_leave {self : Thread} (call : a.calls self = .draining queue)
    (calls : a'.calls = update a.calls self .idle) :
    (a'.drainWaiters queue).encard + 1 = (a.drainWaiters queue).encard := by
  have left : a'.drainWaiters queue = a.drainWaiters queue \ {self} := by
    ext thread
    simp only [AbstractState.drainWaiters, calls, Set.mem_ofPred_eq, Set.mem_sdiff,
      Set.mem_singleton_iff]
    grind
  rw [left]
  exact Set.encard_sdiff_singleton_add_one call

theorem drain_tokens_take (token : a.drained queue = true) (draining : a'.draining = a.draining)
    (drained : a'.drained = update a.drained queue false) :
    a'.drainTokens queue + 1 = a.drainTokens queue := by
  simp [AbstractState.drainTokens, draining, drained, token, add_comm]

namespace AbstractState.WaitersCounted

theorem initial (handlers : UserId → HandlerId) (queue : QueueId) :
    WaitersCounted queue (AbstractState.initial handlers) where
  balance := by
    simp [AbstractState.drainWaiters, AbstractState.drainTokens, AbstractState.initial]
  unborn _ := rfl

variable (counts : WaitersCounted queue a)
include counts

theorem congr
    (calls : ∀ thread, a'.calls thread = .draining queue ↔ a.calls thread = .draining queue)
    (draining : a'.draining queue = a.draining queue) (drained : a'.drained queue = a.drained queue)
    (workers : a'.workers queue = .notStarted → a.workers queue = .notStarted) :
    WaitersCounted queue a' where
  balance := by
    rw [drain_waiters_congr calls, counts.balance]
    simp only [AbstractState.drainTokens, draining, drained]
  unborn unstarted := drained.trans (counts.unborn (workers unstarted))

theorem request {plug : Bool} {self : Thread} (free : a.calls self = .idle)
    (on : a.workers queue ≠ .notStarted) (settled : a.draining queue = false) :
    WaitersCounted queue (a.requestDrain queue plug self) where
  balance := by
    rw [drain_waiters_enter free rfl, counts.balance]
    simp [AbstractState.drainTokens, AbstractState.requestDrain, settled]
  unborn unstarted := absurd unstarted on

theorem complete (requested : a.draining queue = true) (taken : a.drained queue = false) :
    WaitersCounted queue (a.finishDrain queue) where
  balance := by
    have same : (a.finishDrain queue).drainWaiters queue = a.drainWaiters queue := rfl
    rw [same, counts.balance]
    simp [AbstractState.drainTokens, AbstractState.finishDrain, requested, taken]
  unborn unstarted := by simp [AbstractState.finishDrain] at unstarted

theorem take {self : Thread} (call : a.calls self = .draining queue)
    (token : a.drained queue = true) (calls : a'.calls = update a.calls self .idle)
    (draining : a'.draining = a.draining) (drained : a'.drained = update a.drained queue false) :
    WaitersCounted queue a' where
  balance := by
    have left := drain_waiters_leave call calls
    rw [counts.balance] at left
    have tokens := drain_tokens_take token draining drained
    exact ENat.add_left_injective_of_ne_top ENat.one_ne_top (left.trans tokens.symm)
  unborn _ := by rw [drained, Function.update_self]

theorem step (ok : WellFormed a) {action : Action} {output : Output}
    (counted : a.DrainsCounted queue action) (move : AbstractStep a action output a') :
    WaitersCounted queue a' := by
  cases move with
  | @drainWaits self target plug acts on unsettled =>
      have free := AbstractState.idle_of_can_act acts
      by_cases here : target = queue
      · subst here
        have begun := ((ok.queues.started_iff target).mp on).1
        exact counts.request free begun (counted.request rfl)
      · refine counts.congr ?_ (Function.update_of_ne (Ne.symm here) _ _) rfl id
        intro thread
        simp only [AbstractState.requestDrain]
        grind
  | @drainTaken self target call token =>
      by_cases here : target = queue
      · subst here
        exact counts.take call token rfl rfl rfl
      · refine counts.congr ?_ rfl (Function.update_of_ne (Ne.symm here) _ _) id
        intro thread
        grind
  | @drainDone target ready empty requested =>
      by_cases here : target = queue
      · subst here
        exact counts.complete requested (counted.token rfl empty requested)
      · refine counts.congr (fun _ => .rfl) ?_ ?_ ?_ <;>
          simp only [AbstractState.finishDrain] <;> grind
  | @start _ target _ acts unstarted | @run _ target _ acts outside unstarted =>
      have vacant := counts.unborn
      have started := ok.queues.started_iff queue
      have dormant := ok.queues.dormant queue
      refine counts.congr (fun _ => .rfl) ?_ ?_ ?_ <;>
        simp only [AbstractState.launch] <;> grind
  | @stopped target ready empty undrained requested =>
      refine counts.congr (fun _ => .rfl) ?_ rfl ?_ <;>
        simp only [AbstractState.leave] <;> grind
  | flushWaits acts | cancelWaits acts | stopWaits acts =>
      have free := AbstractState.idle_of_can_act acts
      refine counts.congr ?_ rfl rfl id
      intro thread
      simp only [AbstractState.flush, AbstractState.awaitCancel, AbstractState.cancel,
        AbstractState.requestStop]
      grind
  | flusherTaken call | cancellerTaken call | joined call =>
      refine counts.congr ?_ rfl rfl id
      intro thread
      grind
  | popped | finished | finishedCancelled | flushed | parked | woken | threw =>
      refine counts.congr (fun _ => .rfl) rfl rfl ?_
      simp only [AbstractState.pop, AbstractState.complete]
      grind
  | refused | accepted | cancelled | cancelledSync | handlerSet | unplugged =>
      exact counts.congr (fun _ => .rfl) rfl rfl id

end AbstractState.WaitersCounted

/-! ## One request too many -/

namespace AbstractState

/-- More threads wait than tokens can come. -/
def Overdrawn (queue : QueueId) (a : AbstractState) : Prop :=
  a.drainTokens queue + 1 ≤ (a.drainWaiters queue).encard

variable {action : Action} {output : Output}

theorem Overdrawn.congr (owing : Overdrawn queue a)
    (calls : ∀ thread, a'.calls thread = .draining queue ↔ a.calls thread = .draining queue)
    (tokens : a'.drainTokens queue ≤ a.drainTokens queue) : Overdrawn queue a' := by
  unfold Overdrawn
  rw [drain_waiters_congr calls]
  exact (add_le_add_left tokens 1).trans owing

theorem Overdrawn.take (owing : Overdrawn queue a) {self : Thread}
    (call : a.calls self = .draining queue) (token : a.drained queue = true)
    (calls : a'.calls = update a.calls self .idle) (draining : a'.draining = a.draining)
    (drained : a'.drained = update a.drained queue false) : Overdrawn queue a' := by
  unfold Overdrawn at owing ⊢
  rw [← drain_waiters_leave call calls, ← drain_tokens_take token draining drained] at owing
  exact (ENat.add_le_add_iff_right ENat.one_ne_top).mp owing

theorem Overdrawn.step (owing : Overdrawn queue a) (move : AbstractStep a action output a') :
    Overdrawn queue a' := by
  cases move with
  | @drainWaits self target plug acts on unsettled =>
      have free := AbstractState.idle_of_can_act acts
      by_cases here : target = queue
      · subst here
        have fewer : (a.requestDrain target plug self).drainTokens target ≤
            a.drainTokens target + 1 := by
          cases drained : a.drained target <;> cases draining : a.draining target <;>
            simp [AbstractState.drainTokens, AbstractState.requestDrain, drained, draining]
        unfold Overdrawn
        rw [drain_waiters_enter free rfl]
        exact add_le_add_left (fewer.trans owing) 1
      · refine owing.congr ?_ (le_of_eq ?_)
        · intro thread
          simp only [AbstractState.requestDrain]
          grind
        · simp [AbstractState.drainTokens, AbstractState.requestDrain, Ne.symm here]
  | @drainTaken self target call token =>
      by_cases here : target = queue
      · subst here
        exact owing.take call token rfl rfl rfl
      · refine owing.congr ?_ (le_of_eq ?_)
        · intro thread
          grind
        · simp [AbstractState.drainTokens, Ne.symm here]
  | @drainDone target ready empty requested =>
      refine owing.congr (fun _ => .rfl) ?_
      by_cases here : target = queue
      · subst here
        cases drained : a.drained target <;>
          simp [AbstractState.drainTokens, AbstractState.finishDrain, requested, drained]
      · simp [AbstractState.drainTokens, AbstractState.finishDrain, Ne.symm here]
  | @start _ target | @run _ target =>
      refine owing.congr (fun _ => .rfl) ?_
      by_cases here : target = queue
      · subst here
        simp [AbstractState.drainTokens, AbstractState.launch]
      · simp [AbstractState.drainTokens, AbstractState.launch, Ne.symm here]
  | @stopped target ready empty undrained requested =>
      refine owing.congr (fun _ => .rfl) ?_
      by_cases here : target = queue
      · subst here
        simp [AbstractState.drainTokens, AbstractState.leave]
      · simp [AbstractState.drainTokens, AbstractState.leave, Ne.symm here]
  | flushWaits acts | cancelWaits acts | stopWaits acts =>
      have free := AbstractState.idle_of_can_act acts
      refine owing.congr ?_ le_rfl
      intro thread
      simp only [AbstractState.flush, AbstractState.awaitCancel, AbstractState.cancel,
        AbstractState.requestStop]
      grind
  | flusherTaken call | cancellerTaken call | joined call =>
      refine owing.congr ?_ le_rfl
      intro thread
      grind
  | refused | accepted | cancelled | cancelledSync | handlerSet | unplugged | popped | finished
  | finishedCancelled | flushed | parked | woken | threw =>
      exact owing.congr (fun _ => .rfl) le_rfl

theorem overdrawn_of_request {self : Thread} {plug : Bool} (ok : WellFormed a)
    (counts : WaitersCounted queue a) (pending : a.draining queue = true)
    (move : AbstractStep a (.queueDrain self queue plug) output a') : Overdrawn queue a' := by
  rcases move.queue_drain with ⟨off, _⟩ | ⟨_, undrained, _⟩ | ⟨acts, _, rfl⟩
  · have settled := (ok.queues.dormant queue off).2.1
    simp [pending] at settled
  · simp [pending] at undrained
  · have free := AbstractState.idle_of_can_act acts
    unfold Overdrawn
    rw [drain_waiters_enter free rfl, counts.balance]
    simp [AbstractState.drainTokens, AbstractState.requestDrain, pending]

theorem overdrawn_of_token (counts : WaitersCounted queue a) (empty : a.pending queue = [])
    (pending : a.draining queue = true) (drained : a.drained queue = true)
    (move : AbstractStep a (.workerTurn queue) output a') : Overdrawn queue a' := by
  cases move.drain_turn empty pending
  have same : (a.finishDrain queue).drainWaiters queue = a.drainWaiters queue := rfl
  unfold Overdrawn
  rw [same, counts.balance]
  simp [AbstractState.drainTokens, AbstractState.finishDrain, pending, drained]

/-- The first step that breaks the condition overdraws the tokens. -/
theorem overdrawn_of_uncounted (ok : WellFormed a) (counts : WaitersCounted queue a)
    (uncounted : ¬a.DrainsCounted queue action) (move : AbstractStep a action output a') :
    Overdrawn queue a' := by
  by_cases request : action.drains? = some queue → a.draining queue = false
  · have lost : action.turns? = some queue ∧ a.pending queue = [] ∧
        a.draining queue = true ∧ a.drained queue = true := by
      by_contra kept
      exact uncounted ⟨request, by grind⟩
    obtain ⟨turns, empty, pending, drained⟩ := lost
    cases action with
    | workerTurn target =>
        cases turns
        exact overdrawn_of_token counts empty pending drained move
    | _ => cases turns
  · rw [Classical.not_imp, Bool.not_eq_false] at request
    obtain ⟨drains, pending⟩ := request
    cases action with
    | queueDrain self target plug =>
        cases drains
        exact overdrawn_of_request ok counts pending move
    | _ => cases drains

end AbstractState

section Coupling

variable {s : State} (coupled : Coupled s a)
include coupled

theorem drains_counted_iff (action : Action) :
    DrainsCounted queue s action ↔ a.DrainsCounted queue action := by
  obtain ⟨_, draining, _⟩ := coupled.reflects.queue_has queue
  have list := coupled.reflects.list queue
  have size := (coupled.reflects.queues queue).drainq.size
  have token : (s.queues queue).drainq.size = 0 ↔ a.drained queue = false := by
    rw [size, Bool.toNat_eq_zero]
    rfl
  constructor
  · rintro ⟨request, taken⟩
    rw [draining, list.is_empty, List.isEmpty_iff, token] at *
    exact ⟨request, taken⟩
  · rintro ⟨request, taken⟩
    constructor
    · rwa [draining]
    · rwa [draining, list.is_empty, List.isEmpty_iff, token]

theorem served_iff (settled : s.queueHas queue workQueueDrainBit = false) :
    DrainWaitersServed queue s ↔ (a.drainWaiters queue).encard ≤ a.drainTokens queue := by
  unfold DrainWaitersServed
  obtain ⟨_, draining, _⟩ := coupled.reflects.queue_has queue
  have clear := draining.symm.trans settled
  rw [coupled.reflects.calls, (coupled.reflects.queues queue).drainq.size]
  simp only [settled, AbstractState.drainTokens, clear, Bool.toNat_false, Nat.cast_zero,
    add_zero, true_imp_iff]
  rfl

end Coupling

/-- Every run either counts all requests and tokens, or is overdrawn from its first
step on that does not. -/
theorem counted_or_overdrawn {handlers : UserId → HandlerId} (queue : QueueId)
    {trace : List (Action × Output)} {s : State}
    (run : SystemRun anyStep (State.initial handlers) trace s) :
    ∃ a, Coupled s a ∧ ((SystemRun (DrainsCounted queue) (State.initial handlers) trace s ∧
      WaitersCounted queue a) ∨ Overdrawn queue a) := by
  induction run with
  | nil => exact ⟨_, initial_coupled handlers, .inl ⟨.nil, .initial handlers queue⟩⟩
  | @snoc _ middle _ action _ prior _ move ih =>
      obtain ⟨a, coupled, state⟩ := ih
      obtain ⟨a', meaning, next⟩ := coupled.step move
      refine ⟨a', next, ?_⟩
      have ok := coupled.wellFormed
      rcases state with ⟨counted, counts⟩ | owing
      · by_cases counts' : a.DrainsCounted queue action
        · have permitted := (drains_counted_iff coupled action).mpr counts'
          exact .inl ⟨counted.snoc permitted move, counts.step ok counts' meaning⟩
        · exact .inr (overdrawn_of_uncounted ok counts counts' meaning)
      · exact .inr (owing.step meaning)

/-- No waiting thread is left without a token, in a state with no pending drain,
if and only if every request and every token of the run has been counted. -/
theorem no_drain_waiter_left_behind {handlers : UserId → HandlerId}
    {trace : List (Action × Output)} {s : State} {queue : QueueId}
    (run : SystemRun anyStep (State.initial handlers) trace s) :
    (SystemRun (DrainsCounted queue) (State.initial handlers) trace s →
      DrainWaitersServed queue s) ∧
    (s.queueHas queue workQueueDrainBit = false → DrainWaitersServed queue s →
      SystemRun (DrainsCounted queue) (State.initial handlers) trace s) := by
  constructor
  · intro counted settled
    obtain ⟨a, coupled, counts⟩ := invariant_of_run counted (AbstractState.DrainsCounted queue)
      (fun _ _ action coupled counted => (drains_counted_iff coupled action).mp counted)
      (WaitersCounted queue) (WaitersCounted.initial handlers queue)
      (fun _ _ _ _ ok counts counted move => counts.step ok counted move)
    exact (served_iff coupled settled).mpr counts.balance.le settled
  · intro settled served
    obtain ⟨a, coupled, ⟨counted, _⟩ | owing⟩ := counted_or_overdrawn queue run
    · exact counted
    · have enough := (served_iff coupled settled).mp served
      have finite : a.drainTokens queue ≠ ⊤ := by
        simp [AbstractState.drainTokens]
      exact absurd (owing.trans enough) (not_le.mpr (ENat.lt_add_one_iff finite |>.mpr le_rfl))

instance (queue : QueueId) (s : State) (action : Action) :
    Decidable (DrainsCounted queue s action) :=
  decidable_of_iff
    ((action.drains? = some queue → s.queueHas queue workQueueDrainBit = false) ∧
      (action.turns? = some queue → (s.queues queue).pending.isEmpty = true →
        s.queueHas queue workQueueDrainBit = true → (s.queues queue).drainq.size = 0))
    ⟨fun both => ⟨both.1, both.2⟩, fun counted => ⟨counted.request, counted.token⟩⟩

/-- Two drains, one after the other; the second request comes before the first
thread has taken its token. -/
theorem no_drain_waiter_left_behind_of_two :
    ∃ trace s, SystemRun anyStep (State.initial fun _ => ⟨0⟩) trace s ∧
      s.queueHas ⟨0⟩ workQueueDrainBit = false ∧ s.calls (.client ⟨1⟩) = .draining ⟨0⟩ ∧
      DrainWaitersServed ⟨0⟩ s := by
  obtain ⟨trace, s, run, tested⟩ := system_run_of_actions (DrainsCounted ⟨0⟩)
    (State.initial fun _ => ⟨0⟩)
    [.start (.client ⟨0⟩) ⟨0⟩ none, .queueDrain (.client ⟨0⟩) ⟨0⟩ true, .workerTurn ⟨0⟩,
      .queueDrain (.client ⟨1⟩) ⟨0⟩ true, .drainqGet (.client ⟨0⟩), .notifyqGet ⟨0⟩,
      .workerTurn ⟨0⟩]
    (fun _ s => !s.queueHas ⟨0⟩ workQueueDrainBit && s.calls (.client ⟨1⟩) = .draining ⟨0⟩)
    (by decide +kernel)
  simp only [Bool.and_eq_true, Bool.not_eq_true', decide_eq_true_eq] at tested
  exact ⟨trace, s, run.unrestricted, tested.1, tested.2,
    (no_drain_waiter_left_behind run.unrestricted).1 run⟩

/-- Two threads drain at once and share one token. -/
theorem second_drain_waiter_left_behind :
    ¬∀ trace s, SystemRun anyStep (State.initial fun _ => ⟨0⟩) trace s →
      DrainWaitersServed ⟨0⟩ s := by
  intro always
  obtain ⟨trace, s, run, tested⟩ := system_run_of_actions (fun _ _ => True)
    (State.initial fun _ => ⟨0⟩)
    [.start (.client ⟨0⟩) ⟨0⟩ none, .queueDrain (.client ⟨1⟩) ⟨0⟩ true,
      .queueDrain (.client ⟨2⟩) ⟨0⟩ true, .workerTurn ⟨0⟩]
    (fun _ s => !s.queueHas ⟨0⟩ workQueueDrainBit && s.calls (.client ⟨1⟩) = .draining ⟨0⟩ &&
      s.calls (.client ⟨2⟩) = .draining ⟨0⟩ && (s.queues ⟨0⟩).drainq.size = 1)
    (by decide +kernel)
  simp only [Bool.and_eq_true, Bool.not_eq_true', decide_eq_true_eq] at tested
  obtain ⟨⟨⟨settled, first⟩, second⟩, one⟩ := tested
  have served := always trace s run.unrestricted settled
  have pair : ({.client ⟨1⟩, .client ⟨2⟩} : Set Thread) ⊆
      {thread | s.calls thread = .draining ⟨0⟩} := by
    rintro thread (rfl | rfl)
    · exact first
    · exact second
  have two := (Set.encard_le_encard pair).trans served
  rw [Set.encard_pair (by decide), one] at two
  exact absurd two (by decide)

end AresCommon.WorkQueue
