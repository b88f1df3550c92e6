import AresCommon.WorkQueue.Refinement

/-!
# The states of a work item

In every reachable state the flags of a client's item say where it is: QUEUED,
in the list of its own queue, once, and in no other; RUNNING, in the hands of
the worker of its own queue and of no other; CANCELING, running without being
queued.
-/

namespace AresCommon.WorkQueue

open AresCommon.DataStructures.Slist AresCommon.Foundation.Transition

set_option autoImplicit false

structure ItemState (s : State) (work : UserId) : Prop where
  queued_iff : s.workHas work workQueuedBit = true ↔
    ∃ queue nodes, (s.works (.user work)).queue = some queue ∧
      Represents s.nodes (s.queues queue).pending nodes ∧ WorkRef.user work ∈ nodes
  linked_once : ∀ queue nodes, Represents s.nodes (s.queues queue).pending nodes →
    WorkRef.user work ∈ nodes →
      (s.works (.user work)).queue = some queue ∧ nodes.count (.user work) = 1
  running_iff : s.workHas work workRunningBit = true ↔
    ∃ queue, (s.works (.user work)).queue = some queue ∧
      ∀ other, (s.workers other).item = some (.user work) ↔ other = queue
  no_overlap : ∀ queue, (s.workers queue).item = some (.user work) →
    s.workHas work workRunningBit = true ∧ (s.works (.user work)).queue = some queue
  canceling : s.workHas work workCancelingBit = true →
    s.workHas work workRunningBit = true ∧ s.workHas work workQueuedBit = false

theorem item_state {s : State} {a : AbstractState} (coupled : Coupled s a) (work : UserId) :
    ItemState s work := by
  obtain ⟨rep, ok⟩ := coupled
  obtain ⟨running, canceling, queued⟩ := rep.work_has work
  have home : (s.works (.user work)).queue = a.home work := by rw [rep.user_work]
  constructor
  case queued_iff =>
    rw [queued, home]
    constructor
    · intro waiting
      obtain ⟨queue, located⟩ := ok.items.located work (.inl waiting)
      exact ⟨queue, _, located, rep.list queue,
        (ok.items.pending_user work queue).mpr ⟨waiting, located⟩⟩
    · rintro ⟨queue, nodes, _, list, member⟩
      rw [list.unique (rep.list queue)] at member
      exact ((ok.items.pending_user work queue).mp member).1
  case linked_once =>
    intro queue nodes list member
    rw [home]
    have once := List.count_eq_one_of_mem list.nodup member
    rw [list.unique (rep.list queue)] at member
    exact ⟨((ok.items.pending_user work queue).mp member).2, once⟩
  case running_iff =>
    rw [running, home, rep.workers]
    constructor
    · intro active
      obtain ⟨queue, located⟩ := ok.items.located work (.inr active)
      refine ⟨queue, located, fun other => ?_⟩
      rw [ok.items.item_user]
      constructor
      · rintro ⟨_, there⟩
        exact Option.some.inj (there.symm.trans located)
      · rintro rfl
        exact ⟨active, located⟩
    · rintro ⟨queue, _, held⟩
      exact ((ok.items.item_user work queue).mp ((held queue).mpr rfl)).1
  case no_overlap =>
    intro queue held
    rw [running, home]
    rw [rep.workers] at held
    exact (ok.items.item_user work queue).mp held
  case canceling =>
    rw [canceling, running, queued]
    exact ok.items.canceling work

/-- The flags of every item say where it is, and every pending list is a
NULL-terminated chain without repetition whose tail is its last node. -/
theorem item_state_invariant {handlers : UserId → HandlerId} {trace : List (Action × Output)}
    {s : State} (run : SystemRun handlersReturn (State.initial handlers) trace s) :
    (∀ work, ItemState s work) ∧
      ∀ queue, ∃ nodes, Represents s.nodes (s.queues queue).pending nodes := by
  obtain ⟨a, _, coupled⟩ := coupled_of_run run
  exact ⟨item_state coupled, fun queue => ⟨_, coupled.reflects.list queue⟩⟩

/-- An item that its own handler has submitted again is queued and running. -/
theorem item_state_of_resubmission :
    ∃ trace s, SystemRun handlersReturn (State.initial fun _ => ⟨0⟩) trace s ∧
      (s.workHas ⟨0⟩ workQueuedBit && s.workHas ⟨0⟩ workRunningBit) = true ∧
      (∀ work, ItemState s work) ∧
      ∀ queue, ∃ nodes, Represents s.nodes (s.queues queue).pending nodes := by
  obtain ⟨trace, s, run, both⟩ := system_run_of_actions handlersReturn
    (State.initial fun _ => ⟨0⟩)
    [.start (.client ⟨0⟩) ⟨0⟩ none, .submit (.client ⟨0⟩) ⟨0⟩ (some ⟨0⟩), .workerTurn ⟨0⟩,
      .submit (.worker ⟨0⟩) ⟨0⟩ (some ⟨0⟩)]
    (fun _ s => s.workHas ⟨0⟩ workQueuedBit && s.workHas ⟨0⟩ workRunningBit)
    (by decide +kernel)
  exact ⟨trace, s, run, both, item_state_invariant run⟩

end AresCommon.WorkQueue
