import AresCommon.WorkQueue.Refinement

/-!
# Cancel waiters

The end of a cancelled item clears CANCELING and releases one canceller: the
search through the list stops at the first match. A second thread that cancels the
item meanwhile stays linked behind a flag that is clear. As long as no thread
cancels an item for which a canceller is linked, nobody is left behind.
-/

namespace AresCommon.WorkQueue

open AresCommon.DataStructures.Slist AresCommon.Foundation.Transition
open AresCommon.Synchronization
open Function (update)

set_option autoImplicit false

attribute [local grind =] Function.update_apply

def Action.cancelSync? : Action → Option UserId
  | .workCancelSync _ work => some work
  | _ => none

/-- No thread cancels an item for which a canceller is still linked. -/
def cancelsApart : State → Action → Prop := fun s action =>
  ∀ work, action.cancelSync? = some work → ∀ linked,
    Represents s.cancellerNodes s.pendingCancels linked → ∀ thread ∈ linked,
      (s.cancellers thread).work ≠ some (.user work)

def CancelWaitersMarked (s : State) : Prop :=
  ∃ linked, Represents s.cancellerNodes s.pendingCancels linked ∧ ∀ thread ∈ linked,
    ∃ work, (s.cancellers thread).work = some (.user work) ∧
      s.workHas work workCancelingBit = true

/-- The end of a cancelled item releases every thread that waits for it. -/
def CancelWaitersReleased (s : State) : Prop :=
  ∀ queue work handler output s', s.workers queue = .running (.user work) handler →
    s.workHas work workCancelingBit = true → s.Step (.handlerReturn queue) output s' →
      ∀ thread, s.calls thread = .cancelling work → (s'.cancellers thread).sem.getCount = 1

/-! ## On the meaning of the state -/

def AbstractState.cancelsApart : AbstractState → Action → Prop := fun a action =>
  ∀ work, action.cancelSync? = some work → ∀ thread ∈ a.cancels,
    a.calls thread ≠ .cancelling work

structure CancelsMarked (a : AbstractState) : Prop where
  marked : ∀ thread ∈ a.cancels, ∀ work, a.calls thread = .cancelling work →
    a.canceling work = true
  single : ∀ thread ∈ a.cancels, ∀ other ∈ a.cancels, ∀ work,
    a.calls thread = .cancelling work → a.calls other = .cancelling work → thread = other

namespace CancelsMarked

variable {a a' : AbstractState}

theorem initial (handlers : UserId → HandlerId) :
    CancelsMarked (AbstractState.initial handlers) := by
  constructor <;> simp [AbstractState.initial]

variable (marks : CancelsMarked a)
include marks

theorem shrink (cancels : ∀ thread ∈ a'.cancels, thread ∈ a.cancels)
    (calls : ∀ thread work, a'.calls thread = .cancelling work →
      a.calls thread = .cancelling work)
    (canceling : ∀ thread ∈ a'.cancels, ∀ work, a'.calls thread = .cancelling work →
      a.canceling work = true → a'.canceling work = true) : CancelsMarked a' := by
  constructor
  · intro thread member work call
    exact canceling thread member work call
      (marks.marked thread (cancels thread member) work (calls thread work call))
  · intro thread member other otherMember work call otherCall
    exact marks.single thread (cancels thread member) other (cancels other otherMember) work
      (calls thread work call) (calls other work otherCall)

theorem cancel (ok : WellFormed a) (work : UserId) : CancelsMarked (a.cancel work) := by
  refine marks.shrink (fun _ member => member) (fun _ _ call => call) ?_
  intro _ _ other _ marked
  exact ok.items.canceling_cancel work marked

theorem awaitCancel {self : Thread} {work : UserId} (marked : a.canceling work = true)
    (apart : ∀ thread ∈ a.cancels, a.calls thread ≠ .cancelling work) :
    CancelsMarked (a.awaitCancel work self) := by
  have before := marks.marked
  have alone := marks.single
  constructor <;> simp only [AbstractState.awaitCancel] <;> grind

theorem only_released {thread waiter : Thread} {work : UserId} (member : thread ∈ a.cancels)
    (call : a.calls thread = .cancelling work) (waits : a.released work = waiter) :
    waiter = thread := by
  obtain ⟨_, linked, mine⟩ := AbstractState.released_some waits
  exact marks.single waiter linked thread member work mine call

/-- An item for which a canceller is linked releases one when it ends. -/
theorem some_released {thread : Thread} {work : UserId} (member : thread ∈ a.cancels)
    (call : a.calls thread = .cancelling work) : ∃ waiter, a.released work = some waiter := by
  have marked := marks.marked thread member work call
  have found : (a.cancels.find? (a.cancelsWork work)).isSome := by
    rw [List.find?_isSome]
    exact ⟨thread, member, by simp [AbstractState.cancelsWork, call]⟩
  simp only [AbstractState.released, marked, if_true]
  exact Option.isSome_iff_exists.mp found

theorem step (ok : WellFormed a) {action : Action} {output : Output}
    (apart : a.cancelsApart action) (move : AbstractStep a action output a') :
    CancelsMarked a' := by
  cases move with
  | cancelled | cancelledSync => exact marks.cancel ok _
  | @cancelWaits self work acts active =>
      refine (marks.cancel ok work).awaitCancel ?_ ?_
      · simp [AbstractState.cancel, active]
      · exact apart work rfl
  | @finished queue work handler inside ends nobody =>
      refine marks.shrink (fun _ member => member) (fun _ _ call => call) ?_
      intro thread member other call marked
      by_cases same : other = work
      · subst same
        obtain ⟨waiter, waits⟩ := marks.some_released member call
        simp [nobody] at waits
      · simpa [AbstractState.complete, same] using marked
  | @finishedCancelled queue work handler thread inside ends waiter =>
      refine marks.shrink (fun _ member => List.mem_of_mem_erase member) (fun _ _ call => call) ?_
      intro linked member other call marked
      by_cases same : other = work
      · subst same
        obtain ⟨differs, still⟩ := (ok.cancellers.nodup.mem_erase_iff).mp member
        exact absurd (marks.only_released still call waiter).symm differs
      · simpa [AbstractState.complete, same] using marked
  | flushWaits | drainWaits | stopWaits | flusherTaken | cancellerTaken | drainTaken | joined =>
      refine marks.shrink (fun _ member => member) ?_ (fun _ _ _ _ marked => marked)
      intro thread work call
      simp only [AbstractState.flush, AbstractState.requestDrain,
        AbstractState.requestStop] at call
      grind
  | refused | start | run | accepted | handlerSet | unplugged | popped | drainDone | stopped
  | parked | woken | flushed | threw =>
      exact marks.shrink (fun _ member => member) (fun _ _ call => call)
        (fun _ _ _ _ marked => marked)

end CancelsMarked

/-! ## On the shared state -/

section Coupling

variable {s : State} {a : AbstractState} (coupled : Coupled s a)
include coupled

theorem cancels_apart_transfer {action : Action} (apart : cancelsApart s action) :
    a.cancelsApart action := by
  intro work cancels thread member call
  have linked := coupled.reflects.cancels
  exact apart work cancels _ linked thread member
    (coupled.reflects.canceller_work thread work call)

theorem CancelsMarked.waiters_marked (marks : CancelsMarked a) : CancelWaitersMarked s := by
  refine ⟨_, coupled.reflects.cancels, fun thread member => ?_⟩
  obtain ⟨⟨work, call⟩, _⟩ := (coupled.wellFormed.cancellers.linked thread).mp member
  refine ⟨work, coupled.reflects.canceller_work thread work call, ?_⟩
  rw [(coupled.reflects.work_has work).2.1]
  exact marks.marked thread member work call

theorem CancelsMarked.waiters_released (marks : CancelsMarked a) : CancelWaitersReleased s := by
  intro queue work handler output s' inside marked move thread call
  rw [coupled.reflects.workers] at inside
  rw [(coupled.reflects.work_has work).2.1] at marked
  rw [coupled.reflects.calls] at call
  obtain ⟨a', meaning, next⟩ := coupled.step move
  have settled : thread ∉ a.cancels → a.cancellerGiven thread = true := by
    intro absent
    by_contra ungiven
    apply absent
    exact (coupled.wellFormed.cancellers.linked thread).mpr ⟨⟨work, call⟩, by simpa using ungiven⟩
  have given : a'.cancellerGiven thread = true := by
    cases meaning with
    | refused refusal =>
        cases refusal with
        | rejected submits => cases submits
    | accepted submits => cases submits
    | finished within _ nobody =>
        cases inside.symm.trans within
        apply settled
        intro waiting
        obtain ⟨waiter, waits⟩ := marks.some_released waiting call
        simp [nobody] at waits
    | finishedCancelled within _ waits =>
        cases inside.symm.trans within
        by_cases waiting : thread ∈ a.cancels
        · simp [marks.only_released waiting call waits]
        · simp only [Function.update_apply, settled waiting]
          split <;> rfl
    | flushed within => cases inside.symm.trans within
  rw [next.reflects.canceller_sem, given]
  rfl

end Coupling

/-- When no thread cancels an item for which a canceller is linked, every linked
canceller is for an item that is marked, and the end of a cancelled item releases
every thread that waits for it. -/
theorem no_cancel_waiter_left_behind {handlers : UserId → HandlerId}
    {trace : List (Action × Output)} {s : State}
    (run : SystemRun cancelsApart (State.initial handlers) trace s) :
    CancelWaitersMarked s ∧ CancelWaitersReleased s := by
  obtain ⟨a, coupled, marks⟩ := invariant_of_run run AbstractState.cancelsApart
    (fun _ _ _ coupled apart => cancels_apart_transfer coupled apart) CancelsMarked
    (CancelsMarked.initial handlers)
    (fun _ _ _ _ ok marks apart move => marks.step ok apart move)
  exact ⟨marks.waiters_marked coupled, marks.waiters_released coupled⟩

/-- One thread cancels a running item and waits. -/
theorem no_cancel_waiter_left_behind_of_one :
    ∃ trace s, SystemRun cancelsApart (State.initial fun _ => ⟨0⟩) trace s ∧
      s.pendingCancels.head = some (.client ⟨1⟩) ∧ CancelWaitersMarked s ∧
      CancelWaitersReleased s := by
  obtain ⟨trace, s, run, linked⟩ := system_run_of_actions
    (fun s action => action.cancelSync? = none ∨ s.pendingCancels.isEmpty = true)
    (State.initial fun _ => ⟨0⟩)
    [.start (.client ⟨0⟩) ⟨0⟩ none, .submit (.client ⟨0⟩) ⟨0⟩ (some ⟨0⟩), .workerTurn ⟨0⟩,
      .workCancelSync (.client ⟨1⟩) ⟨0⟩]
    (fun _ s => s.pendingCancels.head = some (.client ⟨1⟩)) (by decide +kernel)
  have apart : SystemRun cancelsApart (State.initial fun _ => ⟨0⟩) trace s := by
    refine run.mono fun state action alone work cancels nodes list thread member => ?_
    rcases alone with other | empty
    · rw [other] at cancels
      cases cancels
    · rw [list.is_empty, List.isEmpty_iff] at empty
      simp [empty] at member
  exact ⟨trace, s, apart, by simpa using linked, no_cancel_waiter_left_behind apart⟩

/-- Two threads cancel a running item; its end leaves one of them linked. -/
theorem second_cancel_waiter_left_behind :
    ¬∀ trace s, SystemRun anyStep (State.initial fun _ => ⟨0⟩) trace s →
      CancelWaitersMarked s ∧ CancelWaitersReleased s := by
  intro always
  obtain ⟨trace, s, run, tested⟩ := system_run_of_actions (fun _ _ => True)
    (State.initial fun _ => ⟨0⟩)
    [.start (.client ⟨0⟩) ⟨0⟩ none, .submit (.client ⟨0⟩) ⟨0⟩ (some ⟨0⟩), .workerTurn ⟨0⟩,
      .workCancelSync (.client ⟨1⟩) ⟨0⟩, .workCancelSync (.client ⟨2⟩) ⟨0⟩, .handlerReturn ⟨0⟩]
    (fun _ s => s.pendingCancels.head = some (.client ⟨2⟩) &&
      (s.cancellers (.client ⟨2⟩)).work = some (.user ⟨0⟩) &&
      !s.workHas ⟨0⟩ workCancelingBit) (by decide +kernel)
  simp only [Bool.and_eq_true, decide_eq_true_eq, Bool.not_eq_true'] at tested
  obtain ⟨⟨head, mine⟩, clear⟩ := tested
  obtain ⟨a, _, coupled⟩ := coupled_of_run run
  have list := coupled.reflects.cancels
  have member : Thread.client ⟨2⟩ ∈ a.cancels := by
    rw [list.head_eq] at head
    exact List.mem_of_head? head
  obtain ⟨linked, chain, waiters⟩ := (always trace s run.unrestricted).1
  rw [← chain.unique list] at member
  obtain ⟨work, owner, marked⟩ := waiters _ member
  cases mine.symm.trans owner
  simp [clear] at marked

end AresCommon.WorkQueue
