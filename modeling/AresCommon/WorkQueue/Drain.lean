import AresCommon.WorkQueue.History
import AresCommon.WorkQueue.Progress
import AresCommon.WorkQueue.Quiescence

/-!
# Draining a queue

The worker answers a drain request by a token in `drainq`. The token does not say
which request it answers: a call that finds an old one returns at once. A call
that finds none waits for a worker that found nothing to do.
-/

namespace AresCommon.WorkQueue

open AresCommon.DataStructures AresCommon.Foundation.Transition
open Function (update)

set_option autoImplicit false

attribute [local grind =] Function.update_apply

abbrev DrainReturns (self : Thread) (queue : QueueId) (plug : Bool) :
    State → List (Action × Output) → Output → State → Prop :=
  SystemCall anyStep (.queueDrain self queue plug) (.drainqGet self)

/-- Between the critical section of the call and its return the queue was
quiescent, and what it had accepted before has finished or was removed. -/
def DrainKept (before : List (Action × Output)) (self : Thread) (queue : QueueId) (plug : Bool)
    (s : State) (span : List (Action × Output)) (s' : State) : Prop :=
  (∃ entry rest, span = (.queueDrain self queue plug, entry) :: rest ∧
    Visits State.Step anyStep (s.queueDrain self queue plug).1 rest s' (Quiescent queue)) ∧
  ∀ x ∈ (historyOf before).accepted, x.queue = queue →
    x ∈ (historyOf (before ++ span)).finished ∨ x ∈ (historyOf (before ++ span)).removed

theorem Token.size {tokens : TokenQueue} {item : UInt8} {present : Bool}
    (token : Token tokens item present) : tokens.size = present.toNat := by
  rw [← tokens.contents_length, token.contents]
  cases present <;> rfl

/-! ## From the request to the token -/

/-- The request of `thread` has not been answered, and no token is left over. -/
structure Unanswered (thread : Thread) (queue : QueueId) (a : AbstractState) : Prop where
  call : a.calls thread = .draining queue
  draining : a.draining queue = true
  undrained : a.drained queue = false

theorem Unanswered.step {self : Thread} {queue : QueueId} {a a' : AbstractState}
    (waits : Unanswered self queue a) (ok : WellFormed a) {action : Action} {output : Output}
    (other : action ≠ .drainqGet self) (move : AbstractStep a action output a') :
    Unanswered self queue a' ∨ a'.Quiet queue := by
  obtain ⟨call, draining, undrained⟩ := waits
  have begun : a.workers queue ≠ .notStarted := by
    intro unstarted
    have dormant := ok.queues.dormant queue
    have started := ok.queues.started_iff queue
    grind
  cases move with
  | @drainDone target ready empty requested =>
      by_cases here : queue = target
      · subst here
        right
        exact ⟨empty, by simp [AbstractState.finishDrain, WorkerPc.item]⟩
      · left
        constructor <;> simp only [AbstractState.finishDrain] <;> grind
  | flushWaits acts | cancelWaits acts | drainWaits acts | stopWaits acts =>
      have free := AbstractState.idle_of_can_act acts
      left
      constructor <;>
        simp only [AbstractState.flush, AbstractState.awaitCancel, AbstractState.cancel,
          AbstractState.requestDrain, AbstractState.requestStop] <;>
        grind
  | start | run | stopped =>
      left
      constructor <;> simp only [AbstractState.launch, AbstractState.leave] <;> grind
  | flusherTaken | cancellerTaken | drainTaken | joined =>
      left
      constructor <;> grind
  | refused | accepted | cancelled | cancelledSync | handlerSet | unplugged | popped | parked
  | woken | finished | finishedCancelled | flushed | threw =>
      exact .inl ⟨call, draining, undrained⟩

/-- A worker that found nothing to do has been through everything accepted before. -/
theorem settled_of_quiet {history : History} {s : State} {a : AbstractState}
    (tracked : Tracked history s a) {x : Submission} (quiet : a.Quiet x.queue)
    (accepted : x ∈ history.accepted) : x ∈ history.finished ∨ x ∈ history.removed := by
  have ok := tracked.coupled.wellFormed
  by_cases removed : x ∈ history.removed
  · exact .inr removed
  · left
    by_contra unfinished
    have live : x ∈ history.live x.work := by
      simp [History.live, accepted, removed, unfinished]
    have located : a.home x.work = some x.queue := by
      rcases (tracked.ledger.live_iff ok x.work x).mp live with ⟨waits, last⟩ | ⟨runs, current⟩
      · obtain ⟨y, found, home, _⟩ := tracked.ledger.queued x.work waits
        cases last.symm.trans found
        exact home
      · obtain ⟨y, found, _, home⟩ := tracked.ledger.running x.work runs
        cases current.symm.trans found
        exact home
    have active : a.queued x.work = true ∨ a.running (.user x.work) = true := by
      rcases (tracked.ledger.live_iff ok x.work x).mp live with ⟨waits, _⟩ | ⟨runs, _⟩
      · exact .inl waits
      · exact .inr runs
    exact AbstractState.not_quiet_of_active ok active located quiet

section Call

variable {handlers : UserId → HandlerId} {before span : List (Action × Output)} {s s' : State}
variable {self : Thread} {queue : QueueId} {plug : Bool} {output : Output}

theorem drain_kept_of_visit (run : SystemRun anyStep (State.initial handlers) before s)
    {entry : Output} {rest : List (Action × Output)}
    (enters : s.Step (.queueDrain self queue plug) entry (s.queueDrain self queue plug).1)
    (visits : Visits State.Step anyStep (s.queueDrain self queue plug).1 rest s'
      (Quiescent queue)) :
    DrainKept before self queue plug s ((.queueDrain self queue plug, entry) :: rest) s' := by
  refine ⟨⟨entry, rest, rfl, visits⟩, ?_⟩
  intro x accepted located
  obtain ⟨first, second, middle, rfl, reached, _, quiescent⟩ := visits
  have whole := (run.snoc trivial enters).append reached
  rw [List.append_assoc, List.singleton_append] at whole
  obtain ⟨a, tracked⟩ := tracked_of_run whole
  have quiet := (tracked.coupled.quiescent_iff queue).mp quiescent
  rw [← located] at quiet
  have earlier := history_extends before ((.queueDrain self queue plug, entry) :: first)
  have known := earlier.accepted.subset accepted
  have later := history_extends (before ++ (.queueDrain self queue plug, entry) :: first) second
  rw [← List.cons_append, ← List.append_assoc]
  rcases settled_of_quiet tracked quiet known with finished | removed
  · exact .inl (later.finished.subset finished)
  · exact .inr (later.removed.subset removed)

theorem drain_enters {entry : Output} {entered : State}
    (move : s.Step (.queueDrain self queue plug) entry entered) :
    entered = (s.queueDrain self queue plug).1 := by
  obtain ⟨fuel, ran⟩ := move
  simp only [State.step] at ran
  split at ran
  · have same := Option.some.inj ran
    rw [same]
  · cases ran

theorem visit_of_no_token {a : AbstractState} (coupled : Coupled s a)
    (absent : a.drained queue = false) (call : DrainReturns self queue plug s span output s')
    (one : output.reply = .int 1) :
    ∃ entry rest, span = (.queueDrain self queue plug, entry) :: rest ∧
      s.Step (.queueDrain self queue plug) entry (s.queueDrain self queue plug).1 ∧
      Visits State.Step anyStep (s.queueDrain self queue plug).1 rest s' (Quiescent queue) := by
  cases call with
  | atOnce _ move direct =>
      obtain ⟨a', meaning, _⟩ := coupled.step move
      rcases meaning.queue_drain with ⟨_, rfl, _⟩ | ⟨_, _, _, rfl, _⟩ | ⟨_, rfl, _⟩
      · simp [Output.just, eNoDev] at one
      · simp [Output.just] at one
      · exact absurd rfl direct
  | @blocked entry _ entered last _ during _ move blocks meanwhile _ answer =>
      cases drain_enters move
      refine ⟨entry, during ++ [(.drainqGet self, output)], rfl, move, ?_⟩
      obtain ⟨b, meaning, known⟩ := coupled.step move
      have waits : Unanswered self queue b := by
        rcases meaning.queue_drain with ⟨_, rfl, _⟩ | ⟨_, _, _, rfl, _⟩ | ⟨_, _, rfl⟩
        · cases blocks
        · cases blocks
        · constructor <;> simp [AbstractState.requestDrain, absent]
      have outcome := meanwhile.until (fun s => ∃ a, Coupled s a ∧ Unanswered self queue a)
        (Quiescent queue) (by
          rintro s action output s' ⟨c, here, still⟩ ⟨_, other⟩ move
          obtain ⟨c', step, next⟩ := here.step move
          rcases still.step here.wellFormed other step with kept | quiet
          · exact .inl ⟨c', next, kept⟩
          · exact .inr ((next.quiescent_iff queue).mpr quiet))
        ⟨b, known, waits⟩
      rcases outcome with ⟨c, here, still⟩ | visits
      · obtain ⟨c', step, _⟩ := here.step answer
        obtain ⟨target, mine, token, _⟩ := step.drainq_get
        cases mine.symm.trans still.call
        simp [still.undrained] at token
      · exact (visits.mono fun _ _ _ => trivial).extend trivial answer

theorem visit_of_quiet {a : AbstractState} (coupled : Coupled s a) (quiet : a.Quiet queue)
    (call : DrainReturns self queue plug s span output s') :
    ∃ entry rest, span = (.queueDrain self queue plug, entry) :: rest ∧
      s.Step (.queueDrain self queue plug) entry (s.queueDrain self queue plug).1 ∧
      Visits State.Step anyStep (s.queueDrain self queue plug).1 rest s' (Quiescent queue) := by
  have whole := call.run
  obtain ⟨entry, entered, rest, rfl, move⟩ := call.enters
  cases drain_enters move
  refine ⟨entry, rest, rfl, move, ?_⟩
  rw [← List.singleton_append] at whole
  obtain ⟨middle, first, onwards⟩ := whole.split
  cases drain_enters first.of_single.2
  obtain ⟨b, meaning, known⟩ := coupled.step move
  refine onwards.visits_first ((known.quiescent_iff queue).mpr ?_)
  rcases meaning.queue_drain with ⟨_, _, rfl⟩ | ⟨_, _, _, _, rfl⟩ | ⟨_, _, rfl⟩
  · exact quiet
  · exact quiet
  · exact ⟨quiet.empty, quiet.idle⟩

theorem quiet_of_off {a : AbstractState} (ok : WellFormed a) (off : a.started queue = false) :
    a.Quiet queue := by
  have started := ok.queues.started_iff queue
  refine ⟨(ok.queues.dormant queue off).1, ?_⟩
  cases place : a.workers queue <;> simp_all [WorkerPc.item]

/-- A call that finds an old token may return without any visit. -/
theorem stale_return (before : List (Action × Output)) (plug : Bool) {a : AbstractState}
    (coupled : Coupled s a) (acts : a.canAct self = true)
    (present : a.drained queue = true) (loud : ¬a.Quiet queue) :
    ∃ span output s', DrainReturns self queue plug s span output s' ∧ output.reply = .int 1 ∧
      ¬DrainKept before self queue plug s span s' := by
  have ok := coupled.wellFormed
  have acts' : a.Enabled (.queueDrain self queue plug) := acts
  obtain ⟨entry, entered, move⟩ := coupled.progress acts'
  cases drain_enters move
  obtain ⟨b, meaning, known⟩ := coupled.step move
  have begins : entry.waits = true ∧ b = a.requestDrain queue plug self := by
    rcases meaning.queue_drain with ⟨off, _⟩ | ⟨idle, _, empty, _⟩ | ⟨_, rfl, rfl⟩
    · exact absurd (quiet_of_off ok off) loud
    · rw [ok.queues.busy_eq, Option.isSome_eq_false_iff, Option.isNone_iff_eq_none] at idle
      exact absurd ⟨empty, idle⟩ loud
    · exact ⟨rfl, rfl⟩
  obtain ⟨blocks, rfl⟩ := begins
  have released : (a.requestDrain queue plug self).Enabled (.drainqGet self) :=
    ⟨queue, by simp [AbstractState.requestDrain], present⟩
  obtain ⟨output, s', answer⟩ := known.progress released
  obtain ⟨c, taken, final⟩ := known.step answer
  have outcome : output.reply = .int 1 ∧ ¬c.Quiet queue := by
    obtain ⟨_, _, _, rfl, pending, workers⟩ := taken.drainq_get
    refine ⟨rfl, fun quiet => loud ⟨?_, ?_⟩⟩
    · rw [← quiet.empty, pending]
      rfl
    · rw [← quiet.idle, workers]
      rfl
  refine ⟨_, output, s', .blocked trivial move blocks .nil trivial answer, outcome.1, ?_⟩
  rintro ⟨⟨_, rest, split, visits⟩, _⟩
  cases split
  rcases visits.of_single with quiescent | quiescent
  · have quiet := (known.quiescent_iff queue).mp quiescent
    exact loud ⟨quiet.empty, quiet.idle⟩
  · exact outcome.2 ((final.quiescent_iff queue).mp quiescent)

end Call

/-- A drain call keeps its promise if and only if it finds no token left over by
another one, or finds the queue quiescent. -/
theorem drain_postcondition_iff {handlers : UserId → HandlerId}
    {before : List (Action × Output)} {s : State}
    (run : SystemRun anyStep (State.initial handlers) before s) {self : Thread}
    (acts : s.canAct self = true) (queue : QueueId) (plug : Bool) :
    (∀ span output s', DrainReturns self queue plug s span output s' →
      output.reply = .int 1 → DrainKept before self queue plug s span s') ↔
    ((s.queues queue).drainq.size = 0 ∨ Quiescent queue s) := by
  obtain ⟨a, _, coupled⟩ := coupled_of_run run
  have token := (coupled.reflects.queues queue).drainq.size
  have size : (s.queues queue).drainq.size = 0 ↔ a.drained queue = false := by
    rw [token]
    cases drained : a.drained queue <;> simp [AbstractState.queue, drained]
  rw [size, coupled.quiescent_iff]
  rw [coupled.reflects.canAct] at acts
  constructor
  · intro kept
    by_contra neither
    rw [not_or, Bool.not_eq_false] at neither
    obtain ⟨span, output, s', call, one, broken⟩ :=
      stale_return before plug coupled acts neither.1 neither.2
    exact broken (kept span output s' call one)
  · rintro (absent | quiet) span output s' call one
    · obtain ⟨entry, rest, rfl, enters, visits⟩ := visit_of_no_token coupled absent call one
      exact drain_kept_of_visit run enters visits
    · obtain ⟨entry, rest, rfl, enters, visits⟩ := visit_of_quiet coupled quiet call
      exact drain_kept_of_visit run enters visits

/-- A drain of a running item's queue, with no token left over. -/
theorem drain_postcondition_of_running_item :
    ∃ before s span output s', SystemRun anyStep (State.initial fun _ => ⟨0⟩) before s ∧
      DrainReturns (.client ⟨0⟩) ⟨0⟩ false s span output s' ∧ output.reply = .int 1 ∧
      (historyOf before).accepted.length = 1 ∧
      DrainKept before (.client ⟨0⟩) ⟨0⟩ false s span s' := by
  obtain ⟨before, s, run, tested⟩ := system_run_of_actions (fun _ _ => True)
    (State.initial fun _ => ⟨0⟩)
    [.start (.client ⟨0⟩) ⟨0⟩ none, .submit (.client ⟨0⟩) ⟨0⟩ (some ⟨0⟩), .workerTurn ⟨0⟩]
    (fun before s => s.canAct (.client ⟨0⟩) && (s.queues ⟨0⟩).drainq.size = 0 &&
      (historyOf before).accepted.length = 1 &&
      (s.callActions (fun _ _ => True) (.queueDrain (.client ⟨0⟩) ⟨0⟩ false)
        (.drainqGet (.client ⟨0⟩)) [.handlerReturn ⟨0⟩, .workerTurn ⟨0⟩]).any fun call =>
          call.2.1.reply = .int 1)
    (by decide +kernel)
  simp only [Bool.and_eq_true, decide_eq_true_eq] at tested
  obtain ⟨⟨⟨acts, absent⟩, one⟩, called⟩ := tested
  obtain ⟨span, output, s', call, replied⟩ := system_call_of_actions (fun _ _ => True) called
  have answer : output.reply = .int 1 := by simpa using replied
  have kept := (drain_postcondition_iff run.unrestricted acts ⟨0⟩ false).mpr (.inl absent)
  exact ⟨before, s, span, output, s', run.unrestricted, call, answer, one,
    kept span output s' call answer⟩

/-- The second of two drains takes the token that the first one has not taken yet,
while an item that was submitted in between still waits. -/
theorem stale_token_breaks_drain :
    ¬∀ before s self queue plug span output s',
      SystemRun anyStep (State.initial fun _ => ⟨0⟩) before s →
      DrainReturns self queue plug s span output s' → output.reply = .int 1 →
        DrainKept before self queue plug s span s' := by
  intro always
  obtain ⟨before, s, run, tested⟩ := system_run_of_actions (fun _ _ => True)
    (State.initial fun _ => ⟨0⟩)
    [.start (.client ⟨0⟩) ⟨0⟩ none, .queueDrain (.client ⟨1⟩) ⟨0⟩ true,
      .queueUnplug (.client ⟨0⟩) ⟨0⟩, .workerTurn ⟨0⟩, .submit (.client ⟨0⟩) ⟨0⟩ (some ⟨0⟩)]
    (fun _ s => s.canAct (.client ⟨2⟩) && (s.queues ⟨0⟩).drainq.size = 1 &&
      !(s.queues ⟨0⟩).pending.isEmpty)
    (by decide +kernel)
  simp only [Bool.and_eq_true, decide_eq_true_eq, Bool.not_eq_true'] at tested
  obtain ⟨⟨acts, present⟩, waiting⟩ := tested
  obtain ⟨a, _, coupled⟩ := coupled_of_run run
  rw [coupled.reflects.canAct] at acts
  have drained : a.drained ⟨0⟩ = true := by
    rw [(coupled.reflects.queues ⟨0⟩).drainq.size] at present
    cases drained : a.drained ⟨0⟩ <;> simp_all [AbstractState.queue]
  have loud : ¬a.Quiet ⟨0⟩ := by
    rw [← coupled.quiescent_iff]
    intro quiescent
    simp [quiescent.empty] at waiting
  obtain ⟨span, output, s', call, one, broken⟩ :=
    stale_return before false coupled acts drained loud
  exact broken (always before s _ _ _ span output s' run.unrestricted call one)

end AresCommon.WorkQueue
