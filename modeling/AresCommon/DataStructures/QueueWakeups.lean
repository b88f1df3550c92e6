import AresCommon.DataStructures.ListQueue

/-!
# Nobody sleeps on a queue that could serve him

Sleeping producers are covered by the free cells and sleeping consumers by the elements:
a thread goes to sleep only when there is nothing for it, and whoever makes room or
stores an element notifies one sleeper. `clear` makes room and notifies nobody.
-/

namespace AresCommon.DataStructures

open AresCommon.Foundation AresCommon.Foundation.Transition
open Function (update)

set_option autoImplicit false

section Wakeups

variable {Thread Item : Type} {maxSize : Nat} {overwrite : Bool}

/-- Once every notified thread has resumed, producers sleep on a full queue only, and
consumers on an empty one. -/
structure WakeupsKept (m : QueueMonitor Thread Item maxSize overwrite) : Prop where
  producers : m.spaceAvailable.notified = [] → m.notEmpty.notified = [] →
    m.spaceAvailable.asleep ≠ [] → m.queue.size = maxSize
  consumers : m.spaceAvailable.notified = [] → m.notEmpty.notified = [] →
    m.notEmpty.asleep ≠ [] → m.queue.size = 0
  apart : m.spaceAvailable.notified = [] → m.notEmpty.notified = [] →
    m.spaceAvailable.asleep = [] ∨ m.notEmpty.asleep = []

def QueueAction.clears : QueueAction Thread Item → Bool
  | .clear _ => true
  | _ => false

/-- The queue is cleared only when no producer sleeps, or when enough of them have been
notified to fill it again. -/
def clearsQuietly : QueueMonitor Thread Item maxSize overwrite → QueueAction Thread Item → Prop :=
  fun m action => action.clears = true →
    m.spaceAvailable.asleep = [] ∨ maxSize ≤ m.spaceAvailable.notified.length

instance [DecidableEq Thread] (m : QueueMonitor Thread Item maxSize overwrite)
    (action : QueueAction Thread Item) : Decidable (clearsQuietly m action) :=
  inferInstanceAs (Decidable (_ → _))

/-- Free cells cover the sleeping producers, elements the sleeping consumers. -/
structure SleepersCovered (m : QueueMonitor Thread Item maxSize overwrite) : Prop where
  space : m.spaceAvailable.Covered (maxSize - m.queue.size)
  elements : m.notEmpty.Covered m.queue.size

def TakerCovered (m : QueueMonitor Thread Item maxSize overwrite) : QueueCall Item → Prop
  | .put _ _ _ => m.spaceAvailable.Covered (maxSize - m.queue.size - 1) ∧
      m.notEmpty.Covered m.queue.size
  | .get _ _ => m.spaceAvailable.Covered (maxSize - m.queue.size) ∧
      m.notEmpty.Covered (m.queue.size - 1)

variable {m m' : QueueMonitor Thread Item maxSize overwrite} {call : QueueCall Item}

theorem SleepersCovered.kept (covered : SleepersCovered m) (positive : 0 < maxSize)
    (bounded : m.queue.size ≤ maxSize) : WakeupsKept m := by
  have producers : m.spaceAvailable.notified = [] → m.spaceAvailable.asleep ≠ [] →
      m.queue.size = maxSize := by
    intro silent sleepers
    have full := covered.space.exhausted silent sleepers
    omega
  constructor
  · exact fun silent _ sleepers => producers silent sleepers
  · exact fun _ silent sleepers => covered.elements.exhausted silent sleepers
  · intro silent quiet
    by_contra both
    rw [not_or] at both
    have full := producers silent both.1
    have empty := covered.elements.exhausted quiet both.2
    omega

theorem SleepersCovered.taker (covered : SleepersCovered m) (call : QueueCall Item) :
    TakerCovered m call := by
  cases call with
  | put => exact ⟨covered.space.fewer (Nat.sub_le _ _), covered.elements⟩
  | get => exact ⟨covered.space, covered.elements.fewer (Nat.sub_le _ _)⟩

/-- A thread whose predicate fails leaves nothing behind that a sleeper could take. -/
theorem TakerCovered.unready (covered : TakerCovered m call) (unready : m.ready call = false) :
    SleepersCovered m := by
  cases call with
  | put =>
      have full : m.queue.size = maxSize := by simpa [QueueMonitor.ready] using unready
      refine ⟨?_, covered.2⟩
      rw [full, Nat.sub_self]
      exact WaitSet.covered_zero _
  | get =>
      have empty : m.queue.size = 0 := by simpa [QueueMonitor.ready] using unready
      refine ⟨covered.1, ?_⟩
      rw [empty]
      exact WaitSet.covered_zero _

variable [DecidableEq Thread] {self : Thread} {action : QueueAction Thread Item}
variable {reply : QueueReply Item} {timedOut throws : Bool} {wakes : Option Thread}

theorem TakerCovered.put {item : Item} {wait : Wait} {callback : Bool}
    {queue : BoundedQueue Item maxSize overwrite} {notEmpty : WaitSet Thread}
    (covered : TakerCovered m (.put item wait callback))
    (size : queue.size = min (m.queue.size + 1) maxSize)
    (notified : m.notEmpty.notifyOne wakes = some notEmpty) :
    SleepersCovered { m.back self with queue := queue, notEmpty := notEmpty } := by
  constructor <;> simp only [QueueMonitor.back, size]
  · exact covered.1.fewer (by omega)
  · exact (covered.2.notify_one notified).fewer (by omega)

theorem TakerCovered.finish (covered : TakerCovered m call) (bounded : m.queue.size ≤ maxSize)
    (ready : m.ready call = true) (ran : m.finish self call wakes = some (m', reply)) :
    SleepersCovered m' := by
  unfold QueueMonitor.finish at ran
  cases call with
  | put item wait callback =>
      have room : m.queue.size ≠ maxSize := by simpa [QueueMonitor.ready] using ready
      obtain ⟨notEmpty, notified, result⟩ := Option.map_eq_some_iff.mp ran
      cases result
      refine covered.put ?_ notified
      cases wait with
      | forever =>
          simp only [BoundedQueue.append, QueueMonitor.back]
          omega
      | timed => exact BoundedQueue.store_size bounded item
  | get wait callback =>
      have nonempty : m.queue.size ≠ 0 := by simpa [QueueMonitor.ready] using ready
      obtain ⟨spaceAvailable, notified, result⟩ := Option.map_eq_some_iff.mp ran
      cases result
      have released : maxSize - (m.queue.size - 1) = maxSize - m.queue.size + 1 := by omega
      constructor
      · simp only [QueueMonitor.back, released]
        exact covered.1.notify_one notified
      · exact covered.2

theorem TakerCovered.give_up (covered : TakerCovered m call) (bounded : m.queue.size ≤ maxSize)
    (unready : m.ready call = false) (ran : m.giveUp self call wakes = some (m', reply)) :
    SleepersCovered m' := by
  have sleepers := covered.unready unready
  unfold QueueMonitor.giveUp at ran
  cases call with
  | put item wait callback =>
      cases wait with
      | forever => cases ran
      | timed timeoutMs =>
          simp only at ran
          split at ran
          · cases ran
            exact ⟨sleepers.space, sleepers.elements⟩
          · obtain ⟨notEmpty, notified, result⟩ := Option.map_eq_some_iff.mp ran
            cases result
            exact covered.put (BoundedQueue.store_size bounded item) notified
  | get wait callback =>
      cases wait with
      | forever => cases ran
      | timed timeoutMs =>
          cases ran
          exact ⟨sleepers.space, sleepers.elements⟩

theorem TakerCovered.sleep (covered : TakerCovered m call) (unready : m.ready call = false) :
    SleepersCovered (m.sleep self call) := by
  have sleepers := covered.unready unready
  cases call with
  | put =>
      have full : m.queue.size = maxSize := by simpa [QueueMonitor.ready] using unready
      refine ⟨?_, sleepers.elements⟩
      simp only [QueueMonitor.sleep, full, Nat.sub_self]
      exact WaitSet.covered_zero _
  | get =>
      have empty : m.queue.size = 0 := by simpa [QueueMonitor.ready] using unready
      refine ⟨sleepers.space, ?_⟩
      simp only [QueueMonitor.sleep, empty]
      exact WaitSet.covered_zero _

theorem TakerCovered.attempt (covered : TakerCovered m call) (bounded : m.queue.size ≤ maxSize)
    (ran : m.attempt self call timedOut throws wakes = some (m', reply)) :
    SleepersCovered m' := by
  unfold QueueMonitor.attempt at ran
  split at ran
  · rename_i ready
    exact covered.finish bounded ready ran
  · rename_i unready
    simp only [Bool.not_eq_true] at unready
    have sleepers := covered.unready unready
    split at ran
    · cases ran
      exact ⟨sleepers.space, sleepers.elements⟩
    · split at ran
      · exact covered.give_up bounded unready ran
      · cases ran
        exact covered.sleep unready

theorem SleepersCovered.awake (covered : SleepersCovered m)
    (awoke : m.awake self call = some m') : TakerCovered m' call ∧ m'.queue = m.queue := by
  unfold QueueMonitor.awake at awoke
  cases call with
  | put =>
      obtain ⟨set, resumed, rfl⟩ := Option.map_eq_some_iff.mp awoke
      exact ⟨⟨covered.space.resume resumed, covered.elements⟩, rfl⟩
  | get =>
      obtain ⟨set, resumed, rfl⟩ := Option.map_eq_some_iff.mp awoke
      exact ⟨⟨covered.space, covered.elements.resume resumed⟩, rfl⟩

theorem SleepersCovered.step (covered : SleepersCovered m) (bounded : m.queue.size ≤ maxSize)
    (quiet : clearsQuietly m action) (move : m.Step action reply m') : SleepersCovered m' := by
  unfold QueueMonitor.Step at move
  cases action with
  | enter self call throws wakes =>
      simp only [QueueMonitor.step] at move
      split at move
      · exact (covered.taker call).attempt bounded move
      · cases move
  | resume self timedOut throws wakes =>
      simp only [QueueMonitor.step] at move
      split at move
      · cases move
      · rename_i call pending
        obtain ⟨woken, awoke, ran⟩ := Option.bind_eq_some_iff.mp move
        obtain ⟨taker, same⟩ := covered.awake awoke
        exact taker.attempt (same ▸ bounded) ran
  | rouse self =>
      simp only [QueueMonitor.step] at move
      split at move
      · cases move
      · obtain ⟨set, roused, result⟩ := Option.map_eq_some_iff.mp move
        cases result
        exact ⟨covered.space.rouse roused, covered.elements⟩
      · obtain ⟨set, roused, result⟩ := Option.map_eq_some_iff.mp move
        cases result
        exact ⟨covered.space, covered.elements.rouse roused⟩
  | clear self =>
      simp only [QueueMonitor.step] at move
      split at move
      · cases move
        refine ⟨?_, WaitSet.covered_zero _⟩
        intro sleepers
        rcases quiet rfl with nobody | enough
        · exact absurd nobody sleepers
        · exact enough
      · cases move
  | size | empty | full =>
      simp only [QueueMonitor.step] at move
      split at move
      · cases move
        exact covered
      · cases move

/-- A clear that makes room for a sleeping producer leaves it asleep. -/
theorem clear_strands_producer (positive : 0 < maxSize) (loud : ¬clearsQuietly m action)
    (silent : m.spaceAvailable.notified = []) (quiet : m.notEmpty.notified = [])
    (move : m.Step action reply m') : ¬WakeupsKept m' := by
  simp only [clearsQuietly, Classical.not_imp, not_or] at loud
  obtain ⟨clears, sleepers, _⟩ := loud
  cases action with
  | clear self =>
      simp only [QueueMonitor.Step, QueueMonitor.step] at move
      split at move
      · cases move
        intro kept
        have full := kept.producers silent quiet sleepers
        simp only [BoundedQueue.clear] at full
        omega
      · cases move
  | _ => cases clears

end Wakeups

/-- As long as the queue is cleared only when no producer sleeps, or when enough
producers are on their way, no wake-up is lost. A clear that finds a sleeping producer
and nobody notified loses one at once. -/
theorem no_wakeup_lost {Thread Item : Type} [DecidableEq Thread] {maxSize : Nat}
    {overwrite : Bool} (positive : 0 < maxSize) {buffer : Nat → Item}
    {trace : List (QueueAction Thread Item × QueueReply Item)}
    {m : QueueMonitor Thread Item maxSize overwrite}
    (run : MonitorRun clearsQuietly (QueueMonitor.initial buffer) trace m) :
    WakeupsKept m ∧ ∀ action reply m', ¬clearsQuietly m action →
      m.spaceAvailable.notified = [] → m.notEmpty.notified = [] →
        m.Step action reply m' → ¬WakeupsKept m' := by
  have kept : (∃ l, HoldsList m l) ∧ SleepersCovered m := by
    refine Run.preserves (fun m : QueueMonitor Thread Item maxSize overwrite =>
      (∃ l, HoldsList m l) ∧ SleepersCovered m) ?_ run
      ⟨⟨_, initial_holds_list positive buffer⟩, WaitSet.covered_empty _,
        WaitSet.covered_empty _⟩
    rintro m action reply m' ⟨⟨l, holds⟩, covered⟩ quiet move
    obtain ⟨l', _, next⟩ := holds.step move
    exact ⟨⟨l', next⟩, covered.step holds.wf.bounded quiet move⟩
  obtain ⟨⟨l, holds⟩, covered⟩ := kept
  refine ⟨covered.kept positive holds.wf.bounded, ?_⟩
  intro action reply m' loud silent quiet move
  exact clear_strands_producer positive loud silent quiet move

/-- A producer that slept is woken by a get and stores its element. -/
theorem no_wakeup_lost_of_get :
    ∃ trace, ∃ m : QueueMonitor Nat Nat 1 false,
      MonitorRun clearsQuietly (QueueMonitor.initial fun _ => 0) trace m ∧
      trace.map Prod.snd = [.void, .waits, .item 1, .void, .void] ∧ WakeupsKept m := by
  obtain ⟨trace, m, run, tested⟩ := monitor_run_of_actions clearsQuietly
    (QueueMonitor.initial fun _ => 0 : QueueMonitor Nat Nat 1 false)
    [.enter 0 (.put 1 .forever false) false none, .enter 1 (.put 2 .forever false) false none,
      .enter 2 .getNonblocking false (some 1), .resume 1 false false none, .clear 0]
    (fun trace _ => trace.map Prod.snd = [.void, .waits, .item 1, .void, .void])
    (by decide +kernel)
  exact ⟨trace, m, run, by simpa using tested, (no_wakeup_lost (by decide) run).1⟩

/-- A clear makes room while a producer waits for it, and does not wake it. -/
theorem clear_loses_wakeup :
    ¬∀ trace, ∀ m : QueueMonitor Nat Nat 1 false,
      MonitorRun anyStep (QueueMonitor.initial fun _ => 0) trace m → WakeupsKept m := by
  intro always
  obtain ⟨trace, m, run, tested⟩ := monitor_run_of_actions (fun _ _ => True)
    (QueueMonitor.initial fun _ => 0 : QueueMonitor Nat Nat 1 false)
    [.enter 0 (.put 1 .forever false) false none, .enter 1 (.put 2 .forever false) false none,
      .clear 2]
    (fun _ m => m.spaceAvailable.notified = [] && m.notEmpty.notified = [] &&
      m.spaceAvailable.asleep ≠ [] && m.queue.size = 0)
    (by decide +kernel)
  simp only [Bool.and_eq_true, decide_eq_true_eq] at tested
  obtain ⟨⟨⟨silent, quiet⟩, sleepers⟩, empty⟩ := tested
  have full := (always trace m run.unrestricted).producers silent quiet sleepers
  simp [empty] at full

end AresCommon.DataStructures
