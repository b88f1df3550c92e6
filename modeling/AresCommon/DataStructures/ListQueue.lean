import AresCommon.DataStructures.QueueMonitor

/-!
# The bounded queue is a bounded list

What the monitor does to its ring, read as a list: a put appends, a get removes the
head, and a put that gave up waiting on a full overwriting queue drops the oldest
element first. A call that waits, or that ends in an exception, leaves the list alone.
-/

namespace AresCommon.DataStructures

open AresCommon.Foundation AresCommon.Foundation.Transition
open Function (update)

set_option autoImplicit false

structure ListQueue (Thread Item : Type) where
  items : List Item
  calls : Thread → Option (QueueCall Item)

section Spec

variable {Thread Item : Type}

def ListQueue.initial : ListQueue Thread Item where
  items := []
  calls := fun _ => none

def QueueAction.performs (calls : Thread → Option (QueueCall Item)) :
    QueueAction Thread Item → Option (Thread × QueueCall Item)
  | .enter self call _ _ => if (calls self).isNone then some (self, call) else none
  | .resume self _ _ _ => (calls self).map fun call => (self, call)
  | _ => none

def QueueAction.gaveUp : QueueAction Thread Item → Bool
  | .resume _ timedOut _ _ => timedOut
  | _ => false

/-- A put waits while the list is full, a get while it is empty. -/
def QueueCall.Blocked (maxSize : Nat) (items : List Item) : QueueCall Item → Prop
  | .put _ _ _ => items.length = maxSize
  | .get _ _ => items = []

def QueueCall.refusal : QueueCall Item → Option QueueExceptionReason
  | .put _ (.timed timeoutMs) _ => some (if timeoutMs = 0 then .queueFull else .queueTimeout)
  | .get (.timed timeoutMs) _ => some (if timeoutMs = 0 then .queueEmpty else .queueTimeout)
  | _ => none

def QueueCall.isPut : QueueCall Item → Bool
  | .put _ _ _ => true
  | .get _ _ => false

variable [DecidableEq Thread]

inductive ListStep (maxSize : Nat) (overwrite : Bool) (l : ListQueue Thread Item) :
    QueueAction Thread Item → QueueReply Item → ListQueue Thread Item → Prop where
  | stored {action : QueueAction Thread Item} {self : Thread} {item : Item} {wait : Wait}
      {callback : Bool}
      (performs : action.performs l.calls = some (self, .put item wait callback))
      (space : l.items.length < maxSize) :
      ListStep maxSize overwrite l action .void
        { items := l.items ++ [item], calls := update l.calls self none }
  | overwrote {action : QueueAction Thread Item} {self : Thread} {item : Item}
      {timeoutMs : Int} {callback : Bool}
      (performs : action.performs l.calls = some (self, .put item (.timed timeoutMs) callback))
      (gaveUp : action.gaveUp = true) (full : l.items.length = maxSize)
      (overwrites : overwrite = true) :
      ListStep maxSize overwrite l action .void
        { items := l.items.tail ++ [item], calls := update l.calls self none }
  | taken {action : QueueAction Thread Item} {self : Thread} {item : Item} {rest : List Item}
      {wait : Wait} {callback : Bool}
      (performs : action.performs l.calls = some (self, .get wait callback))
      (head : l.items = item :: rest) :
      ListStep maxSize overwrite l action (.item item)
        { items := rest, calls := update l.calls self none }
  | refused {action : QueueAction Thread Item} {self : Thread} {call : QueueCall Item}
      {reason : QueueExceptionReason} (performs : action.performs l.calls = some (self, call))
      (gaveUp : action.gaveUp = true) (blocked : call.Blocked maxSize l.items)
      (keeps : call.isPut = true → overwrite = false) (refusal : call.refusal = some reason) :
      ListStep maxSize overwrite l action (.raised reason)
        { l with calls := update l.calls self none }
  | threw {action : QueueAction Thread Item} {self : Thread} {call : QueueCall Item}
      (performs : action.performs l.calls = some (self, call))
      (blocked : call.Blocked maxSize l.items) (given : call.callback = true) :
      ListStep maxSize overwrite l action .callbackRaised
        { l with calls := update l.calls self none }
  | waits {action : QueueAction Thread Item} {self : Thread} {call : QueueCall Item}
      (performs : action.performs l.calls = some (self, call))
      (blocked : call.Blocked maxSize l.items) :
      ListStep maxSize overwrite l action .waits
        { l with calls := update l.calls self (some call) }
  | roused {self : Thread} {call : QueueCall Item} (pending : l.calls self = some call) :
      ListStep maxSize overwrite l (.rouse self) .void l
  | cleared {self : Thread} (free : l.calls self = none) :
      ListStep maxSize overwrite l (.clear self) .void { l with items := [] }
  | sized {self : Thread} (free : l.calls self = none) :
      ListStep maxSize overwrite l (.size self) (.size l.items.length) l
  | emptied {self : Thread} (free : l.calls self = none) :
      ListStep maxSize overwrite l (.empty self) (.bool l.items.isEmpty) l
  | filled {self : Thread} (free : l.calls self = none) :
      ListStep maxSize overwrite l (.full self) (.bool (l.items.length = maxSize)) l

end Spec

section Refinement

variable {Thread Item : Type} {maxSize : Nat} {overwrite : Bool}

/-- The ring is well formed and holds the list; the same threads wait in the same calls. -/
structure HoldsList (m : QueueMonitor Thread Item maxSize overwrite)
    (l : ListQueue Thread Item) : Prop where
  wf : m.queue.WellFormed
  contents : m.queue.contents = l.items
  calls : m.calls = l.calls

variable {m m' : QueueMonitor Thread Item maxSize overwrite} {l : ListQueue Thread Item}
variable {self : Thread} {call : QueueCall Item} {action : QueueAction Thread Item}
variable {reply : QueueReply Item}

theorem HoldsList.size (holds : HoldsList m l) : m.queue.size = l.items.length := by
  rw [← holds.contents, BoundedQueue.contents_length]

theorem initial_holds_list (positive : 0 < maxSize) (buffer : Nat → Item) :
    HoldsList (QueueMonitor.initial buffer : QueueMonitor Thread Item maxSize overwrite)
      ListQueue.initial :=
  ⟨BoundedQueue.uninitialised_wellFormed positive buffer, rfl, rfl⟩

theorem HoldsList.blocked (holds : HoldsList m l) (unready : m.ready call = false) :
    call.Blocked maxSize l.items := by
  cases call with
  | put item wait callback =>
      simpa [QueueMonitor.ready, holds.size, QueueCall.Blocked] using unready
  | get wait callback =>
      simpa [QueueMonitor.ready, holds.size, QueueCall.Blocked] using unready

theorem HoldsList.take (holds : HoldsList m l) (nonempty : m.queue.size ≠ 0) :
    m.queue.take.2.WellFormed ∧ l.items = m.queue.take.1 :: m.queue.take.2.contents := by
  have got := BoundedQueue.get_of_nonempty nonempty
  obtain ⟨wf, contents⟩ := BoundedQueue.get_some holds.wf got
  exact ⟨wf, holds.contents.symm.trans contents⟩

theorem HoldsList.put (holds : HoldsList m l) (space : m.queue.size < maxSize) (item : Item)
    (wait : Wait) :
    (match wait with
      | .forever => m.queue.append item
      | .timed _ => m.queue.store item).WellFormed ∧
    (match wait with
      | .forever => m.queue.append item
      | .timed _ => m.queue.store item).contents = l.items ++ [item] := by
  rw [← holds.contents]
  cases wait with
  | forever =>
      rw [BoundedQueue.append_eq_store space]
      exact BoundedQueue.store_of_space holds.wf space item
  | timed timeoutMs => exact BoundedQueue.store_of_space holds.wf space item

variable [DecidableEq Thread] {timedOut throws : Bool} {wakes : Option Thread}

theorem HoldsList.finish (holds : HoldsList m l)
    (performs : action.performs l.calls = some (self, call)) (ready : m.ready call = true)
    (ran : m.finish self call wakes = some (m', reply)) :
    ∃ l', ListStep maxSize overwrite l action reply l' ∧ HoldsList m' l' := by
  have bounded := holds.wf.bounded
  unfold QueueMonitor.finish at ran
  cases call with
  | put item wait callback =>
      have room : m.queue.size ≠ maxSize := by simpa [QueueMonitor.ready] using ready
      have space : m.queue.size < maxSize := by omega
      obtain ⟨wf, contents⟩ := holds.put space item wait
      obtain ⟨notEmpty, _, result⟩ := Option.map_eq_some_iff.mp ran
      cases result
      refine ⟨_, .stored performs (holds.size ▸ space), wf, contents, ?_⟩
      simp only [QueueMonitor.back, holds.calls]
  | get wait callback =>
      have nonempty : m.queue.size ≠ 0 := by simpa [QueueMonitor.ready] using ready
      obtain ⟨wf, contents⟩ := holds.take nonempty
      obtain ⟨spaceAvailable, _, result⟩ := Option.map_eq_some_iff.mp ran
      cases result
      refine ⟨_, .taken performs contents, wf, rfl, ?_⟩
      simp only [QueueMonitor.back, holds.calls]

theorem HoldsList.give_up (holds : HoldsList m l)
    (performs : action.performs l.calls = some (self, call)) (gaveUp : action.gaveUp = true)
    (unready : m.ready call = false) (ran : m.giveUp self call wakes = some (m', reply)) :
    ∃ l', ListStep maxSize overwrite l action reply l' ∧ HoldsList m' l' := by
  have blocked := holds.blocked unready
  have back : HoldsList (m.back self) { l with calls := update l.calls self none } :=
    ⟨holds.wf, holds.contents, by simp only [QueueMonitor.back, holds.calls]⟩
  unfold QueueMonitor.giveUp at ran
  cases call with
  | put item wait callback =>
      cases wait with
      | forever => cases ran
      | timed timeoutMs =>
          simp only at ran
          split at ran
          · rename_i keeps
            cases ran
            exact ⟨_, .refused performs gaveUp blocked (fun _ => by simpa using keeps) rfl, back⟩
          · rename_i overwrites
            have replaces : overwrite = true := by simpa using overwrites
            have full : m.queue.size = maxSize := holds.size.trans blocked
            obtain ⟨wf, contents⟩ := BoundedQueue.store_of_full holds.wf full replaces item
            obtain ⟨notEmpty, _, result⟩ := Option.map_eq_some_iff.mp ran
            cases result
            rw [holds.contents] at contents
            exact ⟨_, .overwrote performs gaveUp blocked replaces, wf, contents, back.calls⟩
  | get wait callback =>
      cases wait with
      | forever => cases ran
      | timed timeoutMs =>
          cases ran
          exact ⟨_, .refused performs gaveUp blocked (fun puts => by cases puts) rfl, back⟩

theorem HoldsList.attempt (holds : HoldsList m l)
    (performs : action.performs l.calls = some (self, call))
    (gaveUp : timedOut = true → action.gaveUp = true)
    (ran : m.attempt self call timedOut throws wakes = some (m', reply)) :
    ∃ l', ListStep maxSize overwrite l action reply l' ∧ HoldsList m' l' := by
  unfold QueueMonitor.attempt at ran
  split at ran
  · rename_i ready
    exact holds.finish performs ready ran
  · rename_i unready
    simp only [Bool.not_eq_true] at unready
    have blocked := holds.blocked unready
    split at ran
    · rename_i raises
      cases ran
      refine ⟨_, .threw performs blocked (Bool.and_eq_true_iff.mp raises).1, holds.wf,
        holds.contents, ?_⟩
      simp only [QueueMonitor.back, holds.calls]
    · split at ran
      · rename_i expired
        exact holds.give_up performs (gaveUp expired) unready ran
      · cases ran
        refine ⟨_, .waits performs blocked, ?_⟩
        cases call <;>
          exact ⟨holds.wf, holds.contents, by simp only [QueueMonitor.sleep, holds.calls]⟩

theorem HoldsList.awake (holds : HoldsList m l) (awoke : m.awake self call = some m') :
    HoldsList m' l := by
  unfold QueueMonitor.awake at awoke
  cases call with
  | put => obtain ⟨set, _, rfl⟩ := Option.map_eq_some_iff.mp awoke; exact { holds with }
  | get => obtain ⟨set, _, rfl⟩ := Option.map_eq_some_iff.mp awoke; exact { holds with }

/-- Every step of the monitor is a step of the list with the same reply. -/
theorem HoldsList.step (holds : HoldsList m l) (move : m.Step action reply m') :
    ∃ l', ListStep maxSize overwrite l action reply l' ∧ HoldsList m' l' := by
  have positive : 0 < maxSize := Nat.lt_of_le_of_lt (Nat.zero_le _) holds.wf.consumer
  have size := holds.size
  unfold QueueMonitor.Step at move
  cases action with
  | enter self call throws wakes =>
      simp only [QueueMonitor.step, holds.calls] at move
      split at move
      · rename_i free
        exact holds.attempt (by simp [QueueAction.performs, free]) (by simp) move
      · cases move
  | resume self timedOut throws wakes =>
      simp only [QueueMonitor.step, holds.calls] at move
      split at move
      · cases move
      · rename_i call pending
        obtain ⟨woken, awoke, ran⟩ := Option.bind_eq_some_iff.mp move
        exact (holds.awake awoke).attempt (by simp [QueueAction.performs, pending]) id ran
  | rouse self =>
      simp only [QueueMonitor.step, holds.calls] at move
      split at move
      · cases move
      · rename_i pending
        obtain ⟨set, _, result⟩ := Option.map_eq_some_iff.mp move
        cases result
        exact ⟨l, .roused pending, holds.wf, holds.contents, rfl⟩
      · rename_i pending
        obtain ⟨set, _, result⟩ := Option.map_eq_some_iff.mp move
        cases result
        exact ⟨l, .roused pending, holds.wf, holds.contents, rfl⟩
  | clear self =>
      simp only [QueueMonitor.step, holds.calls, Option.isNone_iff_eq_none] at move
      split at move
      · rename_i free
        cases move
        exact ⟨_, .cleared free, m.queue.clear_wellFormed positive, rfl, rfl⟩
      · cases move
  | size self =>
      simp only [QueueMonitor.step, holds.calls, Option.isNone_iff_eq_none] at move
      split at move
      · rename_i free
        cases move
        rw [size]
        exact ⟨l, .sized free, holds⟩
      · cases move
  | empty self =>
      simp only [QueueMonitor.step, holds.calls, Option.isNone_iff_eq_none] at move
      split at move
      · rename_i free
        cases move
        rw [size]
        have same : decide (l.items.length = 0) = l.items.isEmpty := by
          cases l.items <;> simp
        rw [same]
        exact ⟨l, .emptied free, holds⟩
      · cases move
  | full self =>
      simp only [QueueMonitor.step, holds.calls, Option.isNone_iff_eq_none] at move
      split at move
      · rename_i free
        cases move
        rw [size]
        exact ⟨l, .filled free, holds⟩
      · cases move

end Refinement

/-- `bounded_queue` is a bounded list: whatever any number of threads do, the ring is
well formed, and the run is a run of the list that the ring holds in the end. -/
theorem bounded_queue_refines_list {Thread Item : Type} [DecidableEq Thread] {maxSize : Nat}
    {overwrite : Bool} (positive : 0 < maxSize) {buffer : Nat → Item}
    {trace : List (QueueAction Thread Item × QueueReply Item)}
    {m : QueueMonitor Thread Item maxSize overwrite}
    (run : MonitorRun anyStep (QueueMonitor.initial buffer) trace m) :
    m.queue.WellFormed ∧ ∃ l, Run (ListStep maxSize overwrite) anyStep ListQueue.initial trace l ∧
      m.queue.contents = l.items ∧ m.calls = l.calls := by
  have matched : ∀ (m : QueueMonitor Thread Item maxSize overwrite) l action reply m',
      HoldsList m l → m.Step action reply m' →
        ∃ l', ListStep maxSize overwrite l action reply l' ∧ HoldsList m' l' :=
    fun _ _ _ _ _ holds move => holds.step move
  obtain ⟨l, steps, holds⟩ := Run.simulate (fun _ _ _ _ _ => trivial) matched run
    (initial_holds_list positive buffer)
  exact ⟨holds.wf, l, steps, holds.contents, holds.calls⟩

/-- Two puts, a put that gives up and overwrites, and a get. -/
theorem bounded_queue_refines_list_of_overwrite :
    ∃ trace, ∃ m : QueueMonitor Nat Nat 2 true,
      MonitorRun anyStep (QueueMonitor.initial fun _ => 0) trace m ∧
      trace.map Prod.snd = [.void, .void, .waits, .void, .void, .item 2] ∧
      m.queue.WellFormed ∧
      ∃ l, Run (ListStep 2 true) anyStep ListQueue.initial trace l ∧
        m.queue.contents = l.items ∧ m.calls = l.calls := by
  obtain ⟨trace, m, run, tested⟩ := monitor_run_of_actions (fun _ _ => True)
    (QueueMonitor.initial fun _ => 0 : QueueMonitor Nat Nat 2 true)
    [.enter 0 (.put 1 .forever false) false none, .enter 0 (.putNonblocking 2) false none,
      .enter 1 (.putNonblocking 3) false none, .rouse 1, .resume 1 true false none,
      .enter 0 (.get .forever false) false none]
    (fun trace _ => trace.map Prod.snd = [.void, .void, .waits, .void, .void, .item 2])
    (by decide +kernel)
  have whole := run.unrestricted
  exact ⟨trace, m, whole, by simpa using tested,
    bounded_queue_refines_list (by decide) whole⟩

end AresCommon.DataStructures
