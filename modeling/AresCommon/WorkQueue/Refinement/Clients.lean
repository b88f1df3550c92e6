import AresCommon.WorkQueue.Representation

/-!
# The critical sections of client calls

One lemma for each critical section that a client call enters: on a state with
a meaning it has a result, and the result means what the abstract operation
makes of the meaning.
-/

namespace AresCommon.WorkQueue

open AresCommon.DataStructures AresCommon.DataStructures.Slist
open AresCommon.Synchronization AresCommon.Foundation.Transition
open Function (update)

set_option autoImplicit false

section Sections

variable {s : State} {a : AbstractState} (rep : Reflects s a)
include rep

theorem Reflects.calls_after (thread : Thread) (call : Call) :
    update s.calls thread call = update a.calls thread call := by
  rw [rep.calls]

/-! ## Submission -/

theorem Reflects.append_pending (queue : QueueId) {work : WorkRef}
    (fresh : ∀ other, work ∉ a.pending other)
    (disjoint : ∀ {node : WorkRef} {other : QueueId}, node ∈ a.pending queue →
      node ∈ a.pending other → queue = other) :
    Reflects
      (s.setPending queue (SysSlist.append s.nodes (s.queues queue).pending work))
      { a with pending := update a.pending queue (a.pending queue ++ [work]) } := by
  have list := (rep.queues queue).pending
  apply rep.set_pending (list.append (fresh queue))
  intro other away node member
  apply append_frame list
  · rintro rfl
    exact fresh other member
  · intro here
    exact away (disjoint here member).symm

theorem Reflects.submit_locked_member (self : Thread) (work : WorkRef) (queue : QueueId) :
    s.submitLockedMember queue self work =
      match a.refusal self queue with
      | some rc => (s, rc)
      | none =>
          ((s.setPending queue
            (SysSlist.append s.nodes (s.queues queue).pending work)).notifyLocked queue, 1) := by
  simp only [State.submitLockedMember, AbstractState.refusal, (rep.queues queue).flags,
    (rep.queues queue).task, queue_flags_test, AbstractState.queue, ne_eq, decide_not]
  split_ifs <;> rfl

theorem Reflects.submit_locked_accepted (ok : WellFormed a) {self : Thread} {work : UserId}
    {queue : Option QueueId} {target : QueueId}
    (admitted : a.admission self work queue = .ok target) :
    ∃ s', s.submitLocked self (.user work) queue =
        some (s', if a.running (.user work) then 2 else 1, some target) ∧
      Reflects s' (a.accept work target) := by
  obtain ⟨uncancelled, unqueued, goes, taken⟩ := AbstractState.admission_ok admitted
  have fresh : ∀ other, WorkRef.user work ∉ a.pending other := by
    intro other member
    have queued := ((ok.items.pending_user work other).mp member).1
    simp [unqueued] at queued
  have notified := (rep.append_pending target fresh ok.disjoint).notify_locked target
  have flagged := notified.write_user work
    (fun w => { w with flags := flagSet w.flags workQueuedBit }) (a.running (.user work))
    (a.canceling work) true (a.home work) (a.handler work) (by simp)
  have placed := flagged.write_user work (fun w => { w with queue := some target })
    (a.running (.user work)) (a.canceling work) true (some target) (a.handler work) (by simp)
  refine ⟨_, ?_, by simpa [AbstractState.accept] using placed⟩
  have redirected : (if a.running (.user work) = true then (a.home work, (2 : Int))
      else (if queue = none then a.home work else queue, 1)) =
        (some target, if a.running (.user work) then 2 else 1) := by
    rw [← goes, AbstractState.destination]
    cases queue <;> split <;> simp
  have notNegative : ¬(1 : Int) < 0 := by decide
  simp only [State.submitLocked, rep.user_work, work_flags_test, uncancelled, unqueued,
    redirected, rep.submit_locked_member, taken, notNegative, if_true, if_false,
    Bool.false_eq_true, Bool.not_false]
  rfl

omit rep in
theorem WellFormed.destination_known (ok : WellFormed a) {work : UserId}
    {queue : Option QueueId} (known : queue ≠ none ∨ a.home work ≠ none) :
    ∃ target, a.destination work queue = some target := by
  unfold AbstractState.destination
  have located := ok.items.located work
  cases queue <;> cases home : a.home work <;> split <;> simp_all

theorem Reflects.submit_locked_rejected (ok : WellFormed a) {self : Thread} {work : UserId}
    {queue : Option QueueId} {rc : Int} (known : queue ≠ none ∨ a.home work ≠ none)
    (rejected : a.admission self work queue = .error rc) :
    s.submitLocked self (.user work) queue = some (s, rc, none) := by
  by_cases canceling : a.canceling work
  · simp only [AbstractState.admission, canceling, if_true, Except.error.injEq] at rejected
    simp [State.submitLocked, rep.user_work, canceling, ← rejected]
  by_cases queued : a.queued work
  · simp only [AbstractState.admission, canceling, queued, if_true, Bool.false_eq_true, if_false,
      Except.error.injEq] at rejected
    simp [State.submitLocked, rep.user_work, canceling, queued, ← rejected]
  simp only [AbstractState.admission, canceling, queued, Bool.false_eq_true, if_false] at rejected
  obtain ⟨target, goes⟩ := ok.destination_known known
  simp only [goes] at rejected
  cases refused : a.refusal self target with
  | none => simp [refused] at rejected
  | some code =>
      simp only [refused, Except.error.injEq] at rejected
      subst rejected
      have negative := AbstractState.refusal_negative refused
      rw [AbstractState.destination] at goes
      by_cases running : a.running (.user work)
      · simp only [running, if_true] at goes
        simp [State.submitLocked, rep.user_work, canceling, queued, running, goes,
          rep.submit_locked_member, refused, negative]
      · cases queue with
        | none =>
            simp only [running, Bool.false_eq_true, if_false] at goes
            have home : a.home work = some target := by simpa using goes
            simp [State.submitLocked, rep.user_work, canceling, queued, running, home,
              rep.submit_locked_member, refused, negative]
        | some queue =>
            have same : queue = target := by simpa [running] using goes
            subst same
            simp [State.submitLocked, rep.user_work, canceling, queued, running,
              rep.submit_locked_member, refused, negative]

def State.entry (s : State) (self : Thread) (work : UserId) (queue : Option QueueId) :
    Option (State × Int × Option QueueId) :=
  match queue with
  | some queue => s.submitLocked self (.user work) (some queue)
  | none => s.resubmit self (.user work)

theorem Reflects.entry_rejected (ok : WellFormed a) {self : Thread} {work : UserId}
    {queue : Option QueueId} {rc : Int} (rejected : a.admission self work queue = .error rc) :
    s.entry self work queue = some (s, rc, none) := by
  cases queue with
  | some queue => exact rep.submit_locked_rejected ok (.inl (by simp)) rejected
  | none =>
      unfold State.entry State.resubmit
      cases home : a.home work with
      | none =>
          obtain ⟨unqueued, resting, uncancelled⟩ := ok.items.resting home
          have code : rc = -eInval := by
            simpa [AbstractState.admission, AbstractState.destination, unqueued, resting,
              uncancelled, home, eq_comm] using rejected
          simp [rep.user_work, home, code]
      | some target =>
          have known : a.home work ≠ none := by simp [home]
          simp only [rep.user_work, known, if_false]
          exact rep.submit_locked_rejected ok (.inr known) rejected

theorem Reflects.entry_accepted (ok : WellFormed a) {self : Thread} {work : UserId}
    {queue : Option QueueId} {target : QueueId}
    (admitted : a.admission self work queue = .ok target) :
    ∃ s', s.entry self work queue =
        some (s', if a.running (.user work) then 2 else 1, some target) ∧
      Reflects s' (a.accept work target) := by
  have accepted := rep.submit_locked_accepted ok admitted
  cases queue with
  | some queue => exact accepted
  | none =>
      have known : a.home work ≠ none := by
        intro home
        have goes := (AbstractState.admission_ok admitted).2.2.1
        simp [AbstractState.destination, home] at goes
      simpa only [State.entry, State.resubmit, rep.user_work, known, if_false] using accepted

/-! ## Flushing -/

theorem Reflects.construct_flusher (ok : WellFormed a) {thread : Thread}
    (free : a.calls thread = .idle) : Reflects (s.constructFlusher thread) a := by
  have nowhere := ok.flushers.absent fun work queue =>
    show a.calls thread ≠ .flushing work queue by simp [free]
  obtain ⟨unlisted, _, resting, ungiven⟩ := nowhere
  have landed : a.awaitsFlush thread = false := by simp [AbstractState.awaitsFlush, free]
  have unchanged : update s.works (.flusher thread) (.ofHandler .handleFlush) = s.works := by
    apply Function.update_eq_self_iff.mpr
    rw [rep.flusher_work, resting, landed, work_flags_none]
    rfl
  constructor
  case user_work => simpa only [State.constructFlusher, unchanged] using rep.user_work
  case flusher_work => simpa only [State.constructFlusher, unchanged] using rep.flusher_work
  case queues =>
    intro queue
    apply (rep.queues queue).frame
    intro node member
    apply Function.update_of_ne
    rintro rfl
    exact unlisted queue member
  case flusher_sem =>
    intro other
    by_cases same : other = thread
    · subst same
      simp [State.constructFlusher, State.setFlusherSem, ungiven]
    · simpa [State.constructFlusher, State.setFlusherSem, same] using rep.flusher_sem other
  case canceller_sem => exact rep.canceller_sem
  case canceller_work => exact rep.canceller_work
  case cancels => exact rep.cancels
  case workers => exact rep.workers
  case loops => exact rep.loops
  case calls => exact rep.calls

theorem Reflects.insert_pending (ok : WellFormed a) {work : UserId} {queue : QueueId}
    {thread : Thread} (free : a.calls thread = .idle)
    (waiting : WorkRef.user work ∈ a.pending queue) :
    Reflects
      (s.setPending queue
        (SysSlist.insert s.nodes (s.queues queue).pending (some (.user work)) (.flusher thread)))
      { a with
        pending := update a.pending queue
          (insertAfter (.user work) (.flusher thread) (a.pending queue)) } := by
  have fresh := (ok.flushers.absent fun work queue =>
    show a.calls thread ≠ .flushing work queue by simp [free]).1
  have list := (rep.queues queue).pending
  apply rep.set_pending (list.insert waiting (fresh queue))
  intro other away node member
  apply insert_frame list waiting
  · rintro rfl
    exact fresh other member
  · intro here
    exact away (ok.disjoint here member).symm

theorem Reflects.prepend_pending (ok : WellFormed a) {queue : QueueId} {thread : Thread}
    (free : a.calls thread = .idle) :
    Reflects
      (s.setPending queue
        (SysSlist.prepend s.nodes (s.queues queue).pending (.flusher thread)))
      { a with pending := update a.pending queue (.flusher thread :: a.pending queue) } := by
  have fresh := (ok.flushers.absent fun work queue =>
    show a.calls thread ≠ .flushing work queue by simp [free]).1
  have list := (rep.queues queue).pending
  apply rep.set_pending (list.prepend (fresh queue))
  intro other away node member
  apply prepend_frame
  rintro rfl
  exact fresh other member

theorem Reflects.flusher_locked_eq (work : UserId) (queue : QueueId) (thread : Thread) :
    s.flusherLocked queue (.user work) (.flusher thread) =
      (s.initFlusher (.flusher thread)).setPending queue
        (if a.queued work then
          SysSlist.insert s.nodes (s.queues queue).pending (some (.user work)) (.flusher thread)
        else SysSlist.prepend s.nodes (s.queues queue).pending (.flusher thread)) := by
  have marked : flagTest ((s.initFlusher (.flusher thread)).works (.user work)).flags
      workQueuedBit = a.queued work := by
    simp [State.initFlusher, State.workFlagSet, State.modifyWork, rep.user_work]
  simp only [State.flusherLocked, marked]
  split <;> rfl

theorem Reflects.flusher_locked (ok : WellFormed a) {work : UserId} {queue : QueueId}
    {thread : Thread} (free : a.calls thread = .idle)
    (linked : a.queued work = true → WorkRef.user work ∈ a.pending queue) :
    Reflects
      (((s.flusherLocked queue (.user work) (.flusher thread)).notifyLocked queue).setCall
        thread (.flushing work queue))
      (a.flush work queue thread) := by
  have nowhere := ok.flushers.absent fun work queue =>
    show a.calls thread ≠ .flushing work queue by simp [free]
  obtain ⟨_, _, resting, ungiven⟩ := nowhere
  have landed : a.awaitsFlush thread = false := by simp [AbstractState.awaitsFlush, free]
  rw [rep.flusher_locked_eq]
  constructor
  case user_work =>
    intro other
    have differs : WorkRef.user other ≠ WorkRef.flusher thread := by simp
    simp only [State.setCall, State.notifyLocked, State.modifyQueue, State.setPending,
      State.initFlusher, State.workFlagSet, State.modifyWork, Function.update_of_ne differs]
    exact rep.user_work other
  case flusher_work =>
    intro other
    simp only [State.setCall, State.notifyLocked, State.modifyQueue, State.setPending,
      State.initFlusher, State.workFlagSet, State.modifyWork]
    by_cases same : other = thread
    · subst same
      simp [rep.flusher_work, resting, AbstractState.flush, AbstractState.awaitsFlush]
    · have before := rep.flusher_work other
      simpa [same, AbstractState.flush, AbstractState.awaitsFlush] using before
  case queues =>
    unfold AbstractState.flush
    by_cases queued : a.queued work
    · simp only [queued, if_true]
      exact ((rep.insert_pending ok free (linked queued)).notify_locked queue).queues
    · simp only [queued, Bool.false_eq_true, if_false]
      exact ((rep.prepend_pending ok free).notify_locked queue).queues
  case flusher_sem =>
    intro other
    have same : update a.flusherGiven thread false = a.flusherGiven := by
      rw [← ungiven, Function.update_eq_self]
    simp only [AbstractState.flush, same]
    exact rep.flusher_sem other
  case canceller_sem => exact rep.canceller_sem
  case canceller_work =>
    intro other item cancelling
    apply rep.canceller_work other item
    by_cases same : other = thread
    · simp [AbstractState.flush, same] at cancelling
    · simpa [AbstractState.flush, same] using cancelling
  case cancels => exact rep.cancels
  case workers => exact rep.workers
  case loops => exact rep.loops
  case calls => exact rep.calls_after thread _

theorem Reflects.work_flush_locked (ok : WellFormed a) (work : UserId) {thread : Thread}
    (free : a.calls thread = .idle) :
    if a.queued work || a.running (.user work) then
      ∃ queue s', a.home work = some queue ∧
        s.workFlushLocked (.user work) (.flusher thread) = some (s', true) ∧
        Reflects (s'.setCall thread (.flushing work queue)) (a.flush work queue thread)
    else s.workFlushLocked (.user work) (.flusher thread) = some (s, false) := by
  unfold State.workFlushLocked
  simp only [rep.user_work, work_flags_flushable]
  split
  · rename_i active
    obtain ⟨queue, home⟩ := ok.items.located work (by simpa using active)
    refine ⟨queue, _, home, by rw [home], ?_⟩
    apply rep.flusher_locked ok free
    intro waiting
    exact (ok.items.pending_user work queue).mpr ⟨waiting, home⟩
  · rfl

omit rep in
theorem given_of_taken {given : Bool} {sem taken : Semaphore 1}
    (count : sem.getCount = given.toNat) (took : sem.blockingLock = some taken) :
    given = true ∧ taken.getCount = 0 := by
  have counted := Semaphore.blocking_lock_count took
  cases given with
  | false => simp [count] at counted
  | true =>
      simp only [count, Bool.toNat_true] at counted
      exact ⟨rfl, by omega⟩

theorem Reflects.flusher_taken {thread : Thread} {work : UserId} {queue : QueueId}
    {sem : Semaphore 1} (call : a.calls thread = .flushing work queue)
    (took : (s.flusherSems thread).blockingLock = some sem) :
    a.flusherGiven thread = true ∧
      Reflects ((s.setFlusherSem thread sem).setCall thread .idle)
        { a with
          flusherGiven := update a.flusherGiven thread false
          calls := update a.calls thread .idle } := by
  obtain ⟨given, empty⟩ := given_of_taken (rep.flusher_sem thread) took
  have landed : a.awaitsFlush thread = false := by
    simp [AbstractState.awaitsFlush, call, given]
  refine ⟨given, ?_⟩
  exact { rep with
    flusher_work := by
      refine rep.flusher_works landed ?_ ?_ ?_ fun other apart => ?_
      · simp [AbstractState.awaitsFlush]
      · rfl
      · rfl
      · simp [apart]
    flusher_sem := by
      intro other
      by_cases same : other = thread
      · subst same
        simp [State.setCall, State.setFlusherSem, empty]
      · simpa [State.setCall, State.setFlusherSem, same] using rep.flusher_sem other
    canceller_work := by
      intro other item cancelling
      apply rep.canceller_work other item
      by_cases same : other = thread
      · simp [same] at cancelling
      · simpa [same] using cancelling
    calls := rep.calls_after thread _ }

/-! ## Cancelling -/

theorem Reflects.construct_canceller (ok : WellFormed a) {thread : Thread}
    (free : a.calls thread = .idle) : Reflects (s.constructCanceller thread) a := by
  have unlinked : thread ∉ a.cancels := by
    intro member
    obtain ⟨⟨work, call⟩, _⟩ := (ok.cancellers.linked thread).mp member
    simp [free] at call
  have ungiven : a.cancellerGiven thread = false := by
    by_contra given
    obtain ⟨work, call⟩ := ok.cancellers.given thread (by simpa using given)
    simp [free] at call
  exact { rep with
    canceller_sem := by
      intro other
      by_cases same : other = thread
      · subst same
        simp [State.constructCanceller, State.setCanceller, WorkCanceller.fresh, ungiven]
      · simpa [State.constructCanceller, State.setCanceller, same] using rep.canceller_sem other
    canceller_work := by
      intro other work call
      have differs : other ≠ thread := by
        rintro rfl
        simp [free] at call
      simpa [State.constructCanceller, State.setCanceller, differs] using
        rep.canceller_work other work call
    cancels := by
      apply rep.cancels.frame
      intro other member
      exact Function.update_of_ne (ne_of_mem_of_not_mem member unlinked) _ _ }

theorem Reflects.find_and_remove {fuel : Nat} {work : WorkRef} {queue : QueueId}
    (disjoint : ∀ {node : WorkRef} {other : QueueId}, node ∈ a.pending queue →
      node ∈ a.pending other → queue = other)
    {found : Option WorkRef} {list : Links WorkRef × SysSlist WorkRef}
    (ran : SysSlist.findAndRemove fuel s.nodes (s.queues queue).pending work =
      some (found, list)) :
    Reflects (s.setPending queue list)
      { a with pending := update a.pending queue ((a.pending queue).erase work) } := by
  obtain ⟨erased, frame⟩ := Slist.find_and_remove (rep.queues queue).pending ran
  apply rep.set_pending erased
  intro other away node member
  apply frame
  intro here
  exact away (disjoint here member).symm

omit rep in
theorem erase_everywhere (ok : WellFormed a) {work : UserId} {queue : QueueId}
    (home : a.home work = some queue) :
    update a.pending queue ((a.pending queue).erase (.user work)) =
      fun other => (a.pending other).erase (.user work) := by
  funext other
  by_cases same : other = queue
  · subst same
    simp
  · have absent : WorkRef.user work ∉ a.pending other := by
      intro member
      have there := ((ok.items.pending_user work other).mp member).2
      exact same (Option.some.inj (there.symm.trans home))
    simp [same, List.erase_of_not_mem absent]

theorem Reflects.remove_locked (ok : WellFormed a) {fuel : Nat} {work : UserId} {s' : State}
    (ran : s.removeLocked fuel (a.home work) (.user work) = some s') :
    Reflects s' { a with
      queued := update a.queued work false
      pending := fun queue => (a.pending queue).erase (.user work) } := by
  have cleared := rep.write_user work
    (fun w => { w with flags := flagClear w.flags workQueuedBit }) (a.running (.user work))
    (a.canceling work) false (a.home work) (a.handler work) (by simp)
  simp only [Function.update_eq_self] at cleared
  simp only [State.removeLocked, rep.user_work, work_flags_test] at ran
  by_cases queued : a.queued work
  · obtain ⟨queue, home⟩ := ok.items.located work (.inl queued)
    simp only [queued, home, if_true, Option.map_eq_some_iff] at ran
    obtain ⟨⟨found, list⟩, searched, rfl⟩ := ran
    rw [← erase_everywhere ok home]
    exact cleared.find_and_remove ok.disjoint searched
  · simp only [queued, Bool.false_eq_true, if_false, Option.some.injEq] at ran
    subst ran
    have unlisted : (fun queue => (a.pending queue).erase (.user work)) = a.pending := by
      funext queue
      apply List.erase_of_not_mem
      intro member
      exact queued ((ok.items.pending_user work queue).mp member).1
    rw [unlisted]
    exact cleared

omit rep in
theorem cancel_async_locked_some {fuel : Nat} {work : WorkRef} {s' : State} {ret : Int}
    (ran : s.cancelAsyncLocked fuel work = some (s', ret)) :
    ∃ middle, (if flagTest (s.works work).flags workCancelingBit then some s
        else s.removeLocked fuel (s.works work).queue work) = some middle ∧
      if middle.workBusyGetLocked work ≠ 0 then
        s' = middle.workFlagSet work workCancelingBit ∧ ret = s'.workBusyGetLocked work
      else s' = middle ∧ ret = middle.workBusyGetLocked work := by
  unfold State.cancelAsyncLocked at ran
  obtain ⟨middle, removed, marked⟩ := Option.bind_eq_some_iff.mp ran
  refine ⟨middle, removed, ?_⟩
  dsimp only at marked
  split at marked <;> cases marked
  · rename_i active
    rw [if_pos active]
    exact ⟨rfl, rfl⟩
  · rename_i idle
    rw [if_neg idle]
    exact ⟨rfl, rfl⟩

theorem Reflects.cancel_removal (ok : WellFormed a) {fuel : Nat} {work : UserId} {middle : State}
    (removed : (if flagTest (s.works (.user work)).flags workCancelingBit then some s
      else s.removeLocked fuel (s.works (.user work)).queue (.user work)) = some middle) :
    Reflects middle { a with
      queued := update a.queued work false
      pending := fun queue => (a.pending queue).erase (.user work) } := by
  simp only [rep.user_work, work_flags_test] at removed
  by_cases cancelled : a.canceling work
  · simp only [cancelled, if_true, Option.some.injEq] at removed
    subst removed
    have unqueued := (ok.items.canceling work cancelled).2
    have unlisted : (fun queue => (a.pending queue).erase (.user work)) = a.pending := by
      funext queue
      apply List.erase_of_not_mem
      intro member
      have queued := ((ok.items.pending_user work queue).mp member).1
      simp [unqueued] at queued
    rw [unlisted, ← unqueued, Function.update_eq_self]
    exact rep
  · simp only [cancelled, Bool.false_eq_true, if_false] at removed
    exact rep.remove_locked ok removed

theorem Reflects.cancel_async_locked (ok : WellFormed a) {fuel : Nat} {work : UserId}
    {s' : State} {ret : Int} (ran : s.cancelAsyncLocked fuel (.user work) = some (s', ret)) :
    Reflects s' (a.cancel work) ∧ ret = if a.running (.user work) then 3 else 0 := by
  have canceling := ok.items.canceling work
  obtain ⟨middle, removed, marked⟩ := cancel_async_locked_some ran
  have taken := rep.cancel_removal ok removed
  have flagged := taken.write_user work
    (fun w => { w with flags := flagSet w.flags workCancelingBit }) (a.running (.user work))
    true false (a.home work) (a.handler work) (by simp)
  have busy : middle.workBusyGetLocked (.user work) =
      if a.running (.user work) then (if a.canceling work then 3 else 1) else 0 := by
    simp only [State.workBusyGetLocked, taken.user_work, work_flags_masked,
      Function.update_self]
    cases running : a.running (.user work) <;> cases cancelled : a.canceling work <;>
      simp_all <;> rfl
  by_cases running : a.running (.user work)
  · have active : middle.workBusyGetLocked (.user work) ≠ 0 := by
      simp only [busy, running, if_true]
      split <;> decide
    rw [if_pos active] at marked
    obtain ⟨rfl, code⟩ := marked
    have meaning : Reflects (middle.workFlagSet (.user work) workCancelingBit)
        (a.cancel work) := by
      simp only [Function.update_eq_self, Function.update_idem] at flagged
      simp only [AbstractState.cancel, running]
      exact flagged
    refine ⟨meaning, ?_⟩
    rw [code, State.workBusyGetLocked, meaning.user_work, work_flags_masked]
    simp [AbstractState.cancel, running, work_flags_busy]
  · have idle : ¬middle.workBusyGetLocked (.user work) ≠ 0 := by simp [busy, running]
    rw [if_neg idle] at marked
    obtain ⟨rfl, code⟩ := marked
    have uncancelled : a.canceling work = false := by
      by_contra cancelled
      exact running (canceling (by simpa using cancelled)).1
    constructor
    · have same : update a.canceling work (a.running (.user work)) = a.canceling := by
        rw [Function.update_eq_self_iff, uncancelled]
        simpa using running
      unfold AbstractState.cancel
      rw [same]
      exact taken
    · rw [code, busy]
      simp [running]

theorem Reflects.cancel_async_terminates (ok : WellFormed a) (work : UserId) :
    ∃ fuel outcome, s.cancelAsyncLocked fuel (.user work) = some outcome := by
  have removal : ∃ fuel middle, (if flagTest (s.works (.user work)).flags workCancelingBit
      then some s else s.removeLocked fuel (s.works (.user work)).queue (.user work)) =
        some middle := by
    simp only [rep.user_work, work_flags_test]
    by_cases cancelled : a.canceling work
    · exact ⟨0, s, by simp [cancelled]⟩
    · by_cases queued : a.queued work
      · obtain ⟨queue, home⟩ := ok.items.located work (.inl queued)
        have list := (rep.queues queue).pending
        obtain ⟨outcome, found⟩ :=
          remove_first_terminates list (fun test => test = .user work) (Nat.le_refl _)
        refine ⟨(a.queue queue).pending.length,
          (s.workFlagClear (.user work) workQueuedBit).setPending queue outcome.2, ?_⟩
        have searched : SysSlist.findAndRemove (a.queue queue).pending.length
            (s.workFlagClear (.user work) workQueuedBit).nodes
            ((s.workFlagClear (.user work) workQueuedBit).queues queue).pending (.user work) =
              some outcome := found
        simp [State.removeLocked, rep.user_work, cancelled, queued, home, searched]
      · exact ⟨0, s.workFlagClear (.user work) workQueuedBit,
          by simp [State.removeLocked, rep.user_work, cancelled, queued]⟩
  obtain ⟨fuel, middle, removed⟩ := removal
  refine ⟨fuel, ?_⟩
  unfold State.cancelAsyncLocked
  rw [removed]
  simp only [Option.bind_eq_bind, Option.bind_some]
  split
  · exact ⟨_, rfl⟩
  · exact ⟨_, rfl⟩

theorem Reflects.init_canceller (ok : CancellersOk a) (work : UserId) {thread : Thread}
    (free : a.calls thread = .idle) :
    Reflects ((s.initCanceller thread (.user work)).setCall thread (.cancelling work))
      (a.awaitCancel work thread) := by
  have unlinked : thread ∉ a.cancels := by
    intro member
    obtain ⟨⟨item, call⟩, _⟩ := (ok.linked thread).mp member
    simp [free] at call
  have ungiven : a.cancellerGiven thread = false := by
    by_contra given
    obtain ⟨item, call⟩ := ok.given thread (by simpa using given)
    simp [free] at call
  have landed : a.awaitsFlush thread = false := by simp [AbstractState.awaitsFlush, free]
  exact { rep with
    flusher_work := by
      refine rep.flusher_works landed ?_ ?_ ?_ fun other apart => ?_
      · simp [AbstractState.awaitsFlush, AbstractState.awaitCancel]
      · rfl
      · rfl
      · simp [apart, AbstractState.awaitCancel]
    canceller_sem := by
      intro other
      have before := rep.canceller_sem other
      by_cases same : other = thread
      · subst same
        simpa [State.setCall, State.initCanceller, State.setCanceller, AbstractState.awaitCancel,
          ungiven] using before
      · simpa [State.setCall, State.initCanceller, State.setCanceller, AbstractState.awaitCancel,
          same] using before
    canceller_work := by
      intro other item cancelling
      by_cases same : other = thread
      · subst same
        have item : work = item := by simpa [AbstractState.awaitCancel] using cancelling
        simp [State.setCall, State.initCanceller, State.setCanceller, item]
      · have before := rep.canceller_work other item
        simp only [AbstractState.awaitCancel, Function.update_of_ne same] at cancelling
        simpa [State.setCall, State.initCanceller, State.setCanceller, same] using
          before cancelling
    cancels := rep.cancels.append unlinked
    calls := rep.calls_after thread _ }

theorem Reflects.canceller_taken {thread : Thread} {work : UserId} {sem : Semaphore 1}
    (call : a.calls thread = .cancelling work)
    (took : (s.cancellers thread).sem.blockingLock = some sem) :
    a.cancellerGiven thread = true ∧
      Reflects
        ((s.setCanceller thread { s.cancellers thread with sem := sem }).setCall thread .idle)
        { a with
          cancellerGiven := update a.cancellerGiven thread false
          calls := update a.calls thread .idle } := by
  obtain ⟨given, empty⟩ := given_of_taken (rep.canceller_sem thread) took
  have landed : a.awaitsFlush thread = false := by simp [AbstractState.awaitsFlush, call]
  refine ⟨given, ?_⟩
  exact { rep with
    flusher_work := by
      refine rep.flusher_works landed ?_ ?_ ?_ fun other apart => ?_
      · simp [AbstractState.awaitsFlush]
      · rfl
      · rfl
      · simp [apart]
    canceller_sem := by
      intro other
      by_cases same : other = thread
      · subst same
        simp [State.setCall, State.setCanceller, empty]
      · simpa [State.setCall, State.setCanceller, same] using rep.canceller_sem other
    canceller_work := by
      intro other item cancelling
      have differs : other ≠ thread := by
        rintro rfl
        simp at cancelling
      simp only [Function.update_of_ne differs] at cancelling
      simpa [State.setCall, State.setCanceller, differs] using
        rep.canceller_work other item cancelling
    calls := rep.calls_after thread _ }

/-! ## Draining, stopping, joining -/

theorem Reflects.queue_drain (self : Thread) (queue : QueueId) (plug : Bool) :
    s.queueDrain self queue plug =
      if !a.started queue then (s, .just (.int (-eNoDev)))
      else if a.busy queue || a.draining queue || plug || !(a.pending queue).isEmpty then
        (((let s := s.queueFlagSet queue workQueueDrainBit
          if plug then s.queueFlagSet queue workQueuePluggedBit else s).notifyLocked
            queue).setCall self (.draining queue), .just .waits)
      else (s, .just (.int 0)) := by
  have here := rep.queues queue
  simp only [State.queueDrain, here.flags, here.pending.is_empty, queue_flags_test,
    queue_flags_unsettled, AbstractState.queue]

theorem Reflects.drain_requested {self : Thread} (free : a.calls self = .idle)
    (queue : QueueId) (plug : Bool) :
    Reflects
      (((let s := s.queueFlagSet queue workQueueDrainBit
        if plug then s.queueFlagSet queue workQueuePluggedBit else s).notifyLocked
          queue).setCall self (.draining queue))
      (a.requestDrain queue plug self) := by
  have landed : a.awaitsFlush self = false := by simp [AbstractState.awaitsFlush, free]
  have drained := rep.write_flags queue (flagSet · workQueueDrainBit) (a.started queue)
    (a.busy queue) true (a.plugged queue) (a.stopping queue) (a.noYield queue) (by simp)
  simp only [Function.update_eq_self] at drained
  cases plug with
  | false =>
      have notified := (drained.notify_locked queue).set_call landed
        (.inr (.inl ⟨queue, rfl⟩))
      have same : update a.plugged queue (a.plugged queue || false) = a.plugged := by simp
      simp only [AbstractState.requestDrain, same]
      exact notified
  | true =>
      have plugged := drained.write_flags queue (flagSet · workQueuePluggedBit)
        (a.started queue) (a.busy queue) true true (a.stopping queue) (a.noYield queue)
        (by simp)
      simp only [Function.update_eq_self, Function.update_idem] at plugged
      have notified := (plugged.notify_locked queue).set_call landed
        (.inr (.inl ⟨queue, rfl⟩))
      simp only [AbstractState.requestDrain, Bool.or_true]
      exact notified

theorem Reflects.drain_taken {thread : Thread} {queue : QueueId} {token : UInt8}
    {rest : TokenQueue} (call : a.calls thread = .draining queue)
    (got : (s.queues queue).drainq.get = some (token, rest)) :
    a.drained queue = true ∧ token = 1 ∧
      Reflects
        ((s.modifyQueue queue fun q => { q with drainq := rest }).setCall thread .idle)
        { a with
          drained := update a.drained queue false
          calls := update a.calls thread .idle } := by
  obtain ⟨present, one, empty⟩ := (rep.queues queue).drainq.get got
  have landed : a.awaitsFlush thread = false := by simp [AbstractState.awaitsFlush, call]
  have taken := rep.write_drainq queue (fun _ => rest) empty
  exact ⟨present, one, taken.set_call landed (.inl rfl)⟩

theorem Reflects.unplugged (queue : QueueId) :
    Reflects
      (s.modifyQueue queue fun q =>
        { q with flags := flagClear (s.queues queue).flags workQueuePluggedBit })
      { a with plugged := update a.plugged queue false } := by
  have cleared := rep.write_flags queue
    (fun _ => flagClear (s.queues queue).flags workQueuePluggedBit) (a.started queue)
    (a.busy queue) (a.draining queue) false (a.stopping queue) (a.noYield queue)
    (by simp [(rep.queues queue).flags, AbstractState.queue])
  simpa only [Function.update_eq_self] using cleared

theorem Reflects.stop (self : Thread) (queue : QueueId) (timeout : Option Nat) :
    s.stop self queue timeout =
      if !a.started queue then (s, .just (.int (-eAlready)))
      else if !a.plugged queue then (s, .just (.int (-eBusy)))
      else (((s.queueFlagSet queue workQueueStopBit).notifyLocked queue).setCall self
        (.joining queue timeout), .just .waits) := by
  simp only [State.stop, (rep.queues queue).flags, queue_flags_test, AbstractState.queue]

theorem Reflects.stop_requested {self : Thread} (free : a.calls self = .idle)
    (queue : QueueId) (timeout : Option Nat) :
    Reflects
      (((s.queueFlagSet queue workQueueStopBit).notifyLocked queue).setCall self
        (.joining queue timeout))
      (a.requestStop queue timeout self) := by
  have landed : a.awaitsFlush self = false := by simp [AbstractState.awaitsFlush, free]
  have stopping := rep.write_flags queue (flagSet · workQueueStopBit) (a.started queue)
    (a.busy queue) (a.draining queue) (a.plugged queue) true (a.noYield queue) (by simp)
  simp only [Function.update_eq_self] at stopping
  exact (stopping.notify_locked queue).set_call landed (.inr (.inr ⟨queue, timeout, rfl⟩))

theorem Reflects.write_task (queue : QueueId) (joinable : Bool) :
    Reflects
      (s.modifyQueue queue fun q => { q with thread := { a.task queue with joinable := joinable } })
      { a with task := update a.task queue { a.task queue with joinable := joinable } } :=
  { rep with
    queues := by
      have before := rep.queues queue
      refine rep.modify_queue ?_ ?_
      · refine { before with task := ?_ }
        simp [AbstractState.queue]
      · intro other away
        simp [AbstractState.queue, away] }

theorem Reflects.joined {self : Thread} {queue : QueueId} {timeout : Option Nat}
    {expired : Bool} {s' : State} {output : Output}
    (call : a.calls self = .joining queue timeout)
    (ran : s.join self queue timeout expired = some (s', output)) :
    ∃ reply joinable, output = .just reply ∧
      Reflects s' { a with
        calls := update a.calls self .idle
        task := update a.task queue { a.task queue with joinable := joinable } } := by
  have landed : a.awaitsFlush self = false := by simp [AbstractState.awaitsFlush, call]
  have back := rep.set_call landed (.inl rfl)
  have kept : Reflects (s.setCall self .idle) { a with
      calls := update a.calls self .idle
      task := update a.task queue { a.task queue with joinable := (a.task queue).joinable } } := by
    simpa only [Function.update_eq_self] using back
  have ended := back.write_task queue false
  simp only [State.join, (rep.queues queue).task, AbstractState.queue] at ran
  split at ran
  · split at ran
    · cases ran
      exact ⟨_, _, rfl, kept⟩
    · cases ran
  · split at ran
    · cases ran
    · split at ran
      · cases ran
        exact ⟨_, _, rfl, kept⟩
      · split at ran
        · cases ran
          exact ⟨_, _, rfl, kept⟩
        · split at ran
          · cases ran
            exact ⟨_, _, rfl, ended⟩
          · cases ran

end Sections

end AresCommon.WorkQueue
