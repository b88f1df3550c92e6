import AresCommon.WorkQueue.SplitCompletion

/-!
# How long a flusher lives

A `WorkFlusher` is on the stack of the thread that flushes, and gone once that thread
has taken its semaphore. The worker gives the semaphore in `finalize_flush_locked` and
reads the flags of the flusher's item once more behind it. The lock it holds there does
not keep the thread from returning.
-/

namespace AresCommon.WorkQueue

open AresCommon.DataStructures AresCommon.DataStructures.Slist
open AresCommon.Synchronization AresCommon.Foundation.Transition
open Function (update)

set_option autoImplicit false

attribute [local grind =] Function.update_apply

namespace SplitState

def touches (f : SplitState) : SplitAction → Option WorkRef
  | .whole (.workerTurn queue) => (SysSlist.get f.base.nodes (f.base.queues queue).pending).1
  | .whole _ => none
  | .completeFlush queue => (f.base.workers queue).item
  | .completeCancel => f.completing.map Prod.snd

/-- A flusher lives as long as its thread is in `work_flush`. -/
def lives (f : SplitState) : WorkRef → Bool
  | .user _ => true
  | .flusher thread =>
      match f.base.calls thread with
      | .flushing _ _ => true
      | _ => false

end SplitState

def SplitAction.takes? : SplitAction → Option Thread
  | .whole (.flusherTake self) => some self
  | _ => none

/-- No thread takes the semaphore of its flusher while the worker still is in the
section that gave it. -/
def takesOutsideSection : SplitState → SplitAction → Prop := fun f action =>
  ∀ thread, action.takes? = some thread → f.completing.map Prod.snd ≠ some (.flusher thread)

/-- What a flusher and its semaphore, and that of a canceller, go through in a state. -/
structure LifetimeKept (f : SplitState) : Prop where
  accesses : ∀ action output f' work, f.Step action output f' → f.touches action = some work →
    f.lives work = true
  flusherOnce : ∀ thread, f.flusherGives thread ≤ 1
  cancellerOnce : ∀ thread, f.cancellerGives thread ≤ 1

/-! ## How often a semaphore is given -/

namespace AbstractState

variable {a a' : AbstractState} {action : Action} {output : Output}

theorem flusher_given_step (ok : WellFormed a) (move : AbstractStep a action output a')
    (thread : Thread) (now : a'.flusherGiven thread = true) :
    a.flusherGiven thread = true ∨ a.awaitsFlush thread = true := by
  cases move with
  | @flushed queue other handler inside =>
      by_cases same : thread = other
      · subst same
        have here : (a.workers queue).item = some (.flusher thread) := by rw [inside]; rfl
        obtain ⟨⟨work, call⟩, ungiven, _⟩ := ok.flushers.item_flusher thread queue here
        exact .inr (by simp [awaitsFlush, call, ungiven])
      · exact .inl (by simpa [same] using now)
  | flushWaits =>
      simp only [AbstractState.flush] at now
      grind
  | flusherTaken => grind
  | _ => exact .inl now

theorem awaits_flush_iff (thread : Thread) : a.awaitsFlush thread = true ↔
    (∃ work queue, a.calls thread = .flushing work queue) ∧ a.flusherGiven thread = false := by
  unfold awaitsFlush
  cases a.calls thread <;> simp

theorem awaits_flush_step (move : AbstractStep a action output a') (thread : Thread)
    (waits : a'.awaitsFlush thread = true) :
    action.constructsFlusher? = some thread ∨ a.awaitsFlush thread = true := by
  rw [awaits_flush_iff] at waits ⊢
  obtain ⟨⟨work, queue, call⟩, ungiven⟩ := waits
  cases move with
  | @flushWaits self =>
      by_cases same : thread = self
      · exact .inl (by rw [same]; rfl)
      · simp only [AbstractState.flush, Function.update_of_ne same] at call ungiven
        exact .inr ⟨⟨work, queue, call⟩, ungiven⟩
  | cancelWaits | drainWaits | stopWaits | flusherTaken | cancellerTaken | drainTaken | joined
  | flushed =>
      simp only [AbstractState.awaitCancel, AbstractState.cancel, AbstractState.requestDrain,
        AbstractState.requestStop, AbstractState.complete] at call ungiven
      right
      refine ⟨⟨work, queue, ?_⟩, ?_⟩ <;> grind
  | _ => exact .inr ⟨⟨work, queue, call⟩, ungiven⟩

theorem canceller_given_step (move : AbstractStep a action output a') (thread : Thread)
    (now : a'.cancellerGiven thread = true) :
    a.cancellerGiven thread = true ∨ thread ∈ a.cancels := by
  cases move with
  | @finishedCancelled queue work handler other inside ends waiter =>
      by_cases same : thread = other
      · subst same
        unfold released at waiter
        split at waiter
        · exact .inr (List.mem_of_find?_eq_some waiter)
        · cases waiter
      · exact .inl (by simpa [same] using now)
  | cancelWaits =>
      simp only [AbstractState.awaitCancel, AbstractState.cancel] at now
      grind
  | cancellerTaken => grind
  | _ => exact .inl now

theorem cancels_step (move : AbstractStep a action output a') (thread : Thread)
    (linked : thread ∈ a'.cancels) :
    action.constructsCanceller? = some thread ∨ thread ∈ a.cancels := by
  cases move with
  | @cancelWaits other =>
      simp only [AbstractState.awaitCancel, AbstractState.cancel, List.mem_append,
        List.mem_singleton] at linked
      rcases linked with before | rfl
      · exact .inr before
      · exact .inl rfl
  | finishedCancelled => exact .inr (List.mem_of_mem_erase linked)
  | _ => exact .inr linked

end AbstractState

/-- A semaphore that is only given, from empty, to a thread that waits for it is given
once after each construction. -/
theorem given_once {count : Nat} {given given' : Bool} {waits waits' constructed : Prop}
    [Decidable constructed] (bounded : count ≤ 1) (fresh : waits → count = 0)
    (raised : given' = true → given = true ∨ waits) (entered : waits' → constructed ∨ waits)
    (empty : waits' → given' = false) :
    (if constructed then 0 else count + (given'.toNat - given.toNat)) ≤ 1 ∧
      (waits' → (if constructed then 0 else count + (given'.toNat - given.toNat)) = 0) := by
  by_cases first : constructed
  · simp [first]
  · simp only [first, if_false, false_or] at entered ⊢
    cases given' with
    | false =>
        simp only [Bool.toNat_false, Nat.zero_sub, Nat.add_zero]
        exact ⟨bounded, fun now => fresh (entered now)⟩
    | true =>
        cases given with
        | true =>
            simp only [Nat.sub_self, Nat.add_zero]
            exact ⟨bounded, fun now => by simpa using empty now⟩
        | false =>
            have before : count = 0 := fresh (by simpa using raised rfl)
            refine ⟨by simp [before], fun now => by simpa using empty now⟩

structure GivesCounted (f : SplitState) (a : AbstractState) : Prop where
  flushers : ∀ thread, f.flusherGives thread ≤ 1 ∧
    (a.awaitsFlush thread = true → f.flusherGives thread = 0)
  cancellers : ∀ thread, f.cancellerGives thread ≤ 1 ∧
    (thread ∈ a.cancels → f.cancellerGives thread = 0)

section Counting

variable {f f' : SplitState} {a a' : AbstractState} {action : SplitAction} {output : Output}

theorem SplitCoupled.sems (coupled : SplitCoupled f a) (thread : Thread) :
    (f.base.flusherSems thread).getCount = (a.flusherGiven thread).toNat ∧
      (f.base.cancellers thread).sem.getCount = (a.cancellerGiven thread).toNat := by
  cases completing : f.completing with
  | none =>
      have rep := (coupled.between completing).reflects
      exact ⟨rep.flusher_sem thread, rep.canceller_sem thread⟩
  | some holder =>
      obtain ⟨queue, work⟩ := holder
      obtain ⟨handler, rep, _⟩ := coupled.inside completing
      cases work <;> exact ⟨rep.flusher_sem thread, rep.canceller_sem thread⟩

theorem SplitState.counters (move : f.Step action output f') (thread : Thread) :
    f'.flusherGives thread =
        (if (f.meaning action).bind Action.constructsFlusher? = some thread then 0
          else f.flusherGives thread +
            gives (f.base.flusherSems thread) (f'.base.flusherSems thread)) ∧
      f'.cancellerGives thread =
        (if (f.meaning action).bind Action.constructsCanceller? = some thread then 0
          else f.cancellerGives thread +
            gives (f.base.cancellers thread).sem (f'.base.cancellers thread).sem) := by
  cases action with
  | whole action =>
      obtain ⟨fuel, next, _, _, rfl⟩ := f.whole_cases move
      exact ⟨rfl, rfl⟩
  | completeFlush queue =>
      obtain ⟨work, handler, next, _, inside, _, _, rfl⟩ := f.complete_flush_cases move
      cases work <;> simp [SplitState.meaning, inside, SplitState.advance,
        Action.constructsFlusher?, Action.constructsCanceller?]
  | completeCancel =>
      obtain ⟨fuel, queue, work, next, completing, _, rfl⟩ := f.complete_cancel_cases move
      cases work <;> simp [SplitState.meaning, completing, SplitState.advance,
        Action.constructsFlusher?, Action.constructsCanceller?]

theorem AbstractState.Moves.awaits {meaning : Option Action} (ok : WellFormed a)
    (moves : a.Moves meaning a') (thread : Thread) :
    (a'.flusherGiven thread = true →
      a.flusherGiven thread = true ∨ a.awaitsFlush thread = true) ∧
    (a'.awaitsFlush thread = true →
      meaning.bind Action.constructsFlusher? = some thread ∨ a.awaitsFlush thread = true) ∧
    (a'.cancellerGiven thread = true →
      a.cancellerGiven thread = true ∨ thread ∈ a.cancels) ∧
    (thread ∈ a'.cancels →
      meaning.bind Action.constructsCanceller? = some thread ∨ thread ∈ a.cancels) := by
  cases meaning with
  | none =>
      cases moves
      exact ⟨.inl, .inr, .inl, .inr⟩
  | some action =>
      obtain ⟨answer, step⟩ := moves
      exact ⟨flusher_given_step ok step thread, awaits_flush_step step thread,
        canceller_given_step step thread, cancels_step step thread⟩

theorem GivesCounted.step (counted : GivesCounted f a) (coupled : SplitCoupled f a)
    (next : SplitCoupled f' a') (moves : a.Moves (f.meaning action) a')
    (move : f.Step action output f') : GivesCounted f' a' := by
  have ok := next.wellFormed
  constructor <;> intro thread
  · obtain ⟨bounded, fresh⟩ := counted.flushers thread
    obtain ⟨raised, entered, _⟩ := moves.awaits coupled.wellFormed thread
    have empty : a'.awaitsFlush thread = true → a'.flusherGiven thread = false := fun waits =>
      ((AbstractState.awaits_flush_iff thread).mp waits).2
    rw [(SplitState.counters move thread).1, gives, (coupled.sems thread).1,
      (next.sems thread).1]
    exact given_once bounded fresh raised entered empty
  · obtain ⟨bounded, fresh⟩ := counted.cancellers thread
    obtain ⟨_, _, raised, entered⟩ := moves.awaits coupled.wellFormed thread
    have empty : thread ∈ a'.cancels → a'.cancellerGiven thread = false := fun linked =>
      ((ok.cancellers.linked thread).mp linked).2
    rw [(SplitState.counters move thread).2, gives, (coupled.sems thread).2,
      (next.sems thread).2]
    exact given_once bounded fresh raised entered empty

end Counting

/-! ## What the worker touches -/

section Accesses

variable {f f' : SplitState} {a a' : AbstractState} {action : SplitAction} {output : Output}

theorem SplitCoupled.calls (coupled : SplitCoupled f a) : f.base.calls = a.calls := by
  cases completing : f.completing with
  | none => exact (coupled.between completing).reflects.calls
  | some holder =>
      obtain ⟨queue, work⟩ := holder
      obtain ⟨handler, rep, _⟩ := coupled.inside completing
      cases work <;> exact rep.calls

theorem SplitCoupled.lives_iff (coupled : SplitCoupled f a) (thread : Thread) :
    f.lives (.flusher thread) = true ↔ ∃ work queue, a.calls thread = .flushing work queue := by
  rw [← coupled.calls]
  cases place : f.base.calls thread <;> simp [SplitState.lives, place]

def HeldLives (f : SplitState) : Prop :=
  ∀ queue work, f.completing = some (queue, work) → f.lives work = true

theorem SplitState.completing_before (move : f.Step action output f') {queue : QueueId}
    {work : WorkRef} (completing : f'.completing = some (queue, work)) :
    (∃ carried, action = .whole carried ∧ f.completing = some (queue, work)) ∨
      (action = .completeFlush queue ∧ f.completing = none ∧
        ∃ handler, f.base.workers queue = .running work handler) := by
  cases action with
  | whole action =>
      obtain ⟨fuel, next, _, _, rfl⟩ := f.whole_cases move
      exact .inl ⟨action, rfl, completing⟩
  | completeFlush target =>
      obtain ⟨item, handler, next, unlocked, inside, _, _, rfl⟩ := f.complete_flush_cases move
      cases completing
      exact .inr ⟨rfl, unlocked, handler, inside⟩
  | completeCancel =>
      obtain ⟨fuel, _, _, next, _, _, rfl⟩ := f.complete_cancel_cases move
      cases completing

theorem SplitCoupled.item_lives (coupled : SplitCoupled f a) (unlocked : f.completing = none)
    {queue : QueueId} {work : WorkRef} (item : (f.base.workers queue).item = some work) :
    f.lives work = true := by
  obtain ⟨rep, ok⟩ := coupled.between unlocked
  cases work with
  | user id => rfl
  | flusher thread =>
      rw [rep.workers] at item
      obtain ⟨⟨work, call⟩, _⟩ := ok.flushers.item_flusher thread queue item
      exact (coupled.lives_iff thread).mpr ⟨work, queue, call⟩

theorem HeldLives.step (held : HeldLives f) (coupled : SplitCoupled f a)
    (next : SplitCoupled f' a') (moves : a.Moves (f.meaning action) a')
    (outside : takesOutsideSection f action) (move : f.Step action output f') :
    HeldLives f' := by
  intro queue item completing
  cases item with
  | user id => rfl
  | flusher thread =>
      have before := f.completing_before move completing
      have lived : f.lives (.flusher thread) = true := by
        rcases before with ⟨_, _, completing⟩ | ⟨_, unlocked, _, inside⟩
        · exact held queue _ completing
        · exact coupled.item_lives unlocked (by rw [inside]; rfl)
      obtain ⟨work, target, call⟩ := (coupled.lives_iff thread).mp lived
      refine (next.lives_iff thread).mpr ⟨work, target, ?_⟩
      rcases before with ⟨carried, rfl, completing⟩ | ⟨rfl, _, handler, inside⟩
      · obtain ⟨answer, step⟩ := moves
        refine step.call_stays call (by simp) ?_
        cases carried with
        | flusherTake other =>
            have apart : other ≠ thread := by
              rintro rfl
              exact outside other rfl (by rw [completing]; rfl)
            simpa [Call.returnedBy] using apart
        | _ => rfl
      · simp only [SplitState.meaning, inside] at moves
        obtain ⟨answer, step⟩ := moves
        exact step.call_stays call (by simp) rfl

theorem HeldLives.accesses (held : HeldLives f) (coupled : SplitCoupled f a)
    {work : WorkRef} (move : f.Step action output f') (touched : f.touches action = some work) :
    f.lives work = true := by
  cases action with
  | whole action =>
      cases action with
      | workerTurn queue =>
          obtain ⟨_, _, admitted, _⟩ := f.whole_cases move
          have unlocked : f.completing = none := by
            cases completing : f.completing with
            | none => rfl
            | some holder => simp [SplitState.admits, completing, Action.beside,
                Action.lockFree] at admitted
          obtain ⟨rep, ok⟩ := coupled.between unlocked
          have list := rep.list queue
          simp only [SplitState.touches] at touched
          cases work with
          | user id => rfl
          | flusher thread =>
              cases head : a.pending queue with
              | nil =>
                  rw [head] at list
                  simp [list.get_nil] at touched
              | cons first rest =>
                  rw [head] at list
                  rw [list.get_cons.1] at touched
                  cases touched
                  have member : WorkRef.flusher thread ∈ a.pending queue := by simp [head]
                  obtain ⟨⟨work, call⟩, _⟩ :=
                    ok.flushers.pending_flusher thread queue member
                  exact (coupled.lives_iff thread).mpr ⟨work, queue, call⟩
      | _ => cases touched
  | completeFlush queue =>
      obtain ⟨_, _, _, unlocked, _⟩ := f.complete_flush_cases move
      exact coupled.item_lives unlocked touched
  | completeCancel =>
      obtain ⟨⟨queue, item⟩, completing, rfl⟩ := Option.map_eq_some_iff.mp touched
      exact held queue item completing

/-- A thread that takes its semaphore inside the section returns before the worker has
read the flags of its flusher for the last time. -/
theorem dead_access (next : SplitCoupled f' a') (moves : a.Moves (f.meaning action) a')
    (inside : ¬takesOutsideSection f action) (move : f.Step action output f') :
    ¬LifetimeKept f' := by
  simp only [takesOutsideSection, not_forall, not_not] at inside
  obtain ⟨thread, takes, given⟩ := inside
  obtain ⟨⟨queue, item⟩, completing, rfl⟩ := Option.map_eq_some_iff.mp given
  have taken : action = .whole (.flusherTake thread) := by
    cases action with
    | whole carried =>
        cases carried with
        | flusherTake other => cases takes; rfl
        | _ => cases takes
    | _ => cases takes
  subst taken
  obtain ⟨answer, step⟩ := moves
  have held : f'.completing = some (queue, .flusher thread) := by
    obtain ⟨fuel, next, _, _, rfl⟩ := f.whole_cases move
    exact completing
  obtain ⟨handler, rep, _⟩ := next.inside held
  obtain ⟨reached, completes, _⟩ := rep.complete_cancel_flusher 0 queue thread
  have access : f'.Step .completeCancel (.just .void) (f'.advance none reached none) :=
    ⟨0, by simp [SplitState.step, held, completes]⟩
  intro kept
  have lives := kept.accesses _ _ _ (.flusher thread) access
    (by simp [SplitState.touches, held])
  obtain ⟨work, target, call⟩ := (next.lives_iff thread).mp lives
  simp [step.flusher_take.2.2] at call

end Accesses

/-! ## Whole runs -/

section Runs

variable {handlers : UserId → HandlerId} {trace : List (SplitAction × Output)}
variable {f : SplitState}

/-- Whatever the threads do, no semaphore is given twice. -/
theorem semaphores_given_once (run : SplitRun anyStep (SplitState.initial handlers) trace f) :
    ∃ a, SplitCoupled f a ∧ GivesCounted f a := by
  refine run.preserves (fun f => ∃ a, SplitCoupled f a ∧ GivesCounted f a) ?_
    ⟨_, initial_split_coupled handlers, ?_⟩
  · rintro f action output f' ⟨a, coupled, counted⟩ _ move
    obtain ⟨a', moves, next⟩ := coupled.step move
    exact ⟨a', next, counted.step coupled next moves move⟩
  · constructor <;> intro thread <;> simp [SplitState.initial]

theorem held_lives_of_run
    (run : SplitRun takesOutsideSection (SplitState.initial handlers) trace f) : HeldLives f := by
  have kept : (∃ a, SplitCoupled f a) ∧ HeldLives f := by
    refine run.preserves (fun f => (∃ a, SplitCoupled f a) ∧ HeldLives f) ?_
      ⟨⟨_, initial_split_coupled handlers⟩, fun _ _ completing => by cases completing⟩
    rintro f action output f' ⟨⟨a, coupled⟩, held⟩ outside move
    obtain ⟨a', moves, next⟩ := coupled.step move
    exact ⟨⟨a', next⟩, held.step coupled next moves outside move⟩
  exact kept.2

end Runs

/-- As long as no thread takes the semaphore of its flusher inside the section that
gave it, the worker reads and writes living items only, and no semaphore is given twice.
The first thread that does so makes the worker read a flusher that is gone. -/
theorem flusher_lifetime_kept {handlers : UserId → HandlerId}
    {trace : List (SplitAction × Output)} {f : SplitState}
    (run : SplitRun takesOutsideSection (SplitState.initial handlers) trace f) :
    LifetimeKept f ∧ ∀ action output f', ¬takesOutsideSection f action →
      f.Step action output f' → ¬LifetimeKept f' := by
  obtain ⟨a, coupled, counted⟩ := semaphores_given_once run.unrestricted
  have held := held_lives_of_run run
  constructor
  · constructor
    · exact fun action output f' work move touched => held.accesses coupled move touched
    · exact fun thread => (counted.flushers thread).1
    · exact fun thread => (counted.cancellers thread).1
  · intro action output f' inside move
    obtain ⟨a', moves, next⟩ := coupled.step move
    exact dead_access next moves inside move

theorem split_run_of_actions (f : SplitState) (actions : List SplitAction)
    (permits : SplitState → SplitAction → Bool)
    (test : List (SplitAction × Output) → SplitState → Bool)
    (passed : (execute (SplitState.step 8) permits f actions).any
      (fun run => test run.1 run.2) = true) :
    ∃ trace f', SplitRun (fun f action => permits f action = true) f trace f' ∧
      test trace f' = true :=
  run_of_execute (fun _ _ _ _ moved => ⟨8, moved⟩) (fun _ _ permitted => permitted) passed

def takesUnlocked (f : SplitState) (action : SplitAction) : Bool :=
  f.completing.isNone || action.takes?.isNone

theorem takes_outside_of_unlocked {f : SplitState} {action : SplitAction}
    (unlocked : takesUnlocked f action = true) : takesOutsideSection f action := by
  intro thread takes held
  obtain ⟨holder, completing, _⟩ := Option.map_eq_some_iff.mp held
  simp [takesUnlocked, takes, completing] at unlocked

/-- An item and its flusher are completed, and the flushing thread returns. -/
theorem flusher_lifetime_kept_of_flush :
    ∃ trace f, SplitRun takesOutsideSection (SplitState.initial fun _ => ⟨0⟩) trace f ∧
      f.flusherGives (.client ⟨1⟩) = 1 ∧ f.base.calls (.client ⟨1⟩) = .idle ∧
      LifetimeKept f := by
  obtain ⟨trace, f, run, tested⟩ := split_run_of_actions (SplitState.initial fun _ => ⟨0⟩)
    [.whole (.start (.client ⟨0⟩) ⟨0⟩ none), .whole (.submit (.client ⟨0⟩) ⟨0⟩ (some ⟨0⟩)),
      .whole (.workFlush (.client ⟨1⟩) ⟨0⟩), .whole (.workerTurn ⟨0⟩), .completeFlush ⟨0⟩,
      .completeCancel, .whole (.workerTurn ⟨0⟩), .completeFlush ⟨0⟩, .completeCancel,
      .whole (.flusherTake (.client ⟨1⟩))]
    takesUnlocked
    (fun _ f => f.flusherGives (.client ⟨1⟩) = 1 && f.base.calls (.client ⟨1⟩) = .idle)
    (by decide +kernel)
  simp only [Bool.and_eq_true, decide_eq_true_eq] at tested
  have outside := run.mono fun _ _ unlocked => takes_outside_of_unlocked unlocked
  exact ⟨trace, f, outside, tested.1, tested.2, (flusher_lifetime_kept outside).1⟩

/-- The flushing thread returns between the give of its semaphore and the test of
CANCELING, which reads a flusher that is gone. -/
theorem flusher_read_after_return :
    ¬∀ trace f, SplitRun anyStep (SplitState.initial fun _ => ⟨0⟩) trace f → LifetimeKept f := by
  intro always
  obtain ⟨trace, f, run, tested⟩ := split_run_of_actions (SplitState.initial fun _ => ⟨0⟩)
    [.whole (.start (.client ⟨0⟩) ⟨0⟩ none), .whole (.submit (.client ⟨0⟩) ⟨0⟩ (some ⟨0⟩)),
      .whole (.workFlush (.client ⟨1⟩) ⟨0⟩), .whole (.workerTurn ⟨0⟩), .completeFlush ⟨0⟩,
      .completeCancel, .whole (.workerTurn ⟨0⟩), .completeFlush ⟨0⟩,
      .whole (.flusherTake (.client ⟨1⟩))]
    (fun _ _ => true)
    (fun _ f => (f.step 0 .completeCancel).isSome &&
      f.touches .completeCancel = some (.flusher (.client ⟨1⟩)) &&
      !f.lives (.flusher (.client ⟨1⟩)))
    (by decide +kernel)
  simp only [Bool.and_eq_true, decide_eq_true_eq, Bool.not_eq_true'] at tested
  obtain ⟨⟨moves, touched⟩, gone⟩ := tested
  obtain ⟨⟨f', output⟩, ran⟩ := Option.isSome_iff_exists.mp moves
  have lives := (always trace f run.unrestricted).accesses _ _ _ _ ⟨0, ran⟩ touched
  simp [gone] at lives

end AresCommon.WorkQueue
