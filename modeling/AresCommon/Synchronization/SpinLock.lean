import AresCommon.Foundation.Transition
import Mathlib.Logic.Function.Basic

/-!
# The spin lock

`SpinLock` is an `atomic_flag`. A thread in `lock` evaluates the condition of the loop as
often as it takes, and between two evaluations the other threads do anything. As long as
threads unlock only what they have locked, the flag cannot be told from a mutex that knows
its owner.
-/

namespace AresCommon.Synchronization

open AresCommon.Foundation.Transition
open Function (update)

set_option autoImplicit false

structure SpinLock where
  flag : Bool
  deriving DecidableEq, Repr

namespace SpinLock

def constructed : SpinLock := { flag := false }

/-- `_locked.test_and_set(std::memory_order_acquire)` -/
def testAndSet (l : SpinLock) : Bool × SpinLock := (l.flag, { flag := true })

def tryLock (l : SpinLock) : Bool × SpinLock :=
  let (ret, l) := l.testAndSet
  (!ret, l)

/-- `_locked.clear(std::memory_order_release)` -/
def unlock (_ : SpinLock) : SpinLock := { flag := false }

def locked (l : SpinLock) : Bool := l.flag

end SpinLock

/-! ## Threads -/

inductive SpinAction (Thread : Type) where
  | lock (self : Thread)
  /-- The thread in `lock` evaluates the condition of the loop. -/
  | spin (self : Thread)
  | tryLock (self : Thread)
  | unlock (self : Thread)
  | locked (self : Thread)
  deriving DecidableEq, Repr

inductive SpinReply where
  | void
  | acquired (success : Bool)
  | locked (flag : Bool)
  deriving DecidableEq, Repr

structure SpinThreads (Thread : Type) where
  lock : SpinLock
  spinning : Thread → Bool
  /-- The thread has acquired the lock since it last unlocked it. -/
  holds : Thread → Bool

namespace SpinThreads

variable {Thread : Type}

def initial : SpinThreads Thread where
  lock := .constructed
  spinning := fun _ => false
  holds := fun _ => false

variable [DecidableEq Thread] (s : SpinThreads Thread)

def step : SpinAction Thread → Option (SpinThreads Thread × SpinReply)
  | .lock self =>
      if s.spinning self then none
      else some ({ s with spinning := update s.spinning self true }, .void)
  | .spin self =>
      if s.spinning self then
        match s.lock.testAndSet with
        | (true, lock) => some ({ s with lock }, .acquired false)
        | (false, lock) =>
            some ({ lock, spinning := update s.spinning self false,
                    holds := update s.holds self true }, .acquired true)
      else none
  | .tryLock self =>
      if s.spinning self then none
      else
        match s.lock.tryLock with
        | (true, lock) =>
            some ({ s with lock, holds := update s.holds self true }, .acquired true)
        | (false, lock) => some ({ s with lock }, .acquired false)
  | .unlock self =>
      if s.spinning self then none
      else some ({ s with lock := s.lock.unlock, holds := update s.holds self false }, .void)
  | .locked self =>
      if s.spinning self then none else some (s, .locked s.lock.locked)

def Step (s : SpinThreads Thread) (action : SpinAction Thread) (reply : SpinReply)
    (s' : SpinThreads Thread) : Prop :=
  s.step action = some (s', reply)

def unlocksOwn (s : SpinThreads Thread) : SpinAction Thread → Prop
  | .unlock self => s.holds self = true
  | _ => True

instance (s : SpinThreads Thread) (action : SpinAction Thread) : Decidable (s.unlocksOwn action) :=
  match action with
  | .unlock self => inferInstanceAs (Decidable (s.holds self = true))
  | .lock _ | .spin _ | .tryLock _ | .locked _ => isTrue trivial

end SpinThreads

/-! ## The mutex -/

/-- A mutex with its owner and the threads that wait for it. -/
structure Mutex (Thread : Type) where
  owner : Option Thread
  waiting : Thread → Bool

namespace Mutex

variable {Thread : Type}

def free : Mutex Thread where
  owner := none
  waiting := fun _ => false

variable [DecidableEq Thread]

inductive Step (m : Mutex Thread) : SpinAction Thread → SpinReply → Mutex Thread → Prop where
  | lock {self : Thread} (outside : m.waiting self = false) :
      Step m (.lock self) .void { m with waiting := update m.waiting self true }
  | take {self : Thread} (inside : m.waiting self = true) (unowned : m.owner = none) :
      Step m (.spin self) (.acquired true)
        { owner := some self, waiting := update m.waiting self false }
  | wait {self owner : Thread} (inside : m.waiting self = true) (owned : m.owner = some owner) :
      Step m (.spin self) (.acquired false) m
  | tryTake {self : Thread} (outside : m.waiting self = false) (unowned : m.owner = none) :
      Step m (.tryLock self) (.acquired true) { m with owner := some self }
  | tryFail {self owner : Thread} (outside : m.waiting self = false)
      (owned : m.owner = some owner) : Step m (.tryLock self) (.acquired false) m
  | unlock {self : Thread} (outside : m.waiting self = false) (mine : m.owner = some self) :
      Step m (.unlock self) .void { m with owner := none }
  | locked {self : Thread} (outside : m.waiting self = false) :
      Step m (.locked self) (.locked m.owner.isSome) m

end Mutex

/-- The flag is set while the mutex has an owner, and the owner is the one that holds it. -/
structure IsMutex {Thread : Type} (s : SpinThreads Thread) (m : Mutex Thread) : Prop where
  flag : s.lock.flag = m.owner.isSome
  spinning : s.spinning = m.waiting
  holds : ∀ thread, s.holds thread = true ↔ m.owner = some thread

section Refinement

variable {Thread : Type} {s s' : SpinThreads Thread} {m m' : Mutex Thread} {self : Thread}

theorem IsMutex.unowned (related : IsMutex s m) (clear : s.lock.flag = false) :
    m.owner = none := by
  have none := related.flag.symm.trans clear
  rwa [Option.isSome_eq_false_iff, Option.isNone_iff_eq_none] at none

theorem IsMutex.owned (related : IsMutex s m) (set : s.lock.flag = true) :
    ∃ owner, m.owner = some owner :=
  Option.isSome_iff_exists.mp (related.flag.symm.trans set)

theorem IsMutex.outside (related : IsMutex s m) (spinning : ¬s.spinning self = true) :
    m.waiting self = false := by
  rw [← related.spinning]
  exact Bool.eq_false_iff.mpr spinning

theorem isMutex_initial : IsMutex (SpinThreads.initial : SpinThreads Thread) .free where
  flag := rfl
  spinning := rfl
  holds thread := by simp [SpinThreads.initial, Mutex.free]

variable [DecidableEq Thread]

theorem IsMutex.taken (self : Thread) {spinning : Thread → Bool} (related : IsMutex s m)
    (unowned : m.owner = none) :
    IsMutex { lock := s.lock.testAndSet.2, spinning, holds := update s.holds self true }
      { owner := some self, waiting := spinning } where
  flag := rfl
  spinning := rfl
  holds thread := by
    by_cases same : thread = self
    · subst same
      simp
    · have free : s.holds thread = false := by
        rw [Bool.eq_false_iff]
        intro holds
        cases unowned.symm.trans ((related.holds thread).mp holds)
      simp [Function.update_of_ne same, free, Ne.symm same]

theorem IsMutex.given {spinning : Thread → Bool} (related : IsMutex s m)
    (mine : m.owner = some self) :
    IsMutex { lock := s.lock.unlock, spinning, holds := update s.holds self false }
      { owner := none, waiting := spinning } where
  flag := rfl
  spinning := rfl
  holds thread := by
    by_cases same : thread = self
    · subst same
      simp
    · have other : s.holds thread = false := by
        rw [Bool.eq_false_iff]
        intro holds
        exact same (Option.some.inj (((related.holds thread).mp holds).symm.trans mine))
      simp [Function.update_of_ne same, other]

theorem IsMutex.spin (related : IsMutex s m) {reply : SpinReply}
    (move : s.Step (.spin self) reply s') :
    ∃ m', m.Step (.spin self) reply m' ∧ IsMutex s' m' := by
  simp only [SpinThreads.Step, SpinThreads.step] at move
  split at move
  · rename_i spinning
    have inside : m.waiting self = true := related.spinning ▸ spinning
    split at move
    · rename_i lock tested
      obtain ⟨set, same⟩ := Prod.mk.inj tested
      obtain ⟨owner, owned⟩ := related.owned set
      cases move
      refine ⟨m, .wait inside owned, ⟨?_, related.spinning, related.holds⟩⟩
      rw [owned, ← same]
      rfl
    · rename_i lock tested
      obtain ⟨clear, same⟩ := Prod.mk.inj tested
      have unowned := related.unowned clear
      cases move
      refine ⟨_, .take inside unowned, ?_⟩
      rw [← same, related.spinning]
      exact related.taken _ unowned
  · cases move

theorem IsMutex.tryLock (related : IsMutex s m) {reply : SpinReply}
    (move : s.Step (.tryLock self) reply s') :
    ∃ m', m.Step (.tryLock self) reply m' ∧ IsMutex s' m' := by
  simp only [SpinThreads.Step, SpinThreads.step] at move
  split at move
  · cases move
  · rename_i spinning
    have outside := related.outside spinning
    split at move
    · rename_i lock tested
      obtain ⟨clear, same⟩ := Prod.mk.inj tested
      have unowned := related.unowned ((Bool.not_eq_true' _).mp clear)
      cases move
      refine ⟨_, .tryTake outside unowned, ?_⟩
      rw [← same, ← related.spinning]
      exact related.taken _ unowned
    · rename_i lock tested
      obtain ⟨set, same⟩ := Prod.mk.inj tested
      obtain ⟨owner, owned⟩ := related.owned ((Bool.not_eq_false' _).mp set)
      cases move
      refine ⟨m, .tryFail outside owned, ⟨?_, related.spinning, related.holds⟩⟩
      rw [owned, ← same]
      rfl

theorem IsMutex.forward (related : IsMutex s m) {action : SpinAction Thread} {reply : SpinReply}
    (own : s.unlocksOwn action) (move : s.Step action reply s') :
    ∃ m', m.Step action reply m' ∧ IsMutex s' m' := by
  cases action with
  | spin self => exact related.spin move
  | tryLock self => exact related.tryLock move
  | lock self =>
      simp only [SpinThreads.Step, SpinThreads.step] at move
      split at move
      · cases move
      · rename_i spinning
        cases move
        refine ⟨_, .lock (related.outside spinning), related.flag, ?_, related.holds⟩
        rw [related.spinning]
  | unlock self =>
      simp only [SpinThreads.Step, SpinThreads.step] at move
      split at move
      · cases move
      · rename_i spinning
        have mine := (related.holds self).mp own
        cases move
        refine ⟨_, .unlock (related.outside spinning) mine, ?_⟩
        rw [← related.spinning]
        exact related.given mine
  | locked self =>
      simp only [SpinThreads.Step, SpinThreads.step] at move
      split at move
      · cases move
      · rename_i spinning
        cases move
        refine ⟨m, ?_, related⟩
        rw [SpinLock.locked, related.flag]
        exact .locked (related.outside spinning)

theorem IsMutex.backward (related : IsMutex s m) {action : SpinAction Thread}
    {reply : SpinReply} (move : m.Step action reply m') :
    s.unlocksOwn action ∧ ∃ s', s.Step action reply s' ∧ IsMutex s' m' := by
  have spins (thread : Thread) : s.spinning thread = m.waiting thread :=
    congrFun related.spinning thread
  cases move with
  | @lock self outside =>
      refine ⟨trivial, _, if_neg (by rw [spins, outside]; decide), related.flag, ?_,
        related.holds⟩
      rw [related.spinning]
  | @take self inside unowned =>
      have clear : s.lock.flag = false := by rw [related.flag, unowned]; rfl
      refine ⟨trivial, _, ?_, related.taken self unowned⟩
      simp [SpinThreads.Step, SpinThreads.step, spins, inside, SpinLock.testAndSet, clear,
        related.spinning]
  | @wait self owner inside owned =>
      have set : s.lock.flag = true := by rw [related.flag, owned]; rfl
      refine ⟨trivial, s, ?_, related⟩
      have same : ({ flag := true } : SpinLock) = s.lock := by rw [← set]
      simp [SpinThreads.Step, SpinThreads.step, spins, inside, SpinLock.testAndSet, set, same]
  | @tryTake self outside unowned =>
      have clear : s.lock.flag = false := by rw [related.flag, unowned]; rfl
      refine ⟨trivial, _, ?_, related.taken self unowned⟩
      simp [SpinThreads.Step, SpinThreads.step, spins, outside, SpinLock.tryLock,
        SpinLock.testAndSet, clear, related.spinning]
  | @tryFail self owner outside owned =>
      have set : s.lock.flag = true := by rw [related.flag, owned]; rfl
      refine ⟨trivial, s, ?_, related⟩
      have same : ({ flag := true } : SpinLock) = s.lock := by rw [← set]
      simp [SpinThreads.Step, SpinThreads.step, spins, outside, SpinLock.tryLock,
        SpinLock.testAndSet, set, same]
  | @unlock self outside mine =>
      refine ⟨(related.holds self).mpr mine, _, ?_, related.given mine⟩
      simp [SpinThreads.Step, SpinThreads.step, spins, outside, related.spinning]
  | @locked self outside =>
      refine ⟨trivial, s, ?_, related⟩
      simp [SpinThreads.Step, SpinThreads.step, spins, outside, SpinLock.locked, related.flag]

end Refinement

abbrev SpinRun {Thread : Type} [DecidableEq Thread] :
    SpinThreads Thread → List (SpinAction Thread × SpinReply) → SpinThreads Thread → Prop :=
  fun start trace final => Run SpinThreads.Step SpinThreads.unlocksOwn start trace final

/-- The runs of the flag are the runs of a mutex: an attempt succeeds exactly when nobody
owns the lock, and at most one thread holds it. -/
theorem spin_lock_is_mutex {Thread : Type} [DecidableEq Thread]
    (trace : List (SpinAction Thread × SpinReply)) :
    (∀ final, SpinRun .initial trace final →
      (∀ thread other, final.holds thread = true → final.holds other = true → thread = other) ∧
        ∃ last, Run Mutex.Step anyStep .free trace last ∧ IsMutex final last) ∧
    ∀ last, Run Mutex.Step anyStep .free trace last →
      ∃ final, SpinRun .initial trace final ∧ IsMutex final last := by
  constructor
  · intro final run
    have matched : ∀ (s : SpinThreads Thread) (m : Mutex Thread) action reply s', IsMutex s m →
        s.unlocksOwn action → s.Step action reply s' →
          anyStep m action ∧ ∃ m', m.Step action reply m' ∧ IsMutex s' m' :=
      fun _ _ _ _ _ related own move => ⟨trivial, related.forward own move⟩
    obtain ⟨last, below, related⟩ := run.simulate_permitted matched isMutex_initial
    refine ⟨fun thread other holds too => ?_, last, below, related⟩
    exact Option.some.inj
      (((related.holds thread).mp holds).symm.trans ((related.holds other).mp too))
  · intro last run
    have matched : ∀ (m : Mutex Thread) (s : SpinThreads Thread) action reply m', IsMutex s m →
        anyStep m action → m.Step action reply m' →
          s.unlocksOwn action ∧ ∃ s', s.Step action reply s' ∧ IsMutex s' m' :=
      fun _ _ _ _ _ related _ move => related.backward move
    exact run.simulate_permitted matched isMutex_initial

end AresCommon.Synchronization
