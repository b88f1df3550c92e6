import AresCommon.DataStructures.BoundedQueue

/-!
# The semaphore

`semaphore<count>` is a bounded queue of bytes without overwriting: its count is
the number of queued bytes, a give puts one, a take gets one.
-/

namespace AresCommon.Synchronization

open AresCommon.DataStructures

set_option autoImplicit false

inductive SemaphoreError where
  | semaphoreException (message : String)
  | timeoutException (message : String)
  | queueException (reason : QueueExceptionReason)
  deriving DecidableEq, Repr

structure Semaphore (count : Nat) where
  sem : BoundedQueue UInt8 count false

namespace Semaphore

variable {count : Nat}

/-- `semaphore(0)`: the constructor puts nothing. -/
def locked : Semaphore count where
  sem := .uninitialised fun _ => 0

def getCount (semaphore : Semaphore count) : Nat := semaphore.sem.size

def unlock (semaphore : Semaphore count) : Except SemaphoreError (Semaphore count) :=
  match semaphore.sem.putNonblocking 0 with
  | .ok sem => .ok { sem := sem }
  | .error .queueFull =>
      .error (.semaphoreException "Cannot `give` semaphore more times than its permitted count")
  | .error reason => .error (.queueException reason)

/-- `take(forever)`; `none` while the caller has to wait. -/
def blockingLock (semaphore : Semaphore count) : Option (Semaphore count) :=
  semaphore.sem.get.map fun taken => { sem := taken.2 }

@[simp]
theorem locked_count : (locked : Semaphore count).getCount = 0 := rfl

theorem unlock_of_room {semaphore : Semaphore count} (room : semaphore.getCount < count) :
    ∃ given, semaphore.unlock = .ok given ∧ given.getCount = semaphore.getCount + 1 := by
  have notFull : ¬(semaphore.sem.size = count ∧ false = false) := fun full =>
    Nat.ne_of_lt room full.1
  have notOver : ¬semaphore.sem.size + 1 > count := Nat.not_lt.mpr room
  refine ⟨{ sem := semaphore.sem.store 0 }, ?_, ?_⟩
  · unfold unlock BoundedQueue.putNonblocking
    rw [if_neg notFull]
  · simp only [getCount, BoundedQueue.store, if_neg notOver]

theorem blocking_lock_none_iff (semaphore : Semaphore count) :
    semaphore.blockingLock = none ↔ semaphore.getCount = 0 := by
  simp [blockingLock, BoundedQueue.get_none_iff, getCount]

theorem blocking_lock_count {semaphore taken : Semaphore count}
    (took : semaphore.blockingLock = some taken) :
    semaphore.getCount = taken.getCount + 1 := by
  obtain ⟨⟨item, sem⟩, got, rfl⟩ := Option.map_eq_some_iff.mp took
  simp only [BoundedQueue.get] at got
  split at got
  · simp at got
  · simp only [Option.some.injEq, Prod.mk.injEq] at got
    obtain ⟨rfl, rfl⟩ := got
    simp only [getCount]
    omega

end Semaphore

end AresCommon.Synchronization
