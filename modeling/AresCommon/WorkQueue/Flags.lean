import Mathlib.Data.BitVec

/-!
# Status flags of work items and work queues

Both kinds of flags are `uint32_t` words whose bits are numbered by `WorkStatus`.
The numbers of the two kinds overlap: bit 1 is CANCELING in a work item and BUSY
in a work queue. A word is determined by the flags it holds, so the words that
occur are `workFlags` and `queueFlags` of truth values, and every flag
operation is an assignment to one of them.
-/

namespace AresCommon.WorkQueue

set_option autoImplicit false

abbrev Flags := BitVec 32

/-! Bits that represent the work item states. -/

def workRunningBit : Nat := 0
def workCancelingBit : Nat := 1
def workQueuedBit : Nat := 2
def workDelayedBit : Nat := 3
def workFlushingBit : Nat := 4

/-! Dynamic and static work queue flags. -/

def workQueueStartedBit : Nat := 0
def workQueueBusyBit : Nat := 1
def workQueueDrainBit : Nat := 2
def workQueuePluggedBit : Nat := 3
def workQueueStopBit : Nat := 4
def workQueueNoYieldBit : Nat := 8

def bit (n : Nat) : Flags := BitVec.twoPow 32 n

def workMask : Flags :=
  bit workDelayedBit ||| bit workQueuedBit ||| bit workRunningBit |||
    bit workCancelingBit ||| bit workFlushingBit

def flagClear (flags : Flags) (position : Nat) : Flags := flags &&& ~~~bit position

def flagSet (flags : Flags) (position : Nat) : Flags := flags ||| bit position

def flagTest (flags : Flags) (position : Nat) : Bool := flags &&& bit position != 0

def flagTestAndClear (flags : Flags) (position : Nat) : Bool × Flags :=
  (flagTest flags position, flagClear flags position)

private def flagIf (present : Bool) (position : Nat) : Flags :=
  if present then bit position else 0

def workFlags (running canceling queued flushing : Bool) : Flags :=
  flagIf running workRunningBit ||| flagIf canceling workCancelingBit |||
    flagIf queued workQueuedBit ||| flagIf flushing workFlushingBit

def queueFlags (started busy drain plugged stop noYield : Bool) : Flags :=
  flagIf started workQueueStartedBit ||| flagIf busy workQueueBusyBit |||
    flagIf drain workQueueDrainBit ||| flagIf plugged workQueuePluggedBit |||
    flagIf stop workQueueStopBit ||| flagIf noYield workQueueNoYieldBit

section WorkWords

variable (running canceling queued flushing : Bool)

@[simp]
theorem work_flags_test :
    flagTest (workFlags running canceling queued flushing) workRunningBit = running ∧
    flagTest (workFlags running canceling queued flushing) workCancelingBit = canceling ∧
    flagTest (workFlags running canceling queued flushing) workQueuedBit = queued ∧
    flagTest (workFlags running canceling queued flushing) workFlushingBit = flushing := by
  cases running <;> cases canceling <;> cases queued <;> cases flushing <;>
    exact ⟨rfl, rfl, rfl, rfl⟩

@[simp]
theorem work_flags_set :
    flagSet (workFlags running canceling queued flushing) workRunningBit =
      workFlags true canceling queued flushing ∧
    flagSet (workFlags running canceling queued flushing) workCancelingBit =
      workFlags running true queued flushing ∧
    flagSet (workFlags running canceling queued flushing) workQueuedBit =
      workFlags running canceling true flushing ∧
    flagSet (workFlags running canceling queued flushing) workFlushingBit =
      workFlags running canceling queued true := by
  cases running <;> cases canceling <;> cases queued <;> cases flushing <;>
    exact ⟨rfl, rfl, rfl, rfl⟩

@[simp]
theorem work_flags_clear :
    flagClear (workFlags running canceling queued flushing) workRunningBit =
      workFlags false canceling queued flushing ∧
    flagClear (workFlags running canceling queued flushing) workCancelingBit =
      workFlags running false queued flushing ∧
    flagClear (workFlags running canceling queued flushing) workQueuedBit =
      workFlags running canceling false flushing ∧
    flagClear (workFlags running canceling queued flushing) workFlushingBit =
      workFlags running canceling queued false := by
  cases running <;> cases canceling <;> cases queued <;> cases flushing <;>
    exact ⟨rfl, rfl, rfl, rfl⟩

@[simp]
theorem work_flags_masked :
    workFlags running canceling queued flushing &&& workMask =
      workFlags running canceling queued flushing := by
  cases running <;> cases canceling <;> cases queued <;> cases flushing <;> rfl

theorem work_flags_zero_iff :
    workFlags running canceling queued flushing = 0 ↔
      running = false ∧ canceling = false ∧ queued = false ∧ flushing = false := by
  cases running <;> cases canceling <;> cases queued <;> cases flushing <;> decide

theorem work_flags_busy :
    ((workFlags running running false false).toNat : Int) = if running then 3 else 0 := by
  cases running <;> rfl

theorem work_flags_none : workFlags false false false false = 0 := rfl

@[simp]
theorem work_flags_flushable :
    (workFlags running canceling queued flushing &&& (bit workQueuedBit ||| bit workRunningBit)
      != 0) = (queued || running) := by
  cases running <;> cases canceling <;> cases queued <;> cases flushing <;> rfl

end WorkWords

section QueueWords

variable (started busy drain plugged stop noYield : Bool)

@[simp]
theorem queue_flags_test :
    flagTest (queueFlags started busy drain plugged stop noYield) workQueueStartedBit =
      started ∧
    flagTest (queueFlags started busy drain plugged stop noYield) workQueueDrainBit = drain ∧
    flagTest (queueFlags started busy drain plugged stop noYield) workQueuePluggedBit =
      plugged ∧
    flagTest (queueFlags started busy drain plugged stop noYield) workQueueStopBit = stop := by
  cases started <;> cases busy <;> cases drain <;> cases plugged <;> cases stop <;>
    cases noYield <;> exact ⟨rfl, rfl, rfl, rfl⟩

@[simp]
theorem queue_flags_set :
    flagSet (queueFlags started busy drain plugged stop noYield) workQueueBusyBit =
      queueFlags started true drain plugged stop noYield ∧
    flagSet (queueFlags started busy drain plugged stop noYield) workQueueDrainBit =
      queueFlags started busy true plugged stop noYield ∧
    flagSet (queueFlags started busy drain plugged stop noYield) workQueuePluggedBit =
      queueFlags started busy drain true stop noYield ∧
    flagSet (queueFlags started busy drain plugged stop noYield) workQueueStopBit =
      queueFlags started busy drain plugged true noYield := by
  cases started <;> cases busy <;> cases drain <;> cases plugged <;> cases stop <;>
    cases noYield <;> exact ⟨rfl, rfl, rfl, rfl⟩

/-- The worker loop clears BUSY under the name of the work item flag with the
same number. -/
@[simp]
theorem queue_flags_clear :
    flagClear (queueFlags started busy drain plugged stop noYield) workCancelingBit =
      queueFlags started false drain plugged stop noYield ∧
    flagClear (queueFlags started busy drain plugged stop noYield) workQueueDrainBit =
      queueFlags started busy false plugged stop noYield ∧
    flagClear (queueFlags started busy drain plugged stop noYield) workQueuePluggedBit =
      queueFlags started busy drain false stop noYield := by
  cases started <;> cases busy <;> cases drain <;> cases plugged <;> cases stop <;>
    cases noYield <;> exact ⟨rfl, rfl, rfl⟩

@[simp]
theorem queue_flags_unsettled :
    (queueFlags started busy drain plugged stop noYield &&&
      (bit workQueueBusyBit ||| bit workQueueDrainBit) != 0) = (busy || drain) := by
  cases started <;> cases busy <;> cases drain <;> cases plugged <;> cases stop <;>
    cases noYield <;> rfl

theorem queue_flags_launched :
    (if noYield then flagSet (flagSet 0 workQueueStartedBit) workQueueNoYieldBit
      else flagSet 0 workQueueStartedBit) = queueFlags true false false false false noYield := by
  cases noYield <;> rfl

theorem queue_flags_zero : queueFlags false false false false false false = 0 := rfl

end QueueWords

end AresCommon.WorkQueue
