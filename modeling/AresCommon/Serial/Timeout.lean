import Mathlib.Algebra.Order.Ring.Int
import AresCommon.Serial.Os

/-!
# Timeouts

Durations are in milliseconds and times of the monotonic clock in nanoseconds, both in
signed words of 64 bits.
-/

namespace AresCommon.Serial

open AresCommon.Foundation

set_option autoImplicit false

def int64 (value : Int) : Int := value.bmod (2 ^ 64)

/-- `milliseconds::max()` and `time_point::max()`, in their units. -/
def int64Max : Int := 2 ^ 63 - 1

structure Timeout where
  duration : Int
  targetTime : Int
  infinite : Bool
  nonBlocking : Bool
  deriving DecidableEq, Repr

namespace Timeout

variable {Object Error : Type}

def nanoseconds (milliseconds : Int) : Int := int64 (milliseconds * 1000000)

def startingAt (now timeout : Int) : Timeout where
  duration := timeout
  targetTime := if timeout = int64Max then int64Max else int64 (now + nanoseconds timeout)
  infinite := timeout = int64Max
  nonBlocking := timeout = 0

/-- The constructor, which reads the clock for a finite timeout only. -/
def new (timeout : Int) : Method OsCall OsReply Object Error Timeout :=
  if timeout = int64Max then pure (startingAt 0 timeout)
  else do
    let now ← steadyNow
    pure (startingAt now timeout)

def restartAt (timeout : Timeout) (now duration : Int) : Timeout :=
  { timeout with duration := duration, targetTime := int64 (now + nanoseconds duration) }

def restart (timeout : Timeout) (duration : Int) :
    Method OsCall OsReply Object Error Timeout := do
  let now ← steadyNow
  pure (timeout.restartAt now duration)

/-- `duration_cast` rounds toward zero. -/
def deltaAt (timeout : Timeout) (now : Int) : Int :=
  (int64 (timeout.targetTime - now)).tdiv 1000000

def timeLeft (timeout : Timeout) : Method OsCall OsReply Object Error (Int × Timeout) := do
  if timeout.nonBlocking then
    pure (0, timeout)
  else if timeout.infinite then
    pure (int64Max, timeout)
  else
    let now ← steadyNow
    if timeout.duration < timeout.deltaAt now then
      -- the clock jumped
      let restarted ← timeout.restart timeout.duration
      pure (timeout.duration, restarted)
    else pure (max 0 (timeout.deltaAt now), timeout)

def expired (timeout : Timeout) : Method OsCall OsReply Object Error (Bool × Timeout) :=
  if timeout.targetTime = int64Max then pure (false, timeout)
  else do
    let (left, timeout) ← timeout.timeLeft
    pure (decide (left ≤ 0), timeout)

def timeval (milliseconds : Int) : Timeval where
  sec := milliseconds.tdiv 1000
  usec := (int64 (milliseconds * 1000)).tmod 1000000

def timeLeftTv (timeout : Timeout) :
    Method OsCall OsReply Object Error (Timeval × Timeout) := do
  let (left, timeout) ← timeout.timeLeft
  pure (timeval left, timeout)

end Timeout

end AresCommon.Serial
