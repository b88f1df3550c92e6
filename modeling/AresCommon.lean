import AresCommon.WorkQueue.ItemState
import AresCommon.WorkQueue.Progress
import AresCommon.WorkQueue.ExactlyOnce
import AresCommon.WorkQueue.Flush
import AresCommon.WorkQueue.Cancellation
import AresCommon.WorkQueue.CancelWaiters
import AresCommon.WorkQueue.Quiescence
import AresCommon.WorkQueue.Drain
import AresCommon.WorkQueue.DrainWaiters
import AresCommon.WorkQueue.Wakeup
import AresCommon.WorkQueue.Liveness
import AresCommon.WorkQueue.Stop
import AresCommon.WorkQueue.FlusherLifetime
import AresCommon.WorkQueue.QueuePointer
import AresCommon.WorkQueue.LoopLock
import AresCommon.DataStructures.SlistMemory
import AresCommon.DataStructures.QueueWakeups
import AresCommon.DataStructures.Queue
import AresCommon.Synchronization.SemaphoreMonitor
import AresCommon.Serial.OpenClose
import AresCommon.Serial.InterByteTimeout
import AresCommon.Serial.WriteTimeout
import AresCommon.Serial.Interruption
import AresCommon.Serial.ReadUntil
import AresCommon.Serial.Countdown
import AresCommon.Serial.Deadline
import AresCommon.Serial.Line
import AresCommon.SerialTools.Ports
import AresCommon.Mntpoint.Mounts
import AresCommon.Serialization.Records
import AresCommon.Tasks.Join
import AresCommon.Datetime.Agreement
import AresCommon.Datetime.Splitting
import AresCommon.Logging.HexdumpReader
import AresCommon.Logging.Filtering
import AresCommon.Allocators.BlockSize
import AresCommon.PyUtil.RoundTrip
import AresCommon.Synchronization.SpinLock
import AresCommon.Logging.Concurrency
import AresCommon.Logging.Modules
import AresCommon.WorkQueue.SectionsAtomic
import AresCommon.WorkQueue.Service
import AresCommon.WorkQueue.Destruction
