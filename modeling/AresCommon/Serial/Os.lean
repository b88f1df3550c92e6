import AresCommon.Foundation.Program

/-!
# What the serial port asks of the operating system

The calls that the C interface of the serial port makes. All but two are made on a
descriptor. A call that fails has an errno and nothing else.
-/

namespace AresCommon.Serial

open AresCommon.Foundation

set_option autoImplicit false

structure Errno where
  code : Int
  positive : 0 < code := by decide
  deriving DecidableEq, Repr

namespace Errno

def eintr : Errno := { code := 4 }
def eagain : Errno := { code := 11 }
def ewouldblock : Errno := eagain
def enodev : Errno := { code := 19 }
def einval : Errno := { code := 22 }
def enotty : Errno := { code := 25 }
def etimedout : Errno := { code := 110 }
def ealready : Errno := { code := 114 }
def einprogress : Errno := { code := 115 }

end Errno

/-- `struct termios`, with the speeds that `cfsetispeed` and `cfsetospeed` store. -/
structure Termios where
  iflag : BitVec 32
  oflag : BitVec 32
  cflag : BitVec 32
  lflag : BitVec 32
  ispeed : BitVec 32
  ospeed : BitVec 32
  cc : Vector (BitVec 8) 32
  deriving DecidableEq, Repr

inductive ModemLine where
  | rts
  | dtr
  deriving DecidableEq, Repr

structure Timeval where
  sec : Int
  usec : Int
  deriving DecidableEq, Repr

inductive DescriptorCall where
  /-- `fcntl(F_SETLK)` on the whole file -/
  | setLock (exclusive : Bool)
  | tcgetattr
  | tcsetattr (tty : Termios)
  /-- `ioctl` with `TIOCMBIS` or `TIOCMBIC` -/
  | setModem (line : ModemLine) (state : Bool)
  /-- `ioctl(TIOCMGET)` -/
  | getModem
  /-- `ioctl(TIOCINQ)` -/
  | inputQueue
  | tcdrain
  /-- `tcflush(TCIFLUSH)` -/
  | flushInput
  /-- `tcflush(TCOFLUSH)` -/
  | flushOutput
  | selectRead (timeout : Option Timeval)
  | selectWrite (timeout : Option Timeval)
  | read (nbytes : Nat)
  | write (bytes : List UInt8)
  | close
  deriving DecidableEq, Repr

inductive OsCall where
  | openPath (path : String)
  | clock
  | on (fd : Int) (call : DescriptorCall)
  deriving DecidableEq, Repr

/-- What a call on a descriptor answers when it does not fail. -/
@[reducible]
def DescriptorCall.Answer : DescriptorCall → Type
  | .tcgetattr => Termios
  | .getModem => BitVec 32
  | .inputQueue => Nat
  -- false when the time is up
  | .selectRead _ | .selectWrite _ => Bool
  | .read nbytes => { bytes : List UInt8 // bytes.length ≤ nbytes }
  | .write bytes => { count : Nat // count ≤ bytes.length }
  | _ => Unit

/-- `open` gives a descriptor, the monotonic clock a time in nanoseconds. -/
@[reducible]
def OsReply : OsCall → Type
  | .openPath _ => Except Errno Nat
  | .clock => Int
  | .on _ call => Except Errno call.Answer

def rawTermios : Termios where
  iflag := 0
  oflag := 0
  cflag := 0
  lflag := 0
  ispeed := 0
  ospeed := 0
  cc := Vector.replicate 32 0

def obliging : (call : OsCall) → OsReply call
  | .openPath _ => .ok 3
  | .clock => (0 : Int)
  | .on _ call => .ok <| match call with
    | .tcgetattr => rawTermios
    | .getModem => 0#32
    | .inputQueue => (0 : Nat)
    | .selectRead _ | .selectWrite _ => true
    | .read _ => ⟨[], Nat.zero_le _⟩
    | .write bytes => ⟨bytes.length, Nat.le_refl _⟩
    | .setLock _ | .tcsetattr _ | .setModem _ _ | .tcdrain | .flushInput | .flushOutput
    | .close => ()

/-- A function of the C interface. Where it returns `-1` and sets `errno`, or returns
`-errno`, this one throws. -/
abbrev Api (Object Result : Type) : Type := Method OsCall OsReply Object Errno Result

variable {Object : Type}

def onDescriptor (fd : Int) (call : DescriptorCall) : Api Object call.Answer := do
  let reply : Except Errno call.Answer ← Method.request (OsCall.on fd call)
  match reply with
  | .ok answer => pure answer
  | .error errno => throw errno

def steadyNow {Error : Type} : Method OsCall OsReply Object Error Int :=
  Method.request OsCall.clock

section Rules

variable {Ghost Error : Type} {contract : Contract OsCall OsReply Ghost} {object : Object}
variable {ghost : Ghost}

/-- What one call on a descriptor needs: a permission, and the postconditions after an
answer and after a failure. -/
def attempts (contract : Contract OsCall OsReply Ghost) (fd : Int) (call : DescriptorCall)
    (object : Object) (returns : call.Answer → Object → Ghost → Prop)
    (throws : Errno → Object → Ghost → Prop) (ghost : Ghost) : Prop :=
  contract.permits ghost (.on fd call) ∧
    (∀ answer, contract.honest ghost (.on fd call) (.ok answer) →
      returns answer object (contract.observe ghost (.on fd call) (.ok answer))) ∧
    ∀ errno, contract.honest ghost (.on fd call) (.error errno) →
      throws errno object (contract.observe ghost (.on fd call) (.error errno))

theorem runs_on_descriptor {fd : Int} {call : DescriptorCall}
    {returns : call.Answer → Object → Ghost → Prop} {throws : Errno → Object → Ghost → Prop} :
    contract.runs (onDescriptor fd call) object returns throws ghost ↔
      attempts contract fd call object returns throws ghost := by
  simp only [onDescriptor, Contract.runs_bind, Contract.runs_request]
  refine and_congr_right fun _ => ⟨fun replies => ?_, fun replies reply honest => ?_⟩
  · exact ⟨fun answer honest => replies (.ok answer) honest,
      fun errno honest => replies (.error errno) honest⟩
  · rcases reply with errno | answer
    · exact replies.2 errno honest
    · exact replies.1 answer honest

@[simp]
theorem runs_steady_now {returns : Int → Object → Ghost → Prop}
    {throws : Error → Object → Ghost → Prop} :
    contract.runs steadyNow object returns throws ghost ↔
      contract.permits ghost .clock ∧ ∀ now, contract.honest ghost .clock now →
        returns now object (contract.observe ghost .clock now) := Iff.rfl

end Rules

end AresCommon.Serial
