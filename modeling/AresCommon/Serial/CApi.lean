import AresCommon.Serial.Os

/-!
# The C interface of the serial port

A value of an enumeration that the header does not list is `unlisted`. `PARITY_INVALID`
is the enumerator after `PARITY_DEFAULT`, which makes it `PARITY_EVEN`; in the same way
`BAUD_INVALID` is `BAUD_230400` and `STOPBITS_INVALID` is `STOPBITS_1P5`. Only
`SIZE_INVALID` is a value of its own.
-/

namespace AresCommon.Serial

open AresCommon.Foundation

set_option autoImplicit false

inductive BaudRate where
  | baud0 | baud50 | baud75 | baud110 | baud134 | baud150 | baud200 | baud300 | baud600
  | baud1200 | baud1800 | baud2400 | baud4800 | baud9600 | baud19200 | baud38400 | baud57600
  | baud115200 | baud230400 | baud460800 | baud500000 | baud576000 | baud921600
  | baud1000000 | baud1152000 | baud1500000 | baud2000000 | baud2500000 | baud3000000
  | baud3500000 | baud4000000
  | unlisted (value : Nat)
  deriving DecidableEq, Repr

inductive Parity where
  | none | even | odd | mark | space
  | unlisted (value : Nat)
  deriving DecidableEq, Repr

inductive ByteSize where
  | size5 | size6 | size7 | size8
  | invalid
  | unlisted (value : Nat)
  deriving DecidableEq, Repr

inductive StopBits where
  | one | onePointFive | two
  | unlisted (value : Nat)
  deriving DecidableEq, Repr

structure SerialPosixConfig where
  fd : Int
  baudrate : BaudRate
  parity : Parity
  bytesize : ByteSize
  stopbits : StopBits
  xonxoff : Bool
  rtscts : Bool
  exclusive : Bool
  interByteTimeout : BitVec 32
  deriving DecidableEq, Repr

/-! ### Flags and special characters -/

def clocal : BitVec 32 := 0x800#32
def cread : BitVec 32 := 0x80#32
def parenb : BitVec 32 := 0x100#32
def parodd : BitVec 32 := 0x200#32
def cmspar : BitVec 32 := 0x40000000#32
def csize : BitVec 32 := 0x30#32
def cs5 : BitVec 32 := 0x0#32
def cs6 : BitVec 32 := 0x10#32
def cs7 : BitVec 32 := 0x20#32
def cs8 : BitVec 32 := 0x30#32
def cstopb : BitVec 32 := 0x40#32
def crtscts : BitVec 32 := 0x80000000#32
def ignbrk : BitVec 32 := 0x1#32
def inlcr : BitVec 32 := 0x40#32
def igncr : BitVec 32 := 0x80#32
def icrnl : BitVec 32 := 0x100#32
def ixon : BitVec 32 := 0x400#32
def ixany : BitVec 32 := 0x800#32
def ixoff : BitVec 32 := 0x1000#32

def vtimeIndex : Fin 32 := 5
def vminIndex : Fin 32 := 6

def BaudRate.speed : BaudRate → Option (BitVec 32)
  | .baud0 => some 0x0#32
  | .baud50 => some 0x1#32
  | .baud75 => some 0x2#32
  | .baud110 => some 0x3#32
  | .baud134 => some 0x4#32
  | .baud150 => some 0x5#32
  | .baud200 => some 0x6#32
  | .baud300 => some 0x7#32
  | .baud600 => some 0x8#32
  | .baud1200 => some 0x9#32
  | .baud1800 => some 0xa#32
  | .baud2400 => some 0xb#32
  | .baud4800 => some 0xc#32
  | .baud9600 => some 0xd#32
  | .baud19200 => some 0xe#32
  | .baud38400 => some 0xf#32
  | .baud57600 => some 0x1001#32
  | .baud115200 => some 0x1002#32
  | .baud230400 => some 0x1003#32
  | .baud460800 => some 0x1004#32
  | .baud500000 => some 0x1005#32
  | .baud576000 => some 0x1006#32
  | .baud921600 => some 0x1007#32
  | .baud1000000 => some 0x1008#32
  | .baud1152000 => some 0x1009#32
  | .baud1500000 => some 0x100a#32
  | .baud2000000 => some 0x100b#32
  | .baud2500000 => some 0x100c#32
  | .baud3000000 => some 0x100d#32
  | .baud3500000 => some 0x100e#32
  | .baud4000000 => some 0x100f#32
  | .unlisted _ => none

/-! ### Configuration -/

/-- `set_baud`. The words that `cfsetispeed` and `cfsetospeed` store; the copies of the speed
that they also make in the `CBAUD` bits of `c_cflag` and the `IBAUD0` bit of `c_iflag` are left
out. -/
def setBaud (baudrate : BaudRate) (tty : Termios) : Except Errno Termios :=
  match baudrate.speed with
  | none => throw .einval
  | some baud => pure { tty with ispeed := baud, ospeed := baud }

def setParity (parity : Parity) (tty : Termios) : Except Errno Termios :=
  match parity with
  | .none => pure { tty with cflag := tty.cflag &&& ~~~parenb }
  | .even => pure { tty with cflag := (tty.cflag ||| parenb) &&& ~~~parodd }
  | .odd => pure { tty with cflag := tty.cflag ||| (parenb ||| parodd) }
  | .mark => pure { tty with cflag := tty.cflag ||| (parenb ||| cmspar ||| parodd) }
  | .space => pure { tty with cflag := (tty.cflag ||| (parenb ||| cmspar)) &&& ~~~parodd }
  | .unlisted _ => throw .einval

def setStopbits (bits : StopBits) (tty : Termios) : Except Errno Termios :=
  match bits with
  | .one => pure { tty with cflag := tty.cflag &&& ~~~cstopb }
  | .onePointFive | .two => pure { tty with cflag := tty.cflag ||| cstopb }
  | .unlisted _ => throw .einval

def setBytesize (size : ByteSize) (tty : Termios) : Except Errno Termios :=
  let cleared := tty.cflag &&& ~~~csize
  match size with
  | .size5 => pure { tty with cflag := cleared ||| cs5 }
  | .size6 => pure { tty with cflag := cleared ||| cs6 }
  | .size7 => pure { tty with cflag := cleared ||| cs7 }
  | .size8 => pure { tty with cflag := cleared ||| cs8 }
  | .invalid | .unlisted _ => throw .einval

def setXonxoff (xonxoff : Bool) (tty : Termios) : Termios :=
  if xonxoff then { tty with iflag := tty.iflag ||| (ixon ||| ixoff) }
  else { tty with iflag := tty.iflag &&& ~~~(ixon ||| ixoff ||| ixany) }

def setRtscts (rtscts : Bool) (tty : Termios) : Termios :=
  if rtscts then { tty with cflag := tty.cflag ||| crtscts }
  else { tty with cflag := tty.cflag &&& ~~~crtscts }

def Termios.withTimes (tty : Termios) (vmin vtime : BitVec 8) : Termios :=
  { tty with cc := (tty.cc.set vminIndex vmin).set vtimeIndex vtime }

def ccMaxVal : Int := 255

/-- The product is one of `int32_t` and wraps. -/
def setIcTimeout (timeout : BitVec 32) (tty : Termios) : Except Errno Termios :=
  if 0 ≤ timeout.toInt then
    if (timeout * 10#32).toInt < 0 ∨ ccMaxVal < (timeout * 10#32).toInt then throw .einval
    else pure (tty.withTimes 1#8 ((timeout * 10#32).setWidth 8))
  else pure (tty.withTimes 0#8 0#8)

/-- The raw mode that every configuration starts from. -/
def Termios.raw (tty : Termios) : Termios :=
  { tty with
    cflag := tty.cflag ||| (clocal ||| cread)
    lflag := 0
    oflag := 0
    iflag := tty.iflag &&& ~~~(inlcr ||| igncr ||| icrnl ||| ignbrk) }

/-- What `configure_port` does to the settings between `tcgetattr` and `tcsetattr`. -/
def SerialPosixConfig.settings (config : SerialPosixConfig) (tty : Termios) :
    Except Errno Termios := do
  let tty ← setBaud config.baudrate tty.raw
  let tty ← setParity config.parity tty
  let tty ← setStopbits config.stopbits tty
  let tty ← setBytesize config.bytesize tty
  let tty := setRtscts config.rtscts (setXonxoff config.xonxoff tty)
  setIcTimeout config.interByteTimeout tty

variable {Object : Type}

def tcgetattr (fd : Int) : Api Object Termios := onDescriptor fd .tcgetattr

def tcsetattr (fd : Int) (tty : Termios) : Api Object Unit := onDescriptor fd (.tcsetattr tty)

def portUpdateFileLock (fd : Int) (exclusive : Bool) : Api Object Unit :=
  onDescriptor fd (.setLock exclusive)

def configurePort (config : SerialPosixConfig) : Api Object Unit := do
  portUpdateFileLock config.fd config.exclusive
  let tty ← tcgetattr config.fd
  match config.settings tty with
  | .error errno => throw errno
  | .ok tty => tcsetattr config.fd tty

/-! ### Opening, reading and writing -/

def openPort (port : String) : Api Object Nat := do
  let reply : Except Errno Nat ← Method.request (OsCall.openPath port)
  match reply with
  | .ok fd => pure fd
  | .error errno => throw errno

def closePort (fd : Int) : Api Object Unit := onDescriptor fd .close

/-- A `select` that fails is followed by the `read` like one that is ready. -/
def readPort (fd : Int) (nbytes : Nat) (timeLeft : Option Timeval) :
    Api Object { bytes : List UInt8 // bytes.length ≤ nbytes } := do
  let ready : Except Errno Bool ← (onDescriptor fd (.selectRead timeLeft) : Api Object _).attempt
  if ready = .ok false then
    throw .etimedout
  onDescriptor fd (.read nbytes)

def writePort (fd : Int) (bytes : List UInt8) :
    Api Object { count : Nat // count ≤ bytes.length } :=
  onDescriptor fd (.write bytes)

def selectWritePort (fd : Int) (timeout : Option Timeval) : Api Object Bool :=
  onDescriptor fd (.selectWrite timeout)

def portInWaiting (fd : Int) : Api Object Nat := onDescriptor fd .inputQueue

def portFlush (fd : Int) : Api Object Unit := onDescriptor fd .tcdrain

def portResetInput (fd : Int) : Api Object Unit := onDescriptor fd .flushInput

def portResetOutput (fd : Int) : Api Object Unit := onDescriptor fd .flushOutput

/-! ### Modem lines -/

def tiocmCts : BitVec 32 := 0x20#32
def tiocmCd : BitVec 32 := 0x40#32
def tiocmRi : BitVec 32 := 0x80#32
def tiocmDsr : BitVec 32 := 0x100#32

def portStatus (mask : BitVec 32) (fd : Int) : Api Object Bool := do
  let status : BitVec 32 ← onDescriptor fd .getModem
  pure (status &&& mask ≠ 0)

def portCts (fd : Int) : Api Object Bool := portStatus tiocmCts fd
def portDsr (fd : Int) : Api Object Bool := portStatus tiocmDsr fd
def portRi (fd : Int) : Api Object Bool := portStatus tiocmRi fd
def portCd (fd : Int) : Api Object Bool := portStatus tiocmCd fd

def portSetRtsState (fd : Int) (state : Bool) : Api Object Unit :=
  onDescriptor fd (.setModem .rts state)

def portSetDtrState (fd : Int) (state : Bool) : Api Object Unit :=
  onDescriptor fd (.setModem .dtr state)

/-! ### Rules -/

section Rules

variable {Ghost : Type} {contract : Contract OsCall OsReply Ghost} {object : Object}
variable {ghost : Ghost} {fd : Int}
variable {returns : Unit → Object → Ghost → Prop} {throws : Errno → Object → Ghost → Prop}

@[simp]
theorem runs_port_update_file_lock {exclusive : Bool} :
    contract.runs (portUpdateFileLock fd exclusive) object returns throws ghost ↔
      attempts contract fd (.setLock exclusive) object returns throws ghost := runs_on_descriptor

@[simp]
theorem runs_tcgetattr {returns : Termios → Object → Ghost → Prop} :
    contract.runs (tcgetattr fd) object returns throws ghost ↔
      attempts contract fd .tcgetattr object returns throws ghost := runs_on_descriptor

@[simp]
theorem runs_tcsetattr {tty : Termios} :
    contract.runs (tcsetattr fd tty) object returns throws ghost ↔
      attempts contract fd (.tcsetattr tty) object returns throws ghost := runs_on_descriptor

@[simp]
theorem runs_close_port :
    contract.runs (closePort fd) object returns throws ghost ↔
      attempts contract fd .close object returns throws ghost := runs_on_descriptor

@[simp]
theorem runs_port_set_rts_state {state : Bool} :
    contract.runs (portSetRtsState fd state) object returns throws ghost ↔
      attempts contract fd (.setModem .rts state) object returns throws ghost :=
  runs_on_descriptor

@[simp]
theorem runs_port_set_dtr_state {state : Bool} :
    contract.runs (portSetDtrState fd state) object returns throws ghost ↔
      attempts contract fd (.setModem .dtr state) object returns throws ghost :=
  runs_on_descriptor

@[simp]
theorem runs_port_reset_input :
    contract.runs (portResetInput fd) object returns throws ghost ↔
      attempts contract fd .flushInput object returns throws ghost := runs_on_descriptor

@[simp]
theorem runs_write_port {bytes : List UInt8}
    {returns : { count : Nat // count ≤ bytes.length } → Object → Ghost → Prop} :
    contract.runs (writePort fd bytes) object returns throws ghost ↔
      attempts contract fd (.write bytes) object returns throws ghost := runs_on_descriptor

@[simp]
theorem runs_select_write_port {timeout : Option Timeval}
    {returns : Bool → Object → Ghost → Prop} :
    contract.runs (selectWritePort fd timeout) object returns throws ghost ↔
      attempts contract fd (.selectWrite timeout) object returns throws ghost :=
  runs_on_descriptor

/-- A read is tried after any `select` that does not time out. -/
@[simp]
theorem runs_read_port {nbytes : Nat} {timeLeft : Option Timeval}
    {returns : { bytes : List UInt8 // bytes.length ≤ nbytes } → Object → Ghost → Prop} :
    contract.runs (readPort fd nbytes timeLeft) object returns throws ghost ↔
      contract.permits ghost (.on fd (.selectRead timeLeft)) ∧
        ∀ ready : Except Errno Bool, contract.honest ghost (.on fd (.selectRead timeLeft)) ready →
          if ready = .ok false then
            throws .etimedout object
              (contract.observe ghost (.on fd (.selectRead timeLeft)) ready)
          else attempts contract fd (.read nbytes) object returns throws
            (contract.observe ghost (.on fd (.selectRead timeLeft)) ready) := by
  rw [readPort, Contract.runs_bind, Contract.runs_attempt]
  apply runs_on_descriptor.trans
  refine and_congr_right fun _ => ⟨fun replies ready honest => ?_, fun replies => ⟨?_, ?_⟩⟩
  · rcases ready with errno | _ | _
    · exact runs_on_descriptor.mp (replies.2 errno honest)
    · exact replies.1 false honest
    · exact runs_on_descriptor.mp (replies.1 true honest)
  · intro answer honest
    cases answer with
    | false => exact replies (.ok false) honest
    | true => exact runs_on_descriptor.mpr (replies (.ok true) honest)
  · intro errno honest
    exact runs_on_descriptor.mpr (replies (.error errno) honest)

@[simp]
theorem runs_open_port {port : String} {returns : Nat → Object → Ghost → Prop} :
    contract.runs (openPort port) object returns throws ghost ↔
      contract.permits ghost (.openPath port) ∧
        (∀ fd, contract.honest ghost (.openPath port) (.ok fd) →
          returns fd object (contract.observe ghost (.openPath port) (.ok fd))) ∧
        ∀ errno, contract.honest ghost (.openPath port) (.error errno) →
          throws errno object (contract.observe ghost (.openPath port) (.error errno)) := by
  simp only [openPort, Contract.runs_bind, Contract.runs_request]
  refine and_congr_right fun _ => ⟨fun replies => ?_, fun replies reply honest => ?_⟩
  · exact ⟨fun fd honest => replies (.ok fd) honest,
      fun errno honest => replies (.error errno) honest⟩
  · rcases reply with errno | fd
    · exact replies.2 errno honest
    · exact replies.1 fd honest

@[simp]
theorem runs_configure_port {config : SerialPosixConfig} :
    contract.runs (configurePort config) object returns throws ghost ↔
      attempts contract config.fd (.setLock config.exclusive) object
        (fun _ object ghost => attempts contract config.fd .tcgetattr object
          (fun tty object ghost => match config.settings tty with
            | .error errno => throws errno object ghost
            | .ok tty => attempts contract config.fd (.tcsetattr tty) object returns throws ghost)
          throws ghost)
        throws ghost := by
  simp only [configurePort, Contract.runs_bind, runs_port_update_file_lock, runs_tcgetattr]
  refine iff_of_eq (congrArg (attempts contract _ _ _ · _ _) ?_)
  funext _ object ghost
  refine congrArg (attempts contract _ _ _ · _ _) ?_
  funext tty object ghost
  cases config.settings tty with
  | error errno => rfl
  | ok tty => exact propext runs_tcsetattr

end Rules

end AresCommon.Serial
