import AresCommon.Serial.CApi
import AresCommon.Serial.Timeout
import Mathlib.Tactic.Simps.Basic

/-!
# The serial port

`SerialPosix` with what it inherits from `SerialBase`. A method that only reads the
object takes it as an argument; what it works on then is the vector of its caller.
The loops of `read`, `write` and `read_until` have no bound in the source and take fuel.
-/

namespace AresCommon.Serial

open AresCommon.Foundation

set_option autoImplicit false

/-- `SerialException` and the classes below it, by the constructor called. -/
inductive SerialException where
  | message (text : String)
  | errnum (number : Int) (text : String)
  | timeout (text : String)
  | portNotOpen
  deriving DecidableEq, Repr

namespace SerialException

def code : SerialException → Int
  | .errnum number _ => number
  | _ => 0

def what (strerror : Int → String) : SerialException → String
  | .message text | .timeout text => text
  | .errnum number text => toString number ++ " " ++ text ++ ": " ++ strerror number
  | .portNotOpen => "Attempting to use a port that is not open"

end SerialException

structure SerialAttributes where
  port : String := ""
  baudrate : BaudRate := .baud115200
  bytesize : ByteSize := .size8
  parity : Parity := .none
  stopbits : StopBits := .one
  timeout : Int := int64Max
  xonxoff : Bool := false
  rtscts : Bool := false
  writeTimeout : Int := int64Max
  dsrdtr : Bool := false
  interByteTimeout : BitVec 32 := -1
  exclusive : Bool := false
  deriving DecidableEq, Repr

structure SerialPosix where
  isOpen : Bool
  port : String
  baudrate : BaudRate
  bytesize : ByteSize
  parity : Parity
  stopbits : StopBits
  timeout : Int
  writeTimeout : Int
  xonxoff : Bool
  rtscts : Bool
  dsrdtr : Bool
  interByteTimeout : BitVec 32
  rtsState : Bool
  dtrState : Bool
  exclusive : Bool
  fd : Int
  deriving DecidableEq, Repr

abbrev SerialMethod (Object Result : Type) : Type :=
  Method OsCall OsReply Object SerialException Result

def Api.orThrow {Object Result : Type} (call : Api Object Result)
    (raise : Errno → SerialException) : SerialMethod Object Result := do
  match ← call.attempt with
  | .ok result => pure result
  | .error errno => throw (raise errno)

@[simp]
theorem runs_or_throw {Object Result Ghost : Type} {contract : Contract OsCall OsReply Ghost}
    {call : Api Object Result} {raise : Errno → SerialException} {object : Object}
    {returns : Result → Object → Ghost → Prop} {throws : SerialException → Object → Ghost → Prop}
    {ghost : Ghost} :
    contract.runs (Api.orThrow call raise) object returns throws ghost ↔
      contract.runs call object returns (fun errno => throws (raise errno)) ghost := by
  rw [Api.orThrow, Contract.runs_bind, Contract.runs_attempt]
  exact Iff.rfl

def failed (text : String) (errno : Errno) : SerialException := .errnum errno.code text

@[simp]
theorem failed_code (text : String) (errno : Errno) : (failed text errno).code = errno.code := rfl

namespace SerialPosix

/-- The constructor of the base class, before the port is opened. -/
def ofAttributes (attr : SerialAttributes) : SerialPosix where
  isOpen := false
  port := attr.port
  baudrate := attr.baudrate
  bytesize := attr.bytesize
  parity := attr.parity
  stopbits := attr.stopbits
  timeout := attr.timeout
  writeTimeout := attr.writeTimeout
  xonxoff := attr.xonxoff
  rtscts := attr.rtscts
  dsrdtr := attr.dsrdtr
  interByteTimeout := attr.interByteTimeout
  rtsState := true
  dtrState := true
  exclusive := attr.exclusive
  fd := -1

@[simps]
def withFd (self : SerialPosix) (fd : Int) : SerialPosix := { self with fd := fd }

@[simps]
def withIsOpen (self : SerialPosix) (isOpen : Bool) : SerialPosix :=
  { self with isOpen := isOpen }

def config (self : SerialPosix) : SerialPosixConfig where
  fd := self.fd
  baudrate := self.baudrate
  parity := self.parity
  bytesize := self.bytesize
  stopbits := self.stopbits
  xonxoff := self.xonxoff
  rtscts := self.rtscts
  exclusive := self.exclusive
  interByteTimeout := self.interByteTimeout

variable {Object : Type}

/-- The first lines of most operations. -/
def requireOpen (self : SerialPosix) : SerialMethod Object Unit :=
  if self.isOpen then pure () else throw .portNotOpen

/-! ### Opening and closing -/

def reconfigurePortInternal (self : SerialPosix) : SerialMethod Object Unit :=
  Api.orThrow (configurePort self.config) (failed "Configuration failed")

def updateRtsState (self : SerialPosix) : SerialMethod Object Unit :=
  Api.orThrow (portSetRtsState self.fd self.rtsState) (failed "Unable to set RTS state")

def updateDtrState (self : SerialPosix) : SerialMethod Object Unit :=
  Api.orThrow (portSetDtrState self.fd self.dtrState) (failed "Unable to set DTR state")

/-- A port without modem lines is fine. -/
def flowControlHandler (err : SerialException) : SerialMethod Object Unit :=
  if err.code = Errno.einval.code ∨ err.code = Errno.enotty.code then pure () else throw err

def initFlowControl (self : SerialPosix) : SerialMethod Object Unit :=
  tryCatch
    (do
      if !self.dsrdtr then
        self.updateDtrState
      if !self.rtscts then
        self.updateRtsState)
    flowControlHandler

def discardInput (self : SerialPosix) : SerialMethod Object Unit :=
  Api.orThrow (portResetInput self.fd) (failed "Input buffer flush failed")

def discardOutput (self : SerialPosix) : SerialMethod Object Unit :=
  Api.orThrow (portResetOutput self.fd) (failed "Output buffer flush failed")

def close : SerialMethod SerialPosix Unit := do
  let self ← get
  if self.isOpen then
    if -1 < self.fd then
      -- what `close_port` returns is not looked at
      let _ ← (closePort self.fd : Api SerialPosix Unit).attempt
    modify (withIsOpen · false)

def initialise : SerialMethod SerialPosix Unit := do
  let self ← get
  self.reconfigurePortInternal
  self.initFlowControl
  self.discardInput

def «open» : SerialMethod SerialPosix Unit := do
  let self ← get
  if self.port = "" then
    throw (.message "Port must be configured before it can be used.")
  if self.isOpen then
    throw (.message "Port is already open")
  match ← (openPort self.port : Api SerialPosix Nat).attempt with
  | .error errno =>
      modify (withFd · (-1))
      throw (failed ("could not open port " ++ self.port) errno)
  | .ok fd =>
      modify (withFd · fd)
      tryCatch initialise fun err => do
        close
        throw err
      modify (withIsOpen · true)

section Rules

variable {Ghost : Type} {contract : Contract OsCall OsReply Ghost} {self : SerialPosix}
variable {ghost : Ghost} {returns : Unit → SerialPosix → Ghost → Prop}
variable {throws : SerialException → SerialPosix → Ghost → Prop}

theorem runs_close :
    contract.runs close self returns throws ghost ↔
      if self.isOpen = true then
        if -1 < self.fd then
          attempts contract self.fd .close self
            (fun _ self ghost => returns () (self.withIsOpen false) ghost)
            (fun _ self ghost => returns () (self.withIsOpen false) ghost) ghost
        else returns () (self.withIsOpen false) ghost
      else returns () self ghost := by
  simp [close]

theorem runs_close_of_closed (closed : self.isOpen = false)
    (holds : returns () self ghost) : contract.runs close self returns throws ghost := by
  simpa [runs_close, closed] using holds

theorem runs_open :
    contract.runs SerialPosix.open self returns throws ghost ↔
      if self.port = "" then
        throws (.message "Port must be configured before it can be used.") self ghost
      else if self.isOpen = true then throws (.message "Port is already open") self ghost
      else
        contract.permits ghost (.openPath self.port) ∧
          (∀ fd : Nat, contract.honest ghost (.openPath self.port) (.ok fd) →
            contract.runs initialise (self.withFd fd)
              (fun _ self ghost => returns () (self.withIsOpen true) ghost)
              (fun err self ghost =>
                contract.runs close self (fun _ => throws err) throws ghost)
              (contract.observe ghost (.openPath self.port) (.ok fd))) ∧
          ∀ errno, contract.honest ghost (.openPath self.port) (.error errno) →
            throws (failed ("could not open port " ++ self.port) errno) (self.withFd (-1))
              (contract.observe ghost (.openPath self.port) (.error errno)) := by
  simp [SerialPosix.open]

end Rules

/-! ### Attributes -/

def reconfigurePort : SerialMethod SerialPosix Unit := do
  let self ← get
  if self.isOpen then
    self.reconfigurePortInternal

/-- A setter writes the attribute and reconfigures the port. -/
def setAttribute (write : SerialPosix → SerialPosix) : SerialMethod SerialPosix Unit := do
  modify write
  reconfigurePort

def setPort (portname : String) : SerialMethod SerialPosix Unit :=
  setAttribute fun self => { self with port := portname }

def setBaudrate (baud : BaudRate) : SerialMethod SerialPosix Unit :=
  setAttribute fun self => { self with baudrate := baud }

def setBytesize (size : ByteSize) : SerialMethod SerialPosix Unit :=
  setAttribute fun self => { self with bytesize := size }

def setExclusive (excl : Bool) : SerialMethod SerialPosix Unit :=
  setAttribute fun self => { self with exclusive := excl }

def setParity (par : Parity) : SerialMethod SerialPosix Unit :=
  setAttribute fun self => { self with parity := par }

def setStopbits (bits : StopBits) : SerialMethod SerialPosix Unit :=
  setAttribute fun self => { self with stopbits := bits }

/-- The argument is unsigned and the attribute is signed. -/
def setInterByteTimeout (icTimeout : BitVec 32) : SerialMethod SerialPosix Unit :=
  setAttribute fun self => { self with interByteTimeout := icTimeout }

def setXonxoff (fc : Bool) : SerialMethod SerialPosix Unit :=
  setAttribute fun self => { self with xonxoff := fc }

def setRtscts (fc : Bool) : SerialMethod SerialPosix Unit :=
  setAttribute fun self => { self with rtscts := fc }

def setTimeout (duration : Int) : SerialMethod SerialPosix Unit :=
  modify fun self => { self with timeout := duration }

def setWriteTimeout (duration : Int) : SerialMethod SerialPosix Unit :=
  modify fun self => { self with writeTimeout := duration }

def setDsrdtr (fc : Bool) : SerialMethod SerialPosix Unit :=
  modify fun self => { self with dsrdtr := fc }

/-- Not guarded by `is_open_`. -/
def setRts (state : Bool) : SerialMethod SerialPosix Unit := do
  modify fun self => { self with rtsState := state }
  let self ← get
  self.updateRtsState

/-- Not guarded by `is_open_`. -/
def setDtr (state : Bool) : SerialMethod SerialPosix Unit := do
  modify fun self => { self with dtrState := state }
  let self ← get
  self.updateDtrState

/-! ### Reading -/

/-- Not guarded by `is_open_`. -/
def inWaiting (self : SerialPosix) : SerialMethod Object Nat :=
  Api.orThrow (portInWaiting self.fd) (failed "Unable to get number of bytes in waiting")

def retriesWrite (errno : Errno) : Bool :=
  errno ∈ [.eagain, .ealready, .ewouldblock, .einprogress, .eintr]

def retriesRead (errno : Errno) : Bool := retriesWrite errno || errno = .etimedout

def readTime (timeout : Timeout) : SerialMethod Object (Option Timeval × Timeout) :=
  if timeout.infinite then pure (none, timeout)
  else do
    let (tv, timeout) ← timeout.timeLeftTv
    pure (some tv, timeout)

/-- One call of `read_port`; the number of bytes that it appended to the vector. -/
def readChunk (self : SerialPosix) (readLen : Nat) (timeLeft : Option Timeval) :
    SerialMethod (List UInt8) Nat := do
  let ret : Except Errno { bytes : List UInt8 // bytes.length ≤ readLen } ←
    (readPort self.fd readLen timeLeft : Api (List UInt8) _).attempt
  match ret with
  | .error errno =>
      if retriesRead errno then pure 0
      else throw (failed "read failed" errno)
  | .ok bytes =>
      if bytes.1.length = 0 then
        throw (.errnum (-Errno.enodev.code)
          ("device reports readiness to read but returned no data " ++
            "(device disconnected or multiple access on port?)"))
      else
        modify fun b => b ++ bytes.1
        pure bytes.1.length

def readLoop (self : SerialPosix) (n : Nat) :
    (fuel bytesRead : Nat) → Timeout → SerialMethod (List UInt8) Nat
  | 0, _, _ => .stuck
  | fuel + 1, bytesRead, timeout =>
      if bytesRead < n then do
        let (timeLeft, timeout) ← readTime timeout
        let received ← self.readChunk (n - bytesRead) timeLeft
        let (expired, timeout) ← timeout.expired
        if expired then pure (bytesRead + received)
        else self.readLoop n fuel (bytesRead + received) timeout
      else pure bytesRead

def read (self : SerialPosix) (fuel n : Nat) : SerialMethod (List UInt8) Nat := do
  self.requireOpen
  modify fun _ => []
  let timeout ← Timeout.new self.timeout
  self.readLoop n fuel 0 timeout

def readAll (self : SerialPosix) (fuel : Nat) : SerialMethod (List UInt8) Nat := do
  let waiting ← self.inWaiting
  self.read fuel waiting

def readUntilLoop (self : SerialPosix) (expected : List UInt8) (len : Nat) :
    (fuel bytesRead : Nat) → Timeout → SerialMethod (List UInt8) Nat
  | 0, _, _ => .stuck
  | fuel + 1, bytesRead, timeout => do
      let (byteRead, temp) ← (self.read fuel 1).within []
      if 0 < byteRead then
        modify fun b => b ++ temp.take 1
        let bytesRead := bytesRead + 1
        let b ← get
        if expected.length ≤ bytesRead ∧ b.drop (b.length - expected.length) = expected then
          pure bytesRead
        else if len ≠ 0 ∧ len ≤ bytesRead then
          pure bytesRead
        else
          let (expired, timeout) ← timeout.expired
          if expired then pure bytesRead
          else self.readUntilLoop expected len fuel bytesRead timeout
      else pure bytesRead

def readUntil (self : SerialPosix) (fuel : Nat) (expected : List UInt8) (len : Nat) :
    SerialMethod (List UInt8) Nat := do
  let timeout ← Timeout.new self.timeout
  self.readUntilLoop expected len fuel 0 timeout

/-! ### Writing -/

def waitWriteTimed (self : SerialPosix) (timeout : Timeout) : SerialMethod Object Timeout := do
  let (expired, timeout) ← timeout.expired
  if expired then
    throw (.timeout "Write timeout")
  let (tv, timeout) ← timeout.timeLeftTv
  let ready ← Api.orThrow (selectWritePort self.fd (some tv)) (failed "select failed")
  if ready then pure timeout else throw (.timeout "Write timeout")

/-- Only a `select` that reports a time-out is an error here. -/
def waitWriteBlocking (self : SerialPosix) : SerialMethod Object Unit := do
  let ready : Except Errno Bool ← (selectWritePort self.fd none : Api Object Bool).attempt
  if ready = .ok false then
    throw (.message "write failed (select)")

def writeChunk (self : SerialPosix) (bytes : List UInt8) : SerialMethod Object Nat := do
  let ret : Except Errno { count : Nat // count ≤ bytes.length } ←
    (writePort self.fd bytes : Api Object _).attempt
  match ret with
  | .error errno =>
      if retriesWrite errno then pure 0
      else throw (failed "write failed" errno)
  | .ok count => pure count.1

def writeLoop (self : SerialPosix) (size : Nat) :
    (fuel : Nat) → (d : List UInt8) → (txLen : Nat) → Timeout → SerialMethod Object Nat
  | 0, _, _, _ => .stuck
  | fuel + 1, d, txLen, timeout =>
      if 0 < txLen then do
        let n ← self.writeChunk (d.take txLen)
        if timeout.nonBlocking then pure n
        else if !timeout.infinite then do
          let timeout ← self.waitWriteTimed timeout
          self.writeLoop size fuel (d.drop n) (txLen - n) timeout
        else do
          self.waitWriteBlocking
          self.writeLoop size fuel (d.drop n) (txLen - n) timeout
      else pure (size - d.length)

def write (self : SerialPosix) (fuel : Nat) (b : List UInt8) : SerialMethod Object Nat := do
  self.requireOpen
  let timeout ← Timeout.new self.writeTimeout
  self.writeLoop b.length fuel b b.length timeout

/-! ### Buffers and modem lines -/

def flush (self : SerialPosix) : SerialMethod Object Unit := do
  self.requireOpen
  Api.orThrow (portFlush self.fd) (failed "Unable to flush")

def resetInputBuffer (self : SerialPosix) : SerialMethod Object Unit := do
  self.requireOpen
  self.discardInput

def resetOutputBuffer (self : SerialPosix) : SerialMethod Object Unit := do
  self.requireOpen
  self.discardOutput

def line (self : SerialPosix) (port : Int → Api Object Bool) (text : String) :
    SerialMethod Object Bool := do
  self.requireOpen
  Api.orThrow (port self.fd) (failed text)

def cts (self : SerialPosix) : SerialMethod Object Bool := self.line portCts "Cannot get CTS"
def dsr (self : SerialPosix) : SerialMethod Object Bool := self.line portDsr "Cannot get DSR"
def ri (self : SerialPosix) : SerialMethod Object Bool := self.line portRi "Cannot get RI"
def cd (self : SerialPosix) : SerialMethod Object Bool := self.line portCd "Cannot get CD"

end SerialPosix

end AresCommon.Serial
