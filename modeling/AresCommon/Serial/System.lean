import AresCommon.Foundation.Transition
import AresCommon.Serial.SerialPosix

/-!
# Runs of a serial port

A serial port is constructed, used and destroyed. One step of the system is one
operation from its call to its return or throw, labelled with the calls it made and
what they answered.
-/

namespace AresCommon.Serial

open AresCommon.Foundation AresCommon.Foundation.Transition

set_option autoImplicit false

/-- The public operations that do more than read an attribute. The vector of `read` and
its like is the one of the caller. -/
inductive Operation where
  | open
  | close
  | setPort (portname : String)
  | setBaudrate (baud : BaudRate)
  | setBytesize (size : ByteSize)
  | setExclusive (excl : Bool)
  | setParity (par : Parity)
  | setStopbits (bits : StopBits)
  | setInterByteTimeout (icTimeout : BitVec 32)
  | setXonxoff (fc : Bool)
  | setRtscts (fc : Bool)
  | setTimeout (duration : Int)
  | setWriteTimeout (duration : Int)
  | setDsrdtr (fc : Bool)
  | setRts (state : Bool)
  | setDtr (state : Bool)
  | inWaiting
  | read (b : List UInt8) (n : Nat)
  | readAll (b : List UInt8)
  | readUntil (b expected : List UInt8) (len : Nat)
  | write (b : List UInt8)
  | flush
  | resetInputBuffer
  | resetOutputBuffer
  | cts
  | dsr
  | ri
  | cd
  deriving DecidableEq, Repr

/-- The operations that do not look at `is_open_` first. -/
def Operation.unguarded : Operation → Bool
  | .setRts _ | .setDtr _ | .inWaiting | .readAll _ => true
  | _ => false

inductive Output where
  | void (result : Except SerialException Unit)
  | bool (result : Except SerialException Bool)
  | count (result : Except SerialException Nat)
  | bytes (result : Except SerialException Nat) (b : List UInt8)

abbrev SerialProgram (Result : Type) : Type := Program OsCall OsReply Result

namespace SerialPosix

def updating (self : SerialPosix) (method : SerialMethod SerialPosix Unit) :
    SerialProgram (Output × SerialPosix) := do
  let (result, self) ← method.on self
  pure (.void result, self)

def reading {Result : Type} (self : SerialPosix) (method : SerialMethod Unit Result)
    (output : Except SerialException Result → Output) : SerialProgram (Output × SerialPosix) := do
  let (result, _) ← method.on ()
  pure (output result, self)

def filling (self : SerialPosix) (method : SerialMethod (List UInt8) Nat) (b : List UInt8) :
    SerialProgram (Output × SerialPosix) := do
  let (result, b) ← method.on b
  pure (.bytes result b, self)

def perform (self : SerialPosix) (fuel : Nat) :
    Operation → SerialProgram (Output × SerialPosix)
  | .open => self.updating SerialPosix.open
  | .close => self.updating SerialPosix.close
  | .setPort portname => self.updating (SerialPosix.setPort portname)
  | .setBaudrate baud => self.updating (SerialPosix.setBaudrate baud)
  | .setBytesize size => self.updating (SerialPosix.setBytesize size)
  | .setExclusive excl => self.updating (SerialPosix.setExclusive excl)
  | .setParity par => self.updating (SerialPosix.setParity par)
  | .setStopbits bits => self.updating (SerialPosix.setStopbits bits)
  | .setInterByteTimeout icTimeout => self.updating (SerialPosix.setInterByteTimeout icTimeout)
  | .setXonxoff fc => self.updating (SerialPosix.setXonxoff fc)
  | .setRtscts fc => self.updating (SerialPosix.setRtscts fc)
  | .setTimeout duration => self.updating (SerialPosix.setTimeout duration)
  | .setWriteTimeout duration => self.updating (SerialPosix.setWriteTimeout duration)
  | .setDsrdtr fc => self.updating (SerialPosix.setDsrdtr fc)
  | .setRts state => self.updating (SerialPosix.setRts state)
  | .setDtr state => self.updating (SerialPosix.setDtr state)
  | .inWaiting => self.reading self.inWaiting .count
  | .read b n => self.filling (self.read fuel n) b
  | .readAll b => self.filling (self.readAll fuel) b
  | .readUntil b expected len => self.filling (self.readUntil fuel expected len) b
  | .write b => self.reading (self.write fuel b) .count
  | .flush => self.reading self.flush .void
  | .resetInputBuffer => self.reading self.resetInputBuffer .void
  | .resetOutputBuffer => self.reading self.resetOutputBuffer .void
  | .cts => self.reading self.cts .bool
  | .dsr => self.reading self.dsr .bool
  | .ri => self.reading self.ri .bool
  | .cd => self.reading self.cd .bool

end SerialPosix

/-- `gone` after the destructor and after a constructor that threw. -/
inductive SerialState where
  | unborn
  | alive (self : SerialPosix)
  | gone
  deriving DecidableEq

inductive SerialCall where
  | construct (attr : SerialAttributes)
  | destroy
  | perform (operation : Operation)
  deriving DecidableEq

namespace SerialState

/-- The constructor of `SerialPosix` opens the port that it is given. -/
def construct (attr : SerialAttributes) : SerialProgram (Output × SerialState) :=
  if (SerialPosix.ofAttributes attr).port = "" then
    pure (.void (.ok ()), .alive (.ofAttributes attr))
  else do
    match ← SerialPosix.open.on (.ofAttributes attr) with
    | (.ok result, self) => pure (.void (.ok result), .alive self)
    | (.error err, _) => pure (.void (.error err), .gone)

def destroy (self : SerialPosix) : SerialProgram (Output × SerialState) := do
  let (result, _) ← SerialPosix.close.on self
  pure (.void result, .gone)

def call (fuel : Nat) : SerialState → SerialCall → Option (SerialProgram (Output × SerialState))
  | .unborn, .construct attr => some (construct attr)
  | .alive self, .destroy => some (destroy self)
  | .alive self, .perform operation => some do
      let (output, self) ← self.perform fuel operation
      pure (output, .alive self)
  | _, _ => none

def isOpen : SerialState → Bool
  | .alive self => self.isOpen
  | _ => false

end SerialState

abbrev OsEvent : Type := Event OsCall OsReply

abbrev anyCalls : Contract OsCall OsReply (List OsEvent) :=
  Contract.recording (fun _ _ => True) fun _ _ _ => True

structure SerialAction where
  call : SerialCall
  events : List OsEvent

def SerialCall.opens : SerialCall → Bool
  | .construct _ | .perform .open => true
  | _ => false

def SerialCall.unguarded : SerialCall → Bool
  | .perform operation => operation.unguarded
  | _ => false

def OsCall.onDescriptor : OsCall → Bool
  | .on _ _ => true
  | _ => false

/-- A call that has come as far as `events`, with its result when it has ended. -/
def SerialState.Makes (state : SerialState) (action : SerialAction)
    (outcome : Option (Output × SerialState)) : Prop :=
  ∃ fuel program, state.call fuel action.call = some program ∧
    program.Yields action.events outcome

def SerialStep (state : SerialState) (action : SerialAction) (output : Output)
    (state' : SerialState) : Prop := state.Makes action (some (output, state'))

abbrev SerialRun (allowed : SerialState → SerialAction → Prop) :
    List (SerialAction × Output) → SerialState → Prop :=
  fun trace final => Run SerialStep allowed .unborn trace final

def osEvents (trace : List (SerialAction × Output)) : List OsEvent :=
  trace.flatMap fun entry => entry.1.events

/-! ### Scripted runs -/

section Scripts

variable {World : Type} (answer : World → (call : OsCall) → OsReply call × World) (fuel : Nat)

def enact (state : SerialState) (script : SerialCall × World) :
    Option (SerialAction × Output × SerialState) := do
  let program ← state.call fuel script.1
  match program.play answer script.2 with
  | (events, some (output, state)) => some (⟨script.1, events⟩, output, state)
  | (_, none) => none

variable {answer fuel}

theorem step_of_enact {state state' : SerialState} {script : SerialCall × World}
    {action : SerialAction} {output : Output}
    (enacted : enact answer fuel state script = some (action, output, state')) :
    SerialStep state action output state' := by
  obtain ⟨program, called, played⟩ := Option.bind_eq_some_iff.mp enacted
  have yields := Program.play_yields answer program script.2
  generalize program.play answer script.2 = result at played yields
  obtain ⟨events, _ | ⟨output, state⟩⟩ := result
  · cases played
  · cases played
    exact ⟨fuel, program, called, yields⟩

end Scripts

end AresCommon.Serial
