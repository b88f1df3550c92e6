import AresCommon.Serial.ConfigurationHistory
import AresCommon.Serial.SerialPosix

/-!
# Attribute setters

A setter writes its attribute and then configures the port, and nothing takes the
attribute back when that fails. What a setter that throws leaves alone is the rest of
the object and the settings of the device.
-/

namespace AresCommon.Serial

open AresCommon.Foundation

set_option autoImplicit false

inductive Setting where
  | baudrate (baud : BaudRate)
  | bytesize (size : ByteSize)
  | parity (par : Parity)
  | stopbits (bits : StopBits)
  | exclusive (excl : Bool)
  | xonxoff (fc : Bool)
  | rtscts (fc : Bool)
  | interByteTimeout (icTimeout : BitVec 32)
  deriving DecidableEq, Repr

namespace Setting

def setter : Setting → SerialMethod SerialPosix Unit
  | .baudrate baud => SerialPosix.setBaudrate baud
  | .bytesize size => SerialPosix.setBytesize size
  | .parity par => SerialPosix.setParity par
  | .stopbits bits => SerialPosix.setStopbits bits
  | .exclusive excl => SerialPosix.setExclusive excl
  | .xonxoff fc => SerialPosix.setXonxoff fc
  | .rtscts fc => SerialPosix.setRtscts fc
  | .interByteTimeout icTimeout => SerialPosix.setInterByteTimeout icTimeout

def write (self : SerialPosix) : Setting → SerialPosix
  | .baudrate baud => { self with baudrate := baud }
  | .bytesize size => { self with bytesize := size }
  | .parity par => { self with parity := par }
  | .stopbits bits => { self with stopbits := bits }
  | .exclusive excl => { self with exclusive := excl }
  | .xonxoff fc => { self with xonxoff := fc }
  | .rtscts fc => { self with rtscts := fc }
  | .interByteTimeout icTimeout => { self with interByteTimeout := icTimeout }

theorem setter_eq (setting : Setting) :
    setting.setter = SerialPosix.setAttribute fun self => setting.write self := by
  cases setting <;> rfl

theorem write_keeps (self : SerialPosix) (setting : Setting) :
    (setting.write self).isOpen = self.isOpen ∧ (setting.write self).fd = self.fd := by
  cases setting <;> exact ⟨rfl, rfl⟩

end Setting

variable {refers : Int → Bool} {device : Device} {self : SerialPosix}

theorem setter_device (setting : Setting) (opened : self.isOpen = true)
    (fd : refers self.fd = true) :
    (deviceContract refers).runs setting.setter self
      (fun _ after now => after = setting.write self ∧ now.locked = after.exclusive ∧
        after.config.settings device.termios = .ok now.termios)
      (fun _ after now => after = setting.write self ∧ now.termios = device.termios ∧
        (now.locked = device.locked ∨ now.locked = after.exclusive)) device := by
  obtain ⟨sameOpen, sameFd⟩ := setting.write_keeps self
  have written : (setting.write self).isOpen = true := sameOpen.trans opened
  have refersTo : refers (setting.write self).config.fd = true := by
    change refers (setting.write self).fd = true
    rw [sameFd]
    exact fd
  rw [setting.setter_eq]
  simp only [SerialPosix.setAttribute, SerialPosix.reconfigurePort, Contract.runs_bind,
    Contract.runs_modify, Contract.runs_get, Contract.runs_ite, if_pos written,
    SerialPosix.reconfigurePortInternal, runs_or_throw]
  apply Contract.runs_mono (configure_port_device refersTo)
  · rintro _ after now ⟨rfl, locked, settings⟩
    exact ⟨rfl, locked, settings⟩
  · rintro errno after now ⟨rfl, termios, locked⟩
    exact ⟨rfl, termios, locked⟩

/-- A setter that throws leaves its attribute written, every other attribute and the
settings of the device as they were, and the lock as it was or as `exclusive_` asks. -/
theorem setter_that_throws (setting : Setting) (opened : self.isOpen = true)
    (fd : refers self.fd = true) {events : List (Event OsCall OsReply)} {err : SerialException}
    {after : SerialPosix}
    (yields : (setting.setter.on self).Yields events (some (.error err, after)))
    (honest : (deviceContract refers).Honest device events) :
    after = setting.write self ∧
      ((deviceContract refers).after device events).termios = device.termios ∧
      (((deviceContract refers).after device events).locked = device.locked ∨
        ((deviceContract refers).after device events).locked = after.exclusive) :=
  (Contract.runs_sound (setter_device setting opened fd) yields honest).2.2 _ _ rfl

def openPortOn3 : SerialPosix := ((SerialPosix.ofAttributes {}).withFd 3).withIsOpen true

def refusedBytesize : List (Event OsCall OsReply) :=
  [⟨.on 3 (.setLock false), .ok ()⟩, ⟨.on 3 .tcgetattr, .ok rawTermios⟩]

theorem refused_bytesize_yields : ((Setting.bytesize .invalid).setter.on openPortOn3).Yields
    refusedBytesize (some (.error (failed "Configuration failed" .einval),
      (Setting.bytesize .invalid).write openPortOn3)) := .asked (.asked (.finished _))

theorem refused_bytesize_honest : (deviceContract fun _ => true).Honest
    { termios := rawTermios, locked := false } refusedBytesize :=
  ⟨trivial, fun _ => rfl, trivial⟩

theorem setter_that_throws_of_bytesize :
    ((deviceContract fun _ => true).after { termios := rawTermios, locked := false }
      refusedBytesize).termios = rawTermios :=
  (setter_that_throws (.bytesize .invalid) rfl rfl refused_bytesize_yields
    refused_bytesize_honest).2.1

/-- A refused byte size stays in the object. -/
theorem refused_bytesize_stays : ¬ ∀ (refers : Int → Bool) (device : Device)
    (self after : SerialPosix) (setting : Setting) (events : List (Event OsCall OsReply))
    (err : SerialException), self.isOpen = true → refers self.fd = true →
      (setting.setter.on self).Yields events (some (.error err, after)) →
      (deviceContract refers).Honest device events →
        after = self ∧ ((deviceContract refers).after device events).termios = device.termios ∧
          ((deviceContract refers).after device events).locked = device.locked := by
  intro always
  have same := (always (fun _ => true) { termios := rawTermios, locked := false } openPortOn3 _
    (.bytesize .invalid) _ _ rfl rfl refused_bytesize_yields refused_bytesize_honest).1
  exact absurd (congrArg SerialPosix.bytesize same) (by decide)

end AresCommon.Serial
