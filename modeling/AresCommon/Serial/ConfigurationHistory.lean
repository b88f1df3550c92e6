import AresCommon.Serial.LineSettings

/-!
# Configurations of one device

A device keeps the settings that the last `tcsetattr` stored and the lock that the last
`fcntl` took or dropped, whichever descriptor they came through. Over any number of
configurations the settings are those of the last one, except where `CMSPAR` was set
before and nothing clears it.
-/

namespace AresCommon.Serial

open AresCommon.Foundation

set_option autoImplicit false

structure Device where
  termios : Termios
  locked : Bool
  deriving DecidableEq, Repr

def Device.observe (refers : Int → Bool) (device : Device) : (call : OsCall) → OsReply call → Device
  | .on fd (.tcsetattr tty), .ok _ => if refers fd then { device with termios := tty } else device
  | .on fd (.setLock exclusive), .ok _ =>
      if refers fd then { device with locked := exclusive } else device
  | _, _ => device

/-- `tcgetattr` returns what the last `tcsetattr` stored. -/
def Device.honest (refers : Int → Bool) (device : Device) : (call : OsCall) → OsReply call → Prop
  | .on fd .tcgetattr, .ok tty => refers fd = true → tty = device.termios
  | _, _ => True

def deviceContract (refers : Int → Bool) : Contract OsCall OsReply Device where
  permits := fun _ _ => True
  honest := Device.honest refers
  observe := Device.observe refers

variable {Object : Type} {object : Object} {refers : Int → Bool} {device : Device}

/-- One configuration: the settings all or not at all, the lock before them. -/
theorem configure_port_device {config : SerialPosixConfig} (fd : refers config.fd = true) :
    (deviceContract refers).runs (configurePort config) object
      (fun _ after now => after = object ∧ now.locked = config.exclusive ∧
        config.settings device.termios = .ok now.termios)
      (fun _ after now => after = object ∧ now.termios = device.termios ∧
        (now.locked = device.locked ∨ now.locked = config.exclusive)) device := by
  rw [runs_configure_port]
  have locks : (deviceContract refers).observe device (.on config.fd (.setLock config.exclusive))
      (.ok ()) = { device with locked := config.exclusive } := if_pos fd
  refine ⟨trivial, fun _ _ => ?_, fun errno _ => ⟨rfl, rfl, .inl rfl⟩⟩
  rw [locks]
  refine ⟨trivial, fun tty honest => ?_, fun errno _ => ⟨rfl, rfl, .inr rfl⟩⟩
  have read : tty = device.termios := honest fd
  rw [read]
  beta_reduce
  split
  · exact ⟨rfl, rfl, .inr rfl⟩
  · next stored settings =>
      refine ⟨trivial, fun _ _ => ?_, fun errno _ => ⟨rfl, rfl, .inr rfl⟩⟩
      have stores : ∀ device : Device, (deviceContract refers).observe device
          (.on config.fd (.tcsetattr stored)) (.ok ()) = { device with termios := stored } :=
        fun _ => if_pos fd
      rw [stores]
      exact ⟨rfl, rfl, settings⟩

def configureAll : List SerialPosixConfig → Api Object Unit
  | [] => pure ()
  | config :: configs => do
      configurePort config
      configureAll configs

def settingsAfter : List SerialPosixConfig → Termios → Except Errno Termios
  | [], tty => .ok tty
  | config :: configs, tty => config.settings tty >>= settingsAfter configs

theorem configure_all_device {configs : List SerialPosixConfig}
    (fds : ∀ config ∈ configs, refers config.fd = true) :
    (deviceContract refers).runs (configureAll configs) object
      (fun _ _ now => settingsAfter configs device.termios = .ok now.termios)
      (fun _ _ _ => True) device := by
  induction configs generalizing object device with
  | nil => rfl
  | cons config configs ih =>
      apply Contract.runs_seq (configure_port_device (fds config List.mem_cons_self))
      · rintro _ after now ⟨rfl, locked, settings⟩
        rw [settingsAfter, settings]
        exact ih fun config member => fds config (List.mem_cons_of_mem _ member)
      · exact fun _ _ _ _ => trivial

/-- `CMSPAR` after some configurations: set before them, or by one of them. -/
theorem cmspar_after {configs : List SerialPosixConfig} {tty tty' : Termios}
    (settings : settingsAfter configs tty = .ok tty') :
    tty'.cflag &&& cmspar = 0 ↔
      tty.cflag &&& cmspar = 0 ∧ ∀ config ∈ configs, config.parity.sticks = false := by
  induction configs generalizing tty with
  | nil =>
      cases settings
      simp
  | cons config configs ih =>
      obtain ⟨middle, set, settings⟩ := ok_of_bind settings
      obtain ⟨stages⟩ := stages_of_settings set
      rw [ih settings, stages.cmspar_eq, List.forall_mem_cons]
      cases config.parity.sticks with
      | true => simp
      | false => simp

theorem settings_after_append {configs : List SerialPosixConfig} {last : SerialPosixConfig}
    {tty tty' : Termios} (settings : settingsAfter (configs ++ [last]) tty = .ok tty') :
    ∃ middle, settingsAfter configs tty = .ok middle ∧ last.settings middle = .ok tty' := by
  induction configs generalizing tty with
  | nil =>
      obtain ⟨stored, set, done⟩ := ok_of_bind settings
      cases done
      exact ⟨tty, rfl, set⟩
  | cons config configs ih =>
      obtain ⟨next, set, settings⟩ := ok_of_bind settings
      obtain ⟨middle, before, final⟩ := ih settings
      refine ⟨middle, ?_, final⟩
      rw [settingsAfter, set]
      exact before

/-- The condition on a history of configurations. -/
structure LastIsKept (tty : Termios) (configs : List SerialPosixConfig)
    (last : SerialPosixConfig) : Prop where
  parity : last.parity.needsClear = true →
    tty.cflag &&& cmspar = 0 ∧ ∀ config ∈ configs, config.parity.sticks = false
  timeout : TimeoutFits last.interByteTimeout.toInt

/-- The settings reflect the last of the configurations exactly when its parity is not
even or odd on top of a `CMSPAR`, and its timeout fits. -/
theorem last_configuration_reflected {configs : List SerialPosixConfig}
    {last : SerialPosixConfig} (fds : ∀ config ∈ configs ++ [last], refers config.fd = true)
    {events : List (Event OsCall OsReply)}
    (yields : ((configureAll (configs ++ [last]) : Api Unit Unit).on ()).Yields events
      (some (.ok (), ())))
    (honest : (deviceContract refers).Honest device events) :
    Reflects ((deviceContract refers).after device events).termios last ↔
      LastIsKept device.termios configs last := by
  have settings := (Contract.runs_sound (configure_all_device fds) yields honest).2.1 _ _ rfl
  obtain ⟨middle, before, set⟩ := settings_after_append settings
  obtain ⟨stages⟩ := stages_of_settings set
  rw [stages.reflects_iff, cmspar_after before]
  exact ⟨fun ⟨parity, timeout⟩ => ⟨parity, timeout⟩, fun ⟨parity, timeout⟩ => ⟨parity, timeout⟩⟩

def Device.reply (device : Device) : (call : OsCall) → OsReply call
  | .on _ .tcgetattr => .ok device.termios
  | call => obliging call

theorem reply_honest (device : Device) (call : OsCall) :
    (deviceContract refers).honest device call (device.reply call) := by
  cases call with
  | openPath path => trivial
  | clock => trivial
  | on fd call =>
      cases call with
      | tcgetattr => exact fun _ => rfl
      | _ => trivial

def plainConfig (parity : Parity) (timeout : BitVec 32) : SerialPosixConfig where
  fd := 3
  baudrate := .baud9600
  parity := parity
  bytesize := .size8
  stopbits := .two
  xonxoff := true
  rtscts := false
  exclusive := false
  interByteTimeout := timeout

def configurations (configs : List SerialPosixConfig) (device : Device) :
    List (Event OsCall OsReply) × Option (Except Errno Unit × Unit) :=
  ((configureAll configs : Api Unit Unit).on ()).play (fun device call =>
    (device.reply call, device.observe (fun _ => true) call (device.reply call))) device

theorem configurations_yield (configs : List SerialPosixConfig) (device : Device) :
    ((configureAll configs : Api Unit Unit).on ()).Yields (configurations configs device).1
      (configurations configs device).2 := Program.play_yields _ _ _

theorem configurations_honest (configs : List SerialPosixConfig) (device : Device) :
    (deviceContract fun _ => true).Honest device (configurations configs device).1 :=
  Contract.play_honest reply_honest _ _

/-- Mark parity after odd parity, and a timeout of two seconds. -/
theorem last_configuration_reflected_of_mark :
    Reflects ((deviceContract fun _ => true).after { termios := rawTermios, locked := false }
      (configurations ([plainConfig .odd (-1)] ++ [plainConfig .mark 2])
        { termios := rawTermios, locked := false }).1).termios (plainConfig .mark 2) :=
  (last_configuration_reflected (fun _ _ => rfl) (configurations_yield _ _)
    (configurations_honest _ _)).mpr ⟨by decide, by right; decide⟩

/-- Even parity after space parity is space parity. -/
theorem even_after_space : ¬ ∀ (refers : Int → Bool) (device : Device)
    (configs : List SerialPosixConfig) (last : SerialPosixConfig)
    (events : List (Event OsCall OsReply)),
    (∀ config ∈ configs ++ [last], refers config.fd = true) →
      ((configureAll (configs ++ [last]) : Api Unit Unit).on ()).Yields events
        (some (.ok (), ())) →
      (deviceContract refers).Honest device events →
        Reflects ((deviceContract refers).after device events).termios last := by
  intro always
  have reflects := always (fun _ => true) { termios := rawTermios, locked := false }
    [plainConfig .space (-1)] (plainConfig .even (-1)) _ (fun _ _ => rfl)
    (configurations_yield _ _) (configurations_honest _ _)
  exact absurd reflects.parity (by decide)

end AresCommon.Serial
