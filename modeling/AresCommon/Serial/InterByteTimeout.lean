import AresCommon.Serial.Setters
import AresCommon.Serial.System

/-!
# The inter-byte timeout

The setter takes an unsigned number of seconds, keeps it signed, and multiplies it by ten in
32 bits before it looks whether the product fits. From 2^31 on the number is negative, which
turns the timeout off; below that the product may wrap into the range of the check.
-/

namespace AresCommon.Serial

open AresCommon.Foundation

set_option autoImplicit false

/-- The calls in one configuration, and what becomes of them. -/
inductive Configured (config : SerialPosixConfig) : List OsEvent → Except Errno Unit → Prop where
  | unlocked (errno : Errno) :
      Configured config [⟨.on config.fd (.setLock config.exclusive), .error errno⟩] (.error errno)
  | unread (errno : Errno) :
      Configured config [⟨.on config.fd (.setLock config.exclusive), .ok ()⟩,
        ⟨.on config.fd .tcgetattr, .error errno⟩] (.error errno)
  | refused (tty : Termios) (errno : Errno) (refusal : config.settings tty = .error errno) :
      Configured config [⟨.on config.fd (.setLock config.exclusive), .ok ()⟩,
        ⟨.on config.fd .tcgetattr, .ok tty⟩] (.error errno)
  | unstored (tty tty' : Termios) (errno : Errno) (settings : config.settings tty = .ok tty') :
      Configured config [⟨.on config.fd (.setLock config.exclusive), .ok ()⟩,
        ⟨.on config.fd .tcgetattr, .ok tty⟩,
        ⟨.on config.fd (.tcsetattr tty'), .error errno⟩] (.error errno)
  | stored (tty tty' : Termios) (settings : config.settings tty = .ok tty') :
      Configured config [⟨.on config.fd (.setLock config.exclusive), .ok ()⟩,
        ⟨.on config.fd .tcgetattr, .ok tty⟩,
        ⟨.on config.fd (.tcsetattr tty'), .ok ()⟩] (.ok ())

theorem configure_port_calls {Object : Type} {object : Object} (config : SerialPosixConfig) :
    anyCalls.runs (configurePort config) object
      (fun _ after now => after = object ∧ Configured config now (.ok ()))
      (fun errno after now => after = object ∧ Configured config now (.error errno)) [] := by
  rw [runs_configure_port]
  refine ⟨trivial, fun _ _ => ?_, fun errno _ => ⟨rfl, .unlocked errno⟩⟩
  refine ⟨trivial, fun tty _ => ?_, fun errno _ => ⟨rfl, .unread errno⟩⟩
  beta_reduce
  split
  · next errno refusal => exact ⟨rfl, .refused tty errno refusal⟩
  · next tty' settings =>
      exact ⟨trivial, fun _ _ => ⟨rfl, .stored tty tty' settings⟩,
        fun errno _ => ⟨rfl, .unstored tty tty' errno settings⟩⟩

/-! ### The arithmetic -/

/-- No value on the way from the argument to the `cc_t` leaves the range of its type. -/
structure NoOverflow (icTimeout : BitVec 32) : Prop where
  conversion : icTimeout.toInt = icTimeout.toNat
  product : 0 ≤ icTimeout.toInt → (icTimeout * 10#32).toInt = icTimeout.toInt * 10
  stored : 0 ≤ (icTimeout * 10#32).toInt → (icTimeout * 10#32).toInt ≤ ccMaxVal →
    (((icTimeout * 10#32).setWidth 8).toNat : Int) = (icTimeout * 10#32).toInt

theorem no_overflow_iff (icTimeout : BitVec 32) :
    NoOverflow icTimeout ↔ icTimeout.toNat ≤ 214748364 := by
  have value := BitVec.toInt_eq_toNat_cond icTimeout
  have bound := icTimeout.isLt
  have wrapped := product_toInt icTimeout
  constructor
  · intro exact
    have same := exact.conversion
    have product := exact.product (by omega)
    have upper := BitVec.two_mul_toInt_lt (x := icTimeout * 10#32)
    omega
  · intro small
    have same : icTimeout.toInt = icTimeout.toNat := by
      rw [value, if_pos (by omega)]
    have product : (icTimeout * 10#32).toInt = icTimeout.toInt * 10 := by
      rw [wrapped, same]
      exact Int.bmod_eq_of_le (by omega) (by omega)
    exact ⟨same, fun _ => product, product_stored⟩

/-! ### The setter -/

def SettingsWork : OsEvent → Prop
  | ⟨.on _ .tcgetattr, reply⟩ => ∃ tty, reply = .ok tty
  | ⟨.on _ (.tcsetattr _), reply⟩ => reply = .ok ()
  | _ => True

def LockGranted : OsEvent → Prop
  | ⟨.on _ (.setLock _), reply⟩ => reply = .ok ()
  | _ => True

/-- What is promised of a timeout: it is stored if ten times it fits, refused otherwise, and
nothing overflows. -/
structure MeetsTimeout (tty : Termios) (icTimeout : BitVec 32)
    (ended : Except SerialException Unit) : Prop where
  fits : 10 * icTimeout.toNat ≤ 255 → ended = .ok () ∧ tty.cc.get vminIndex = 1#8 ∧
    (tty.cc.get vtimeIndex).toNat = 10 * icTimeout.toNat
  refused : 255 < 10 * icTimeout.toNat → ∃ err, ended = .error err
  exact : NoOverflow icTimeout

variable {refers : Int → Bool} {device : Device} {self after : SerialPosix}
variable {icTimeout : BitVec 32} {events : List OsEvent} {ended : Except SerialException Unit}

theorem inter_byte_timeout_calls (opened : self.isOpen = true)
    (run : ((SerialPosix.setInterByteTimeout icTimeout).on self).Yields events
      (some (ended, after))) :
    ∃ outcome, Configured { self.config with interByteTimeout := icTimeout } events outcome ∧
      ended = outcome.mapError (failed "Configuration failed") := by
  have calls : anyCalls.runs (SerialPosix.setInterByteTimeout icTimeout) self
      (fun _ _ now => Configured { self.config with interByteTimeout := icTimeout } now (.ok ()))
      (fun err _ now => ∃ errno, err = failed "Configuration failed" errno ∧
        Configured { self.config with interByteTimeout := icTimeout } now (.error errno)) [] := by
    simp only [SerialPosix.setInterByteTimeout, SerialPosix.setAttribute,
      SerialPosix.reconfigurePort, Contract.runs_bind, Contract.runs_modify, Contract.runs_get,
      Contract.runs_ite, if_pos opened, SerialPosix.reconfigurePortInternal, runs_or_throw]
    apply Contract.runs_mono (configure_port_calls _)
    · exact fun _ _ _ returned => returned.2
    · exact fun errno _ _ thrown => ⟨errno, rfl, thrown.2⟩
  obtain ⟨_, returned, thrown⟩ := Contract.runs_sound calls run
    (Contract.honest_of_always (fun _ _ _ => trivial) _ _)
  rw [Contract.recording_after, List.nil_append] at returned thrown
  rcases ended with err | _
  · obtain ⟨errno, rfl, configured⟩ := thrown err after rfl
    exact ⟨.error errno, configured, rfl⟩
  · exact ⟨.ok (), returned () after rfl, rfl⟩

theorem stored_on_device {config : SerialPosixConfig} (fd : refers config.fd = true)
    (tty tty' : Termios) :
    ((deviceContract refers).after device [⟨.on config.fd (.setLock config.exclusive), .ok ()⟩,
      ⟨.on config.fd .tcgetattr, .ok tty⟩,
      ⟨.on config.fd (.tcsetattr tty'), .ok ()⟩]).termios = tty' := by
  simp [Contract.after, deviceContract, Device.observe, fd]

def AcceptedOff (config : SerialPosixConfig) : Prop :=
  ({ config with interByteTimeout := -1 } : SerialPosixConfig).Accepted

theorem accepted_iff (config : SerialPosixConfig) (icTimeout : BitVec 32) :
    ({ config with interByteTimeout := icTimeout } : SerialPosixConfig).Accepted ↔
      AcceptedOff config ∧ timeoutAccepted icTimeout := by
  constructor
  · intro accepted
    exact ⟨⟨accepted.baudrate, accepted.parity, accepted.stopbits, accepted.bytesize,
      .inl (show (-1 : BitVec 32).toInt < 0 by decide)⟩, accepted.timeout⟩
  · rintro ⟨accepted, timeout⟩
    exact ⟨accepted.baudrate, accepted.parity, accepted.stopbits, accepted.bytesize, timeout⟩

theorem timeout_accepted_iff (exact : NoOverflow icTimeout) :
    timeoutAccepted icTimeout ↔ 10 * icTimeout.toNat ≤ 255 := by
  have same := exact.conversion
  have product := exact.product (by omega)
  unfold timeoutAccepted
  rw [product, same]
  omega

theorem times_stored {config : SerialPosixConfig} {tty tty' : Termios}
    (settings : config.settings tty = .ok tty') (exact : NoOverflow config.interByteTimeout)
    (fits : 10 * config.interByteTimeout.toNat ≤ 255) :
    tty'.cc.get vminIndex = 1#8 ∧
      (tty'.cc.get vtimeIndex).toNat = 10 * config.interByteTimeout.toNat := by
  obtain ⟨stages⟩ := stages_of_settings settings
  have same := exact.conversion
  have encodes := (set_ic_timeout_reads stages.timeoutSet).mpr (.inr (by omega))
  rw [Termios.EncodesTimeout, if_neg (by omega)] at encodes
  exact ⟨encodes.1, by omega⟩

/-- The setter meets its promises exactly for the timeouts that are no more than 214748364
seconds; to store one it needs the lock, and the rest of the configuration to be accepted. -/
theorem inter_byte_timeout_iff (opened : self.isOpen = true) (fd : refers self.fd = true)
    (run : ((SerialPosix.setInterByteTimeout icTimeout).on self).Yields events
      (some (ended, after)))
    (work : ∀ event ∈ events, SettingsWork event) :
    MeetsTimeout ((deviceContract refers).after device events).termios icTimeout ended ↔
      icTimeout.toNat ≤ 214748364 ∧ (icTimeout.toNat ≤ 25 →
        (∀ event ∈ events, LockGranted event) ∧ AcceptedOff self.config) := by
  obtain ⟨outcome, configured, rfl⟩ := inter_byte_timeout_calls opened run
  rw [← no_overflow_iff]
  constructor
  · intro meets
    refine ⟨meets.exact, fun small => ?_⟩
    have ended := (meets.fits (by omega)).1
    cases configured with
    | stored tty tty' settings =>
        have accepted := (settings_accepted _ tty).mp ⟨tty', settings⟩
        refine ⟨?_, ((accepted_iff self.config icTimeout).mp accepted).1⟩
        simp [LockGranted]
    | _ => cases ended
  · rintro ⟨exact, small⟩
    refine ⟨fun fits => ?_, fun large => ?_, exact⟩
    · obtain ⟨granted, accepted⟩ := small (by omega)
      cases configured with
      | unlocked errno => cases granted _ List.mem_cons_self
      | unread errno =>
          obtain ⟨_, impossible⟩ := work _ (List.mem_cons_of_mem _ List.mem_cons_self)
          cases impossible
      | refused tty errno refusal =>
          have timeout := (timeout_accepted_iff exact).mpr fits
          obtain ⟨tty', settings⟩ := (settings_accepted _ tty).mpr
            ((accepted_iff self.config icTimeout).mpr ⟨accepted, timeout⟩)
          cases settings.symm.trans refusal
      | unstored tty tty' errno settings =>
          cases work _ (List.mem_cons_of_mem _ (List.mem_cons_of_mem _ List.mem_cons_self))
      | stored tty tty' settings =>
          rw [stored_on_device fd]
          exact ⟨rfl, times_stored settings exact fits⟩
    · cases configured with
      | stored tty tty' settings =>
          have accepted := (settings_accepted _ tty).mp ⟨tty', settings⟩
          have timeout := ((accepted_iff self.config icTimeout).mp accepted).2
          rw [timeout_accepted_iff exact] at timeout
          omega
      | _ => exact ⟨_, rfl⟩

def timeoutCalls (icTimeout : BitVec 32) : List OsEvent :=
  (((SerialPosix.setInterByteTimeout icTimeout).on openPortOn3).play
    (fun world call => (obliging call, world)) ()).1

theorem timeout_calls_work (icTimeout : BitVec 32) :
    ∀ event ∈ timeoutCalls icTimeout, SettingsWork event ∧ LockGranted event := by
  rintro ⟨call, reply⟩ listed
  obtain rfl : reply = obliging call := Program.play_replies obliging _ () _ listed
  rcases call with path | _ | ⟨fd, call⟩
  · exact ⟨trivial, trivial⟩
  · exact ⟨trivial, trivial⟩
  · cases call with
    | tcgetattr => exact ⟨⟨rawTermios, rfl⟩, trivial⟩
    | tcsetattr tty => exact ⟨rfl, trivial⟩
    | setLock exclusive => exact ⟨trivial, rfl⟩
    | _ => exact ⟨trivial, trivial⟩

theorem off_accepted : AcceptedOff openPortOn3.config :=
  (settings_accepted _ rawTermios).mp ⟨_, rfl⟩

theorem inter_byte_timeout_of_25 :
    MeetsTimeout ((deviceContract fun _ => true).after { termios := rawTermios, locked := false }
      (timeoutCalls 25)).termios 25 (.ok ()) := by
  have ended : (((SerialPosix.setInterByteTimeout 25).on openPortOn3).play
      (fun (world : Unit) call => (obliging call, world)) ()).2 =
        some (.ok (), { openPortOn3 with interByteTimeout := 25 }) := rfl
  exact (inter_byte_timeout_iff rfl rfl (Program.yields_of_play ended)
    fun event listed => (timeout_calls_work 25 event listed).1).mpr
      ⟨by decide, fun _ => ⟨fun event listed => (timeout_calls_work 25 event listed).2,
        off_accepted⟩⟩

/-- 429496730 seconds are stored as 0.4 seconds. -/
theorem wrapped_timeout_is_stored :
    ¬ ∀ (refers : Int → Bool) (device : Device) (self after : SerialPosix)
      (icTimeout : BitVec 32) (events : List OsEvent) (ended : Except SerialException Unit),
      self.isOpen = true → refers self.fd = true → icTimeout ≠ -1 →
        ((SerialPosix.setInterByteTimeout icTimeout).on self).Yields events
          (some (ended, after)) →
        (∀ event ∈ events, SettingsWork event ∧ LockGranted event) → AcceptedOff self.config →
          MeetsTimeout ((deviceContract refers).after device events).termios icTimeout ended := by
  intro always
  have ended : (((SerialPosix.setInterByteTimeout 429496730).on openPortOn3).play
      (fun (world : Unit) call => (obliging call, world)) ()).2 =
        some (.ok (), { openPortOn3 with interByteTimeout := 429496730 }) := rfl
  have meets := always (fun _ => true) { termios := rawTermios, locked := false } openPortOn3 _
    429496730 _ _ rfl rfl (by decide) (Program.yields_of_play ended)
    (timeout_calls_work 429496730) off_accepted
  obtain ⟨err, impossible⟩ := meets.refused (by decide)
  cases impossible

end AresCommon.Serial
