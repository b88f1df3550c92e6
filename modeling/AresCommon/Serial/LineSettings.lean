import AresCommon.Foundation.Masks
import AresCommon.Serial.CApi

/-!
# Line settings

What the settings of a device say, and which of it a configuration determines. The
setters edit single flags of what the device had, and no parity but mark and space
mentions `CMSPAR`: once set it stays, and even parity after it is space parity.
-/

namespace AresCommon.Serial

open AresCommon.Foundation AresCommon.Foundation.Masks

set_option autoImplicit false

namespace Termios

def parity (tty : Termios) : Parity :=
  if tty.cflag &&& parenb = 0 then .none
  else if tty.cflag &&& cmspar = 0 then
    if tty.cflag &&& parodd = 0 then .even else .odd
  else if tty.cflag &&& parodd = 0 then .space else .mark

def bytesize (tty : Termios) : ByteSize :=
  if tty.cflag &&& csize = cs5 then .size5
  else if tty.cflag &&& csize = cs6 then .size6
  else if tty.cflag &&& csize = cs7 then .size7
  else .size8

def EncodesTimeout (tty : Termios) (timeout : Int) : Prop :=
  if timeout < 0 then tty.cc.get vminIndex = 0#8 ∧ tty.cc.get vtimeIndex = 0#8
  else tty.cc.get vminIndex = 1#8 ∧ ((tty.cc.get vtimeIndex).toNat : Int) = 10 * timeout

end Termios

/-- The settings encode exactly this configuration. -/
structure Reflects (tty : Termios) (config : SerialPosixConfig) : Prop where
  parity : tty.parity = config.parity
  bytesize : tty.bytesize = config.bytesize
  stopbits : tty.cflag &&& cstopb ≠ 0 ↔ config.stopbits ≠ .one
  rtscts : tty.cflag &&& crtscts ≠ 0 ↔ config.rtscts = true
  ixon : tty.iflag &&& ixon ≠ 0 ↔ config.xonxoff = true
  ixoff : tty.iflag &&& ixoff ≠ 0 ↔ config.xonxoff = true
  timeout : tty.EncodesTimeout config.interByteTimeout.toInt

/-! ### One setter at a time -/

def Parity.sticks : Parity → Bool
  | .mark | .space => true
  | _ => false

/-- A parity that has to find `CMSPAR` clear. -/
def Parity.needsClear : Parity → Bool
  | .even | .odd => true
  | _ => false

variable {tty tty' : Termios}

@[simp] theorem parenb_ne : parenb ≠ 0#32 := by decide
@[simp] theorem parodd_ne : parodd ≠ 0#32 := by decide
@[simp] theorem cmspar_ne : cmspar ≠ 0#32 := by decide
@[simp] theorem cstopb_ne : cstopb ≠ 0#32 := by decide
@[simp] theorem crtscts_ne : crtscts ≠ 0#32 := by decide
@[simp] theorem ixon_ne : ixon ≠ 0#32 := by decide
@[simp] theorem ixoff_ne : ixoff ≠ 0#32 := by decide

structure EditsControl (mask : BitVec 32) (tty tty' : Termios) : Prop where
  cflag : ChangesOnly mask tty.cflag tty'.cflag
  iflag : tty'.iflag = tty.iflag
  cc : tty'.cc = tty.cc

theorem set_parity_reads {parity : Parity} (set : setParity parity tty = .ok tty') :
    tty'.parity = parity ↔ (parity.needsClear = true → tty.cflag &&& cmspar = 0) := by
  cases parity with
  | unlisted => cases set
  | none =>
      cases set
      have enabled : (tty.cflag &&& ~~~parenb) &&& parenb = 0 := read_clear (by decide)
      simp [Termios.parity, Parity.needsClear, enabled]
  | even =>
      cases set
      have enabled : ((tty.cflag ||| parenb) &&& ~~~parodd) &&& parenb = parenb :=
        ((changes_only_clear _ _).read (by decide)).trans (read_set (by decide))
      have odd : ((tty.cflag ||| parenb) &&& ~~~parodd) &&& parodd = 0 := read_clear (by decide)
      have stick : ((tty.cflag ||| parenb) &&& ~~~parodd) &&& cmspar = tty.cflag &&& cmspar :=
        ((changes_only_clear _ _).read (by decide)).trans
          ((changes_only_set _ _).read (by decide))
      simp [Termios.parity, Parity.needsClear, enabled, odd, stick]
  | odd =>
      cases set
      have enabled : (tty.cflag ||| (parenb ||| parodd)) &&& parenb = parenb :=
        read_set (by decide)
      have odd : (tty.cflag ||| (parenb ||| parodd)) &&& parodd = parodd := read_set (by decide)
      have stick : (tty.cflag ||| (parenb ||| parodd)) &&& cmspar = tty.cflag &&& cmspar :=
        (changes_only_set _ _).read (by decide)
      simp [Termios.parity, Parity.needsClear, enabled, odd, stick]
  | mark =>
      cases set
      have flags : ∀ read, (parenb ||| cmspar ||| parodd) &&& read = read →
          (tty.cflag ||| (parenb ||| cmspar ||| parodd)) &&& read = read :=
        fun _ inside => read_set inside
      simp [Termios.parity, Parity.needsClear, flags parenb (by decide), flags parodd (by decide),
        flags cmspar (by decide)]
  | space =>
      cases set
      have flags : ∀ read, ~~~parodd &&& read = read → (parenb ||| cmspar) &&& read = read →
          ((tty.cflag ||| (parenb ||| cmspar)) &&& ~~~parodd) &&& read = read :=
        fun _ disjoint inside => ((changes_only_clear _ _).read disjoint).trans (read_set inside)
      have odd : ((tty.cflag ||| (parenb ||| cmspar)) &&& ~~~parodd) &&& parodd = 0 :=
        read_clear (by decide)
      simp [Termios.parity, Parity.needsClear, flags parenb (by decide) (by decide), odd,
        flags cmspar (by decide) (by decide)]

/-- Mark and space set `CMSPAR`, and nothing clears it. -/
theorem set_parity_sticks {parity : Parity} (set : setParity parity tty = .ok tty') :
    tty'.cflag &&& cmspar = if parity.sticks then cmspar else tty.cflag &&& cmspar := by
  cases parity with
  | unlisted => cases set
  | none =>
      cases set
      exact (changes_only_clear _ _).read (by decide)
  | even =>
      cases set
      exact ((changes_only_clear _ _).read (by decide)).trans
        ((changes_only_set _ _).read (by decide))
  | odd =>
      cases set
      exact (changes_only_set _ _).read (by decide)
  | mark =>
      cases set
      exact read_set (by decide)
  | space =>
      cases set
      exact ((changes_only_clear _ _).read (by decide)).trans (read_set (by decide))

theorem set_stopbits_edits {bits : StopBits} (set : setStopbits bits tty = .ok tty') :
    EditsControl cstopb tty tty' ∧ (tty'.cflag &&& cstopb ≠ 0 ↔ bits ≠ .one) := by
  cases bits with
  | unlisted => cases set
  | one =>
      cases set
      have cleared : (tty.cflag &&& ~~~cstopb) &&& cstopb = 0 := read_clear (by decide)
      exact ⟨⟨changes_only_clear _ _, rfl, rfl⟩, by simp [cleared]⟩
  | onePointFive | two =>
      cases set
      have read : (tty.cflag ||| cstopb) &&& cstopb = cstopb := read_set (by decide)
      exact ⟨⟨changes_only_set _ _, rfl, rfl⟩, by simp [read]⟩

theorem set_bytesize_edits {size : ByteSize} (set : setBytesize size tty = .ok tty') :
    EditsControl csize tty tty' ∧ tty'.bytesize = size := by
  have edits : ∀ bits, ~~~bits &&& ~~~csize = ~~~csize →
      EditsControl csize tty { tty with cflag := (tty.cflag &&& ~~~csize) ||| bits } :=
    fun bits inside => ⟨(changes_only_clear _ _).trans ((changes_only_set _ _).widen inside),
      rfl, rfl⟩
  have read : ∀ bits, bits &&& csize = bits →
      ((tty.cflag &&& ~~~csize) ||| bits) &&& csize = bits := fun bits inside => by
    rw [BitVec.and_or_distrib_right, read_clear (by decide), inside, BitVec.zero_or]
  cases size with
  | invalid | unlisted => cases set
  | size5 =>
      cases set
      exact ⟨edits cs5 (by decide), by simp [Termios.bytesize, read cs5 (by decide)]⟩
  | size6 =>
      cases set
      have other : cs6 ≠ cs5 := by decide
      exact ⟨edits cs6 (by decide), by simp [Termios.bytesize, read cs6 (by decide), other]⟩
  | size7 =>
      cases set
      have other : cs7 ≠ cs5 ∧ cs7 ≠ cs6 := by decide
      exact ⟨edits cs7 (by decide),
        by simp [Termios.bytesize, read cs7 (by decide), other.1, other.2]⟩
  | size8 =>
      cases set
      have other : cs8 ≠ cs5 ∧ cs8 ≠ cs6 ∧ cs8 ≠ cs7 := by decide
      exact ⟨edits cs8 (by decide),
        by simp [Termios.bytesize, read cs8 (by decide), other.1, other.2.1, other.2.2]⟩

theorem set_rtscts_edits (rtscts : Bool) (tty : Termios) :
    EditsControl crtscts tty (setRtscts rtscts tty) ∧
      ((setRtscts rtscts tty).cflag &&& crtscts ≠ 0 ↔ rtscts = true) := by
  cases rtscts with
  | false =>
      have cleared : (tty.cflag &&& ~~~crtscts) &&& crtscts = 0 := read_clear (by decide)
      exact ⟨⟨changes_only_clear _ _, rfl, rfl⟩, by simp [setRtscts, cleared]⟩
  | true =>
      have read : (tty.cflag ||| crtscts) &&& crtscts = crtscts := read_set (by decide)
      exact ⟨⟨changes_only_set _ _, rfl, rfl⟩, by simp [setRtscts, read]⟩

theorem set_xonxoff_reads (xonxoff : Bool) (tty : Termios) :
    ((setXonxoff xonxoff tty).iflag &&& ixon ≠ 0 ↔ xonxoff = true) ∧
      ((setXonxoff xonxoff tty).iflag &&& ixoff ≠ 0 ↔ xonxoff = true) := by
  cases xonxoff with
  | false =>
      have on : (tty.iflag &&& ~~~(ixon ||| ixoff ||| ixany)) &&& ixon = 0 :=
        read_clear (by decide)
      have off : (tty.iflag &&& ~~~(ixon ||| ixoff ||| ixany)) &&& ixoff = 0 :=
        read_clear (by decide)
      simp [setXonxoff, on, off]
  | true =>
      have on : (tty.iflag ||| (ixon ||| ixoff)) &&& ixon = ixon := read_set (by decide)
      have off : (tty.iflag ||| (ixon ||| ixoff)) &&& ixoff = ixoff := read_set (by decide)
      simp [setXonxoff, on, off]

/-! ### The inter-byte timeout -/

/-- Off, or tenths of a second that fit into a `cc_t`. -/
def TimeoutFits (timeout : Int) : Prop := timeout < 0 ∨ 10 * timeout ≤ 255

def timeoutAccepted (timeout : BitVec 32) : Prop :=
  timeout.toInt < 0 ∨ 0 ≤ (timeout * 10#32).toInt ∧ (timeout * 10#32).toInt ≤ 255

theorem product_toInt (timeout : BitVec 32) :
    (timeout * 10#32).toInt = (timeout.toInt * 10).bmod (2 ^ 32) := by
  rw [BitVec.toInt_mul]
  rfl

theorem vmin_with_times (vmin vtime : BitVec 8) :
    (tty.withTimes vmin vtime).cc.get vminIndex = vmin := by
  change (tty.withTimes vmin vtime).cc[vminIndex] = vmin
  simp [Termios.withTimes, vminIndex, vtimeIndex]

theorem vtime_with_times (vmin vtime : BitVec 8) :
    (tty.withTimes vmin vtime).cc.get vtimeIndex = vtime := by
  change (tty.withTimes vmin vtime).cc[vtimeIndex] = vtime
  simp [Termios.withTimes, vminIndex, vtimeIndex]

theorem product_stored {product : BitVec 32} (low : 0 ≤ product.toInt)
    (high : product.toInt ≤ 255) : ((product.setWidth 8).toNat : Int) = product.toInt := by
  have value := BitVec.toInt_eq_toNat_cond product
  have bound := product.isLt
  rw [BitVec.toNat_setWidth]
  split at value <;> omega

theorem set_ic_timeout_reads {timeout : BitVec 32}
    (set : setIcTimeout timeout tty = .ok tty') :
    tty'.EncodesTimeout timeout.toInt ↔ TimeoutFits timeout.toInt := by
  unfold setIcTimeout at set
  split at set
  · next on =>
      have used : ¬timeout.toInt < 0 := by omega
      split at set
      · cases set
      · next fits =>
          cases set
          rw [not_or, not_lt, not_lt] at fits
          have stored := product_stored fits.1 fits.2
          simp only [Termios.EncodesTimeout, if_neg used, vmin_with_times, vtime_with_times,
            true_and, stored, TimeoutFits]
          rw [product_toInt] at fits ⊢
          constructor
          · intro exact
            right
            have := fits.2
            rw [exact] at this
            exact this
          · intro fits
            have small : 10 * timeout.toInt ≤ 255 := by omega
            rw [Int.bmod_eq_of_le (by omega) (by omega)]
            omega
  · next off =>
      cases set
      have unused : timeout.toInt < 0 := by omega
      rw [Termios.EncodesTimeout, if_pos unused, vmin_with_times, vtime_with_times]
      exact ⟨fun _ => .inl unused, fun _ => ⟨rfl, rfl⟩⟩

theorem set_ic_timeout_accepts (timeout : BitVec 32) (tty : Termios) :
    (∃ tty', setIcTimeout timeout tty = .ok tty') ↔ timeoutAccepted timeout := by
  unfold setIcTimeout timeoutAccepted
  split
  · next on =>
      have used : ¬timeout.toInt < 0 := by omega
      split
      · next refused =>
          refine ⟨fun ⟨_, accepted⟩ => (by cases accepted), fun fits => ?_⟩
          simp only [ccMaxVal] at refused
          omega
      · next fits =>
          simp only [ccMaxVal] at fits
          exact ⟨fun _ => .inr (by omega), fun _ => ⟨_, rfl⟩⟩
  · next off => exact ⟨fun _ => .inl (by omega), fun _ => ⟨_, rfl⟩⟩

theorem set_ic_timeout_keeps {timeout : BitVec 32} (set : setIcTimeout timeout tty = .ok tty') :
    tty'.cflag = tty.cflag ∧ tty'.iflag = tty.iflag := by
  unfold setIcTimeout at set
  split at set
  · split at set
    · cases set
    · cases set
      exact ⟨rfl, rfl⟩
  · cases set
    exact ⟨rfl, rfl⟩

/-! ### A whole configuration -/

structure SerialPosixConfig.Accepted (config : SerialPosixConfig) : Prop where
  baudrate : config.baudrate.speed.isSome = true
  parity : ∀ value, config.parity ≠ .unlisted value
  stopbits : ∀ value, config.stopbits ≠ .unlisted value
  bytesize : config.bytesize ≠ .invalid ∧ ∀ value, config.bytesize ≠ .unlisted value
  timeout : timeoutAccepted config.interByteTimeout

theorem set_baud_accepts (baudrate : BaudRate) (tty : Termios) :
    (∃ tty', setBaud baudrate tty = .ok tty') ↔ baudrate.speed.isSome = true := by
  unfold setBaud
  cases baudrate.speed with
  | none => exact ⟨fun ⟨_, set⟩ => (by cases set), fun listed => (by cases listed)⟩
  | some speed => exact ⟨fun _ => rfl, fun _ => ⟨_, rfl⟩⟩

theorem set_parity_accepts (parity : Parity) (tty : Termios) :
    (∃ tty', setParity parity tty = .ok tty') ↔ ∀ value, parity ≠ .unlisted value := by
  cases parity with
  | unlisted value => exact ⟨fun ⟨_, set⟩ => (by cases set), fun listed => absurd rfl (listed _)⟩
  | _ => exact ⟨fun _ value => by simp, fun _ => ⟨_, rfl⟩⟩

theorem set_stopbits_accepts (bits : StopBits) (tty : Termios) :
    (∃ tty', setStopbits bits tty = .ok tty') ↔ ∀ value, bits ≠ .unlisted value := by
  cases bits with
  | unlisted value => exact ⟨fun ⟨_, set⟩ => (by cases set), fun listed => absurd rfl (listed _)⟩
  | _ => exact ⟨fun _ value => by simp, fun _ => ⟨_, rfl⟩⟩

theorem set_bytesize_accepts (size : ByteSize) (tty : Termios) :
    (∃ tty', setBytesize size tty = .ok tty') ↔
      size ≠ .invalid ∧ ∀ value, size ≠ .unlisted value := by
  cases size with
  | invalid => exact ⟨fun ⟨_, set⟩ => (by cases set), fun listed => absurd rfl listed.1⟩
  | unlisted value => exact ⟨fun ⟨_, set⟩ => (by cases set), fun listed => absurd rfl (listed.2 _)⟩
  | _ => exact ⟨fun _ => by simp, fun _ => ⟨_, rfl⟩⟩

/-- The settings on the way from those of the device to those of a configuration. -/
structure Stages (config : SerialPosixConfig) (tty tty' : Termios) where
  baud : Termios
  parity : Termios
  stopbits : Termios
  bytesize : Termios
  baudSet : setBaud config.baudrate tty.raw = .ok baud
  paritySet : setParity config.parity baud = .ok parity
  stopbitsSet : setStopbits config.stopbits parity = .ok stopbits
  bytesizeSet : setBytesize config.bytesize stopbits = .ok bytesize
  timeoutSet : setIcTimeout config.interByteTimeout
    (setRtscts config.rtscts (setXonxoff config.xonxoff bytesize)) = .ok tty'

theorem ok_of_bind {Result Other : Type} {first : Except Errno Result}
    {rest : Result → Except Errno Other} {last : Other} (bound : (first >>= rest) = .ok last) :
    ∃ middle, first = .ok middle ∧ rest middle = .ok last := by
  cases first with
  | error errno => cases bound
  | ok middle => exact ⟨middle, rfl, bound⟩

theorem stages_of_settings {config : SerialPosixConfig} (set : config.settings tty = .ok tty') :
    Nonempty (Stages config tty tty') := by
  obtain ⟨baud, baudSet, set⟩ := ok_of_bind set
  obtain ⟨parity, paritySet, set⟩ := ok_of_bind set
  obtain ⟨stopbits, stopbitsSet, set⟩ := ok_of_bind set
  obtain ⟨bytesize, bytesizeSet, set⟩ := ok_of_bind set
  exact ⟨⟨baud, parity, stopbits, bytesize, baudSet, paritySet, stopbitsSet, bytesizeSet, set⟩⟩

theorem settings_accepted (config : SerialPosixConfig) (tty : Termios) :
    (∃ tty', config.settings tty = .ok tty') ↔ config.Accepted := by
  constructor
  · rintro ⟨tty', set⟩
    obtain ⟨stages⟩ := stages_of_settings set
    exact ⟨(set_baud_accepts _ _).mp ⟨_, stages.baudSet⟩,
      (set_parity_accepts _ _).mp ⟨_, stages.paritySet⟩,
      (set_stopbits_accepts _ _).mp ⟨_, stages.stopbitsSet⟩,
      (set_bytesize_accepts _ _).mp ⟨_, stages.bytesizeSet⟩,
      (set_ic_timeout_accepts _ _).mp ⟨_, stages.timeoutSet⟩⟩
  · intro accepted
    obtain ⟨baud, baudSet⟩ := (set_baud_accepts _ tty.raw).mpr accepted.baudrate
    obtain ⟨parity, paritySet⟩ := (set_parity_accepts _ baud).mpr accepted.parity
    obtain ⟨stopbits, stopbitsSet⟩ := (set_stopbits_accepts _ parity).mpr accepted.stopbits
    obtain ⟨bytesize, bytesizeSet⟩ := (set_bytesize_accepts _ stopbits).mpr accepted.bytesize
    obtain ⟨tty', timeoutSet⟩ := (set_ic_timeout_accepts _ (setRtscts config.rtscts
      (setXonxoff config.xonxoff bytesize))).mpr accepted.timeout
    refine ⟨tty', ?_⟩
    unfold SerialPosixConfig.settings
    rw [baudSet]
    change (setParity config.parity baud >>= _) = _
    rw [paritySet]
    change (setStopbits config.stopbits parity >>= _) = _
    rw [stopbitsSet]
    change (setBytesize config.bytesize stopbits >>= _) = _
    rw [bytesizeSet]
    exact timeoutSet

namespace Stages

variable {config : SerialPosixConfig} (stages : Stages config tty tty')
include stages

theorem baud_reads : stages.baud.cflag &&& cmspar = tty.cflag &&& cmspar := by
  have set := stages.baudSet
  unfold setBaud at set
  split at set
  · cases set
  · rw [← Except.ok.inj set]
    exact (changes_only_set _ _).read (by decide)

theorem cflag_eq : tty'.cflag = (setRtscts config.rtscts stages.bytesize).cflag := by
  rw [(set_ic_timeout_keeps stages.timeoutSet).1]
  cases config.rtscts <;> cases config.xonxoff <;> rfl

theorem iflag_eq : tty'.iflag = (setXonxoff config.xonxoff stages.bytesize).iflag := by
  rw [(set_ic_timeout_keeps stages.timeoutSet).2]
  cases config.rtscts <;> rfl

theorem after_bytesize : ChangesOnly crtscts stages.bytesize.cflag tty'.cflag := by
  rw [stages.cflag_eq]
  exact (set_rtscts_edits config.rtscts stages.bytesize).1.cflag

theorem after_stopbits : ChangesOnly (csize ||| crtscts) stages.stopbits.cflag tty'.cflag :=
  ((set_bytesize_edits stages.bytesizeSet).1.cflag.widen (by decide)).trans
    (stages.after_bytesize.widen (by decide))

theorem after_parity :
    ChangesOnly (cstopb ||| csize ||| crtscts) stages.parity.cflag tty'.cflag :=
  ((set_stopbits_edits stages.stopbitsSet).1.cflag.widen (by decide)).trans
    (stages.after_stopbits.widen (by decide))

theorem parity_eq : tty'.parity = stages.parity.parity := by
  have reads : ∀ read, ~~~(cstopb ||| csize ||| crtscts) &&& read = read →
      tty'.cflag &&& read = stages.parity.cflag &&& read := fun _ => stages.after_parity.read
  simp only [Termios.parity, reads parenb (by decide), reads parodd (by decide),
    reads cmspar (by decide)]

theorem bytesize_eq : tty'.bytesize = config.bytesize := by
  rw [← (set_bytesize_edits stages.bytesizeSet).2]
  simp only [Termios.bytesize, stages.after_bytesize.read (by decide : ~~~crtscts &&& csize = _)]

theorem cmspar_eq : tty'.cflag &&& cmspar =
    if config.parity.sticks then cmspar else tty.cflag &&& cmspar := by
  rw [stages.after_parity.read (by decide), set_parity_sticks stages.paritySet, stages.baud_reads]

/-- The settings come out as asked, but for the parity and the timeout, which need more. -/
theorem reflects_iff : Reflects tty' config ↔
    (config.parity.needsClear = true → tty.cflag &&& cmspar = 0) ∧
      TimeoutFits config.interByteTimeout.toInt := by
  have parity : tty'.parity = config.parity ↔
      (config.parity.needsClear = true → tty.cflag &&& cmspar = 0) := by
    rw [stages.parity_eq, set_parity_reads stages.paritySet, stages.baud_reads]
  have timeout := set_ic_timeout_reads stages.timeoutSet
  have flow := set_xonxoff_reads config.xonxoff stages.bytesize
  constructor
  · intro reflects
    exact ⟨parity.mp reflects.parity, timeout.mp reflects.timeout⟩
  · rintro ⟨clear, fits⟩
    refine ⟨parity.mpr clear, stages.bytesize_eq, ?_, ?_, ?_, ?_, timeout.mpr fits⟩
    · rw [stages.after_stopbits.read (by decide)]
      exact (set_stopbits_edits stages.stopbitsSet).2
    · rw [stages.cflag_eq]
      exact (set_rtscts_edits config.rtscts stages.bytesize).2
    · rw [stages.iflag_eq]
      exact flow.1
    · rw [stages.iflag_eq]
      exact flow.2

end Stages

end AresCommon.Serial
