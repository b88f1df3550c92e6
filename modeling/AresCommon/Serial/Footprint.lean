import AresCommon.Serial.System

/-!
# Which calls an operation makes

An operation other than `open` and `close` calls the operating system on the descriptor
of the port only, and the guarded ones do so only while the port is open.
-/

namespace AresCommon.Serial

open AresCommon.Foundation

set_option autoImplicit false

def Uses (fd : Int) : OsCall → Prop
  | .openPath _ => False
  | .clock => True
  | .on descriptor call => descriptor = fd ∧ call ≠ .close

def Guarded (self : SerialPosix) : OsCall → Prop
  | .clock => True
  | call => self.isOpen = true ∧ Uses self.fd call

theorem uses_clock {fd : Int} : Uses fd .clock := trivial

theorem guarded_of_open {self : SerialPosix} (opened : self.isOpen = true) (call : OsCall)
    (use : Uses self.fd call) : Guarded self call := by
  cases call with
  | clock => trivial
  | openPath path => exact ⟨opened, use⟩
  | on fd call => exact ⟨opened, use⟩

variable {Object Result Error : Type} {permitted : OsCall → Prop} {invariant : Object → Prop}

theorem on_descriptor_respects {fd : Int} {call : DescriptorCall}
    (fits : permitted (.on fd call)) :
    (onDescriptor fd call : Api Object _).Respects permitted invariant := by
  refine .bind (.request fits) fun reply => ?_
  rcases reply with errno | answer
  · exact .throw _
  · exact .pure _

theorem or_throw_respects {call : Api Object Result} {raise : Errno → SerialException}
    (respects : call.Respects permitted invariant) :
    (Api.orThrow call raise).Respects permitted invariant := by
  refine .bind (.attempt respects) fun result => ?_
  rcases result with errno | result
  · exact .throw _
  · exact .pure _

namespace Timeout

variable (clock : permitted .clock)
include clock

theorem steady_now_respects :
    (steadyNow : Method OsCall OsReply Object Error Int).Respects permitted invariant :=
  .request clock

theorem new_respects (timeout : Int) :
    (new timeout : Method OsCall OsReply Object Error Timeout).Respects permitted invariant :=
  .ite (.pure _) (.bind (steady_now_respects clock) fun _ => .pure _)

variable (timeout : Timeout)

theorem time_left_respects :
    (timeout.timeLeft : Method OsCall OsReply Object Error _).Respects permitted invariant := by
  refine .ite (.pure _) (.ite (.pure _) ?_)
  refine .bind (steady_now_respects clock) fun now => .ite ?_ (.pure _)
  exact .bind (.bind (steady_now_respects clock) fun _ => .pure _) fun _ => .pure _

theorem expired_respects :
    (timeout.expired : Method OsCall OsReply Object Error _).Respects permitted invariant :=
  .ite (.pure _) (.bind (time_left_respects clock timeout) fun _ => .pure _)

theorem time_left_tv_respects :
    (timeout.timeLeftTv : Method OsCall OsReply Object Error _).Respects permitted invariant :=
  .bind (time_left_respects clock timeout) fun _ => .pure _

end Timeout

namespace SerialPosix

variable {self : SerialPosix} (uses : ∀ call, Uses self.fd call → permitted call)
include uses

theorem reconfigure_port_internal_respects :
    (self.reconfigurePortInternal : SerialMethod Object Unit).Respects permitted invariant := by
  have fits : ∀ call, call ≠ .close → permitted (.on self.config.fd call) :=
    fun call other => uses _ ⟨rfl, other⟩
  refine or_throw_respects (.bind (on_descriptor_respects (fits _ (by simp))) fun _ => ?_)
  refine .bind (on_descriptor_respects (fits _ (by simp))) fun tty => ?_
  split
  · exact .throw _
  · exact on_descriptor_respects (fits _ (by simp))

theorem update_rts_state_respects :
    (self.updateRtsState : SerialMethod Object Unit).Respects permitted invariant :=
  or_throw_respects (on_descriptor_respects (uses _ ⟨rfl, by simp⟩))

theorem update_dtr_state_respects :
    (self.updateDtrState : SerialMethod Object Unit).Respects permitted invariant :=
  or_throw_respects (on_descriptor_respects (uses _ ⟨rfl, by simp⟩))

theorem init_flow_control_respects :
    (self.initFlowControl : SerialMethod Object Unit).Respects permitted invariant := by
  refine .tryCatch ?_ fun err => .ite (.pure _) (.throw _)
  have rts : ((if !self.rtscts then self.updateRtsState else pure () :
      SerialMethod Object Unit)).Respects permitted invariant :=
    .ite (update_rts_state_respects uses) (.pure _)
  exact .ite (.bind (update_dtr_state_respects uses) fun _ => rts) rts

theorem discard_input_respects :
    (self.discardInput : SerialMethod Object Unit).Respects permitted invariant :=
  or_throw_respects (on_descriptor_respects (uses _ ⟨rfl, by simp⟩))

theorem discard_output_respects :
    (self.discardOutput : SerialMethod Object Unit).Respects permitted invariant :=
  or_throw_respects (on_descriptor_respects (uses _ ⟨rfl, by simp⟩))

theorem in_waiting_respects :
    (self.inWaiting : SerialMethod Object Nat).Respects permitted invariant :=
  or_throw_respects (on_descriptor_respects (uses _ ⟨rfl, by simp⟩))

theorem read_chunk_respects (readLen : Nat) (timeLeft : Option Timeval) :
    (self.readChunk readLen timeLeft).Respects permitted fun _ => True := by
  have port : (readPort self.fd readLen timeLeft : Api (List UInt8) _).Respects permitted
      fun _ => True := by
    refine .bind (.attempt (on_descriptor_respects (uses _ ⟨rfl, by simp⟩))) fun ready => ?_
    exact .ite (.bind (.throw _) fun _ => on_descriptor_respects (uses _ ⟨rfl, by simp⟩))
      (on_descriptor_respects (uses _ ⟨rfl, by simp⟩))
  refine .bind (.attempt port) fun ret => ?_
  rcases ret with errno | bytes
  · exact .ite (.pure _) (.throw _)
  · exact .ite (.throw _) (.bind (.update fun _ _ => trivial) fun _ => .pure _)

theorem read_loop_respects (n fuel bytesRead : Nat) (timeout : Timeout) :
    (self.readLoop n fuel bytesRead timeout).Respects permitted fun _ => True := by
  have clock : permitted .clock := uses _ uses_clock
  induction fuel generalizing bytesRead timeout with
  | zero => exact .stuck
  | succ fuel ih =>
      refine .ite (.bind ?_ fun left => .bind (read_chunk_respects uses _ _) fun received => ?_)
        (.pure _)
      · exact .ite (.pure _) (.bind (Timeout.time_left_tv_respects clock _) fun _ => .pure _)
      · refine .bind (Timeout.expired_respects clock _) fun expired => ?_
        exact .ite (.pure _) (ih _ _)

theorem write_chunk_respects (bytes : List UInt8) :
    (self.writeChunk bytes : SerialMethod Object Nat).Respects permitted invariant := by
  refine .bind (.attempt (on_descriptor_respects (uses _ ⟨rfl, by simp⟩))) fun ret => ?_
  rcases ret with errno | count
  · exact .ite (.pure _) (.throw _)
  · exact .pure _

theorem wait_write_timed_respects (timeout : Timeout) :
    (self.waitWriteTimed timeout : SerialMethod Object Timeout).Respects permitted invariant := by
  have clock : permitted .clock := uses _ uses_clock
  have selected : ∀ timeout : Timeout, (do
      let left ← timeout.timeLeftTv
      let ready ← Api.orThrow (selectWritePort self.fd (some left.1)) (failed "select failed")
      if ready then pure left.2 else throw (.timeout "Write timeout") :
      SerialMethod Object Timeout).Respects permitted invariant := fun timeout =>
    .bind (Timeout.time_left_tv_respects clock timeout) fun _ =>
      .bind (or_throw_respects (on_descriptor_respects (uses _ ⟨rfl, by simp⟩))) fun _ =>
        .ite (.pure _) (.throw _)
  refine .bind (Timeout.expired_respects clock timeout) fun expired => ?_
  exact .ite (.bind (.throw _) fun _ => selected _) (selected _)

theorem wait_write_blocking_respects :
    (self.waitWriteBlocking : SerialMethod Object Unit).Respects permitted invariant := by
  refine .bind (.attempt (on_descriptor_respects (uses _ ⟨rfl, by simp⟩))) fun ready => ?_
  exact .ite (.throw _) (.pure _)

theorem write_loop_respects (size fuel : Nat) (d : List UInt8) (txLen : Nat) (timeout : Timeout) :
    (self.writeLoop size fuel d txLen timeout : SerialMethod Object Nat).Respects permitted
      invariant := by
  induction fuel generalizing d txLen timeout with
  | zero => exact .stuck
  | succ fuel ih =>
      refine .ite (.bind (write_chunk_respects uses _) fun n => ?_) (.pure _)
      refine .ite (.pure _) (.ite ?_ ?_)
      · exact .bind (wait_write_timed_respects uses timeout) fun _ => ih _ _ _
      · exact .bind (wait_write_blocking_respects uses) fun _ => ih _ _ _

omit uses

/-! ### Guarded operations -/

theorem require_open_respects {rest : SerialMethod Object Result}
    (opened : self.isOpen = true → rest.Respects permitted invariant) :
    (self.requireOpen >>= fun _ => rest).Respects permitted invariant := by
  unfold requireOpen
  split
  · next isOpen => exact .bind (.pure _) fun _ => opened isOpen
  · exact fun _ holds => holds

theorem read_respects (fuel n : Nat) :
    (self.read fuel n).Respects (Guarded self) fun _ => True := by
  refine require_open_respects fun opened => ?_
  refine .bind (.update fun _ _ => trivial) fun _ => ?_
  refine .bind (Timeout.new_respects trivial _) fun timeout => ?_
  exact read_loop_respects (guarded_of_open opened) _ _ _ _

theorem read_until_loop_respects (expected : List UInt8) (len fuel bytesRead : Nat)
    (timeout : Timeout) :
    (self.readUntilLoop expected len fuel bytesRead timeout).Respects (Guarded self)
      fun _ => True := by
  induction fuel generalizing bytesRead timeout with
  | zero => exact .stuck
  | succ fuel ih =>
      refine .bind (.within (read_respects fuel 1)) fun received => .ite ?_ (.pure _)
      refine .bind (.update fun _ _ => trivial) fun _ => .bind .get fun b => ?_
      refine .ite (.pure _) (.ite (.pure _) ?_)
      exact .bind (Timeout.expired_respects trivial _) fun _ => .ite (.pure _) (ih _ _)

theorem read_until_respects (fuel : Nat) (expected : List UInt8) (len : Nat) :
    (self.readUntil fuel expected len).Respects (Guarded self) fun _ => True :=
  .bind (Timeout.new_respects trivial _) fun _ => read_until_loop_respects _ _ _ _ _

theorem write_respects (fuel : Nat) (b : List UInt8) :
    (self.write fuel b : SerialMethod Object Nat).Respects (Guarded self) invariant := by
  refine require_open_respects fun opened => ?_
  refine .bind (Timeout.new_respects trivial _) fun timeout => ?_
  exact write_loop_respects (guarded_of_open opened) _ _ _ _ _

theorem flush_respects :
    (self.flush : SerialMethod Object Unit).Respects (Guarded self) invariant :=
  require_open_respects fun opened =>
    or_throw_respects (on_descriptor_respects ⟨opened, rfl, by simp⟩)

theorem reset_input_buffer_respects :
    (self.resetInputBuffer : SerialMethod Object Unit).Respects (Guarded self) invariant :=
  require_open_respects fun opened => discard_input_respects (guarded_of_open opened)

theorem reset_output_buffer_respects :
    (self.resetOutputBuffer : SerialMethod Object Unit).Respects (Guarded self) invariant :=
  require_open_respects fun opened => discard_output_respects (guarded_of_open opened)

theorem line_respects (mask : BitVec 32) (text : String) :
    (self.line (portStatus mask) text : SerialMethod Object Bool).Respects (Guarded self)
      invariant :=
  require_open_respects fun opened =>
    or_throw_respects (.bind (on_descriptor_respects ⟨opened, rfl, by simp⟩) fun _ => .pure _)

/-! ### Setters -/

/-- What an operation other than `open` and `close` keeps of the object. -/
def SamePort (self after : SerialPosix) : Prop :=
  after.isOpen = self.isOpen ∧ after.fd = self.fd

theorem guarded_of_same_port {after : SerialPosix} (same : SamePort self after)
    (opened : self.isOpen = true) (call : OsCall) (use : Uses after.fd call) :
    Guarded self call := guarded_of_open opened call (same.2 ▸ use)

theorem set_attribute_respects {write : SerialPosix → SerialPosix}
    (kept : ∀ object, SamePort object (write object)) :
    (setAttribute write).Respects (Guarded self) (SamePort self) := by
  refine .bind (.update fun object same => ?_) fun _ => .inspect fun object same => ?_
  · exact ⟨(kept object).1.trans same.1, (kept object).2.trans same.2⟩
  · split
    · next opened =>
        exact reconfigure_port_internal_respects
          (guarded_of_same_port same (same.1.symm.trans opened))
    · exact .pure _

theorem set_rts_respects (state : Bool) (uses : ∀ call, Uses self.fd call → permitted call) :
    (setRts state).Respects permitted self.SamePort :=
  .bind (.update fun _ same => same) fun _ => .inspect fun _ same =>
    update_rts_state_respects fun call use => uses call (same.2 ▸ use)

theorem set_dtr_respects (state : Bool) (uses : ∀ call, Uses self.fd call → permitted call) :
    (setDtr state).Respects permitted self.SamePort :=
  .bind (.update fun _ same => same) fun _ => .inspect fun _ same =>
    update_dtr_state_respects fun call use => uses call (same.2 ▸ use)

end SerialPosix

/-! ### Operations -/

variable {self : SerialPosix}

theorem updating_footprint {method : SerialMethod SerialPosix Unit}
    (respects : method.Respects permitted self.SamePort) :
    (Contract.only permitted).wp (self.updating method)
      (fun outcome _ => self.SamePort outcome.2) () := by
  refine (Contract.wp_bind _ _ _ _).mpr (Contract.wp_mono (respects self ⟨rfl, rfl⟩) ?_)
  rintro ⟨error | result, after⟩ _ same
  · exact same
  · exact same

theorem reading_footprint {Result : Type} {method : SerialMethod Unit Result}
    {output : Except SerialException Result → Output}
    (respects : method.Respects permitted fun _ => True) :
    (Contract.only permitted).wp (self.reading method output)
      (fun outcome _ => self.SamePort outcome.2) () :=
  (Contract.wp_bind _ _ _ _).mpr
    (Contract.wp_mono (respects () trivial) fun _ _ _ => ⟨rfl, rfl⟩)

theorem filling_footprint {method : SerialMethod (List UInt8) Nat} {b : List UInt8}
    (respects : method.Respects permitted fun _ => True) :
    (Contract.only permitted).wp (self.filling method b)
      (fun outcome _ => self.SamePort outcome.2) () :=
  (Contract.wp_bind _ _ _ _).mpr
    (Contract.wp_mono (respects b trivial) fun _ _ _ => ⟨rfl, rfl⟩)

/-- An operation other than `open` and `close` stays inside what is guarded, and one that
does not look at `is_open_` on the descriptor of the port. -/
theorem perform_footprint (self : SerialPosix) {operation : Operation} (fuel : Nat)
    (kind : operation ≠ .open ∧ operation ≠ .close)
    (guards : ∀ call, Guarded self call → permitted call)
    (uses : operation.unguarded = true → ∀ call, Uses self.fd call → permitted call) :
    (Contract.only permitted).wp (self.perform fuel operation)
      (fun outcome _ => self.SamePort outcome.2) () := by
  cases operation with
  | «open» => exact absurd rfl kind.1
  | close => exact absurd rfl kind.2
  | setPort | setBaudrate | setBytesize | setExclusive | setParity | setStopbits
  | setInterByteTimeout | setXonxoff | setRtscts =>
      exact updating_footprint
        (.mono (SerialPosix.set_attribute_respects fun _ => ⟨rfl, rfl⟩) guards)
  | setTimeout | setWriteTimeout | setDsrdtr =>
      exact updating_footprint (.update fun _ same => same)
  | setRts state => exact updating_footprint (SerialPosix.set_rts_respects state (uses rfl))
  | setDtr state => exact updating_footprint (SerialPosix.set_dtr_respects state (uses rfl))
  | inWaiting => exact reading_footprint (SerialPosix.in_waiting_respects (uses rfl))
  | read b n => exact filling_footprint (.mono (SerialPosix.read_respects _ _) guards)
  | readAll b =>
      exact filling_footprint (.bind (SerialPosix.in_waiting_respects (uses rfl))
        fun _ => .mono (SerialPosix.read_respects _ _) guards)
  | readUntil b expected len =>
      exact filling_footprint (.mono (SerialPosix.read_until_respects _ _ _) guards)
  | write b => exact reading_footprint (.mono (SerialPosix.write_respects _ _) guards)
  | flush => exact reading_footprint (.mono SerialPosix.flush_respects guards)
  | resetInputBuffer =>
      exact reading_footprint (.mono SerialPosix.reset_input_buffer_respects guards)
  | resetOutputBuffer =>
      exact reading_footprint (.mono SerialPosix.reset_output_buffer_respects guards)
  | cts | dsr | ri | cd => exact reading_footprint (.mono (SerialPosix.line_respects _ _) guards)

end AresCommon.Serial
