import AresCommon.Foundation.CellRange
import Mathlib.Data.BitVec

/-!
# Bit fields

The functions that set and read bits, fields and flags of an unsigned container. An
operand that is narrower than `int` is promoted to it; a shift by the width of its
promoted operand, or by more, has no defined result.
-/

namespace AresCommon.Serialization

open AresCommon.Foundation

set_option autoImplicit false

structure UnsignedType where
  sizeof : Nat
  positive : 0 < sizeof := by decide
  deriving DecidableEq, Repr

namespace UnsignedType

def uint8 : UnsignedType := { sizeof := 1 }
def uint16 : UnsignedType := { sizeof := 2 }
def uint32 : UnsignedType := { sizeof := 4 }
def uint64 : UnsignedType := { sizeof := 8 }

/-- `sizeof(T) * __CHAR_BIT__` -/
def width (T : UnsignedType) : Nat := T.sizeof * 8

/-- The width after the integer promotions, with an `int` of 32 bits. -/
def promoted (T : UnsignedType) : Nat := max T.width 32

abbrev Value (T : UnsignedType) : Type := BitVec T.width

def promote (T : UnsignedType) (value : T.Value) : BitVec T.promoted := value.setWidth T.promoted

def convert {width : Nat} (T : UnsignedType) (value : BitVec width) : T.Value :=
  value.setWidth T.width

end UnsignedType

/-- What ends a call: a failed `assert`, or a shift without a defined result. -/
inductive Fault where
  | assertion
  | shift
  deriving DecidableEq, Repr

def assert (condition : Prop) [Decidable condition] : Except Fault Unit :=
  if condition then .ok () else .error .assertion

def shiftLeft {width : Nat} (operand : BitVec width) (amount : Nat) :
    Except Fault (BitVec width) :=
  if amount < width then .ok (operand <<< amount) else .error .shift

/-- What is promoted is unsigned, so that no sign comes in from above. -/
def shiftRight {width : Nat} (operand : BitVec width) (amount : Nat) :
    Except Fault (BitVec width) :=
  if amount < width then .ok (operand >>> amount) else .error .shift

section Functions

variable {T : UnsignedType}

def setBit (bitfield : T.Value) (bit : Nat) (value : Bool) : Except Fault T.Value := do
  assert (bit ≤ T.width)
  let shifted ← shiftLeft (T.promote (T.convert 1#1)) bit
  let mask := T.convert shifted
  let bitfield := T.convert (T.promote bitfield &&& ~~~T.promote mask)
  if value then pure (T.convert (T.promote bitfield ||| T.promote mask)) else pure bitfield

def checkBit (bitfield : T.Value) (bit : Nat) : Except Fault Bool := do
  assert (bit ≤ T.width)
  let shifted ← shiftLeft (T.promote (T.convert 1#1)) bit
  let mask := T.convert shifted
  pure (T.promote bitfield &&& T.promote mask ≠ T.promote (T.convert 0#1))

/-- The assertions that `set_bitfield` and `get_bitfield` have in common. -/
def FieldAccepted (T1 T2 : UnsignedType) (lsb numBits : Nat) : Prop :=
  lsb < T1.width ∧ numBits ≠ 0 ∧ numBits ≤ T2.width ∧ lsb + numBits ≤ T1.width

instance (T1 T2 : UnsignedType) (lsb numBits : Nat) : Decidable (FieldAccepted T1 T2 lsb numBits) :=
  inferInstanceAs (Decidable (_ ∧ _ ∧ _ ∧ _))

def SizesAccepted (T1 T2 : UnsignedType) : Prop := T2.sizeof ≤ T1.sizeof

/-- `(static_cast<T1>(1) << num_bits) - 1` -/
def fieldMask (T1 : UnsignedType) (numBits : Nat) : Except Fault T1.Value := do
  let shifted ← shiftLeft (T1.promote (T1.convert 1#1)) numBits
  pure (T1.convert (shifted - BitVec.ofNat T1.promoted 1))

def setBitfield {T1 T2 : UnsignedType} (bitfield : T1.Value) (lsb numBits : Nat)
    (value : T2.Value) : Except Fault T1.Value := do
  assert (FieldAccepted T1 T2 lsb numBits)
  let mask ← fieldMask T1 numBits
  let value ← shiftLeft (T1.promote (T1.convert value) &&& T1.promote mask) lsb
  let value := T1.convert value
  let cleared ← shiftLeft (T1.promote mask) lsb
  let bitfield := T1.convert (T1.promote bitfield &&& ~~~cleared)
  pure (T1.convert (T1.promote bitfield ||| T1.promote value))

def getBitfield {T1 : UnsignedType} (T2 : UnsignedType) (bitfield : T1.Value)
    (lsb numBits : Nat) : Except Fault T2.Value := do
  assert (FieldAccepted T1 T2 lsb numBits)
  let mask ← fieldMask T1 numBits
  let shifted ← shiftRight (T1.promote bitfield) lsb
  let value := T1.convert (shifted &&& T1.promote mask)
  pure (T2.convert value)

def SetFlagsAccepted (T : UnsignedType) (startBit count : Nat) : Prop :=
  startBit < T.width ∧ count ≤ T.width - startBit

def GetFlagsAccepted (T : UnsignedType) (startBit count : Nat) : Prop :=
  startBit < T.width ∧ count ≤ T.width

section Packs

variable {m : Type → Type} [Monad m] {Container : Type}

/-- The pack expansion of `set_flags`, with the function it calls; `bit` counts up. -/
def setFlagsBy (setBit : Container → Nat → Bool → m Container) (startBit : Nat)
    (bitfield : Container) (flags : List Bool) : m Container :=
  (flags.zipIdx startBit).foldlM (fun bitfield entry => setBit bitfield entry.2 entry.1) bitfield

/-- The pack expansion of `get_flags`: what as many flags as are given become. -/
def getFlagsBy (checkBit : Nat → m Bool) (startBit count : Nat) : m (List Bool) :=
  (List.range' startBit count).mapM checkBit

end Packs

def setFlags (startBit : Nat) (bitfield : T.Value) (flags : List Bool) : Except Fault T.Value :=
  setFlagsBy setBit startBit bitfield flags

def getFlags (startBit : Nat) (bitfield : T.Value) (count : Nat) : Except Fault (List Bool) :=
  getFlagsBy (checkBit bitfield) startBit count

/-- A call of a function of one bit, noted with its index, whatever comes of it. -/
def noted {Result : Type} (call : Except Fault Result) (bit : Nat) :
    ExceptT Fault (StateM (List Nat)) Result :=
  ExceptT.mk fun passed => (call, passed ++ [bit])

/-- The indices that `set_flags` passes on, up to a fault. -/
def setFlagsPasses (startBit : Nat) (bitfield : T.Value) (flags : List Bool) : List Nat :=
  (setFlagsBy (fun bitfield bit flag => noted (setBit bitfield bit flag) bit) startBit bitfield
    flags [] : Except Fault T.Value × List Nat).2

/-- The indices that `get_flags` passes on, up to a fault. -/
def getFlagsPasses (startBit : Nat) (bitfield : T.Value) (count : Nat) : List Nat :=
  (getFlagsBy (fun bit => noted (checkBit bitfield bit) bit) startBit count [] :
    Except Fault (List Bool) × List Nat).2

end Functions

/-! ### Single bits of the operands -/

section Bits

variable {T : UnsignedType}

theorem width_le_promoted (T : UnsignedType) : T.width ≤ T.promoted := Nat.le_max_left _ _

@[simp]
theorem bit_of_promote (value : T.Value) (i : Nat) :
    (T.promote value).getLsbD i = value.getLsbD i := by
  rw [UnsignedType.promote, BitVec.getLsbD_setWidth]
  by_cases inside : i < T.promoted
  · rw [decide_eq_true inside, Bool.true_and]
  · have outside : T.width ≤ i := (width_le_promoted T).trans (Nat.le_of_not_lt inside)
    rw [decide_eq_false inside, Bool.false_and, BitVec.getLsbD_of_ge value i outside]

@[simp]
theorem bit_of_convert {width : Nat} (value : BitVec width) (i : Nat) :
    (T.convert value).getLsbD i = (decide (i < T.width) && value.getLsbD i) :=
  BitVec.getLsbD_setWidth _ _ _

theorem promote_one (T : UnsignedType) : T.promote (T.convert 1#1) = 1#T.promoted := by
  have positive : 0 < T.width := Nat.mul_pos T.positive (by decide)
  have wide : 0 < T.promoted := positive.trans_le (width_le_promoted T)
  apply BitVec.eq_of_getLsbD_eq
  intro i _
  rw [bit_of_promote, bit_of_convert, BitVec.getLsbD_one, BitVec.getLsbD_one]
  by_cases zero : i = 0
  · subst zero
    simp [positive, wide]
  · simp [zero]

theorem field_mask_of_lt {numBits : Nat} (narrow : numBits < T.promoted)
    (fits : numBits ≤ T.width) :
    ∃ mask, fieldMask T numBits = .ok mask ∧
      ∀ i, mask.getLsbD i = decide (i < numBits) := by
  refine ⟨T.convert (1#T.promoted <<< numBits - 1#T.promoted), ?_, fun i => ?_⟩
  · rw [fieldMask, promote_one, shiftLeft, if_pos narrow]
    rfl
  · rw [bit_of_convert, bit_of_low_mask narrow]
    by_cases inside : i < numBits
    · simp [inside, inside.trans_le fits]
    · simp [inside]

theorem field_mask_of_le {numBits : Nat} (wide : T.promoted ≤ numBits) :
    fieldMask T numBits = .error .shift := by
  rw [fieldMask, shiftLeft, if_neg (Nat.not_lt_of_le wide)]
  rfl

end Bits

/-! ### What the functions do -/

section Effects

variable {T1 T2 : UnsignedType} {lsb numBits : Nat}

def fieldWritten (mask bitfield : T1.Value) (lsb : Nat) (value : T2.Value) : T1.Value :=
  let value := T1.convert ((T1.promote (T1.convert value) &&& T1.promote mask) <<< lsb)
  let bitfield := T1.convert (T1.promote bitfield &&& ~~~(T1.promote mask <<< lsb))
  T1.convert (T1.promote bitfield ||| T1.promote value)

def fieldRead (T2 : UnsignedType) (mask bitfield : T1.Value) (lsb : Nat) : T2.Value :=
  T2.convert (T1.convert ((T1.promote bitfield >>> lsb) &&& T1.promote mask))

theorem set_bitfield_writes (bitfield : T1.Value) (value : T2.Value)
    (accepted : FieldAccepted T1 T2 lsb numBits) (narrow : numBits < T1.promoted) :
    ∃ written, setBitfield bitfield lsb numBits value = .ok written ∧
      written.getLsbD = overwrite lsb numBits value.getLsbD bitfield.getLsbD := by
  obtain ⟨inside, _, _, fits⟩ := id accepted
  obtain ⟨mask, made, bits⟩ := field_mask_of_lt (T := T1) narrow (by omega)
  have place : lsb < T1.promoted := inside.trans_le (width_le_promoted T1)
  refine ⟨fieldWritten mask bitfield lsb value, ?_, ?_⟩
  · rw [setBitfield, assert, if_pos accepted, made]
    simp only [shiftLeft, if_pos place]
    rfl
  · have wide := width_le_promoted T1
    funext i
    simp only [fieldWritten, bit_of_convert, BitVec.getLsbD_or, BitVec.getLsbD_and,
      BitVec.getLsbD_not, bit_of_promote, BitVec.getLsbD_shiftLeft, bits, overwrite]
    by_cases held : i < T1.width
    · have carried : i < T1.promoted := held.trans_le wide
      by_cases low : i < lsb
      · have outside : ¬lsb ≤ i := by omega
        simp [held, carried, low, outside]
      · by_cases within : i - lsb < numBits
        · have covered : lsb ≤ i ∧ i < lsb + numBits := by omega
          have short : i - lsb < T1.width := by omega
          simp [held, carried, low, within, covered, short]
        · have outside : ¬i < lsb + numBits := by omega
          simp [held, carried, within, outside]
    · have outside : ¬i < lsb + numBits := by omega
      have absent : bitfield.getLsbD i = false :=
        BitVec.getLsbD_of_ge bitfield i (Nat.le_of_not_lt held)
      simp [held, outside, absent]

theorem get_bitfield_reads (bitfield : T1.Value)
    (accepted : FieldAccepted T1 T2 lsb numBits) (narrow : numBits < T1.promoted) :
    ∃ value, getBitfield T2 bitfield lsb numBits = .ok value ∧
      ∀ i, value.getLsbD i = (decide (i < numBits) && bitfield.getLsbD (lsb + i)) := by
  obtain ⟨inside, _, narrower, fits⟩ := id accepted
  obtain ⟨mask, made, bits⟩ := field_mask_of_lt (T := T1) narrow (by omega)
  have place : lsb < T1.promoted := inside.trans_le (width_le_promoted T1)
  refine ⟨fieldRead T2 mask bitfield lsb, ?_, fun i => ?_⟩
  · rw [getBitfield, assert, if_pos accepted, made]
    simp only [shiftRight, if_pos place]
    rfl
  · simp only [fieldRead, bit_of_convert, BitVec.getLsbD_and, bit_of_promote,
      BitVec.getLsbD_ushiftRight, bits]
    by_cases within : i < numBits
    · simp [within, within.trans_le narrower, show i < T1.width by omega]
    · simp [within]

/-- A field as wide as a container of the width of an `int` or more has no mask. -/
theorem set_bitfield_shifts_too_far (bitfield : T1.Value) (value : T2.Value)
    (accepted : FieldAccepted T1 T2 lsb numBits) (wide : T1.promoted ≤ numBits) :
    setBitfield bitfield lsb numBits value = .error .shift := by
  rw [setBitfield, assert, if_pos accepted, field_mask_of_le wide]
  rfl

end Effects

/-! ### The laws of a field -/

section Laws

variable {T1 T2 : UnsignedType} {lsb numBits : Nat} {bitfield : T1.Value} {value : T2.Value}

/-- No shift goes too far, the field reads back, the other bits stay, and a field apart from
it may be written before or after it. -/
structure FieldLaws (bitfield : T1.Value) (lsb numBits : Nat) (value : T2.Value) : Prop where
  set_defined : ∃ written, setBitfield bitfield lsb numBits value = .ok written
  get_defined : ∀ T3, FieldAccepted T1 T3 lsb numBits →
    ∃ got, getBitfield T3 bitfield lsb numBits = .ok got
  reads_back : ∀ T3, FieldAccepted T1 T3 lsb numBits → ∃ got,
    (setBitfield bitfield lsb numBits value >>= fun written =>
      getBitfield T3 written lsb numBits) = .ok got ∧ got.toNat = value.toNat % 2 ^ numBits
  frame : ∀ written, setBitfield bitfield lsb numBits value = .ok written →
    ∀ i, i < lsb ∨ lsb + numBits ≤ i → written.getLsbD i = bitfield.getLsbD i
  commutes : ∀ (T3 : UnsignedType) (other : T3.Value) (lsb' numBits' : Nat),
    FieldAccepted T1 T3 lsb' numBits' → Apart lsb numBits lsb' numBits' → ∃ both,
      (setBitfield bitfield lsb numBits value >>= fun written =>
        setBitfield written lsb' numBits' other) = .ok both ∧
      (setBitfield bitfield lsb' numBits' other >>= fun written =>
        setBitfield written lsb numBits value) = .ok both

theorem field_reads_back (accepted : FieldAccepted T1 T2 lsb numBits)
    (narrow : numBits < T1.promoted) {T3 : UnsignedType}
    (readable : FieldAccepted T1 T3 lsb numBits) : ∃ got,
      (setBitfield bitfield lsb numBits value >>= fun written =>
        getBitfield T3 written lsb numBits) = .ok got ∧
      got.toNat = value.toNat % 2 ^ numBits := by
  obtain ⟨written, set, bits⟩ := set_bitfield_writes bitfield value accepted narrow
  obtain ⟨got, read, same⟩ := get_bitfield_reads written readable narrow
  refine ⟨got, by rw [set]; exact read, Nat.eq_of_testBit_eq fun i => ?_⟩
  rw [BitVec.testBit_toNat, same, bits, Nat.testBit_mod_two_pow, BitVec.testBit_toNat]
  by_cases inside : i < numBits
  · rw [overwrite_inside inside]
  · simp [inside]

theorem fields_commute (accepted : FieldAccepted T1 T2 lsb numBits) {T3 : UnsignedType}
    {other : T3.Value} {lsb' numBits' : Nat} (accepted' : FieldAccepted T1 T3 lsb' numBits')
    (apart : Apart lsb numBits lsb' numBits') : ∃ both,
      (setBitfield bitfield lsb numBits value >>= fun written =>
        setBitfield written lsb' numBits' other) = .ok both ∧
      (setBitfield bitfield lsb' numBits' other >>= fun written =>
        setBitfield written lsb numBits value) = .ok both := by
  -- each leaves a bit for the other, so that neither is as wide as the container
  have wide := width_le_promoted T1
  have narrow : numBits < T1.promoted := by
    unfold FieldAccepted Apart at *
    omega
  have narrow' : numBits' < T1.promoted := by
    unfold FieldAccepted Apart at *
    omega
  obtain ⟨first, set, bits⟩ := set_bitfield_writes bitfield value accepted narrow
  obtain ⟨both, set₂, bits₂⟩ := set_bitfield_writes first other accepted' narrow'
  obtain ⟨first', set', bits'⟩ := set_bitfield_writes bitfield other accepted' narrow'
  obtain ⟨both', set₂', bits₂'⟩ := set_bitfield_writes first' value accepted narrow
  have same : both = both' := by
    apply word_ext
    rw [bits₂, bits, bits₂', bits', overwrite_comm apart]
  exact ⟨both, by rw [set]; exact set₂, by rw [set', same]; exact set₂'⟩

/-- The assertions promise what they should, but for a field that is all of a container with
the width of an `int` or more. -/
theorem field_laws_iff (bitfield : T1.Value) (value : T2.Value)
    (accepted : FieldAccepted T1 T2 lsb numBits) :
    FieldLaws bitfield lsb numBits value ↔ ¬(numBits = T1.width ∧ 32 ≤ T1.width) := by
  have fits : numBits ≤ T1.width := by
    have bound := accepted.2.2.2
    omega
  have condition : ¬(numBits = T1.width ∧ 32 ≤ T1.width) ↔ numBits < T1.promoted := by
    unfold UnsignedType.promoted
    omega
  rw [condition]
  constructor
  · intro laws
    by_contra wide
    obtain ⟨written, set⟩ := laws.set_defined
    rw [set_bitfield_shifts_too_far bitfield value accepted (Nat.le_of_not_lt wide)] at set
    cases set
  · intro narrow
    obtain ⟨written, set, bits⟩ := set_bitfield_writes bitfield value accepted narrow
    constructor
    · exact ⟨written, set⟩
    · intro T3 readable
      obtain ⟨got, read, _⟩ := get_bitfield_reads bitfield readable narrow
      exact ⟨got, read⟩
    · intro T3 readable
      exact field_reads_back accepted narrow readable
    · intro other same i outside
      obtain rfl : other = written := Except.ok.inj (same.symm.trans set)
      rw [bits, overwrite_outside outside]
    · intro T3 other lsb' numBits' accepted' apart
      exact fields_commute accepted accepted' apart

/-- A nibble in the middle of a byte. -/
theorem field_laws_of_nibble :
    FieldLaws (UnsignedType.uint8.convert 0xff#8) 2 4 (UnsignedType.uint8.convert 0x3a#8) :=
  (field_laws_iff _ _ (by decide)).mpr (by decide)

/-- A word of 32 bits cannot be written as one field. -/
theorem whole_word_is_no_field :
    ¬ ∀ (T1 T2 : UnsignedType) (bitfield : T1.Value) (value : T2.Value) (lsb numBits : Nat),
      SizesAccepted T1 T2 → FieldAccepted T1 T2 lsb numBits →
        FieldLaws bitfield lsb numBits value := by
  intro always
  obtain ⟨written, set⟩ := (always .uint32 .uint32 (UnsignedType.uint32.convert 0#32)
    (UnsignedType.uint32.convert 1#32) 0 32 (le_refl _) (by decide)).set_defined
  have undefined := set_bitfield_shifts_too_far (UnsignedType.uint32.convert 0#32)
    (UnsignedType.uint32.convert 1#32)
    (by decide : FieldAccepted .uint32 .uint32 0 32) (by decide)
  rw [undefined] at set
  cases set

end Laws

end AresCommon.Serialization
