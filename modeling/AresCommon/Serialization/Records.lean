import AresCommon.Serialization.Buffers
import AresCommon.Serialization.Flags

/-!
# Packed records on the wire

A container is packed by calls that write single bits, fields and flags into places which
do not meet, in any order and as often as one likes. It is a record of these places: each
holds what was written into it last. Containers are sent as their object representation.
-/

namespace AresCommon.Serialization

open AresCommon.Foundation

set_option autoImplicit false

inductive Packing where
  | bit (bit : Nat) (value : Bool)
  | field (T2 : UnsignedType) (lsb numBits : Nat) (value : T2.Value)
  | flags (startBit : Nat) (flags : List Bool)

namespace Packing

variable {T : UnsignedType}

def apply (bitfield : T.Value) : Packing → Except Fault T.Value
  | .bit index value => setBit bitfield index value
  | .field _ lsb numBits value => setBitfield bitfield lsb numBits value
  | .flags startBit pack => setFlags startBit bitfield pack

def place : Packing → Nat × Nat
  | .bit index _ => (index, 1)
  | .field _ lsb numBits _ => (lsb, numBits)
  | .flags startBit pack => (startBit, pack.length)

def bits : Packing → Nat → Bool
  | .bit _ value => fun _ => value
  | .field _ _ _ value => value.getLsbD
  | .flags _ pack => fun j => pack.getD j false

/-- The call passes its assertions, writes into the container and shifts by less than the
width of its operands. -/
def Accepted (T : UnsignedType) : Packing → Prop
  | .bit index _ => index < T.width
  | .field T2 lsb numBits _ => FieldAccepted T T2 lsb numBits ∧ numBits < T.promoted
  | .flags startBit pack => SetFlagsAccepted T startBit pack.length

instance (T : UnsignedType) (packing : Packing) : Decidable (packing.Accepted T) :=
  match packing with
  | .bit _ _ => inferInstanceAs (Decidable (_ < _))
  | .field _ _ _ _ | .flags _ _ => inferInstanceAs (Decidable (_ ∧ _))

def ReadsBack (bitfield : T.Value) : Packing → Prop
  | .bit index value => checkBit bitfield index = .ok value
  | .field _ lsb numBits value => ∀ T3, FieldAccepted T T3 lsb numBits → ∃ got,
      getBitfield T3 bitfield lsb numBits = .ok got ∧ got.toNat = value.toNat % 2 ^ numBits
  | .flags startBit pack => getFlags startBit bitfield pack.length = .ok pack

def write (packing : Packing) : RangeWrite Bool where
  place := packing.place
  values := packing.bits

theorem apply_writes (bitfield : T.Value) {packing : Packing} (accepted : packing.Accepted T) :
    ∃ written, packing.apply bitfield = .ok written ∧ written.getLsbD =
      overwrite packing.place.1 packing.place.2 packing.bits bitfield.getLsbD := by
  cases packing with
  | bit index value =>
      have held : index < T.width := accepted
      have written := set_bit_writes bitfield value held.le (held.trans_le (width_le_promoted T))
      simp only [decide_eq_true held, Bool.true_and] at written
      exact written
  | field T2 lsb numBits value => exact set_bitfield_writes bitfield value accepted.1 accepted.2
  | flags startBit pack =>
      have room : SetFlagsAccepted T startBit pack.length := accepted
      unfold SetFlagsAccepted at room
      exact set_flags_writes bitfield (by omega)

theorem reads_back_of_bits {bitfield : T.Value} {packing : Packing}
    (accepted : packing.Accepted T) (held : ∀ i < packing.place.2,
      bitfield.getLsbD (packing.place.1 + i) = packing.bits i) :
    packing.ReadsBack bitfield := by
  cases packing with
  | bit index value =>
      have inside : index < T.width := accepted
      have read := check_bit_reads bitfield inside.le (inside.trans_le (width_le_promoted T))
      exact read.trans (congrArg Except.ok (held 0 Nat.zero_lt_one))
  | field T2 lsb numBits value =>
      intro T3 readable
      obtain ⟨got, read, same⟩ := get_bitfield_reads bitfield readable accepted.2
      refine ⟨got, read, Nat.eq_of_testBit_eq fun i => ?_⟩
      rw [BitVec.testBit_toNat, same, Nat.testBit_mod_two_pow, BitVec.testBit_toNat]
      by_cases inside : i < numBits
      · exact congrArg (decide (i < numBits) && ·) (held i inside)
      · simp [inside]
  | flags startBit pack =>
      have room : SetFlagsAccepted T startBit pack.length := accepted
      unfold SetFlagsAccepted at room
      refine (get_flags_reads bitfield (by omega)).trans (congrArg Except.ok ?_)
      apply List.ext_getElem
      · simp
      · intro j _ inside
        rw [List.getElem_map, List.getElem_range', Nat.one_mul]
        exact (held j inside).trans (by simp [bits, inside])

end Packing

/-! ### A container as a record -/

/-- A container and the calls that pack it, with the places they write into. -/
structure Register where
  type : UnsignedType
  initial : type.Value
  packings : List Packing
  layout : List (Nat × Nat)
  apart : PairwiseApart layout
  accepted : ∀ packing ∈ packings, packing.Accepted type
  placed : ∀ packing ∈ packings, packing.place ∈ layout

namespace Register

variable (register : Register)

def run : Except Fault register.type.Value :=
  register.packings.foldlM (fun bitfield packing => packing.apply bitfield) register.initial

def last (place : Nat × Nat) : Option Packing :=
  register.packings.reverse.find? fun packing => packing.place = place

/-- Every place holds what was written into it last, and all other bits are the old ones. -/
def Holds (bitfield : register.type.Value) : Prop :=
  (∀ place ∈ register.layout, match register.last place with
    | some packing => packing.ReadsBack bitfield
    | none => ∀ i < place.2,
        bitfield.getLsbD (place.1 + i) = register.initial.getLsbD (place.1 + i)) ∧
  ∀ i, (∀ place ∈ register.layout, i < place.1 ∨ place.1 + place.2 ≤ i) →
    bitfield.getLsbD i = register.initial.getLsbD i

theorem run_writes {T : UnsignedType} (packings : List Packing) (bitfield : T.Value)
    (accepted : ∀ packing ∈ packings, packing.Accepted T) :
    ∃ written, packings.foldlM (fun bitfield packing => packing.apply bitfield) bitfield =
        .ok written ∧
      written.getLsbD = writeAll (packings.map Packing.write) bitfield.getLsbD := by
  induction packings generalizing bitfield with
  | nil => exact ⟨bitfield, rfl, rfl⟩
  | cons packing rest ih =>
      obtain ⟨here, later⟩ := List.forall_mem_cons.mp accepted
      obtain ⟨first, set, bits⟩ := packing.apply_writes bitfield here
      obtain ⟨written, run, all⟩ := ih first later
      refine ⟨written, ?_, ?_⟩
      · rw [List.foldlM_cons, set]
        exact run
      · rw [all, bits]
        rfl

theorem find_write (packings : List Packing) (place : Nat × Nat) :
    (packings.map Packing.write).reverse.find? (fun write => write.place = place) =
      (packings.reverse.find? fun packing => packing.place = place).map Packing.write := by
  rw [← List.map_reverse, List.find?_map]
  rfl

theorem run_holds : ∃ written, register.run = .ok written ∧ register.Holds written := by
  obtain ⟨written, run, bits⟩ :=
    run_writes register.packings register.initial register.accepted
  have within : ∀ write ∈ register.packings.map Packing.write, write.place ∈ register.layout := by
    intro write member
    obtain ⟨packing, known, rfl⟩ := List.mem_map.mp member
    exact register.placed packing known
  refine ⟨written, run, fun place member => ?_, fun i outside => ?_⟩
  · have cells := fun (i : Nat) (inside : i < place.2) =>
      writeAll_inside register.initial.getLsbD register.apart within member inside
    simp only [find_write, ← bits] at cells
    unfold last
    split
    · rename_i packing found
      obtain rfl : packing.place = place := by simpa using List.find?_some found
      have known := List.mem_reverse.mp (List.mem_of_find?_eq_some found)
      refine Packing.reads_back_of_bits (register.accepted packing known) fun i inside => ?_
      rw [cells i inside, found]
      rfl
    · rename_i absent
      intro i inside
      rw [cells i inside, absent]
      rfl
  · rw [bits]
    exact writeAll_outside _ within outside

end Register

/-! ### Sending containers -/

/-- How the machine represents unsigned objects. -/
structure Representation where
  bytes : (T : UnsignedType) → T.Value → List UInt8
  size : ∀ (T : UnsignedType) (value : T.Value), (bytes T value).length = T.sizeof
  object : (T : UnsignedType) → List UInt8 → T.Value
  object_bytes : ∀ (T : UnsignedType) (value : T.Value), object T (bytes T value) = value

namespace Representation

variable (representation : Representation)

def lowBytes : Nat → Nat → List UInt8
  | 0, _ => []
  | size + 1, n => UInt8.ofNat n :: lowBytes size (n / 256)

def ofBytes (bytes : List UInt8) : Nat := bytes.foldr (fun byte n => byte.toNat + 256 * n) 0

theorem ofBytes_lowBytes (size n : Nat) : ofBytes (lowBytes size n) = n % 256 ^ size := by
  induction size generalizing n with
  | zero => simp [lowBytes, ofBytes, Nat.mod_one]
  | succ size ih =>
      have rest := ih (n / 256)
      have low : (UInt8.ofNat n).toNat = n % 256 := UInt8.toNat_ofNat'
      unfold ofBytes at rest ⊢
      rw [lowBytes, List.foldr_cons, rest, low, Nat.pow_succ', Nat.mod_mul]

theorem length_lowBytes (size n : Nat) : (lowBytes size n).length = size := by
  induction size generalizing n with
  | zero => rfl
  | succ size ih => rw [lowBytes, List.length_cons, ih]

def littleEndian : Representation where
  bytes := fun T value => lowBytes T.sizeof value.toNat
  size := fun T value => length_lowBytes T.sizeof value.toNat
  object := fun T bytes => BitVec.ofNat T.width (ofBytes bytes)
  object_bytes := by
    intro T value
    have range : 256 ^ T.sizeof = 2 ^ T.width := by
      rw [UnsignedType.width, Nat.mul_comm, Nat.pow_mul]
    apply BitVec.eq_of_toNat_eq
    rw [BitVec.toNat_ofNat, ofBytes_lowBytes, range, Nat.mod_mod, Nat.mod_eq_of_lt value.isLt]

def item (T : UnsignedType) (value : T.Value) : Item where
  type := .object T.sizeof
  bytes := representation.bytes T value
  size := representation.size T value

def packed (register : Register) : Item :=
  representation.item register.type (register.run.toOption.getD register.initial)

end Representation

/-- Registers that are packed, serialized behind anything, deserialized and unpacked: every
place of each gives back what was written into it last. -/
theorem packed_records_travel (representation : Representation)
    (writing : Branches ItemType.sizeBytes) (reading : Branches ItemType.sizeofBuffer)
    (buffer : List UInt8) (registers : List Register) (targets : List Item)
    (sizes : List.Forall₂ (fun register target => target.type = .object register.type.sizeof)
      registers targets) :
    ∃ restored, deserialize reading
        (serialize writing buffer (registers.map representation.packed)) buffer.length targets =
          some (restored, buffer.length + totalSize (registers.map representation.packed)) ∧
      List.Forall₂ (fun register item =>
        register.Holds (representation.object register.type item.bytes)) registers restored := by
  have reads : List.Forall₂ (fun item target => item.type.ReadsAs target.type)
      (registers.map representation.packed) targets :=
    List.forall₂_map_left_iff.mpr (sizes.imp fun _ _ same => .inl same)
  obtain ⟨restored, read, bytes, _⟩ := deserialize_at reading [] reads buffer
  rw [List.append_nil, ← serialize_eq writing] at read
  refine ⟨restored, read, ?_⟩
  have sent : List.Forall₂ (fun register item =>
      item.bytes = (representation.packed register).bytes) registers restored := by
    rw [List.map_map] at bytes
    refine List.forall₂_iff_get.mpr ⟨?_, fun i inside here => ?_⟩
    · simpa using (congrArg List.length bytes).symm
    · have same := congrArg (fun list => list[i]?) bytes
      simpa [inside, here] using same
  refine sent.imp fun register item same => ?_
  obtain ⟨written, run, holds⟩ := register.run_holds
  rw [same, Representation.packed, Representation.item, run]
  rw [representation.object_bytes]
  exact holds

/-- A word with a nibble that is written twice and a flag behind it. -/
def nibbleRegister : Register where
  type := .uint16
  initial := 0xffff#16
  packings := [.field .uint8 0 4 9#8, .bit 7 false, .field .uint8 0 4 0x35#8]
  layout := [(0, 4), (7, 1)]
  apart := by
    unfold PairwiseApart Apart
    decide
  accepted := by decide
  placed := by decide

theorem packed_records_travel_of_nibble :
    ∃ item, deserialize deserializeBranchesOfValue (serialize serializeBranches [7]
        [Representation.littleEndian.packed nibbleRegister]) 1 [wordItem 0 0] = some ([item], 3) ∧
      ∃ got, getBitfield .uint8 (Representation.littleEndian.object .uint16 item.bytes) 0 4 =
        .ok got ∧ got.toNat = 5 := by
  obtain ⟨restored, read, holds⟩ := packed_records_travel .littleEndian serializeBranches
    deserializeBranchesOfValue [7] [nibbleRegister] [wordItem 0 0] (.cons rfl .nil)
  cases holds with
  | cons held none =>
      cases none
      refine ⟨_, read, ?_⟩
      have nibble := held.1 (0, 4) (by decide)
      exact nibble .uint8 (by decide)

end AresCommon.Serialization
