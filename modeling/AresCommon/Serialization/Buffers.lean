import Mathlib.Algebra.Order.Ring.Int
import Mathlib.Data.List.Forall2

/-!
# Serialization of trivially copyable items

An item is seen as the bytes of its object representation. A `SerializeBuffer` or
`DeserializeBuffer` has its array as the only member, so that its address and size are
those of the array.
-/

namespace AresCommon.Serialization

set_option autoImplicit false

/-- A trivially copyable type; the buffers by the size and the number of their elements. -/
inductive ItemType where
  | object (size : Nat)
  | serializeBuffer (element bufSize : Nat)
  | deserializeBuffer (element bufSize : Nat)
  deriving DecidableEq, Repr

namespace ItemType

def sizeof : ItemType → Nat
  | .object size => size
  | .serializeBuffer element bufSize | .deserializeBuffer element bufSize => element * bufSize

def sizeBytes : ItemType → Option Nat
  | .serializeBuffer element bufSize => some (element * bufSize)
  | _ => none

def sizeofBuffer : ItemType → Option Nat
  | .serializeBuffer element bufSize | .deserializeBuffer element bufSize =>
      some (element * bufSize)
  | .object _ => none

end ItemType

structure Item where
  type : ItemType
  bytes : List UInt8
  size : bytes.length = type.sizeof

/-! ### Type traits -/

inductive CppType where
  | value (type : ItemType)
  | reference (type : ItemType)
  deriving DecidableEq, Repr

def isSerializeBufferV : CppType → Bool
  | .value (.serializeBuffer _ _) => true
  | _ => false

def isDeserializeBufferV : CppType → Bool
  | .value (.deserializeBuffer _ _) => true
  | _ => false

/-- A choice of branches. The branch for buffers takes the size of a member and compiles
only where the type has it. -/
structure Branches (memberSize : ItemType → Option Nat) where
  buffer : ItemType → Bool
  compiles : ∀ type, buffer type = true → memberSize type = some type.sizeof

def Branches.span {memberSize : ItemType → Option Nat} (branches : Branches memberSize)
    (type : ItemType) : Nat :=
  if !branches.buffer type then type.sizeof else (memberSize type).getD 0

@[simp]
theorem Branches.span_eq {memberSize : ItemType → Option Nat} (branches : Branches memberSize)
    (type : ItemType) : branches.span type = type.sizeof := by
  unfold Branches.span
  split
  · rfl
  · next chosen =>
      rw [branches.compiles type (by simpa using chosen)]
      rfl

/-- What `serialize` selects. An item is a forwarding reference, so that `decltype` of it
is a reference type, which the trait takes for no buffer. -/
def serializeBranches : Branches ItemType.sizeBytes where
  buffer type := isSerializeBufferV (.reference type)
  compiles _ selected := by cases selected

def deserializeBranches : Branches ItemType.sizeofBuffer where
  buffer type := isDeserializeBufferV (.reference type)
  compiles _ selected := by cases selected

/-- The branches of a trait that is asked about the type behind the reference. -/
def serializeBranchesOfValue : Branches ItemType.sizeBytes where
  buffer type := isSerializeBufferV (.value type)
  compiles type selected := by
    cases type with
    | serializeBuffer element bufSize => rfl
    | _ => cases selected

def deserializeBranchesOfValue : Branches ItemType.sizeofBuffer where
  buffer type := isDeserializeBufferV (.value type)
  compiles type selected := by
    cases type with
    | deserializeBuffer element bufSize => rfl
    | _ => cases selected

/-! ### Serialization -/

def serializeItem (branches : Branches ItemType.sizeBytes) (buffer : List UInt8) (item : Item) :
    List UInt8 := buffer ++ item.bytes.take (branches.span item.type)

def serialize (branches : Branches ItemType.sizeBytes) (buffer : List UInt8)
    (items : List Item) : List UInt8 := items.foldl (serializeItem branches) buffer

/-- The source of a `memcpy`, as far as there is that much memory. -/
def readBytes (memory : List UInt8) (pointer size : Nat) :
    Option { bytes : List UInt8 // bytes.length = size } :=
  if fits : pointer + size ≤ memory.length then
    some ⟨(memory.drop pointer).take size, by simp; omega⟩
  else none

def Item.overwrite (item : Item) (bytes : List UInt8)
    (fits : bytes.length ≤ item.type.sizeof) : Item where
  type := item.type
  bytes := bytes ++ item.bytes.drop bytes.length
  size := by
    have size := item.size
    simp only [List.length_append, List.length_drop]
    omega

def deserializeItem (branches : Branches ItemType.sizeofBuffer) (memory : List UInt8)
    (pointer : Nat) (item : Item) : Option (Item × Nat) :=
  (readBytes memory pointer (branches.span item.type)).map fun bytes =>
    (item.overwrite bytes.1 (Nat.le_of_eq (bytes.2.trans (branches.span_eq _))),
      pointer + branches.span item.type)

def deserialize (branches : Branches ItemType.sizeofBuffer) (memory : List UInt8) :
    Nat → List Item → Option (List Item × Nat)
  | pointer, [] => some ([], pointer)
  | pointer, item :: items => do
      let (item, pointer) ← deserializeItem branches memory pointer item
      let (items, pointer) ← deserialize branches memory pointer items
      some (item :: items, pointer)

/-! ### Round trip -/

def itemBytes (items : List Item) : List UInt8 := items.flatMap Item.bytes

def totalSize (items : List Item) : Nat := (items.map fun item => item.type.sizeof).sum

theorem serialize_item_eq (branches : Branches ItemType.sizeBytes) (buffer : List UInt8)
    (item : Item) : serializeItem branches buffer item = buffer ++ item.bytes := by
  rw [serializeItem, branches.span_eq, List.take_of_length_le (Nat.le_of_eq item.size)]

theorem serialize_eq (branches : Branches ItemType.sizeBytes) (buffer : List UInt8)
    (items : List Item) : serialize branches buffer items = buffer ++ itemBytes items := by
  induction items generalizing buffer with
  | nil => simp [serialize, itemBytes]
  | cons item items ih =>
      have rest := ih (buffer ++ item.bytes)
      simp only [serialize, List.foldl_cons, serialize_item_eq] at rest ⊢
      rw [rest, itemBytes, itemBytes, List.flatMap_cons, List.append_assoc]

/-- What a written type is read back into. -/
def ItemType.ReadsAs (written target : ItemType) : Prop :=
  target = written ∨ ∃ element bufSize, written = .serializeBuffer element bufSize ∧
    target = .deserializeBuffer element bufSize

theorem ItemType.ReadsAs.sizeof_eq {written target : ItemType} (reads : written.ReadsAs target) :
    target.sizeof = written.sizeof := by
  rcases reads with rfl | ⟨element, bufSize, rfl, rfl⟩
  · rfl
  · rfl

theorem read_bytes_at (front bytes back : List UInt8) {size : Nat}
    (exact_size : bytes.length = size) :
    readBytes (front ++ bytes ++ back) front.length size = some ⟨bytes, exact_size⟩ := by
  subst exact_size
  unfold readBytes
  rw [dif_pos (by simp)]
  simp

theorem deserialize_item_at (branches : Branches ItemType.sizeofBuffer)
    (front back : List UInt8) {item target : Item} (reads : item.type.ReadsAs target.type) :
    ∃ restored, deserializeItem branches (front ++ item.bytes ++ back) front.length target =
        some (restored, (front ++ item.bytes).length) ∧
      restored.bytes = item.bytes ∧ restored.type = target.type := by
  have span : item.bytes.length = branches.span target.type := by
    rw [branches.span_eq, reads.sizeof_eq, item.size]
  have same : target.bytes.length = item.bytes.length := by
    rw [target.size, reads.sizeof_eq, item.size]
  have rest : target.bytes.drop item.bytes.length = [] :=
    List.drop_eq_nil_iff.mpr (Nat.le_of_eq same)
  refine ⟨target.overwrite item.bytes (Nat.le_of_eq (span.trans (branches.span_eq _))), ?_, ?_,
    rfl⟩
  · rw [deserializeItem, read_bytes_at front item.bytes back span, Option.map_some]
    have pointer : front.length + branches.span target.type = (front ++ item.bytes).length := by
      rw [List.length_append, span]
    rw [pointer]
  · simp [Item.overwrite, rest]

/-- Behind any bytes and before any others the items are read back. -/
theorem deserialize_at (branches : Branches ItemType.sizeofBuffer) (back : List UInt8)
    {items targets : List Item}
    (reads : List.Forall₂ (fun item target => item.type.ReadsAs target.type) items targets)
    (front : List UInt8) :
    ∃ restored, deserialize branches (front ++ itemBytes items ++ back) front.length targets =
        some (restored, front.length + totalSize items) ∧
      restored.map Item.bytes = items.map Item.bytes ∧
      restored.map Item.type = targets.map Item.type := by
  induction reads generalizing front with
  | nil => exact ⟨[], rfl, rfl, rfl⟩
  | @cons item target items targets matched _ ih =>
      obtain ⟨first, read, bytes, type⟩ :=
        deserialize_item_at branches front (itemBytes items ++ back) matched
      obtain ⟨others, later, restoredBytes, restoredTypes⟩ := ih (front ++ item.bytes)
      have memory : front ++ itemBytes (item :: items) ++ back =
          front ++ item.bytes ++ (itemBytes items ++ back) := by
        simp [itemBytes]
      have pointer : (front ++ item.bytes).length + totalSize items =
          front.length + totalSize (item :: items) := by
        simp [totalSize, item.size, Nat.add_assoc]
      refine ⟨first :: others, ?_, by simp [bytes, restoredBytes], by simp [type, restoredTypes]⟩
      rw [memory, deserialize, read]
      rw [List.append_assoc] at later
      simp only [Option.bind_eq_bind, Option.bind_some]
      rw [later, pointer]
      rfl

/-- Serialization appends the bytes of the items to the buffer, one list after the other,
and deserialization from the old end reads the bytes of all items back into targets of
their types, whichever branches are selected. -/
theorem serialize_deserialize (writing : Branches ItemType.sizeBytes)
    (reading : Branches ItemType.sizeofBuffer) (buffer : List UInt8) (items more : List Item) :
    serialize writing buffer items = buffer ++ itemBytes items ∧
      serialize writing buffer (items ++ more) =
        serialize writing (serialize writing buffer items) more ∧
      ∀ targets,
        List.Forall₂ (fun item target => item.type.ReadsAs target.type) items targets →
        ∃ restored, deserialize reading (serialize writing buffer items) buffer.length targets =
            some (restored, buffer.length + totalSize items) ∧
          restored.map Item.bytes = items.map Item.bytes ∧
          restored.map Item.type = targets.map Item.type := by
  refine ⟨serialize_eq writing buffer items, List.foldl_append, fun targets reads => ?_⟩
  have restored := deserialize_at reading [] reads buffer
  rw [List.append_nil] at restored
  rw [serialize_eq]
  exact restored

def wordItem (low high : UInt8) : Item where
  type := .object 2
  bytes := [low, high]
  size := rfl

def reservedItem : Item where
  type := .serializeBuffer 2 2
  bytes := [0, 0, 0, 0]
  size := rfl

def reservedTarget : Item where
  type := .deserializeBuffer 2 2
  bytes := [9, 9, 9, 9]
  size := rfl

/-- A word behind a reserved field, written by the selected branches and read by the
others. -/
theorem serialize_deserialize_of_reserved : ∃ restored,
    deserialize deserializeBranchesOfValue
        (serialize serializeBranches [7] [reservedItem, wordItem 1 2]) 1
        [reservedTarget, wordItem 0 0] = some (restored, 7) ∧
      restored.map Item.bytes = [[0, 0, 0, 0], [1, 2]] ∧
      restored.map Item.type = [.deserializeBuffer 2 2, .object 2] :=
  (serialize_deserialize serializeBranches deserializeBranchesOfValue [7]
    [reservedItem, wordItem 1 2] []).2.2 [reservedTarget, wordItem 0 0]
    (.cons (.inr ⟨2, 2, rfl, rfl⟩) (.cons (.inl rfl) .nil))

example : serialize serializeBranchesOfValue [7] [reservedItem, wordItem 1 2] =
    [7, 0, 0, 0, 0, 1, 2] := by decide

example : (deserialize deserializeBranches [7, 0, 0, 0, 0, 1, 2] 1
    [reservedTarget, wordItem 0 0]).map (fun read => read.1.map Item.bytes) =
      some [[0, 0, 0, 0], [1, 2]] := by decide

end AresCommon.Serialization
