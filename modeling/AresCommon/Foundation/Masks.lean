import Mathlib.Data.BitVec

/-!
# Words edited under masks

A flag word is edited by setting and clearing the bits of a mask. Such an edit changes
only bits of its mask, so what is read under a disjoint mask stays.
-/

namespace AresCommon.Foundation.Masks

set_option autoImplicit false

variable {width : Nat} {mask wider before middle after : BitVec width}

/-- The two words agree outside the mask. -/
def ChangesOnly (mask before after : BitVec width) : Prop :=
  after &&& ~~~mask = before &&& ~~~mask

theorem changes_only_set (word mask : BitVec width) : ChangesOnly mask word (word ||| mask) := by
  simp [ChangesOnly, BitVec.and_or_distrib_right]

theorem changes_only_clear (word mask : BitVec width) :
    ChangesOnly mask word (word &&& ~~~mask) := by
  rw [ChangesOnly, BitVec.and_assoc, BitVec.and_self]

theorem ChangesOnly.widen (changes : ChangesOnly mask before after)
    (inside : ~~~mask &&& ~~~wider = ~~~wider) : ChangesOnly wider before after := by
  unfold ChangesOnly at *
  rw [← inside, ← BitVec.and_assoc, changes, BitVec.and_assoc]

theorem ChangesOnly.trans (first : ChangesOnly mask before middle)
    (second : ChangesOnly mask middle after) : ChangesOnly mask before after :=
  Eq.trans second first

theorem ChangesOnly.read (changes : ChangesOnly mask before after) {read : BitVec width}
    (disjoint : ~~~mask &&& read = read) : after &&& read = before &&& read := by
  rw [← disjoint, ← BitVec.and_assoc, changes, BitVec.and_assoc]

theorem read_set {word mask read : BitVec width} (inside : mask &&& read = read) :
    (word ||| mask) &&& read = read := by
  rw [BitVec.and_or_distrib_right, inside]
  ext i bound
  simp only [BitVec.getElem_or, BitVec.getElem_and]
  cases word[i] <;> simp

theorem read_clear {word mask read : BitVec width}
    (inside : ~~~mask &&& read = BitVec.ofNat width 0) :
    (word &&& ~~~mask) &&& read = BitVec.ofNat width 0 := by
  rw [BitVec.and_assoc, inside, BitVec.and_zero]

theorem clear_of_unread {word mask : BitVec width}
    (nothing : word &&& mask = BitVec.ofNat width 0) :
    word &&& ~~~mask = word := by
  ext i bound
  have unset := congrArg (fun word => word[i]) nothing
  simp only [BitVec.getElem_and, BitVec.getElem_zero] at unset
  simp only [BitVec.getElem_and, BitVec.getElem_not]
  cases set : word[i] with
  | false => rfl
  | true =>
      rw [set, Bool.true_and] at unset
      rw [unset]
      rfl

end AresCommon.Foundation.Masks
