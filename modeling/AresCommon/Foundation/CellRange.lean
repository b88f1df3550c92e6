import Mathlib.Algebra.Order.Ring.Int
import Mathlib.Data.BitVec
import Mathlib.Data.List.Pairwise

/-!
# Ranges of cells

Cells are numbered and hold values. Writing a range leaves all other cells alone, so that
ranges which do not meet can be written in either order, and adjacent ones at once.
-/

namespace AresCommon.Foundation

set_option autoImplicit false

variable {Value : Type}

def overwrite (first count : ℕ) (values cells : ℕ → Value) : ℕ → Value := fun i =>
  if first ≤ i ∧ i < first + count then values (i - first) else cells i

def Apart (first count first' count' : ℕ) : Prop :=
  first + count ≤ first' ∨ first' + count' ≤ first

section Laws

variable {first count first' count' i : ℕ} {values values' cells : ℕ → Value}

@[simp]
theorem overwrite_none : overwrite first 0 values cells = cells := by
  funext i
  exact if_neg (by omega)

theorem overwrite_inside (inside : i < count) :
    overwrite first count values cells (first + i) = values i := by
  rw [overwrite, if_pos (by omega), Nat.add_sub_cancel_left]

theorem overwrite_outside (outside : i < first ∨ first + count ≤ i) :
    overwrite first count values cells i = cells i := if_neg (by omega)

theorem overwrite_one :
    overwrite first 1 values cells i = if i = first then values 0 else cells i := by
  by_cases same : i = first
  · rw [if_pos same, same]
    exact overwrite_inside Nat.zero_lt_one
  · rw [if_neg same]
    exact overwrite_outside (by omega)

theorem overwrite_congr (same : ∀ j < count, values j = values' j) :
    overwrite first count values cells = overwrite first count values' cells := by
  funext i
  unfold overwrite
  split
  · exact same (i - first) (by omega)
  · rfl

theorem overwrite_comm (apart : Apart first count first' count') :
    overwrite first count values (overwrite first' count' values' cells) =
      overwrite first' count' values' (overwrite first count values cells) := by
  funext i
  unfold Apart at apart
  unfold overwrite
  by_cases inside : first ≤ i ∧ i < first + count
  · have other : ¬(first' ≤ i ∧ i < first' + count') := by omega
    rw [if_pos inside, if_neg other, if_pos inside]
  · rw [if_neg inside, if_neg inside]

theorem overwrite_append :
    overwrite (first + count) count' values' (overwrite first count values cells) =
      overwrite first (count + count')
        (fun j => if j < count then values j else values' (j - count)) cells := by
  funext i
  unfold overwrite
  by_cases early : first ≤ i ∧ i < first + count
  · rw [if_neg (by omega), if_pos early, if_pos (by omega)]
    exact (if_pos (by omega)).symm
  · by_cases late : first + count ≤ i ∧ i < first + count + count'
    · rw [if_pos late, if_pos (by omega), ← Nat.sub_sub]
      exact (if_neg (by omega)).symm
    · rw [if_neg late, if_neg early, if_neg (by omega)]

end Laws

/-! ### Many writes -/

structure RangeWrite (Value : Type) where
  place : ℕ × ℕ
  values : ℕ → Value

def writeAll (writes : List (RangeWrite Value)) (cells : ℕ → Value) : ℕ → Value :=
  writes.foldl (fun cells write => overwrite write.place.1 write.place.2 write.values cells) cells

def PairwiseApart (layout : List (ℕ × ℕ)) : Prop :=
  layout.Pairwise fun place place' => Apart place.1 place.2 place'.1 place'.2

theorem PairwiseApart.apart {layout : List (ℕ × ℕ)} (disjoint : PairwiseApart layout)
    {place place' : ℕ × ℕ} (member : place ∈ layout) (member' : place' ∈ layout)
    (other : place ≠ place') : Apart place.1 place.2 place'.1 place'.2 := by
  have : Std.Symm fun place place' : ℕ × ℕ => Apart place.1 place.2 place'.1 place'.2 :=
    ⟨fun _ _ => Or.symm⟩
  exact List.Pairwise.forall disjoint member member' other

section Writes

variable {writes : List (RangeWrite Value)} {layout : List (ℕ × ℕ)} (cells : ℕ → Value)

/-- A cell of a place holds what was written there last. -/
theorem writeAll_inside (disjoint : PairwiseApart layout)
    (within : ∀ write ∈ writes, write.place ∈ layout) {place : ℕ × ℕ} (member : place ∈ layout)
    {i : ℕ} (inside : i < place.2) :
    writeAll writes cells (place.1 + i) =
      match writes.reverse.find? (fun write => write.place = place) with
      | some write => write.values i
      | none => cells (place.1 + i) := by
  induction writes using List.reverseRecOn with
  | nil => rfl
  | append_singleton earlier last ih =>
      have earlierWithin : ∀ write ∈ earlier, write.place ∈ layout := fun write known =>
        within write (List.mem_append_left _ known)
      have lastWithin := within last (List.mem_append_right _ (List.mem_singleton_self _))
      rw [writeAll, List.foldl_append, List.reverse_append]
      by_cases same : last.place = place
      · subst same
        simp [overwrite_inside inside]
      · have apart := disjoint.apart lastWithin member same
        unfold Apart at apart
        simp only [List.foldl_cons, List.foldl_nil, List.reverse_singleton, List.singleton_append,
          List.find?_cons, decide_eq_false same]
        rw [overwrite_outside (by omega)]
        exact ih earlierWithin

theorem writeAll_outside (within : ∀ write ∈ writes, write.place ∈ layout) {i : ℕ}
    (outside : ∀ place ∈ layout, i < place.1 ∨ place.1 + place.2 ≤ i) :
    writeAll writes cells i = cells i := by
  induction writes generalizing cells with
  | nil => rfl
  | cons write rest ih =>
      obtain ⟨here, later⟩ := List.forall_mem_cons.mp within
      exact (ih _ later).trans (overwrite_outside (outside _ here))

end Writes

/-! ### Words as cells -/

theorem bit_of_low_mask {width n : ℕ} (narrow : n < width) (i : ℕ) :
    (BitVec.ofNat width 1 <<< n - BitVec.ofNat width 1).getLsbD i = decide (i < n) := by
  have one : (BitVec.ofNat width 1).toNat = 1 := by
    rw [BitVec.toNat_ofNat]
    exact Nat.mod_eq_of_lt (Nat.one_lt_two_pow (by omega))
  have shifted : (BitVec.ofNat width 1 <<< n).toNat = 2 ^ n := by
    rw [BitVec.toNat_shiftLeft, one, Nat.shiftLeft_eq, Nat.one_mul]
    exact Nat.mod_eq_of_lt (Nat.pow_lt_pow_right (by decide) narrow)
  have least : BitVec.ofNat width 1 ≤ BitVec.ofNat width 1 <<< n := by
    rw [BitVec.le_def, one, shifted]
    exact Nat.one_le_two_pow
  rw [← BitVec.testBit_toNat, BitVec.toNat_sub_of_le least, one, shifted]
  exact Nat.testBit_two_pow_sub_one n i

theorem word_ext {width : ℕ} {left right : BitVec width}
    (same : left.getLsbD = right.getLsbD) : left = right :=
  BitVec.eq_of_getLsbD_eq fun i _ => congrFun same i

end AresCommon.Foundation
