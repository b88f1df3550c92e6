import Mathlib.Algebra.Order.Ring.Int

/-!
# Aligned allocation

The two allocator templates, with their specialisations for `const T`, and the functions
that get the memory. A `size_t` is a 64-bit word, so the byte count that `allocate` passes
on is taken modulo `2 ^ 64`. `posix_memalign` is a parameter.
-/

namespace AresCommon.Allocators

set_option autoImplicit false

def powerOf2 (x : UInt64) : Bool := x != 0 && (x &&& (x - 1)) == 0

/-! ## Memory -/

/-- Bytes that a pointer which is not null refers to; they end where the address space
does, or before. -/
structure Block where
  address : UInt64
  size : Nat
  nonnull : address ≠ 0
  inside : address.toNat + size ≤ 2 ^ 64

theorem Block.size_lt (block : Block) : block.size < 2 ^ 64 := by
  have positive : 0 < block.address.toNat :=
    Nat.pos_of_ne_zero fun zero => block.nonnull (UInt64.toNat_inj.mp zero)
  have inside := block.inside
  omega

/-- `posix_memalign` on an alignment and a size: an error number or a block. -/
abbrev PosixMemalign := UInt64 → UInt64 → Except Int32 Block

def ServesRequests (posixMemalign : PosixMemalign) : Prop :=
  ∀ align size block, posixMemalign align size = .ok block → size.toNat ≤ block.size

inductive Failure where
  | assertion
  | badAlloc
  deriving DecidableEq, Repr

def sizeofPointer : UInt64 := 8

variable (posixMemalign : PosixMemalign)

/-- What both functions do after their assertions; `none` is a null pointer. -/
def allocateBlock (align size : UInt64) : Option Block :=
  if size = 0 then none
  else
    match posixMemalign align size with
    | .error _ => none
    | .ok block => some block

def allocateAlignedMemory (align size : UInt64) : Except Failure (Option Block) :=
  if align < sizeofPointer then .error .assertion
  else if powerOf2 align = false then .error .assertion
  else .ok (allocateBlock posixMemalign align size)

/-- `detail::allocate_aligned_page`, which asserts nothing. -/
def allocateAlignedPage (pageSize size : UInt64) : Except Failure (Option Block) :=
  .ok (allocateBlock posixMemalign pageSize size)

/-! ## The allocators -/

def maxSize (alignment sizeofT : UInt64) : UInt64 := (0xffffffffffffffff - alignment) / sizeofT

def allocateWith (memory : UInt64 → Except Failure (Option Block)) (sizeofT n : UInt64) :
    Except Failure Block :=
  match memory (n * sizeofT) with
  | .error failure => .error failure
  | .ok none => .error .badAlloc
  | .ok (some block) => .ok block

/-- `AlignedAllocator<T, Align>` and `PageAllocator<T>`, each with its specialisation for
`const T`. -/
inductive Allocator where
  | aligned (align : UInt64)
  | alignedConst (align : UInt64)
  | page
  | pageConst
  deriving DecidableEq, Repr

namespace Allocator

variable (pageSize : UInt64)

def alignment : Allocator → UInt64
  | aligned align => align
  | alignedConst align => align
  | page => pageSize
  | pageConst => pageSize

def maxSize : Allocator → UInt64 → UInt64
  | aligned align => Allocators.maxSize align
  | alignedConst align => Allocators.maxSize align
  | page => Allocators.maxSize pageSize
  | pageConst => Allocators.maxSize pageSize

def allocate : Allocator → UInt64 → UInt64 → Except Failure Block
  | aligned align => allocateWith (allocateAlignedMemory posixMemalign align)
  | alignedConst align => allocateWith (allocateAlignedMemory posixMemalign align)
  | page => allocateWith (allocateAlignedPage posixMemalign pageSize)
  | pageConst => allocateWith (allocateAlignedPage posixMemalign pageSize)

end Allocator

/-! ## The alignment check -/

/-- The alignments of `posix_memalign`: powers of two that are multiples of
`sizeof(void *)`. -/
def PosixAlignment (align : UInt64) : Prop :=
  sizeofPointer.toNat ∣ align.toNat ∧ ∃ k, align.toNat = 2 ^ k

theorem powerOf2_bits (x : UInt64) :
    powerOf2 x = true ↔ x.toNat ≠ 0 ∧ (x.toNat &&& (x.toNat - 1)) = 0 := by
  by_cases zero : x = 0
  · subst zero
    decide
  · have positive : x.toNat ≠ 0 := fun none => zero (UInt64.toNat_inj.mp none)
    have below : (x - 1).toNat = x.toNat - 1 := by
      rw [UInt64.toNat_sub_of_le]
      · rfl
      · rw [UInt64.le_iff_toNat_le]
        exact Nat.one_le_iff_ne_zero.mpr positive
    have cleared : (x &&& (x - 1)) = 0 ↔ (x.toNat &&& (x.toNat - 1)) = 0 := by
      rw [← UInt64.toNat_inj, UInt64.toNat_and, below]
      rfl
    simp only [powerOf2, Bool.and_eq_true, bne_iff_ne, beq_iff_eq, cleared, zero, positive,
      ne_eq, not_false_eq_true, true_and]

/-- The bit trick of `power_of_2` finds exactly the powers of two. -/
theorem powerOf2_iff (x : UInt64) : powerOf2 x = true ↔ ∃ k, k < 64 ∧ x.toNat = 2 ^ k := by
  rw [powerOf2_bits, Nat.ne_zero_and_sub_one_eq_zero_iff_isPowerOfTwo]
  constructor
  · rintro ⟨k, power⟩
    have bound : 2 ^ k < 2 ^ 64 := power ▸ x.toNat_lt
    exact ⟨k, (Nat.pow_lt_pow_iff_right (by decide)).mp bound, power⟩
  · rintro ⟨k, -, power⟩
    exact ⟨k, power⟩

theorem posixAlignment_iff (align : UInt64) :
    PosixAlignment align ↔ sizeofPointer ≤ align ∧ powerOf2 align = true := by
  rw [powerOf2_iff, UInt64.le_iff_toNat_le]
  constructor
  · rintro ⟨multiple, k, power⟩
    have positive : 0 < align.toNat := power ▸ Nat.two_pow_pos k
    have bound : 2 ^ k < 2 ^ 64 := power ▸ align.toNat_lt
    exact ⟨Nat.le_of_dvd positive multiple, k,
      (Nat.pow_lt_pow_iff_right (by decide)).mp bound, power⟩
  · rintro ⟨large, k, -, power⟩
    refine ⟨?_, k, power⟩
    have large : 2 ^ 3 ≤ 2 ^ k := power ▸ large
    rw [power]
    exact Nat.pow_dvd_pow 2 ((Nat.pow_le_pow_iff_right (by decide)).mp large)

theorem posixAlignment_iff_factor (align : UInt64) :
    PosixAlignment align ↔ ∃ j, align.toNat = sizeofPointer.toNat * 2 ^ j := by
  constructor
  · rintro ⟨multiple, k, power⟩
    have large : 2 ^ 3 ∣ 2 ^ k := power ▸ multiple
    have three : 3 ≤ k := (Nat.pow_dvd_pow_iff_le_right (by decide)).mp large
    refine ⟨k - 3, ?_⟩
    calc
      align.toNat = 2 ^ (3 + (k - 3)) := by rw [power, Nat.add_sub_cancel' three]
      _ = sizeofPointer.toNat * 2 ^ (k - 3) := Nat.pow_add 2 3 (k - 3)
  · rintro ⟨j, factor⟩
    refine ⟨⟨2 ^ j, factor⟩, 3 + j, ?_⟩
    rw [factor, Nat.pow_add]
    rfl

theorem allocateAlignedMemory_asserts (align size : UInt64) :
    allocateAlignedMemory posixMemalign align size = .error .assertion ↔
      ¬ (sizeofPointer ≤ align ∧ powerOf2 align = true) := by
  unfold allocateAlignedMemory
  split
  · rename_i small
    simp [UInt64.not_le.mpr small]
  · rename_i large
    split
    · rename_i other
      simp [other]
    · rename_i power
      simp [UInt64.not_lt.mp large, power]

/-- `power_of_2` is exact on 64-bit words, so that the assertions of
`allocate_aligned_memory` accept exactly the alignments of `posix_memalign`. -/
theorem alignment_check_exact :
    (∀ x : UInt64, powerOf2 x = true ↔ ∃ k, k < 64 ∧ x.toNat = 2 ^ k) ∧
    ∀ (posixMemalign : PosixMemalign) (align size : UInt64),
      (allocateAlignedMemory posixMemalign align size ≠ .error .assertion ↔
        PosixAlignment align) ∧
      (PosixAlignment align ↔ ∃ j, align.toNat = sizeofPointer.toNat * 2 ^ j) := by
  refine ⟨powerOf2_iff, fun posixMemalign align size => ⟨?_, posixAlignment_iff_factor align⟩⟩
  rw [Ne, allocateAlignedMemory_asserts, Classical.not_not]
  exact (posixAlignment_iff align).symm

end AresCommon.Allocators
