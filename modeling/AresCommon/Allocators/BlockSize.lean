import AresCommon.Allocators.Allocation

/-!
# The size of an allocated block

`allocate` passes the product of count and element size on as a word. A product that
wraps is a request like any other, so what comes back is large enough for the wrapped
product only. `max_size` bounds the counts whose product and alignment fit in a word.
-/

namespace AresCommon.Allocators

set_option autoImplicit false

variable {posixMemalign : PosixMemalign} {pageSize : UInt64} {allocator : Allocator}

/-! ## One specification of the allocators -/

def Allocator.Accepted : Allocator → Prop
  | aligned align => sizeofPointer ≤ align ∧ powerOf2 align = true
  | alignedConst align => sizeofPointer ≤ align ∧ powerOf2 align = true
  | page => True
  | pageConst => True

theorem allocateAlignedMemory_of_accepted {align : UInt64}
    (accepted : sizeofPointer ≤ align ∧ powerOf2 align = true) (size : UInt64) :
    allocateAlignedMemory posixMemalign align size =
      .ok (allocateBlock posixMemalign align size) := by
  unfold allocateAlignedMemory
  rw [if_neg (UInt64.not_lt.mpr accepted.1), if_neg]
  rw [accepted.2]
  decide

theorem allocateWith_eq {memory : UInt64 → Except Failure (Option Block)}
    {sizeofT n : UInt64} {pointer : Option Block} (got : memory (n * sizeofT) = .ok pointer) :
    allocateWith memory sizeofT n = pointer.elim (.error .badAlloc) .ok := by
  unfold allocateWith
  rw [got]
  cases pointer <;> rfl

theorem Allocator.allocate_eq (accepted : allocator.Accepted) (sizeofT n : UInt64) :
    allocator.allocate posixMemalign pageSize sizeofT n =
      (allocateBlock posixMemalign (allocator.alignment pageSize) (n * sizeofT)).elim
        (.error .badAlloc) .ok := by
  cases allocator with
  | aligned align => exact allocateWith_eq (allocateAlignedMemory_of_accepted accepted _)
  | alignedConst align => exact allocateWith_eq (allocateAlignedMemory_of_accepted accepted _)
  | page => exact allocateWith_eq rfl
  | pageConst => exact allocateWith_eq rfl

theorem allocateBlock_eq_some {align size : UInt64} {block : Block} :
    allocateBlock posixMemalign align size = some block ↔
      size ≠ 0 ∧ posixMemalign align size = .ok block := by
  unfold allocateBlock
  split
  · rename_i zero
    simp [zero]
  · rename_i nonzero
    cases posixMemalign align size with
    | error => simp
    | ok served => simp [nonzero]

theorem Allocator.allocate_eq_ok (accepted : allocator.Accepted) {sizeofT n : UInt64}
    {block : Block} :
    allocator.allocate posixMemalign pageSize sizeofT n = .ok block ↔
      n * sizeofT ≠ 0 ∧
        posixMemalign (allocator.alignment pageSize) (n * sizeofT) = .ok block := by
  rw [allocate_eq accepted, ← allocateBlock_eq_some]
  cases allocateBlock posixMemalign (allocator.alignment pageSize) (n * sizeofT) <;> simp

/-- No assertion fails: a call that returns nothing throws `std::bad_alloc`. -/
theorem Allocator.allocate_throws_or_returns (accepted : allocator.Accepted)
    (sizeofT n : UInt64) :
    allocator.allocate posixMemalign pageSize sizeofT n = .error .badAlloc ∨
      ∃ block, allocator.allocate posixMemalign pageSize sizeofT n = .ok block := by
  rw [allocate_eq accepted]
  cases allocateBlock posixMemalign (allocator.alignment pageSize) (n * sizeofT) with
  | none => exact .inl rfl
  | some block => exact .inr ⟨block, rfl⟩

/-! ## The count that `max_size` allows -/

theorem Allocator.maxSize_eq (sizeofT : UInt64) :
    allocator.maxSize pageSize sizeofT =
      (0xffffffffffffffff - allocator.alignment pageSize) / sizeofT := by
  cases allocator <;> rfl

theorem Allocator.product_add_alignment_le {sizeofT n : UInt64}
    (allowed : n ≤ allocator.maxSize pageSize sizeofT) :
    n.toNat * sizeofT.toNat + (allocator.alignment pageSize).toNat ≤ 2 ^ 64 - 1 := by
  have bound := (allocator.alignment pageSize).toNat_lt
  have below : (0xffffffffffffffff - allocator.alignment pageSize).toNat =
      2 ^ 64 - 1 - (allocator.alignment pageSize).toNat := by
    rw [UInt64.toNat_sub_of_le]
    · rfl
    · rw [UInt64.le_iff_toNat_le]
      exact Nat.le_pred_of_lt bound
  have quotient : n.toNat ≤ (2 ^ 64 - 1 - (allocator.alignment pageSize).toNat) /
      sizeofT.toNat := by
    rw [maxSize_eq, UInt64.le_iff_toNat_le, UInt64.toNat_div, below] at allowed
    exact allowed
  have product : n.toNat * sizeofT.toNat ≤
      2 ^ 64 - 1 - (allocator.alignment pageSize).toNat :=
    Nat.le_trans (Nat.mul_le_mul_right _ quotient) (Nat.div_mul_le_self _ _)
  omega

theorem product_toNat_of_lt {n sizeofT : UInt64}
    (exact_product : n.toNat * sizeofT.toNat < 2 ^ 64) :
    (n * sizeofT).toNat = n.toNat * sizeofT.toNat := by
  rw [UInt64.toNat_mul, Nat.mod_eq_of_lt exact_product]

theorem Allocator.bytes_add_alignment_le {sizeofT n : UInt64}
    (allowed : n ≤ allocator.maxSize pageSize sizeofT) :
    (n * sizeofT).toNat + (allocator.alignment pageSize).toNat ≤ 2 ^ 64 - 1 := by
  have fits := product_add_alignment_le allowed
  rw [product_toNat_of_lt (by omega)]
  exact fits

/-! ## The size of the block -/

/-- A call throws or returns a block for `n` whole elements. -/
def Allocator.EnoughForAll (posixMemalign : PosixMemalign) (pageSize : UInt64)
    (allocator : Allocator) (sizeofT n : UInt64) : Prop :=
  allocator.allocate posixMemalign pageSize sizeofT n = .error .badAlloc ∨
    ∃ block, allocator.allocate posixMemalign pageSize sizeofT n = .ok block ∧
      n.toNat * sizeofT.toNat ≤ block.size

/-- The product does not wrap, or the wrapped product is refused: because it is zero, or
by `posix_memalign`. -/
def Allocator.FitsOrRefused (posixMemalign : PosixMemalign) (pageSize : UInt64)
    (allocator : Allocator) (sizeofT n : UInt64) : Prop :=
  n.toNat * sizeofT.toNat < 2 ^ 64 ∨ n.toNat * sizeofT.toNat % 2 ^ 64 = 0 ∨
    ∃ error, posixMemalign (allocator.alignment pageSize) (n * sizeofT) = .error error

theorem Allocator.enoughForAll_iff (serves : ServesRequests posixMemalign)
    (accepted : allocator.Accepted) (sizeofT n : UInt64) :
    allocator.EnoughForAll posixMemalign pageSize sizeofT n ↔
      allocator.FitsOrRefused posixMemalign pageSize sizeofT n := by
  constructor
  · rintro (thrown | ⟨block, returned, enough⟩)
    · right
      by_cases zero : n * sizeofT = 0
      · left
        rw [← UInt64.toNat_mul, zero]
        rfl
      · right
        cases answer : posixMemalign (allocator.alignment pageSize) (n * sizeofT) with
        | error error => exact ⟨error, rfl⟩
        | ok block =>
            have returned := (allocate_eq_ok accepted).mpr ⟨zero, answer⟩
            rw [thrown] at returned
            cases returned
    -- no block is as large as a product that wraps
    · exact .inl (Nat.lt_of_le_of_lt enough block.size_lt)
  · intro refused
    obtain thrown | ⟨block, returned⟩ := allocate_throws_or_returns accepted sizeofT n
    · exact .inl thrown
    · refine .inr ⟨block, returned, ?_⟩
      obtain ⟨nonzero, answer⟩ := (allocate_eq_ok accepted).mp returned
      obtain exact_product | zero | ⟨error, failed⟩ := refused
      · rw [← product_toNat_of_lt exact_product]
        exact serves _ _ _ answer
      · rw [← UInt64.toNat_mul] at zero
        exact absurd (UInt64.toNat_inj.mp zero) nonzero
      · rw [failed] at answer
        cases answer

theorem Allocator.not_enoughForAll {sizeofT n : UInt64} {block : Block}
    (returned : allocator.allocate posixMemalign pageSize sizeofT n = .ok block)
    (short : block.size < n.toNat * sizeofT.toNat) :
    ¬ allocator.EnoughForAll posixMemalign pageSize sizeofT n := by
  rintro (thrown | ⟨other, same, enough⟩)
  · rw [returned] at thrown
    cases thrown
  · rw [returned, Except.ok.injEq] at same
    subst same
    exact Nat.not_le.mpr short enough

/-- The allocators keep their promise exactly where the product does not wrap or the
wrapped product is refused; the bound of `max_size` always holds. -/
theorem allocators_never_short_iff (serves : ServesRequests posixMemalign)
    (accepted : allocator.Accepted) (sizeofT n : UInt64) :
    (allocator.EnoughForAll posixMemalign pageSize sizeofT n ∧
      (n ≤ allocator.maxSize pageSize sizeofT →
        (n * sizeofT).toNat + (allocator.alignment pageSize).toNat ≤ 2 ^ 64 - 1)) ↔
      allocator.FitsOrRefused posixMemalign pageSize sizeofT n := by
  rw [← Allocator.enoughForAll_iff serves accepted]
  exact and_iff_left Allocator.bytes_add_alignment_le

/-- A `posix_memalign` for an empty heap: the block starts at the first address that has
the alignment. -/
def firstBlock : PosixMemalign := fun align size =>
  if free : align ≠ 0 ∧ align.toNat + size.toNat ≤ 2 ^ 64 then
    .ok { address := align, size := size.toNat, nonnull := free.1, inside := free.2 }
  else .error 12

theorem firstBlock_serves : ServesRequests firstBlock := by
  intro align size block answer
  unfold firstBlock at answer
  split at answer
  · cases answer
    exact Nat.le_refl _
  · cases answer

theorem aligned_eight_accepted : (Allocator.aligned 8).Accepted := ⟨by decide, by decide⟩

theorem allocators_never_short_three :
    (Allocator.EnoughForAll firstBlock 4096 (.aligned 8) 8 3 ∧
      (3 ≤ Allocator.maxSize 4096 (.aligned 8) 8 →
        (3 * 8 : UInt64).toNat + (Allocator.alignment 4096 (.aligned 8)).toNat ≤ 2 ^ 64 - 1)) ↔
      Allocator.FitsOrRefused firstBlock 4096 (.aligned 8) 8 3 :=
  allocators_never_short_iff firstBlock_serves aligned_eight_accepted 8 3

/-- Eight bytes for `2 ^ 61 + 1` elements of eight bytes each, from either allocator. -/
theorem wrapped_product_gets_short_block :
    ServesRequests firstBlock ∧ (Allocator.aligned 8).Accepted ∧
    (∃ block, Allocator.allocate firstBlock 4096 (.aligned 8) 8 0x2000000000000001 = .ok block ∧
      block.size = 8) ∧
    (∃ block, Allocator.allocate firstBlock 4096 .page 8 0x2000000000000001 = .ok block ∧
      block.size = 8) ∧
    ¬ Allocator.EnoughForAll firstBlock 4096 (.aligned 8) 8 0x2000000000000001 ∧
    ¬ Allocator.EnoughForAll firstBlock 4096 .page 8 0x2000000000000001 := by
  refine ⟨firstBlock_serves, aligned_eight_accepted, ⟨_, rfl, rfl⟩, ⟨_, rfl, rfl⟩, ?_, ?_⟩
  · exact Allocator.not_enoughForAll rfl (by decide)
  · exact Allocator.not_enoughForAll rfl (by decide)

end AresCommon.Allocators
