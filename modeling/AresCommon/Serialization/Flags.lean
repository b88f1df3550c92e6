import AresCommon.Serialization.Bitfield

/-!
# Flags

A flag is a bit of its container. The assertions of `set_bit` and `check_bit` let one bit
too many through, and those of `get_flags` do not count from the bit it starts at; what
`set_flags` accepts fits.
-/

namespace AresCommon.Serialization

open AresCommon.Foundation

set_option autoImplicit false

variable {T : UnsignedType} {bitfield : T.Value} {bit startBit : Nat} {value : Bool}

/-! ### A single flag -/

theorem bit_of_mask (place : bit < T.promoted) (i : Nat) :
    (T.convert (1#T.promoted <<< bit)).getLsbD i = (decide (i < T.width) && decide (i = bit)) := by
  have wide : 0 < T.promoted := by omega
  rw [bit_of_convert, BitVec.getLsbD_shiftLeft, BitVec.getLsbD_one]
  by_cases held : i < T.width
  · by_cases same : i = bit
    · simp [same, wide, place]
    · by_cases low : i < bit
      · simp [low, same]
      · have above : i - bit ≠ 0 := by omega
        simp [same, above]
  · simp [held]

/-- A flag is written over one bit; the last bit that is accepted is none of the container
and stays clear. -/
theorem set_bit_writes (bitfield : T.Value) (value : Bool) (accepted : bit ≤ T.width)
    (place : bit < T.promoted) :
    ∃ written, setBit bitfield bit value = .ok written ∧ written.getLsbD =
      overwrite bit 1 (fun _ => decide (bit < T.width) && value) bitfield.getLsbD := by
  let mask := T.convert (1#T.promoted <<< bit)
  let cleared := T.convert (T.promote bitfield &&& ~~~T.promote mask)
  have maskBits (i : Nat) : mask.getLsbD i = (decide (i < T.width) && decide (i = bit)) :=
    bit_of_mask place i
  have clearedBits (i : Nat) : cleared.getLsbD i = (decide (i ≠ bit) && bitfield.getLsbD i) := by
    rw [bit_of_convert, BitVec.getLsbD_and, BitVec.getLsbD_not, bit_of_promote, bit_of_promote,
      maskBits]
    by_cases held : i < T.width
    · have carried := held.trans_le (width_le_promoted T)
      by_cases same : i = bit
      · subst same
        simp [held]
      · simp [held, carried, same]
    · have absent := BitVec.getLsbD_of_ge bitfield i (Nat.le_of_not_lt held)
      simp [held, absent]
  have run : setBit bitfield bit value =
      .ok (if value then T.convert (T.promote cleared ||| T.promote mask) else cleared) := by
    rw [setBit, assert, if_pos accepted, promote_one, shiftLeft, if_pos place]
    cases value <;> rfl
  refine ⟨_, run, funext fun i => ?_⟩
  cases value with
  | false =>
      rw [if_neg (by decide), clearedBits, overwrite_one, Bool.and_false]
      by_cases same : i = bit <;> simp [same]
  | true =>
      rw [if_pos rfl, bit_of_convert, BitVec.getLsbD_or, bit_of_promote, bit_of_promote,
        clearedBits, maskBits, overwrite_one, Bool.and_true]
      by_cases same : i = bit
      · subst same
        simp
      · by_cases held : i < T.width
        · simp [held, same]
        · have absent := BitVec.getLsbD_of_ge bitfield i (Nat.le_of_not_lt held)
          simp [held, same, absent]

theorem check_bit_reads (bitfield : T.Value) (accepted : bit ≤ T.width)
    (place : bit < T.promoted) : checkBit bitfield bit = .ok (bitfield.getLsbD bit) := by
  let mask := T.convert (1#T.promoted <<< bit)
  let zero := T.promote (T.convert 0#1)
  have masked (i : Nat) : (T.promote bitfield &&& T.promote mask).getLsbD i =
      (decide (i = bit) && bitfield.getLsbD i) := by
    rw [BitVec.getLsbD_and, bit_of_promote, bit_of_promote, bit_of_mask place]
    by_cases held : i < T.width
    · simp [held, Bool.and_comm]
    · have absent := BitVec.getLsbD_of_ge bitfield i (Nat.le_of_not_lt held)
      simp [absent]
  have zeroBits (i : Nat) : zero.getLsbD i = false := by
    rw [bit_of_promote, bit_of_convert, BitVec.getLsbD_zero, Bool.and_false]
  have run : checkBit bitfield bit =
      .ok (decide (T.promote bitfield &&& T.promote mask ≠ zero)) := by
    rw [checkBit, assert, if_pos accepted, promote_one, shiftLeft, if_pos place]
    rfl
  rw [run]
  apply congrArg
  cases held : bitfield.getLsbD bit with
  | false =>
      have clear : T.promote bitfield &&& T.promote mask = zero := by
        apply word_ext
        funext i
        rw [masked, zeroBits]
        by_cases same : i = bit
        · rw [same, held, Bool.and_false]
        · rw [decide_eq_false same, Bool.false_and]
      rw [clear]
      exact decide_eq_false (not_not_intro rfl)
  | true =>
      have kept : T.promote bitfield &&& T.promote mask ≠ zero := by
        intro clear
        have absent := masked bit
        rw [clear, zeroBits, held] at absent
        simp at absent
      exact decide_eq_true kept

theorem set_bit_shifts_too_far (bitfield : T.Value) (value : Bool) (accepted : bit ≤ T.width)
    (wide : T.promoted ≤ bit) : setBit bitfield bit value = .error .shift := by
  rw [setBit, assert, if_pos accepted, shiftLeft, if_neg (Nat.not_lt_of_le wide)]
  rfl

/-- No shift goes too far, the flag reads back, and the other bits stay. -/
structure FlagLaws (bitfield : T.Value) (bit : Nat) (value : Bool) : Prop where
  check_defined : ∃ held, checkBit bitfield bit = .ok held
  reads_back : (setBit bitfield bit value >>= fun written => checkBit written bit) = .ok value
  frame : ∀ written, setBit bitfield bit value = .ok written →
    ∀ i, i ≠ bit → written.getLsbD i = bitfield.getLsbD i

theorem flag_laws_of_place (bitfield : T.Value) (value : Bool) (accepted : bit ≤ T.width)
    (place : bit < T.promoted) :
    FlagLaws bitfield bit value ↔ bit < T.width ∨ value = false := by
  obtain ⟨written, set, bits⟩ := set_bit_writes bitfield value accepted place
  have read := check_bit_reads written accepted place
  rw [bits, overwrite_one, if_pos rfl] at read
  constructor
  · intro laws
    have back := laws.reads_back
    rw [set] at back
    have same := Except.ok.inj (read.symm.trans back)
    by_cases held : bit < T.width
    · exact .inl held
    · rw [decide_eq_false held, Bool.false_and] at same
      exact .inr same.symm
  · intro holds
    constructor
    · exact ⟨_, check_bit_reads bitfield accepted place⟩
    · rw [set]
      apply read.trans
      rcases holds with held | clear
      · rw [decide_eq_true held, Bool.true_and]
      · rw [clear, Bool.and_false]
    · intro other same i apart
      obtain rfl : other = written := Except.ok.inj (same.symm.trans set)
      rw [bits, overwrite_one, if_neg apart]

theorem flag_laws_iff (bitfield : T.Value) (value : Bool) (accepted : bit ≤ T.width) :
    FlagLaws bitfield bit value ↔ bit < T.width ∨ T.width < 32 ∧ value = false := by
  by_cases place : bit < T.promoted
  · rw [flag_laws_of_place bitfield value accepted place]
    unfold UnsignedType.promoted at place
    constructor
    · rintro (held | clear)
      · exact .inl held
      · by_cases held : bit < T.width
        · exact .inl held
        · exact .inr ⟨by omega, clear⟩
    · rintro (held | ⟨_, clear⟩)
      · exact .inl held
      · exact .inr clear
  · have wide := Nat.le_of_not_lt place
    constructor
    · intro laws
      have back := laws.reads_back
      rw [set_bit_shifts_too_far bitfield value accepted wide] at back
      cases back
    · unfold UnsignedType.promoted at place
      omega

/-! ### A pack of flags -/

theorem set_flags_writes {flags : List Bool} (bitfield : T.Value)
    (fits : startBit + flags.length ≤ T.width) :
    ∃ written, setFlags startBit bitfield flags = .ok written ∧
      written.getLsbD =
        overwrite startBit flags.length (fun j => flags.getD j false) bitfield.getLsbD := by
  induction flags generalizing startBit bitfield with
  | nil => exact ⟨bitfield, rfl, overwrite_none.symm⟩
  | cons flag flags ih =>
      rw [List.length_cons] at fits
      have held : startBit < T.width := by omega
      obtain ⟨first, set, bits⟩ := set_bit_writes bitfield flag held.le
        (held.trans_le (width_le_promoted T))
      have shorter : startBit + 1 + flags.length ≤ T.width := by omega
      obtain ⟨written, rest, more⟩ := ih first shorter
      refine ⟨written, ?_, ?_⟩
      · rw [setFlags, setFlagsBy, List.zipIdx_cons, List.foldlM_cons, set]
        exact rest
      · rw [more, bits, overwrite_append, List.length_cons, Nat.add_comm 1]
        apply overwrite_congr
        intro j _
        cases j with
        | zero => simp [held]
        | succ j => simp

theorem get_flags_reads {count : Nat} (bitfield : T.Value) (fits : startBit + count ≤ T.width) :
    getFlags startBit bitfield count =
      .ok ((List.range' startBit count).map bitfield.getLsbD) := by
  induction count generalizing startBit with
  | zero => rfl
  | succ count ih =>
      have held : startBit < T.width := by omega
      have rest := ih (show startBit + 1 + count ≤ T.width by omega)
      unfold getFlags getFlagsBy at rest ⊢
      rw [List.range'_succ, List.mapM_cons, rest,
        check_bit_reads bitfield held.le (held.trans_le (width_le_promoted T))]
      rfl

/-! ### The indices that are passed on -/

theorem noted_bind {Next Result : Type} (call : Except Fault Next) (bit : Nat)
    (rest : Next → ExceptT Fault (StateM (List Nat)) Result) (passed : List Nat) :
    (noted call bit >>= rest) passed = match call with
      | .ok next => rest next (passed ++ [bit])
      | .error fault => (.error fault, passed ++ [bit]) := by
  cases call <;> rfl

/-- Up to a fault, `set_flags` passes on the bits from the first one on. -/
theorem set_flags_passes {flags : List Bool} (bitfield : T.Value)
    (fits : startBit + flags.length ≤ T.width) :
    setFlagsPasses startBit bitfield flags = List.range' startBit flags.length := by
  have whole (passed : List Nat) : (setFlagsBy (fun bitfield bit flag =>
      noted (setBit bitfield bit flag) bit) startBit bitfield flags passed :
        Except Fault T.Value × List Nat).2 =
      passed ++ List.range' startBit flags.length := by
    induction flags generalizing startBit bitfield passed with
    | nil => exact (List.append_nil passed).symm
    | cons flag flags ih =>
        rw [List.length_cons] at fits
        have held : startBit < T.width := by omega
        obtain ⟨first, set, _⟩ := set_bit_writes bitfield flag held.le
          (held.trans_le (width_le_promoted T))
        have rest := ih first (show startBit + 1 + flags.length ≤ T.width by omega)
          (passed ++ [startBit])
        unfold setFlagsBy at rest ⊢
        rw [List.zipIdx_cons, List.foldlM_cons, noted_bind]
        simp only [set]
        rw [rest, List.length_cons, List.range'_succ, List.append_assoc, List.singleton_append]
  exact whole []

theorem pure_notes_nothing {Next Result : Type} (call : ExceptT Fault (StateM (List Nat)) Next)
    (value : Next → Result) (passed : List Nat) :
    ((call >>= fun next => pure (value next)) passed : Except Fault Result × List Nat).2 =
      (call passed : Except Fault Next × List Nat).2 := by
  have split (ran : Except Fault Next × List Nat) (same : call passed = ran) :
      ((call >>= fun next => pure (value next)) passed : Except Fault Result × List Nat).2 =
        ran.2 := by
    obtain ⟨outcome, notes⟩ := ran
    simp only [bind, ExceptT.bind, ExceptT.mk, StateT.bind, same]
    cases outcome <;> rfl
  exact split _ rfl

theorem get_flags_noted (bitfield : T.Value) (startBit count : Nat) (passed : List Nat) :
    (getFlagsBy (fun bit => noted (checkBit bitfield bit) bit) startBit (count + 1) passed :
        Except Fault (List Bool) × List Nat).2 =
      match checkBit bitfield startBit with
      | .ok _ => (getFlagsBy (fun bit => noted (checkBit bitfield bit) bit) (startBit + 1) count
          (passed ++ [startBit]) : Except Fault (List Bool) × List Nat).2
      | .error _ => passed ++ [startBit] := by
  unfold getFlagsBy
  rw [List.range'_succ, List.mapM_cons, noted_bind]
  cases checkBit bitfield startBit with
  | error fault => rfl
  | ok held => exact pure_notes_nothing _ _ _

theorem passed_stays (bitfield : T.Value) (startBit count : Nat) (passed : List Nat) :
    passed <+: (getFlagsBy (fun bit => noted (checkBit bitfield bit) bit) startBit count passed :
      Except Fault (List Bool) × List Nat).2 := by
  induction count generalizing startBit passed with
  | zero => exact List.prefix_refl passed
  | succ count ih =>
      rw [get_flags_noted]
      split
      · exact (List.prefix_append passed [startBit]).trans (ih _ _)
      · exact List.prefix_append passed [startBit]

/-- `get_flags` passes on bits of the container only when all its flags are there. -/
theorem get_flags_passes_inside {count : Nat} (bitfield : T.Value) (start : startBit < T.width) :
    (∀ bit ∈ getFlagsPasses startBit bitfield count, bit < T.width) ↔
      startBit + count ≤ T.width := by
  have whole (startBit : Nat) (passed : List Nat) (inside : ∀ bit ∈ passed, bit < T.width)
      (start : startBit ≤ T.width) : (∀ bit ∈ (getFlagsBy (fun bit =>
        noted (checkBit bitfield bit) bit) startBit count passed :
          Except Fault (List Bool) × List Nat).2, bit < T.width) ↔
      startBit + count ≤ T.width := by
    induction count generalizing startBit passed with
    | zero => exact ⟨fun _ => start, fun _ => inside⟩
    | succ count ih =>
        rw [get_flags_noted]
        by_cases held : startBit < T.width
        · rw [check_bit_reads bitfield held.le (held.trans_le (width_le_promoted T))]
          simp only
          have known : ∀ bit ∈ passed ++ [startBit], bit < T.width := by
            simpa [or_imp, forall_and, held] using inside
          rw [ih (startBit + 1) (passed ++ [startBit]) known held]
          omega
        · have past : startBit ∈ passed ++ [startBit] := by simp
          constructor
          · intro all
            refine absurd (all startBit ?_) held
            split
            · exact (passed_stays bitfield _ _ _).subset past
            · exact past
          · omega
  exact whole startBit [] (by simp) start.le

theorem bits_of_pack {flags : List Bool} {cells : Nat → Bool} :
    (List.range' startBit flags.length).map
      (overwrite startBit flags.length (fun j => flags.getD j false) cells) = flags := by
  apply List.ext_getElem
  · simp
  · intro j _ inside
    rw [List.getElem_map, List.getElem_range', Nat.one_mul, overwrite_inside inside]
    simp [inside]

/-- A pack is written in two parts, in either order. -/
theorem set_flags_append {xs ys : List Bool} (bitfield written : T.Value)
    (fits : startBit + (xs ++ ys).length ≤ T.width)
    (set : setFlags startBit bitfield (xs ++ ys) = .ok written) :
    (setFlags startBit bitfield xs >>= fun first =>
      setFlags (startBit + xs.length) first ys) = .ok written ∧
    (setFlags (startBit + xs.length) bitfield ys >>= fun second =>
      setFlags startBit second xs) = .ok written := by
  obtain ⟨whole, setWhole, bits⟩ := set_flags_writes bitfield fits
  obtain rfl : whole = written := Except.ok.inj (setWhole.symm.trans set)
  rw [List.length_append] at fits bits
  have early : startBit + xs.length ≤ T.width := by omega
  have late : startBit + xs.length + ys.length ≤ T.width := by omega
  obtain ⟨first, setFirst, firstBits⟩ := set_flags_writes bitfield early
  obtain ⟨both, setBoth, bothBits⟩ := set_flags_writes first late
  obtain ⟨second, setSecond, secondBits⟩ := set_flags_writes bitfield late
  obtain ⟨both', setBoth', bothBits'⟩ := set_flags_writes second early
  have forward : both = whole := by
    apply word_ext
    rw [bothBits, firstBits, bits, overwrite_append]
    apply overwrite_congr
    intro j _
    simp only [List.getD_eq_getElem?_getD, List.getElem?_append]
    split <;> rfl
  have backward : both' = both := by
    apply word_ext
    rw [bothBits', secondBits, bothBits, firstBits, overwrite_comm (.inl (le_refl _))]
  constructor
  · rw [setFirst, ← forward]
    exact setBoth
  · rw [setSecond, ← forward, ← backward]
    exact setBoth'

/-- Which bits the accepted calls are about: one more than there is, in `set_bit` and
`check_bit`; only bits of the container, in `set_flags`; and any at all, in a `get_flags` that
does not start at the first. -/
theorem flag_index_inside_iff (T : UnsignedType) :
    (∀ (bitfield : T.Value) (bit : Nat) (value : Bool), bit ≤ T.width →
      (FlagLaws bitfield bit value ↔ bit < T.width ∨ T.width < 32 ∧ value = false)) ∧
    (∀ (startBit : Nat) (bitfield : T.Value) (flags : List Bool),
      SetFlagsAccepted T startBit flags.length →
      (∀ bit ∈ setFlagsPasses startBit bitfield flags, bit < T.width) ∧
      ∃ written, setFlags startBit bitfield flags = .ok written ∧ written.getLsbD =
        overwrite startBit flags.length (fun j => flags.getD j false) bitfield.getLsbD) ∧
    ∀ (startBit : Nat) (bitfield : T.Value) (count : Nat), GetFlagsAccepted T startBit count →
      ((∀ bit ∈ getFlagsPasses startBit bitfield count, bit < T.width) ↔
        startBit + count ≤ T.width) ∧
      (startBit + count ≤ T.width → getFlags startBit bitfield count =
        .ok ((List.range' startBit count).map bitfield.getLsbD)) := by
  refine ⟨fun bitfield bit value accepted => flag_laws_iff bitfield value accepted, ?_, ?_⟩
  · intro startBit bitfield flags accepted
    have fits : startBit + flags.length ≤ T.width := by
      unfold SetFlagsAccepted at accepted
      omega
    refine ⟨fun bit passed => ?_, set_flags_writes bitfield fits⟩
    rw [set_flags_passes bitfield fits] at passed
    exact (List.mem_range'_1.mp passed).2.trans_le fits
  · intro startBit bitfield count accepted
    exact ⟨get_flags_passes_inside bitfield accepted.1, get_flags_reads bitfield⟩

theorem flag_index_inside_of_last_bit :
    FlagLaws (UnsignedType.uint8.convert 0#8) 7 true :=
  ((flag_index_inside_iff .uint8).1 _ 7 true (by decide)).mpr (.inl (by decide))

/-- The bit behind a byte is accepted, and a flag that is set there is clear. -/
theorem bit_past_byte_is_accepted :
    ¬ ∀ T : UnsignedType,
      (∀ (bitfield : T.Value) (bit : Nat) (value : Bool), bit ≤ T.width →
        FlagLaws bitfield bit value) ∧
      (∀ (startBit : Nat) (bitfield : T.Value) (flags : List Bool),
        SetFlagsAccepted T startBit flags.length →
          ∀ bit ∈ setFlagsPasses startBit bitfield flags, bit < T.width) ∧
      ∀ (startBit : Nat) (bitfield : T.Value) (count : Nat), GetFlagsAccepted T startBit count →
        ∀ bit ∈ getFlagsPasses startBit bitfield count, bit < T.width := by
  intro always
  have laws := (always .uint8).1 (UnsignedType.uint8.convert 0#8) 8 true (by decide)
  have clear : (setBit (UnsignedType.uint8.convert 0#8) 8 true >>= fun written =>
      checkBit written 8) = .ok false := by decide
  cases clear.symm.trans laws.reads_back

/-- Flags that fit into a container read back in their order, leave its other bits alone and
can be written in two parts, the later part first or last. -/
theorem flags_round_trip (bitfield : T.Value) {flags : List Bool}
    (accepted : SetFlagsAccepted T startBit flags.length) :
    ∃ written, setFlags startBit bitfield flags = .ok written ∧
      GetFlagsAccepted T startBit flags.length ∧
      getFlags startBit written flags.length = .ok flags ∧
      (∀ i, i < startBit ∨ startBit + flags.length ≤ i →
        written.getLsbD i = bitfield.getLsbD i) ∧
      ∀ xs ys : List Bool, flags = xs ++ ys →
        SetFlagsAccepted T startBit xs.length ∧
        (ys ≠ [] → SetFlagsAccepted T (startBit + xs.length) ys.length) ∧
        (setFlags startBit bitfield xs >>= fun first =>
          setFlags (startBit + xs.length) first ys) = .ok written ∧
        (setFlags (startBit + xs.length) bitfield ys >>= fun second =>
          setFlags startBit second xs) = .ok written := by
  have fits : startBit + flags.length ≤ T.width := by
    unfold SetFlagsAccepted at accepted
    omega
  obtain ⟨written, set, bits⟩ := set_flags_writes bitfield fits
  refine ⟨written, set, ⟨accepted.1, by omega⟩, ?_, ?_, ?_⟩
  · rw [get_flags_reads written fits, bits, bits_of_pack]
  · intro i outside
    rw [bits, overwrite_outside outside]
  · intro xs ys parts
    have length : flags.length = xs.length + ys.length := by rw [parts, List.length_append]
    have split := set_flags_append bitfield written (by rwa [← parts]) (by rwa [← parts])
    refine ⟨⟨accepted.1, by omega⟩, fun some => ⟨?_, by omega⟩, split⟩
    have positive := List.length_pos_iff.mpr some
    omega

/-- Five flags in the middle of a byte. -/
theorem flags_round_trip_of_five :
    ∃ written, setFlags 2 (UnsignedType.uint8.convert 0xff#8) [true, false, true, false, false] =
        .ok written ∧
      getFlags 2 written 5 = .ok [true, false, true, false, false] := by
  obtain ⟨written, set, _, get, _⟩ := flags_round_trip (UnsignedType.uint8.convert 0xff#8)
    (show SetFlagsAccepted .uint8 2 [true, false, true, false, false].length by
      unfold SetFlagsAccepted
      decide)
  exact ⟨written, set, get⟩

end AresCommon.Serialization
