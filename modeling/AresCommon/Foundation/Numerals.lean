import Mathlib.Data.Nat.Digits.Defs

/-!
# Numerals in a text

Numbers are written with the digits `0` to `9` and `A` to `F`, the most significant one
first, and read from the front of a text up to the first character that is no digit of
the base. Small letters are read as well.
-/

namespace AresCommon.Foundation.Numerals

set_option autoImplicit false

def digitChars : List Char := "0123456789ABCDEF".toList

def digitChar (digit : Nat) : Char := digitChars.getD digit '0'

def digitValue (base : Nat) (c : Char) : Option Nat :=
  let value :=
    if '0' ≤ c ∧ c ≤ '9' then some (c.toNat - 48)
    else if 'A' ≤ c ∧ c ≤ 'F' then some (c.toNat - 55)
    else if 'a' ≤ c ∧ c ≤ 'f' then some (c.toNat - 87)
    else none
  value.filter (· < base)

def numeral (base n : Nat) : List Char :=
  if n = 0 then ['0'] else (Nat.digits base n).reverse.map digitChar

/-- A numeral with zeros in front of it, up to a width. -/
def padded (width base n : Nat) : List Char :=
  List.replicate (width - (numeral base n).length) '0' ++ numeral base n

def digitsOf (base : Nat) : List Char → List Nat
  | [] => []
  | c :: rest =>
      match digitValue base c with
      | some digit => digit :: digitsOf base rest
      | none => []

def valueOf (base : Nat) (digits : List Nat) : Nat :=
  digits.foldl (fun value digit => value * base + digit) 0

variable {base : Nat}

theorem digitValue_digitChar {digit : Nat} (small : digit < base) (bounded : base ≤ 16) :
    digitValue base (digitChar digit) = some digit := by
  have values : ∀ digit < 16, digitValue 16 (digitChar digit) = some digit := by decide
  have value := values digit (by omega)
  unfold digitValue at value ⊢
  obtain ⟨value, _⟩ := Option.filter_eq_some_iff.mp value
  exact Option.filter_eq_some_iff.mpr ⟨value, decide_eq_true small⟩

theorem valueOf_foldl (digits : List Nat) (start : Nat) :
    digits.foldl (fun value digit => value * base + digit) start =
      start * base ^ digits.length + valueOf base digits := by
  induction digits generalizing start with
  | nil => simp [valueOf]
  | cons digit rest ih =>
      unfold valueOf
      rw [List.foldl_cons, List.foldl_cons, ih, ih (0 * base + digit), List.length_cons,
        Nat.pow_succ]
      ring

theorem valueOf_append (first second : List Nat) :
    valueOf base (first ++ second) =
      valueOf base first * base ^ second.length + valueOf base second := by
  conv_lhs => unfold valueOf
  rw [List.foldl_append, valueOf_foldl]
  rfl

theorem valueOf_zeros (count : Nat) : valueOf base (List.replicate count 0) = 0 := by
  induction count with
  | zero => rfl
  | succ count ih =>
      rw [List.replicate_succ', valueOf_append, ih]
      simp [valueOf]

theorem valueOf_digits (n : Nat) : valueOf base (Nat.digits base n).reverse = n := by
  unfold valueOf
  rw [List.foldl_reverse]
  have read := Nat.ofDigits_digits base n
  rw [Nat.ofDigits_eq_foldr] at read
  refine Eq.trans ?_ read
  congr 1
  funext digit value
  simp [Nat.mul_comm, Nat.add_comm]

/-- Reading stops behind written digits when no digit follows them. -/
theorem digitsOf_written (bounded : base ≤ 16) (digits : List Nat)
    (small : ∀ digit ∈ digits, digit < base) {rest : List Char}
    (stops : ∀ c ∈ rest.head?, digitValue base c = none) :
    digitsOf base (digits.map digitChar ++ rest) = digits := by
  induction digits with
  | nil =>
      cases rest with
      | nil => rfl
      | cons c rest => simp [digitsOf, stops c rfl]
  | cons digit digits ih =>
      have value := digitValue_digitChar (small digit List.mem_cons_self) bounded
      rw [List.map_cons, List.cons_append, digitsOf, value]
      simp only [List.cons.injEq, true_and]
      exact ih fun digit member => small digit (List.mem_cons_of_mem _ member)

theorem padded_digits (base : Nat) (many : 1 < base) (width n : Nat) :
    ∃ digits, padded width base n = digits.map digitChar ∧
      (∀ digit ∈ digits, digit < base) ∧ digits ≠ [] ∧ valueOf base digits = n := by
  have zeros : List.replicate (width - (numeral base n).length) '0' =
      (List.replicate (width - (numeral base n).length) 0).map digitChar := by
    rw [List.map_replicate]
    rfl
  have written : ∃ digits, numeral base n = digits.map digitChar ∧
      (∀ digit ∈ digits, digit < base) ∧ digits ≠ [] ∧ valueOf base digits = n := by
    unfold numeral
    split
    · rename_i zero
      subst zero
      exact ⟨[0], rfl, by simp; omega, by simp, by simp [valueOf]⟩
    · rename_i positive
      refine ⟨_, rfl, fun digit member => ?_, ?_, valueOf_digits n⟩
      · exact Nat.digits_lt_base many (List.mem_reverse.mp member)
      · simpa using Nat.digits_ne_nil_iff_ne_zero.mpr positive
  obtain ⟨digits, same, small, some, value⟩ := written
  refine ⟨List.replicate (width - (numeral base n).length) 0 ++ digits, ?_, ?_, by simp [some], ?_⟩
  · rw [List.map_append, ← zeros, ← same]
    rfl
  · intro digit member
    rcases List.mem_append.mp member with zero | written
    · rw [(List.mem_replicate.mp zero).2]
      omega
    · exact small digit written
  · rw [valueOf_append, valueOf_zeros, value, Nat.zero_mul, Nat.zero_add]

end AresCommon.Foundation.Numerals
