import Mathlib.Logic.Function.Basic

/-!
# Overlays

A family of values under a patch that has a value for some of the keys. Walking over a
list of keys and patching the family at each of them is the overlay of the patch at the
keys of the list, in whatever order they stand and however often.
-/

namespace AresCommon.Foundation

set_option autoImplicit false

variable {Key : Type*} {Value : Key → Type*}

/-- The value of the patch where it has one, and of the base elsewhere. -/
def overlay (patch : ∀ key, Option (Value key)) (base : ∀ key, Value key) :
    ∀ key, Value key :=
  fun key => (patch key).getD (base key)

variable [DecidableEq Key]

def patchOn (keys : List Key) (patch : ∀ key, Option (Value key)) :
    ∀ key, Option (Value key) :=
  fun key => if key ∈ keys then patch key else none

def patchAt (patch : ∀ key, Option (Value key)) (base : ∀ key, Value key) (key : Key) :
    ∀ key, Value key :=
  match patch key with
  | some value => Function.update base key value
  | none => base

theorem patchAt_self (patch : ∀ key, Option (Value key)) (base : ∀ key, Value key)
    (key : Key) : patchAt patch base key key = (patch key).getD (base key) := by
  unfold patchAt
  cases patch key with
  | none => rfl
  | some value => exact Function.update_self key value base

theorem patchAt_of_ne (patch : ∀ key, Option (Value key)) (base : ∀ key, Value key)
    {here key : Key} (other : key ≠ here) : patchAt patch base here key = base key := by
  unfold patchAt
  cases patch here with
  | none => rfl
  | some value => exact Function.update_of_ne other value base

theorem foldl_patchAt (patch : ∀ key, Option (Value key)) (base : ∀ key, Value key)
    (keys : List Key) :
    keys.foldl (patchAt patch) base = overlay (patchOn keys patch) base := by
  induction keys generalizing base with
  | nil => rfl
  | cons here keys ih =>
      rw [List.foldl_cons, ih]
      funext key
      simp only [overlay, patchOn, List.mem_cons]
      by_cases same : key = here
      · subst same
        rw [patchAt_self, if_pos (Or.inl rfl : key = key ∨ key ∈ keys)]
        -- a key that comes again finds the patched value, and patches it the same way
        by_cases again : key ∈ keys
        · rw [if_pos again]
          cases patch key <;> rfl
        · rw [if_neg again]
          rfl
      · rw [patchAt_of_ne patch base same]
        simp only [same, false_or]

end AresCommon.Foundation
