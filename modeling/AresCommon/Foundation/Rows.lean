import Mathlib.Algebra.Order.Ring.Int
import Mathlib.Data.List.Basic

/-!
# Rows of a list

A list is cut into rows of one width, of which only the last may be shorter. The rows are
numbered, they give the list back, and a list of lines that do not hold the separator is
read back from its text.
-/

namespace AresCommon.Foundation

set_option autoImplicit false

variable {α : Type}

/-- The rows of `width` elements; a width of zero makes none. -/
def rows (width : Nat) (data : List α) : List (List α) :=
  if data = [] ∨ width = 0 then []
  else data.take width :: rows width (data.drop width)
termination_by data.length
decreasing_by
  have present : 0 < data.length := by
    rw [List.length_pos_iff]
    tauto
  rw [List.length_drop]
  omega

section Rows

variable {width : Nat}

@[simp]
theorem rows_nil : rows width ([] : List α) = [] := by
  rw [rows, if_pos (.inl rfl)]

theorem rows_cons {data : List α} (positive : 0 < width) (present : data ≠ []) :
    rows width data = data.take width :: rows width (data.drop width) := by
  rw [rows, if_neg (by simp [present, positive.ne'])]

theorem rows_induction {P : List α → Prop} (positive : 0 < width) (none : P [])
    (more : ∀ data, data ≠ [] → P (data.drop width) → P data) (data : List α) : P data := by
  induction size : data.length using Nat.strong_induction_on generalizing data with
  | _ n ih =>
      by_cases present : data = []
      · rw [present]
        exact none
      · have longer := List.length_pos_iff.mpr present
        apply more data present
        exact ih _ (by rw [List.length_drop]; omega) _ rfl

theorem rows_eq_nil_iff {data : List α} (positive : 0 < width) :
    rows width data = [] ↔ data = [] := by
  constructor
  · intro empty
    by_contra present
    simp [rows_cons positive present] at empty
  · intro empty
    simp [empty]

theorem flatten_rows (positive : 0 < width) (data : List α) :
    (rows width data).flatten = data := by
  induction data using rows_induction positive with
  | none => simp
  | more data present ih =>
      rw [rows_cons positive present, List.flatten_cons, ih, List.take_append_drop]

theorem length_rows (positive : 0 < width) (data : List α) :
    (rows width data).length = (data.length + (width - 1)) / width := by
  induction data using rows_induction positive with
  | none =>
      rw [rows_nil, Nat.div_eq_of_lt (by rw [List.length_nil]; omega), List.length_nil]
  | more data present ih =>
      have longer := List.length_pos_iff.mpr present
      rw [rows_cons positive present, List.length_cons, ih, List.length_drop,
        ← Nat.add_div_right _ positive]
      by_cases full : width ≤ data.length
      · congr 1
        omega
      · rw [Nat.div_eq_of_lt_le (k := 1) (by omega) (by omega),
          Nat.div_eq_of_lt_le (k := 1) (by omega) (by omega)]

theorem getElem?_rows (positive : 0 < width) (data : List α) (k : Nat) :
    (rows width data)[k]? =
      if width * k < data.length then some ((data.drop (width * k)).take width) else none := by
  induction k generalizing data with
  | zero =>
      by_cases present : data = []
      · simp [present]
      · have longer := List.length_pos_iff.mpr present
        simp [rows_cons positive present, longer]
  | succ k ih =>
      by_cases present : data = []
      · simp [present]
      · rw [rows_cons positive present, List.getElem?_cons_succ, ih, List.drop_drop,
          List.length_drop, Nat.mul_succ, Nat.add_comm width]
        congr 1
        apply propext
        omega

theorem length_le_of_mem_rows {data row : List α} (positive : 0 < width)
    (member : row ∈ rows width data) : row.length ≤ width := by
  obtain ⟨k, found⟩ := List.mem_iff_getElem?.mp member
  rw [getElem?_rows positive, Option.ite_none_right_eq_some] at found
  rw [← Option.some.inj found.2]
  exact List.length_take_le _ _

end Rows

/-! ## Pieces laid out one after another -/

section Pieces

variable {β : Type} {piece : ℕ → List α} {n i : ℕ}

theorem drop_flatMap_range (inside : i < n) :
    ∃ rest, ((List.range n).flatMap piece).drop ((List.range i).flatMap piece).length =
      piece i ++ rest := by
  obtain ⟨more, rfl⟩ := Nat.exists_eq_add_of_lt inside
  rw [Nat.add_assoc, List.range_add, List.flatMap_append, List.drop_left,
    List.range_succ_eq_map]
  exact ⟨_, rfl⟩

theorem flatMap_range_getElem? (image : α → β) (data : List α) (n : ℕ) :
    (List.range n).flatMap (fun i => (data[i]?.map image).toList) = (data.take n).map image := by
  induction n with
  | zero => simp
  | succ n ih =>
      rw [List.range_succ, List.flatMap_append, ih, List.take_add_one, List.map_append,
        List.flatMap_singleton]
      cases data[n]? <;> rfl

theorem filterMap_range_getElem? (data : List α) (n : ℕ) :
    (List.range n).filterMap (fun i => data[i]?) = data.take n := by
  induction n with
  | zero => simp
  | succ n ih =>
      rw [List.range_succ, List.filterMap_append, ih, List.take_add_one]
      cases found : data[n]? <;> simp [found]

end Pieces

/-! ## Lines -/

section Lines

variable {separator : α} {lines : List (List α)}

theorem intercalate_ends (clean : ∀ line ∈ lines, separator ∉ line)
    (filled : ∀ line ∈ lines, line ≠ []) (present : lines ≠ []) :
    ∃ final, (List.intercalate [separator] lines).getLast? = some final ∧
      final ≠ separator := by
  induction lines with
  | nil => exact absurd rfl present
  | cons line rest ih =>
      by_cases single : rest = []
      · subst single
        have ended := List.getLast?_eq_some_getLast (filled line (by simp))
        refine ⟨_, by simpa using ended, ?_⟩
        intro same
        apply clean line (by simp)
        rw [← same]
        exact List.getLast_mem _
      · have later := ih (fun l member => clean l (by simp [member]))
          (fun l member => filled l (by simp [member])) single
        obtain ⟨final, ends, other⟩ := later
        refine ⟨final, ?_, other⟩
        rw [List.intercalate_cons_of_ne_nil single, List.getLast?_append, ends]
        rfl

theorem getLast?_intercalate_ne (clean : ∀ line ∈ lines, separator ∉ line)
    (filled : ∀ line ∈ lines, line ≠ []) :
    (List.intercalate [separator] lines).getLast? ≠ some separator := by
  by_cases present : lines = []
  · simp [present]
  · obtain ⟨final, ends, other⟩ := intercalate_ends clean filled present
    simpa [ends] using other

end Lines

end AresCommon.Foundation
