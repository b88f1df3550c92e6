import Mathlib.Data.List.Basic
import Mathlib.Data.List.Range
import Mathlib.Data.Nat.ModEq

/-!
# The bounded queue

`bounded_queue<Type, max_size, overwrite>` keeps its elements in a ring. Each
operation below is one critical section under the queue's own mutex: `put`
after its wait for space, `get` after its wait for an element. The contents
read from the consumer index are the queue's meaning; a store into a full
overwriting queue drops the oldest element.
-/

namespace AresCommon.DataStructures

set_option autoImplicit false

inductive QueueExceptionReason where
  | queueEmpty
  | queueFull
  | queueTimeout
  deriving DecidableEq, Repr

/-- The cells of the ring are those below `maxSize`; a fresh queue leaves them
uninitialised. -/
structure BoundedQueue (Item : Type) (maxSize : Nat) (overwrite : Bool) where
  buffer : Nat → Item
  producerIndex : Nat
  consumerIndex : Nat
  size : Nat

namespace BoundedQueue

variable {Item : Type} {maxSize : Nat} {overwrite : Bool}

def uninitialised (buffer : Nat → Item) : BoundedQueue Item maxSize overwrite where
  buffer := buffer
  producerIndex := 0
  consumerIndex := 0
  size := 0

/-- The end of `put`, once the wait for space is over. -/
def store (queue : BoundedQueue Item maxSize overwrite) (item : Item) :
    BoundedQueue Item maxSize overwrite :=
  let stored : BoundedQueue Item maxSize overwrite :=
    { queue with
      buffer := Function.update queue.buffer queue.producerIndex item
      producerIndex := (queue.producerIndex + 1) % maxSize
      size := queue.size + 1 }
  if stored.size > maxSize then
    { stored with
      size := maxSize
      consumerIndex :=
        if overwrite then (stored.consumerIndex + 1) % maxSize else stored.consumerIndex }
  else stored

/-- The end of the blocking `put`, which does not look at the size again. -/
def append (queue : BoundedQueue Item maxSize overwrite) (item : Item) :
    BoundedQueue Item maxSize overwrite :=
  { queue with
    buffer := Function.update queue.buffer queue.producerIndex item
    producerIndex := (queue.producerIndex + 1) % maxSize
    size := queue.size + 1 }

/-- `put` with a zero timeout. -/
def putNonblocking (queue : BoundedQueue Item maxSize overwrite) (item : Item) :
    Except QueueExceptionReason (BoundedQueue Item maxSize overwrite) :=
  if queue.size = maxSize ∧ overwrite = false then .error .queueFull
  else .ok (queue.store item)

/-- `get` without a timeout; `none` while the caller has to wait. -/
def get (queue : BoundedQueue Item maxSize overwrite) :
    Option (Item × BoundedQueue Item maxSize overwrite) :=
  if queue.size = 0 then none
  else some (queue.buffer queue.consumerIndex,
    { queue with
      consumerIndex := (queue.consumerIndex + 1) % maxSize
      size := queue.size - 1 })

/-- The end of `get`, once the wait for an element is over. -/
def take (queue : BoundedQueue Item maxSize overwrite) :
    Item × BoundedQueue Item maxSize overwrite :=
  (queue.buffer queue.consumerIndex,
    { queue with
      consumerIndex := (queue.consumerIndex + 1) % maxSize
      size := queue.size - 1 })

def clear (queue : BoundedQueue Item maxSize overwrite) :
    BoundedQueue Item maxSize overwrite :=
  { queue with size := 0, producerIndex := 0, consumerIndex := 0 }

structure WellFormed (queue : BoundedQueue Item maxSize overwrite) : Prop where
  producer : queue.producerIndex < maxSize
  consumer : queue.consumerIndex < maxSize
  bounded : queue.size ≤ maxSize
  ring : (queue.consumerIndex + queue.size) % maxSize = queue.producerIndex

def contents (queue : BoundedQueue Item maxSize overwrite) : List Item :=
  (List.range queue.size).map fun offset =>
    queue.buffer ((queue.consumerIndex + offset) % maxSize)

@[simp]
theorem contents_length (queue : BoundedQueue Item maxSize overwrite) :
    queue.contents.length = queue.size := by
  simp [contents]

theorem uninitialised_wellFormed (positive : 0 < maxSize) (buffer : Nat → Item) :
    (uninitialised buffer : BoundedQueue Item maxSize overwrite).WellFormed :=
  ⟨positive, positive, Nat.zero_le _, Nat.zero_mod _⟩

@[simp]
theorem uninitialised_contents (buffer : Nat → Item) :
    (uninitialised buffer : BoundedQueue Item maxSize overwrite).contents = [] := rfl

theorem clear_wellFormed (positive : 0 < maxSize)
    (queue : BoundedQueue Item maxSize overwrite) : queue.clear.WellFormed :=
  ⟨positive, positive, Nat.zero_le _, Nat.zero_mod _⟩

@[simp]
theorem clear_contents (queue : BoundedQueue Item maxSize overwrite) :
    queue.clear.contents = [] := rfl

theorem ring_index_inj {base left right : Nat} (leftBound : left < maxSize)
    (rightBound : right < maxSize)
    (same : (base + left) % maxSize = (base + right) % maxSize) : left = right := by
  have congruent : left ≡ right [MOD maxSize] := Nat.ModEq.add_left_cancel' base same
  exact Nat.ModEq.eq_of_lt_of_lt congruent leftBound rightBound

theorem store_of_space {queue : BoundedQueue Item maxSize overwrite}
    (wf : queue.WellFormed) (space : queue.size < maxSize) (item : Item) :
    (queue.store item).WellFormed ∧
      (queue.store item).contents = queue.contents ++ [item] := by
  have notOver : ¬queue.size + 1 > maxSize := by omega
  have positive : 0 < maxSize := by omega
  simp only [store, if_neg notOver]
  constructor
  · refine ⟨Nat.mod_lt _ positive, wf.consumer, space, ?_⟩
    simp only [← wf.ring, Nat.mod_add_mod, Nat.add_assoc]
  · simp only [contents, List.range_succ, List.map_append, List.map_cons, List.map_nil]
    congr 1
    · apply List.map_congr_left
      intro offset member
      have below : offset < queue.size := List.mem_range.mp member
      apply Function.update_of_ne
      intro same
      rw [← wf.ring] at same
      have := ring_index_inj (by omega) space same
      omega
    · rw [wf.ring, Function.update_self]

theorem store_of_full {queue : BoundedQueue Item maxSize overwrite}
    (wf : queue.WellFormed) (full : queue.size = maxSize) (overwrites : overwrite = true)
    (item : Item) :
    (queue.store item).WellFormed ∧
      (queue.store item).contents = queue.contents.tail ++ [item] := by
  have exceeded : queue.size + 1 > maxSize := by omega
  have positive : 0 < maxSize := Nat.lt_of_le_of_lt (Nat.zero_le _) wf.consumer
  obtain ⟨rest, capacity⟩ := Nat.exists_eq_succ_of_ne_zero (Nat.pos_iff_ne_zero.mp positive)
  have wrapped : queue.producerIndex = queue.consumerIndex := by
    rw [← wf.ring, full, Nat.add_mod_right, Nat.mod_eq_of_lt wf.consumer]
  simp only [store, if_pos exceeded, overwrites, if_true]
  constructor
  · refine ⟨Nat.mod_lt _ positive, Nat.mod_lt _ positive, Nat.le_refl _, ?_⟩
    simp only [wrapped, Nat.add_mod_right, Nat.mod_mod]
  · have shifted : queue.contents.tail = (List.range rest).map fun offset =>
        queue.buffer ((queue.consumerIndex + (offset + 1)) % maxSize) := by
      simp only [contents, full, capacity, Nat.succ_eq_add_one, List.range_succ_eq_map,
        List.map_cons, List.tail_cons, List.map_map]
      rfl
    rw [shifted]
    have cells : List.range maxSize = List.range rest ++ [rest] := by
      rw [capacity, Nat.succ_eq_add_one, List.range_succ]
    simp only [contents]
    rw [cells, List.map_append]
    congr 1
    · apply List.map_congr_left
      intro offset member
      have below : offset < rest := List.mem_range.mp member
      have cell : ((queue.consumerIndex + 1) % maxSize + offset) % maxSize =
          (queue.consumerIndex + (offset + 1)) % maxSize := by
        rw [Nat.mod_add_mod, Nat.add_assoc, Nat.add_comm 1 offset]
      rw [cell]
      apply Function.update_of_ne
      rw [wrapped]
      intro same
      have origin : queue.consumerIndex = (queue.consumerIndex + 0) % maxSize := by
        rw [Nat.add_zero, Nat.mod_eq_of_lt wf.consumer]
      rw [origin, Nat.mod_add_mod] at same
      have := ring_index_inj (by omega) positive same
      omega
    · have cell : ((queue.consumerIndex + 1) % maxSize + rest) % maxSize =
          queue.consumerIndex := by
        rw [Nat.mod_add_mod, Nat.add_assoc, Nat.add_comm 1 rest, ← Nat.succ_eq_add_one,
          ← capacity, Nat.add_mod_right, Nat.mod_eq_of_lt wf.consumer]
      simp only [List.map_cons, List.map_nil]
      rw [cell, wrapped, Function.update_self]

theorem append_eq_store {queue : BoundedQueue Item maxSize overwrite}
    (space : queue.size < maxSize) (item : Item) : queue.append item = queue.store item := by
  have notOver : ¬queue.size + 1 > maxSize := by omega
  simp only [append, store, if_neg notOver]

theorem store_size {queue : BoundedQueue Item maxSize overwrite} (bounded : queue.size ≤ maxSize)
    (item : Item) : (queue.store item).size = min (queue.size + 1) maxSize := by
  by_cases exceeded : queue.size + 1 > maxSize
  · simp only [store, if_pos exceeded]
    omega
  · simp only [store, if_neg exceeded]
    omega

theorem get_of_nonempty {queue : BoundedQueue Item maxSize overwrite}
    (nonempty : queue.size ≠ 0) : queue.get = some queue.take := by
  simp only [get, take, if_neg nonempty]

theorem get_none_iff (queue : BoundedQueue Item maxSize overwrite) :
    queue.get = none ↔ queue.size = 0 := by
  unfold get
  split <;> simp_all

theorem get_some {queue rest : BoundedQueue Item maxSize overwrite} {item : Item}
    (wf : queue.WellFormed) (taken : queue.get = some (item, rest)) :
    rest.WellFormed ∧ queue.contents = item :: rest.contents := by
  unfold get at taken
  split at taken
  · simp at taken
  · rename_i nonempty
    obtain ⟨remaining, count⟩ := Nat.exists_eq_succ_of_ne_zero nonempty
    have positive : 0 < maxSize := Nat.lt_of_le_of_lt (Nat.zero_le _) wf.consumer
    simp only [Option.some.injEq, Prod.mk.injEq] at taken
    obtain ⟨rfl, rfl⟩ := taken
    constructor
    · refine ⟨wf.producer, Nat.mod_lt _ positive,
        (Nat.sub_le _ _).trans wf.bounded, ?_⟩
      rw [Nat.mod_add_mod, Nat.add_assoc, Nat.add_sub_cancel' (by omega)]
      exact wf.ring
    · simp only [contents, count, Nat.succ_eq_add_one, List.range_succ_eq_map, List.map_cons,
        List.map_map, Nat.add_zero, Nat.mod_eq_of_lt wf.consumer, Nat.add_sub_cancel]
      congr 1
      apply List.map_congr_left
      intro offset _
      simp only [Function.comp, Nat.succ_eq_add_one, Nat.mod_add_mod]
      rw [Nat.add_assoc, Nat.add_comm 1 offset]

theorem put_nonblocking_error_iff (queue : BoundedQueue Item maxSize overwrite) (item : Item)
    (reason : QueueExceptionReason) :
    queue.putNonblocking item = .error reason ↔
      (queue.size = maxSize ∧ overwrite = false) ∧ reason = .queueFull := by
  unfold putNonblocking
  split <;> simp_all [eq_comm]

/-- A put into an overwriting queue never throws. -/
theorem put_nonblocking_overwrite (queue : BoundedQueue Item maxSize true) (item : Item) :
    queue.putNonblocking item = .ok (queue.store item) := by
  simp [putNonblocking]

/-- An overwriting queue with one cell is a single token: a put leaves just the
new element. -/
theorem store_token {queue : BoundedQueue Item 1 true} (wf : queue.WellFormed)
    (item : Item) :
    (queue.store item).WellFormed ∧ (queue.store item).contents = [item] := by
  by_cases empty : queue.size = 0
  · have nothing : queue.contents = [] := by
      rw [← List.length_eq_zero_iff, contents_length, empty]
    have stored := store_of_space wf (by omega) item
    rwa [nothing] at stored
  · have full : queue.size = 1 := by
      have := wf.bounded
      omega
    have stored := store_of_full wf full rfl item
    have single : queue.contents.tail = [] := by
      rw [← List.length_eq_zero_iff, List.length_tail, contents_length, full]
    rwa [single] at stored

end BoundedQueue

end AresCommon.DataStructures
