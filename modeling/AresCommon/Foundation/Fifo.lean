import Mathlib.Data.List.Nodup

/-!
# First-in first-out delivery with deletion

The ledger of a queue whose waiting items may be withdrawn: what was accepted,
what was withdrawn, what was delivered and what still waits. The balance
between the four lists is a field, so that a ledger in which an accepted item
is lost, duplicated or reordered cannot be built.
-/

namespace AresCommon.Foundation

set_option autoImplicit false

structure Fifo (Item : Type*) [DecidableEq Item] where
  accepted : List Item
  removed : List Item
  delivered : List Item
  waiting : List Item
  distinct : accepted.Nodup
  removed_accepted : ∀ item ∈ removed, item ∈ accepted
  balance : delivered ++ waiting = accepted.filter (fun item => item ∉ removed)

namespace Fifo

variable {Item : Type*} [DecidableEq Item]

def empty : Fifo Item where
  accepted := []
  removed := []
  delivered := []
  waiting := []
  distinct := List.nodup_nil
  removed_accepted := by simp
  balance := rfl

/-- Delivered and waiting items together have no repetition: no item is
delivered twice, and none is delivered while it still waits. -/
theorem delivered_waiting_nodup (ledger : Fifo Item) :
    (ledger.delivered ++ ledger.waiting).Nodup := by
  rw [ledger.balance]
  exact ledger.distinct.filter _

/-- What is delivered or waits is what was accepted and not withdrawn. -/
theorem survives (ledger : Fifo Item) (item : Item) :
    item ∈ ledger.delivered ∨ item ∈ ledger.waiting ↔
      item ∈ ledger.accepted ∧ item ∉ ledger.removed := by
  rw [← List.mem_append, ledger.balance, List.mem_filter, decide_eq_true_eq]

theorem accepted_of_waiting (ledger : Fifo Item) {item : Item}
    (member : item ∈ ledger.waiting) : item ∈ ledger.accepted :=
  ((ledger.survives item).mp (.inr member)).1

theorem undelivered_of_waiting (ledger : Fifo Item) {item : Item}
    (member : item ∈ ledger.waiting) : item ∉ ledger.delivered := fun delivered =>
  (List.nodup_append.mp ledger.delivered_waiting_nodup).2.2 item delivered item member rfl

def accept (ledger : Fifo Item) (item : Item) (fresh : item ∉ ledger.accepted) :
    Fifo Item where
  accepted := ledger.accepted ++ [item]
  removed := ledger.removed
  delivered := ledger.delivered
  waiting := ledger.waiting ++ [item]
  distinct := by
    rw [List.nodup_append]
    refine ⟨ledger.distinct, List.nodup_singleton _, ?_⟩
    intro old oldMember new newMember same
    rw [List.mem_singleton] at newMember
    exact fresh (newMember ▸ same ▸ oldMember)
  removed_accepted := fun old member =>
    List.mem_append_left _ (ledger.removed_accepted old member)
  balance := by
    have present : item ∉ ledger.removed := fun member =>
      fresh (ledger.removed_accepted item member)
    rw [List.filter_append, ← ledger.balance, List.append_assoc]
    simp [present]

def remove (ledger : Fifo Item) (item : Item) (member : item ∈ ledger.waiting) :
    Fifo Item where
  accepted := ledger.accepted
  removed := ledger.removed ++ [item]
  delivered := ledger.delivered
  waiting := ledger.waiting.erase item
  distinct := ledger.distinct
  removed_accepted := by
    intro old oldMember
    rcases List.mem_append.mp oldMember with earlier | now
    · exact ledger.removed_accepted old earlier
    · rw [List.mem_singleton.mp now]
      exact ledger.accepted_of_waiting member
  balance := by
    have distinct := ledger.delivered_waiting_nodup
    have undelivered := ledger.undelivered_of_waiting member
    have erased : ledger.delivered ++ ledger.waiting.erase item =
        (ledger.delivered ++ ledger.waiting).erase item :=
      (List.erase_append_right _ undelivered).symm
    rw [erased, distinct.erase_eq_filter, ledger.balance, List.filter_filter]
    apply List.filter_congr
    intro old _
    by_cases same : old = item <;> simp [same]

def deliver (ledger : Fifo Item) (item : Item) (rest : List Item)
    (head : ledger.waiting = item :: rest) : Fifo Item where
  accepted := ledger.accepted
  removed := ledger.removed
  delivered := ledger.delivered ++ [item]
  waiting := rest
  distinct := ledger.distinct
  removed_accepted := ledger.removed_accepted
  balance := by
    rw [← ledger.balance, head, List.append_assoc]
    rfl

def clear (ledger : Fifo Item) : Fifo Item where
  accepted := ledger.accepted
  removed := ledger.removed ++ ledger.waiting
  delivered := ledger.delivered
  waiting := []
  distinct := ledger.distinct
  removed_accepted := by
    intro old member
    rcases List.mem_append.mp member with earlier | now
    · exact ledger.removed_accepted old earlier
    · exact ledger.accepted_of_waiting now
  balance := by
    have split := congrArg (List.filter (fun item => item ∉ ledger.waiting)) ledger.balance
    rw [List.filter_append, List.filter_filter] at split
    have kept : ledger.delivered.filter (fun item => item ∉ ledger.waiting) = ledger.delivered :=
      List.filter_eq_self.mpr fun item delivered => decide_eq_true fun waiting =>
        ledger.undelivered_of_waiting waiting delivered
    have gone : ledger.waiting.filter (fun item => item ∉ ledger.waiting) = [] :=
      List.filter_eq_nil_iff.mpr fun item waiting => by simpa using waiting
    rw [kept, gone] at split
    rw [split]
    apply List.filter_congr
    intro item _
    simp [Bool.and_comm]

theorem accepted_of_delivered (ledger : Fifo Item) {item : Item}
    (member : item ∈ ledger.delivered) : item ∈ ledger.accepted :=
  ((ledger.survives item).mp (.inl member)).1

end Fifo

end AresCommon.Foundation
