import Mathlib.Data.List.Basic

/-!
# Condition variables

The threads that have to do with a condition variable: those asleep on it, those that
were woken by a notification, and those that woke up otherwise, by a time-out or for no
reason. A woken thread still has to resume, that is to get the lock back and to look at
its predicate again.

A resource of which `available` units wait for somebody to take them is covered when
sleepers only exist while there is a notified thread for every unit.
-/

namespace AresCommon.Foundation

set_option autoImplicit false

structure WaitSet (Thread : Type) where
  asleep : List Thread
  notified : List Thread
  roused : List Thread

namespace WaitSet

variable {Thread : Type}

def empty : WaitSet Thread := ⟨[], [], []⟩

def wait (w : WaitSet Thread) (thread : Thread) : WaitSet Thread :=
  { w with asleep := w.asleep ++ [thread] }

/-- Sleepers exist only while a notified thread is on its way to every unit. -/
def Covered (available : Nat) (w : WaitSet Thread) : Prop :=
  w.asleep ≠ [] → available ≤ w.notified.length

variable [DecidableEq Thread]

def notifyOne (w : WaitSet Thread) (chosen : Option Thread) : Option (WaitSet Thread) :=
  match chosen with
  | none => if w.asleep = [] then some w else none
  | some thread =>
      if thread ∈ w.asleep then
        some { w with asleep := w.asleep.erase thread, notified := thread :: w.notified }
      else none

def rouse (w : WaitSet Thread) (thread : Thread) : Option (WaitSet Thread) :=
  if thread ∈ w.asleep then
    some { w with asleep := w.asleep.erase thread, roused := thread :: w.roused }
  else none

def resume (w : WaitSet Thread) (thread : Thread) : Option (WaitSet Thread) :=
  if thread ∈ w.notified then some { w with notified := w.notified.erase thread }
  else if thread ∈ w.roused then some { w with roused := w.roused.erase thread }
  else none

variable {w w' : WaitSet Thread} {available : Nat} {thread : Thread}

omit [DecidableEq Thread] in
theorem covered_empty (available : Nat) : Covered available (empty : WaitSet Thread) :=
  fun sleepers => absurd rfl sleepers

omit [DecidableEq Thread] in
theorem covered_zero (w : WaitSet Thread) : Covered 0 w := fun _ => Nat.zero_le _

omit [DecidableEq Thread] in
theorem Covered.fewer {fewer : Nat} (covered : Covered available w) (less : fewer ≤ available) :
    Covered fewer w :=
  fun sleepers => Nat.le_trans less (covered sleepers)

omit [DecidableEq Thread] in
/-- Without a notified thread there is no unit that a sleeper could take. -/
theorem Covered.exhausted (covered : Covered available w) (silent : w.notified = [])
    (sleepers : w.asleep ≠ []) : available = 0 := by
  have bound := covered sleepers
  rw [silent] at bound
  exact Nat.le_zero.mp bound

theorem Covered.notify_one {chosen : Option Thread} (covered : Covered available w)
    (notified : w.notifyOne chosen = some w') : Covered (available + 1) w' := by
  unfold notifyOne at notified
  cases chosen with
  | none =>
      simp only at notified
      split at notified
      · rename_i nobody
        cases notified
        exact fun sleepers => absurd nobody sleepers
      · cases notified
  | some thread =>
      simp only at notified
      split at notified
      · rename_i member
        cases notified
        intro _
        have bound := covered (List.ne_nil_of_mem member)
        simpa using bound
      · cases notified

theorem Covered.rouse (covered : Covered available w) (roused : w.rouse thread = some w') :
    Covered available w' := by
  unfold WaitSet.rouse at roused
  split at roused
  · rename_i member
    cases roused
    exact fun _ => covered (List.ne_nil_of_mem member)
  · cases roused

theorem Covered.resume (covered : Covered available w) (resumed : w.resume thread = some w') :
    Covered (available - 1) w' := by
  unfold WaitSet.resume at resumed
  split at resumed
  · rename_i member
    cases resumed
    intro sleepers
    have bound := covered sleepers
    rw [List.length_erase_of_mem member]
    exact Nat.sub_le_sub_right bound 1
  · split at resumed
    · cases resumed
      intro sleepers
      exact Nat.le_trans (Nat.sub_le _ _) (covered sleepers)
    · cases resumed

/-! ## The threads of a condition variable -/

def threads (w : WaitSet Thread) : List Thread := w.asleep ++ (w.notified ++ w.roused)

omit [DecidableEq Thread] in
theorem threads_wait (w : WaitSet Thread) (thread : Thread) :
    (w.wait thread).threads.Perm (thread :: w.threads) := by
  unfold threads wait
  rw [List.append_assoc]
  exact List.perm_middle

theorem threads_notify_one {chosen : Option Thread} (notified : w.notifyOne chosen = some w') :
    w'.threads.Perm w.threads := by
  unfold notifyOne at notified
  cases chosen with
  | none =>
      simp only at notified
      split at notified <;> cases notified
      exact .refl _
  | some thread =>
      simp only at notified
      split at notified <;> cases notified
      rename_i member
      exact List.perm_middle.trans ((List.perm_cons_erase member).symm.append_right _)

theorem threads_rouse (roused : w.rouse thread = some w') : w'.threads.Perm w.threads := by
  unfold WaitSet.rouse at roused
  split at roused <;> cases roused
  rename_i member
  have moved : (w.notified ++ thread :: w.roused).Perm (thread :: (w.notified ++ w.roused)) :=
    List.perm_middle
  have behind := (moved.append_left (w.asleep.erase thread)).trans List.perm_middle
  exact behind.trans ((List.perm_cons_erase member).symm.append_right _)

theorem threads_resume (resumed : w.resume thread = some w') :
    w.threads.Perm (thread :: w'.threads) := by
  unfold WaitSet.resume at resumed
  split at resumed
  · rename_i member
    cases resumed
    have off := (List.perm_cons_erase member).append_right w.roused
    exact (off.append_left w.asleep).trans List.perm_middle
  · split at resumed <;> cases resumed
    rename_i member
    have off := (List.perm_cons_erase member).append_left w.notified
    have first := off.trans List.perm_middle
    exact (first.append_left w.asleep).trans List.perm_middle

theorem resume_of_woken (known : thread ∈ w.threads) (woken : thread ∉ w.asleep) :
    ∃ w', w.resume thread = some w' := by
  have back := (List.mem_append.mp known).resolve_left woken
  unfold WaitSet.resume
  by_cases notified : thread ∈ w.notified
  · rw [if_pos notified]
    exact ⟨_, rfl⟩
  · rw [if_neg notified, if_pos ((List.mem_append.mp back).resolve_left notified)]
    exact ⟨_, rfl⟩

end WaitSet

end AresCommon.Foundation
