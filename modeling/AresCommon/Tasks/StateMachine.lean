import AresCommon.Tasks.Task

/-!
# The state machine of a task

State, thread, packaged task and future change at different points of `start`, `run`,
`_join` and `get`. `Linked` says which combinations there are, one constructor for every
point at which an action of another thread can come between.
-/

namespace AresCommon.Tasks

open AresCommon.Foundation.Transition
open AresCommon.WorkQueue (eBusy)

set_option autoImplicit false

variable {Args Value Thrown : Type}

/-- What a run has shown: the execution that completed last with its outcome, and the
executions whose results were delivered. -/
structure History (Value Thrown : Type) where
  latest : Option (Nat × Outcome Value Thrown)
  deliveries : List Nat

def History.observe (h : History Value Thrown) :
    Action Args Value Thrown × Reply Value Thrown → History Value Thrown
  | (.complete execution outcome, .void) => { h with latest := some (execution, outcome) }
  | (.get, .stored _) =>
      { h with deliveries := h.deliveries ++ (h.latest.map Prod.fst).toList }
  | _ => h

def history (trace : List (Action Args Value Thrown × Reply Value Thrown)) :
    History Value Thrown :=
  trace.foldl History.observe { latest := none, deliveries := [] }

def Action.refusedWhileRunning :
    Action Args Value Thrown → Option (Reply Value Thrown)
  | .start _ | .run _ => some
      (.raised { msg := "Cannot run/start a task that is already in the `run` state." })
  | .get => some (.raised { msg := "Join task before getting the result" })
  | .setName _ | .setEssential _ => some (.int (-eBusy))
  | _ => none

namespace Task

/-! ## The small operations -/

section Fields

variable (t : Task Args Value Thrown) (execution : Nat) (result : Stored Value Thrown)

@[simp] theorem store_thread : (t.store execution result).thread = t.thread := rfl
@[simp] theorem store_underway : (t.store execution result).underway = t.underway := rfl
@[simp] theorem store_calls : (t.store execution result).calls = t.calls := rfl

@[simp] theorem store_length :
    (t.store execution result).shared.length = t.shared.length := by
  simp [store]

theorem store_entry {args : Args}
    (entry : t.shared[execution]? = some { boundArgs := args, stored := none }) :
    (t.store execution result).shared[execution]? =
      some { boundArgs := args, stored := some result } := by
  simp [store, entry]

theorem abandon_frame :
    t.abandon.thread = t.thread ∧ t.abandon.underway = t.underway ∧
      t.abandon.calls = t.calls ∧ t.abandon.shared.length = t.shared.length := by
  unfold abandon
  split <;> simp

end Fields

/-! ## The invariant -/

variable {t t' : Task Args Value Thrown} {execution : Nat}

structure Quiet (t : Task Args Value Thrown) : Prop where
  thread : t.thread = none
  underway : t.underway = []
  calls : t.calls = []

/-- An execution has a home: the thread of the task or a call of `run`. -/
def Hosted (t : Task Args Value Thrown) (execution : Nat) : Prop :=
  (t.thread = some execution ∧ t.calls = []) ∨
    (t.thread = none ∧ t.calls = [.run execution])

structure Awaits (t : Task Args Value Thrown) (execution : Nat) : Prop where
  future : t.future = some execution
  entry : ∃ args, t.shared[execution]? = some { boundArgs := args, stored := none }

structure Keeps (t : Task Args Value Thrown) (execution : Nat)
    (outcome : Outcome Value Thrown) : Prop where
  future : t.future = some execution
  entry : ∃ args, t.shared[execution]? =
      some { boundArgs := args, stored := some (.outcome outcome) } ∧ t.handler args outcome

inductive Linked (latest : Option (Nat × Outcome Value Thrown))
    (t : Task Args Value Thrown) : Prop where
  | ready (state : t.state = .ready) (quiet : t.Quiet) (future : t.future = none)
  | joined (execution : Nat) (outcome : Outcome Value Thrown) (state : t.state = .joined)
      (quiet : t.Quiet) (keeps : t.Keeps execution outcome)
      (last : latest = some (execution, outcome))
  | starting (execution : Nat) (state : t.state = .running) (thread : t.thread = none)
      (underway : t.underway = []) (calls : t.calls = [.start])
      (task : t.task = some execution) (awaits : t.Awaits execution)
  | executing (execution : Nat) (state : t.state = .running) (hosted : t.Hosted execution)
      (underway : t.underway = [execution]) (awaits : t.Awaits execution)
  | completed (execution : Nat) (outcome : Outcome Value Thrown) (state : t.state = .running)
      (hosted : t.Hosted execution) (underway : t.underway = [])
      (keeps : t.Keeps execution outcome) (last : latest = some (execution, outcome))
  | joining (execution : Nat) (outcome : Outcome Value Thrown) (state : t.state = .running)
      (thread : t.thread = none) (underway : t.underway = []) (calls : t.calls = [.join])
      (keeps : t.Keeps execution outcome) (last : latest = some (execution, outcome))

structure Consistent (h : History Value Thrown) (t : Task Args Value Thrown) : Prop where
  linked : t.Linked h.latest
  made : ∀ execution ∈ h.deliveries, execution < t.shared.length
  unread : ∀ execution, t.future = some execution → execution ∉ h.deliveries
  once : h.deliveries.Nodup

variable {h : History Value Thrown}

theorem Linked.quiet (linked : t.Linked h.latest) (idle : t.state ≠ .running) : t.Quiet := by
  cases linked with
  | ready _ quiet | joined _ _ _ quiet => exact quiet
  | starting _ state | executing _ state | completed _ _ state | joining _ _ state =>
      exact absurd state idle

theorem Linked.running_of_thread (linked : t.Linked h.latest) (joinable : t.thread.isSome) :
    t.state = .running := by
  cases linked with
  | ready _ quiet | joined _ _ _ quiet => simp [quiet.thread] at joinable
  | starting _ state | executing _ state | completed _ _ state | joining _ _ state =>
      exact state

theorem Linked.of_joined (linked : t.Linked h.latest) (joined : t.state = .joined) :
    ∃ execution outcome, t.Keeps execution outcome ∧
      h.latest = some (execution, outcome) := by
  cases linked with
  | joined execution outcome _ _ keeps last => exact ⟨execution, outcome, keeps, last⟩
  | ready state | starting _ state | executing _ state | completed _ _ state
  | joining _ _ state => simp [state] at joined

theorem Keeps.stored {outcome : Outcome Value Thrown} (keeps : t.Keeps execution outcome) :
    t.stored execution = some (.outcome outcome) := by
  obtain ⟨args, entry, _⟩ := keeps.entry
  simp [Task.stored, entry]

/-- A step that leaves the shared states, the future and the readings alone needs only
its own place in the machine. -/
theorem Consistent.move (consistent : t.Consistent h) (linked : t'.Linked h.latest)
    (shared : t'.shared.length = t.shared.length) (future : t'.future = t.future) :
    t'.Consistent h where
  linked := linked
  made := shared ▸ consistent.made
  unread := future ▸ consistent.unread
  once := consistent.once

/-! ## What the steps keep -/

theorem initTask_running {args : Args} (running : t.state = .running) :
    t.initTask args =
      .error { msg := "Cannot run/start a task that is already in the `run` state." } :=
  if_pos running

theorem Consistent.initTask_cases (consistent : t.Consistent h) (args : Args) :
    (t.initTask args =
      .error { msg := "Cannot run/start a task that is already in the `run` state." }) ∨
    ∃ made, t.initTask args = .ok made ∧ made.state = .running ∧ made.thread = none ∧
      made.underway = [] ∧ made.calls = [] ∧ made.task = some t.shared.length ∧
      made.Awaits t.shared.length ∧ made.shared.length = t.shared.length + 1 := by
  by_cases idle : t.state = .running
  · exact .inl (initTask_running idle)
  · right
    have quiet := consistent.linked.quiet idle
    obtain ⟨thread, underway, calls, length⟩ := t.abandon_frame
    refine ⟨_, if_neg idle, rfl, ?_, ?_, ?_, ?_, ⟨?_, args, ?_⟩, ?_⟩
    · exact thread.trans quiet.thread
    · exact underway.trans quiet.underway
    · exact calls.trans quiet.calls
    · simp [length]
    · simp [length]
    · simp [← length]
    · simp [length]

theorem Consistent.fresh (consistent : t.Consistent h) {made : Task Args Value Thrown}
    (linked : made.Linked h.latest) (future : made.future = some t.shared.length)
    (length : made.shared.length = t.shared.length + 1) : made.Consistent h where
  linked := linked
  made execution member := by
    have earlier := consistent.made execution member
    omega
  unread execution same member := by
    have earlier := consistent.made execution member
    rw [future, Option.some_inj] at same
    omega
  once := consistent.once

theorem Consistent.start (consistent : t.Consistent h) {args : Args}
    {process : Process Args Value Thrown} {reply : Reply Value Thrown}
    (move : t.next (.start args) = some (process, reply)) :
    ∃ t', process = .alive t' ∧ t'.Consistent h := by
  rcases consistent.initTask_cases args with refused | made
  · simp only [next, refused, Option.some.injEq, Prod.mk.injEq] at move
    exact ⟨t, move.1.symm, consistent⟩
  · obtain ⟨made, ok, state, thread, underway, calls, task, awaits, length⟩ := made
    simp only [next, ok, Option.some.injEq, Prod.mk.injEq] at move
    obtain ⟨rfl, rfl⟩ := move
    refine ⟨_, rfl, consistent.fresh ?_ awaits.future length⟩
    refine .starting t.shared.length state thread underway ?_ task ?_
    · simp [calls]
    · exact ⟨awaits.future, awaits.entry⟩

theorem Consistent.spawn (consistent : t.Consistent h)
    {process : Process Args Value Thrown} {reply : Reply Value Thrown}
    (move : t.next .spawn = some (process, reply)) :
    ∃ t', process = .alive t' ∧ t'.Consistent h := by
  simp only [next, Option.ite_none_right_eq_some] at move
  obtain ⟨opened, move⟩ := move
  cases consistent.linked with
  | ready _ quiet | joined _ _ _ quiet => simp [quiet.calls] at opened
  | joining _ _ _ _ _ calls => simp [calls] at opened
  | executing _ _ hosted | completed _ _ _ hosted =>
      obtain ⟨_, calls⟩ | ⟨_, calls⟩ := hosted <;> simp [calls] at opened
  | starting execution state thread underway calls task awaits =>
      simp only [Task.spawn, thread, task, Option.some.injEq, Prod.mk.injEq] at move
      obtain ⟨rfl, rfl⟩ := move
      refine ⟨_, rfl, consistent.move ?_ rfl rfl⟩
      refine .executing execution state ?_ ?_ ?_
      · exact .inl ⟨rfl, by simp [calls]⟩
      · simp [underway]
      · exact ⟨awaits.future, awaits.entry⟩

theorem Consistent.run (consistent : t.Consistent h) {args : Args}
    {process : Process Args Value Thrown} {reply : Reply Value Thrown}
    (move : t.next (.run args) = some (process, reply)) :
    ∃ t', process = .alive t' ∧ t'.Consistent h := by
  rcases consistent.initTask_cases args with refused | made
  · simp only [next, refused, Option.some.injEq, Prod.mk.injEq] at move
    exact ⟨t, move.1.symm, consistent⟩
  · obtain ⟨made, ok, state, thread, underway, calls, _, awaits, length⟩ := made
    simp only [next, ok, Option.some.injEq, Prod.mk.injEq] at move
    obtain ⟨rfl, rfl⟩ := move
    refine ⟨_, rfl, consistent.fresh ?_ awaits.future length⟩
    refine .executing t.shared.length state ?_ ?_ ?_
    · exact .inr ⟨thread, by simp [calls]⟩
    · simp [underway]
    · exact ⟨awaits.future, awaits.entry⟩

theorem Consistent.finishRun (consistent : t.Consistent h)
    {process : Process Args Value Thrown} {reply : Reply Value Thrown}
    (move : t.next (.finishRun execution) = some (process, reply)) :
    ∃ t', process = .alive t' ∧ t'.Consistent h := by
  simp only [next, Option.ite_none_right_eq_some, Option.some.injEq, Prod.mk.injEq] at move
  obtain ⟨⟨opened, ended⟩, rfl, rfl⟩ := move
  refine ⟨_, rfl, consistent.move ?_ rfl rfl⟩
  cases consistent.linked with
  | ready _ quiet | joined _ _ _ quiet => simp [quiet.calls] at opened
  | starting _ _ _ _ calls | joining _ _ _ _ _ calls => simp [calls] at opened
  | executing _ _ hosted underway =>
      obtain ⟨_, calls⟩ | ⟨_, calls⟩ := hosted
      · simp [calls] at opened
      · simp_all
  | completed own outcome _ hosted underway keeps last =>
      obtain ⟨_, calls⟩ | ⟨thread, calls⟩ := hosted
      · simp [calls] at opened
      · obtain rfl : execution = own := by simpa [calls] using opened
        refine .joined execution outcome rfl ?_ ?_ last
        · exact ⟨thread, underway, by simp [calls]⟩
        · exact ⟨keeps.future, keeps.entry⟩

theorem Consistent.finishJoin (consistent : t.Consistent h)
    {process : Process Args Value Thrown} {reply : Reply Value Thrown}
    (move : t.next .finishJoin = some (process, reply)) :
    ∃ t', process = .alive t' ∧ t'.Consistent h := by
  simp only [next, Option.ite_none_right_eq_some, Option.some.injEq, Prod.mk.injEq] at move
  obtain ⟨opened, rfl, rfl⟩ := move
  refine ⟨_, rfl, consistent.move ?_ rfl rfl⟩
  cases consistent.linked with
  | ready _ quiet | joined _ _ _ quiet => simp [quiet.calls] at opened
  | starting _ _ _ _ calls => simp [calls] at opened
  | executing _ _ hosted | completed _ _ _ hosted =>
      obtain ⟨_, calls⟩ | ⟨_, calls⟩ := hosted <;> simp [calls] at opened
  | joining execution outcome _ thread underway calls keeps last =>
      refine .joined execution outcome rfl ?_ ?_ last
      · exact ⟨thread, underway, by simp [calls]⟩
      · exact ⟨keeps.future, keeps.entry⟩

theorem Consistent.joinThread (consistent : t.Consistent h) {reply : Reply Value Thrown}
    (move : t.joinThread = some (t', reply)) : t'.Consistent h := by
  cases thread : t.thread with
  | none =>
      simp only [Task.joinThread, thread, Option.some.injEq, Prod.mk.injEq] at move
      exact move.1 ▸ consistent
  | some own =>
      simp only [Task.joinThread, thread, Option.ite_none_left_eq_some, Option.some.injEq,
        Prod.mk.injEq] at move
      obtain ⟨ended, rfl, rfl⟩ := move
      refine consistent.move ?_ rfl rfl
      cases consistent.linked with
      | ready _ quiet | joined _ _ _ quiet => simp [quiet.thread] at thread
      | starting _ _ absent | joining _ _ _ absent => simp [absent] at thread
      | executing _ _ hosted underway =>
          obtain ⟨same, _⟩ | ⟨absent, _⟩ := hosted
          · simp_all
          · simp [absent] at thread
      | completed execution outcome state hosted underway keeps last =>
          obtain ⟨_, calls⟩ | ⟨absent, _⟩ := hosted
          · refine .joining execution outcome state rfl underway ?_ ?_ last
            · simp [calls]
            · exact ⟨keeps.future, keeps.entry⟩
          · simp [absent] at thread

theorem Consistent.join (consistent : t.Consistent h) {timeout : Int}
    {reply : Reply Value Thrown} (move : t.join timeout = some (t', reply)) :
    t'.Consistent h := by
  unfold Task.join at move
  split at move
  · exact consistent.joinThread move
  · split at move
    · cases move
      exact consistent
    · split at move
      · exact consistent.joinThread move
      · cases move
        exact consistent

/-! ## The result -/

theorem get_joined {outcome : Outcome Value Thrown} (joined : t.state = .joined)
    (keeps : t.Keeps execution outcome) :
    t.get = some ({ t with state := .ready, future := none }, .stored (.outcome outcome)) := by
  have ready := keeps.stored
  simp only [Task.stored] at ready
  simp [Task.get, joined, keeps.future, Task.stored, ready]

theorem get_other (other : t.state ≠ .joined) :
    ∃ exception, t.get = some (t, .raised exception) := by
  unfold Task.get
  cases state : t.state with
  | ready => exact ⟨_, rfl⟩
  | running => exact ⟨_, rfl⟩
  | joined => exact absurd state other

theorem Consistent.get (consistent : t.Consistent h) {reply : Reply Value Thrown}
    (move : t.get = some (t', reply)) :
    t'.Consistent (h.observe ((.get : Action Args Value Thrown), reply)) := by
  by_cases joined : t.state = .joined
  · obtain ⟨execution, outcome, keeps, last⟩ := consistent.linked.of_joined joined
    have quiet := consistent.linked.quiet (by simp [joined])
    rw [get_joined joined keeps] at move
    cases move
    have unread := consistent.unread execution keeps.future
    have bound : execution < t.shared.length := by
      obtain ⟨args, entry, _⟩ := keeps.entry
      exact (List.getElem?_eq_some_iff.mp entry).1
    simp only [History.observe, last, Option.map_some, Option.toList_some]
    constructor
    · exact .ready rfl ⟨quiet.thread, quiet.underway, quiet.calls⟩ rfl
    · simp only [List.mem_append, List.mem_singleton]
      rintro earlier (member | rfl)
      · exact consistent.made earlier member
      · exact bound
    · simp
    · exact List.nodup_append.mpr
        ⟨consistent.once, List.nodup_singleton _, by grind⟩
  · obtain ⟨exception, refused⟩ := get_other joined
    rw [refused] at move
    cases move
    exact consistent

theorem Linked.rename {latest : Option (Nat × Outcome Value Thrown)}
    (linked : t.Linked latest) (name : String) (essential : Bool) :
    Linked latest { t with name, essential } := by
  cases linked with
  | ready state quiet future =>
      exact .ready state ⟨quiet.thread, quiet.underway, quiet.calls⟩ future
  | joined execution outcome state quiet keeps last =>
      exact .joined execution outcome state ⟨quiet.thread, quiet.underway, quiet.calls⟩
        ⟨keeps.future, keeps.entry⟩ last
  | starting execution state thread underway calls task awaits =>
      exact .starting execution state thread underway calls task
        ⟨awaits.future, awaits.entry⟩
  | executing execution state hosted underway awaits =>
      exact .executing execution state hosted underway ⟨awaits.future, awaits.entry⟩
  | completed execution outcome state hosted underway keeps last =>
      exact .completed execution outcome state hosted underway
        ⟨keeps.future, keeps.entry⟩ last
  | joining execution outcome state thread underway calls keeps last =>
      exact .joining execution outcome state thread underway calls
        ⟨keeps.future, keeps.entry⟩ last

theorem Consistent.setName (consistent : t.Consistent h) (newName : String) :
    (t.setName newName).1.Consistent h := by
  unfold Task.setName
  split
  · exact consistent
  · exact consistent.move (consistent.linked.rename newName t.essential) rfl rfl

theorem Consistent.setEssential (consistent : t.Consistent h) (essentialTask : Bool) :
    (t.setEssential essentialTask).1.Consistent h := by
  unfold Task.setEssential
  split
  · exact consistent
  · exact consistent.move (consistent.linked.rename t.name essentialTask) rfl rfl

theorem Consistent.complete (consistent : t.Consistent h) {outcome : Outcome Value Thrown}
    {process : Process Args Value Thrown} {reply : Reply Value Thrown}
    (answers : Process.HandlerAnswers (.alive t) (.complete execution outcome))
    (move : t.next (.complete execution outcome) = some (process, reply)) :
    (∃ t', process = .alive t' ∧
      t'.Consistent
        (h.observe ((.complete execution outcome : Action Args Value Thrown), reply))) ∨
    (process = .aborted ∧ reply = .aborts) := by
  simp only [next, Option.ite_none_right_eq_some, Option.some.injEq, Task.complete] at move
  obtain ⟨member, move⟩ := move
  split at move
  · cases move
    exact .inr ⟨rfl, rfl⟩
  · cases move
    refine .inl ⟨_, rfl, ?_⟩
    cases consistent.linked with
    | ready _ quiet | joined _ _ _ quiet => simp [quiet.underway] at member
    | starting _ _ _ underway | completed _ _ _ _ underway | joining _ _ _ _ underway =>
        simp [underway] at member
    | executing own state hosted underway awaits =>
        obtain rfl : execution = own := by simpa [underway] using member
        obtain ⟨args, entry⟩ := awaits.entry
        obtain ⟨_, found, allowed⟩ := answers
        obtain rfl := Option.some.inj (entry.symm.trans found)
        constructor
        · refine .completed execution outcome state hosted ?_ ?_ rfl
          · simp [underway]
          · exact ⟨awaits.future, args, t.store_entry execution _ entry, allowed⟩
        · simpa [History.observe] using consistent.made
        · exact consistent.unread
        · exact consistent.once

end Task

/-! ## Runs -/

namespace Process

/-- The invariant of the process: the task is consistent, or the process was aborted for
an essential task. -/
def Sound (h : History Value Thrown) : Process Args Value Thrown → Prop
  | .alive t => t.Consistent h
  | .aborted => h.deliveries.Nodup
  | .terminated => False

variable {h : History Value Thrown} {process process' : Process Args Value Thrown}
variable {action : Action Args Value Thrown} {reply : Reply Value Thrown}

theorem Sound.once (sound : process.Sound h) : h.deliveries.Nodup := by
  cases process with
  | alive t => exact sound.once
  | aborted => exact sound
  | terminated => exact sound.elim

theorem Sound.step (sound : process.Sound h) (answers : process.HandlerAnswers action)
    (move : process.Step action reply process') :
    process'.Sound (h.observe (action, reply)) := by
  cases process with
  | aborted => cases move
  | terminated => cases move
  | alive t =>
      have consistent : t.Consistent h := sound
      cases action with
      | start args =>
          obtain ⟨t', rfl, kept⟩ := consistent.start move
          exact kept
      | spawn =>
          obtain ⟨t', rfl, kept⟩ := consistent.spawn move
          exact kept
      | run args =>
          obtain ⟨t', rfl, kept⟩ := consistent.run move
          exact kept
      | finishRun execution =>
          obtain ⟨t', rfl, kept⟩ := consistent.finishRun move
          exact kept
      | join timeout =>
          obtain ⟨⟨t', answer⟩, joined, same⟩ := Option.map_eq_some_iff.mp move
          cases same
          exact consistent.join joined
      | finishJoin =>
          obtain ⟨t', rfl, kept⟩ := consistent.finishJoin move
          exact kept
      | get =>
          obtain ⟨⟨t', answer⟩, got, same⟩ := Option.map_eq_some_iff.mp move
          cases same
          exact consistent.get got
      | setName newName =>
          cases move
          exact consistent.setName newName
      | setEssential essentialTask =>
          cases move
          exact consistent.setEssential essentialTask
      | getName | getEssential | getState =>
          cases move
          exact consistent
      | complete execution outcome =>
          obtain ⟨t', rfl, kept⟩ | ⟨rfl, rfl⟩ := consistent.complete answers move
          · exact kept
          · exact consistent.once

theorem sound_of_run {handler : Args → Outcome Value Thrown → Prop}
    {start : Task Args Value Thrown}
    {trace : List (Action Args Value Thrown × Reply Value Thrown)}
    (made : Task.construct (some handler) = .ok start)
    (run : Run Process.Step Process.HandlerAnswers (.alive start) trace process) :
    process.Sound (history trace) := by
  apply run.invariant History.observe Sound
  · intro history state action output state' sound answers move
    exact sound.step answers move
  · cases made
    exact ⟨.ready rfl ⟨rfl, rfl, rfl⟩ rfl, by simp, by simp, by simp⟩

end Process

namespace Task

variable {t : Task Args Value Thrown} {h : History Value Thrown}

theorem step_get_joined {execution : Nat} {outcome : Outcome Value Thrown}
    (joined : t.state = .joined) (keeps : t.Keeps execution outcome) :
    (Process.alive t).Step .get (.stored (.outcome outcome))
      (.alive { t with state := .ready, future := none }) := by
  simp [Process.Step, Process.next, Task.next, get_joined joined keeps]

theorem step_get_other (other : t.state ≠ .joined) :
    ∃ exception, (Process.alive t).Step .get (.raised exception) (.alive t) := by
  obtain ⟨exception, refused⟩ := get_other other
  exact ⟨exception, by simp [Process.Step, Process.next, Task.next, refused]⟩

/-- `get` meets no future without a shared state and no broken promise. -/
theorem Consistent.get_reply (consistent : t.Consistent h) {reply : Reply Value Thrown}
    {process : Process Args Value Thrown} (move : (Process.alive t).Step .get reply process) :
    reply ≠ .futureError ∧ reply ≠ .stored .brokenPromise := by
  by_cases joined : t.state = .joined
  · obtain ⟨execution, outcome, keeps, _⟩ := consistent.linked.of_joined joined
    cases Option.some.inj (move.symm.trans (step_get_joined joined keeps))
    simp
  · obtain ⟨exception, refused⟩ := step_get_other joined
    cases Option.some.inj (move.symm.trans refused)
    simp

theorem refused (running : t.state = .running)
    {action : Action Args Value Thrown} {refusal : Reply Value Thrown}
    (refused : action.refusedWhileRunning = some refusal) :
    (Process.alive t).Step action refusal (.alive t) := by
  unfold Process.Step Process.next
  cases action with
  | start args | run args =>
      cases refused
      simp only [Task.next, Task.initTask_running running]
  | get =>
      cases refused
      simp [Task.next, Task.get, running]
  | setName newName =>
      cases refused
      simp [Task.next, Task.setName, running]
  | setEssential essentialTask =>
      cases refused
      simp [Task.next, Task.setEssential, running]
  | _ => cases refused

end Task

theorem run_of_join {handler : Args → Outcome Value Thrown → Prop} {args : Args}
    {value : Value} (allowed : handler args (.returned value)) :
    ∃ t, t.Quiet ∧ t.state = .joined ∧
      Run Process.Step Process.HandlerAnswers (.alive (.constructed handler))
        [(.start args, .entered), (.spawn, .void), (.complete 0 (.returned value), .void),
          (.join millisecondsMax, .entered), (.finishJoin, .int 0)] (.alive t) := by
  have started : Run Process.Step Process.HandlerAnswers (.alive (.constructed handler))
      [(.start args, .entered)] _ :=
    .snoc .nil trivial rfl
  have spawned : Run Process.Step Process.HandlerAnswers _ (_ ++ [(.spawn, .void)]) _ :=
    .snoc started trivial rfl
  have completed : Run Process.Step Process.HandlerAnswers _
      (_ ++ [(.complete 0 (.returned value), .void)]) _ :=
    .snoc spawned ⟨_, rfl, allowed⟩ rfl
  have joining : Run Process.Step Process.HandlerAnswers _
      (_ ++ [(.join millisecondsMax, .entered)]) _ :=
    .snoc completed trivial rfl
  have joined : Run Process.Step Process.HandlerAnswers _ (_ ++ [(.finishJoin, .int 0)]) _ :=
    .snoc joining trivial rfl
  exact ⟨_, ⟨rfl, rfl, rfl⟩, rfl, joined⟩

/-- The contract of a task in every state that its calls and its handler can reach: a
joinable thread means RUNNING, and `start` never assigns over one; JOINED means that the
future is valid and holds what the latest execution gave, which `get` delivers and which
was not delivered before; a call that is rejected changes nothing. -/
theorem task_state_machine {handler : Args → Outcome Value Thrown → Prop}
    {start : Task Args Value Thrown} {final : Process Args Value Thrown}
    {trace : List (Action Args Value Thrown × Reply Value Thrown)}
    (made : Task.construct (some handler) = .ok start)
    (run : Run Process.Step Process.HandlerAnswers (.alive start) trace final) :
    final ≠ .terminated ∧ (history trace).deliveries.Nodup ∧
    ∀ t, final = .alive t →
      (t.thread.isSome → t.state = .running) ∧
      (t.state = .joined → t.future.isSome) ∧
      (∀ reply process, (Process.alive t).Step .get reply process →
        reply ≠ .futureError ∧ reply ≠ .stored .brokenPromise) ∧
      (t.state = .joined → ∃ execution outcome,
        (history trace).latest = some (execution, outcome) ∧
        execution ∉ (history trace).deliveries ∧ t.Keeps execution outcome ∧
        (Process.alive t).Step .get (.stored (.outcome outcome))
          (.alive { t with state := .ready, future := none })) ∧
      (t.state ≠ .joined → ∃ exception,
        (Process.alive t).Step .get (.raised exception) (.alive t)) ∧
      (t.state = .running → ∀ action refusal, action.refusedWhileRunning = some refusal →
        (Process.alive t).Step action refusal (.alive t)) := by
  have sound := Process.sound_of_run made run
  refine ⟨?_, sound.once, ?_⟩
  · rintro rfl
    exact sound
  rintro t rfl
  have consistent : t.Consistent (history trace) := sound
  refine ⟨consistent.linked.running_of_thread, ?_, ?_, ?_, Task.step_get_other, ?_⟩
  · intro joined
    obtain ⟨execution, _, keeps, _⟩ := consistent.linked.of_joined joined
    simp [keeps.future]
  · intro reply process move
    exact consistent.get_reply move
  · intro joined
    obtain ⟨execution, outcome, keeps, last⟩ := consistent.linked.of_joined joined
    exact ⟨execution, outcome, last, consistent.unread execution keeps.future, keeps,
      Task.step_get_joined joined keeps⟩
  · intro running action refusal refused
    exact Task.refused running refused

/-- A task that adds one, started on four and joined. -/
theorem task_state_machine_of_join :
    ∃ (trace : List (Action Nat Nat Unit × Reply Nat Unit)) (t : Task Nat Nat Unit),
      (history trace).latest = some (0, .returned 5) ∧ t.state = .joined ∧
      (Process.alive t).Step .get (.stored (.outcome (.returned 5)))
        (.alive { t with state := .ready, future := none }) := by
  let addOne : Nat → Outcome Nat Unit → Prop := fun n outcome => outcome = .returned (n + 1)
  have allowed : addOne 4 (.returned 5) := rfl
  obtain ⟨t, _, joined, run⟩ := run_of_join allowed
  obtain ⟨_, _, contract⟩ := task_state_machine rfl run
  obtain ⟨_, _, _, delivers, _⟩ := contract t rfl
  obtain ⟨execution, outcome, latest, _, _, delivered⟩ := delivers joined
  have five : some (execution, outcome) = some (0, .returned 5) := latest.symm.trans rfl
  cases five
  exact ⟨_, t, latest, joined, delivered⟩

end AresCommon.Tasks
