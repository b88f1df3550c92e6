import AresCommon.Foundation.Transition
import AresCommon.WorkQueue.Operations

/-!
# A task, its threads and its futures

A `Task` with the shared states of its packaged tasks, the executions under way and the
calls that are between two of their critical sections. One action is one critical
section under `_state_lock`, the construction of a thread, or the end of the handler;
other calls may come between. Ending the handler and letting time pass is the choice of
the environment.
-/

namespace AresCommon.Tasks

open AresCommon.Foundation.Transition
open AresCommon.WorkQueue (eBusy eTimedOut eAlready)

set_option autoImplicit false

inductive TaskState where
  | ready
  | running
  | joined
  deriving DecidableEq, Repr

structure TaskException where
  msg : String
  deriving DecidableEq, Repr

/-- How the handler ends; `standard` for an exception derived from `std::exception`. -/
inductive Outcome (Value Thrown : Type) where
  | returned (value : Value)
  | raised (standard : Bool) (thrown : Thrown)
  deriving DecidableEq, Repr

def Outcome.isStandard {Value Thrown : Type} : Outcome Value Thrown → Bool
  | .returned _ => false
  | .raised standard _ => standard

inductive Stored (Value Thrown : Type) where
  | outcome (outcome : Outcome Value Thrown)
  /-- the packaged task was destroyed before it was called -/
  | brokenPromise
  deriving DecidableEq, Repr

/-- What a packaged task and its future share, with the arguments that `start` or `run`
bound. One is made for every execution. -/
structure SharedState (Args Value Thrown : Type) where
  boundArgs : Args
  stored : Option (Stored Value Thrown)
  deriving DecidableEq, Repr

inductive OpenCall where
  | start
  | run (execution : Nat)
  | join
  deriving DecidableEq, Repr

/-- A shared state is named by its place in `shared`: `task` is the one of `_task`,
`future` the one of `_future` when that is valid, and `thread` the one that the thread
of `_thread` executes, when that is joinable. -/
structure Task (Args Value Thrown : Type) where
  essential : Bool
  name : String
  task : Option Nat
  future : Option Nat
  thread : Option Nat
  handler : Args → Outcome Value Thrown → Prop
  state : TaskState
  shared : List (SharedState Args Value Thrown)
  underway : List Nat
  calls : List OpenCall

inductive Reply (Value Thrown : Type) where
  /-- the call has not returned yet -/
  | entered
  | void
  | int (value : Int)
  | bool (value : Bool)
  | name (value : String)
  | state (value : TaskState)
  | stored (stored : Stored Value Thrown)
  | raised (exception : TaskException)
  /-- `std::future_error` for a future without a shared state -/
  | futureError
  | aborts
  | terminates
  deriving DecidableEq, Repr

def millisecondsMax : Int := 2 ^ 63 - 1

namespace Task

variable {Args Value Thrown : Type} (t : Task Args Value Thrown)

def constructed (handler : Args → Outcome Value Thrown → Prop) : Task Args Value Thrown where
  essential := false
  name := ""
  task := none
  future := none
  thread := none
  handler
  state := .ready
  shared := []
  underway := []
  calls := []

/-- The constructor; `none` is `nullptr`. -/
def construct (handler : Option (Args → Outcome Value Thrown → Prop)) :
    Except TaskException (Task Args Value Thrown) :=
  match handler with
  | none => .error { msg := "Task handler cannot be `nullptr`" }
  | some handler => .ok (constructed handler)

def stored (execution : Nat) : Option (Stored Value Thrown) :=
  t.shared[execution]?.bind SharedState.stored

def store (execution : Nat) (result : Stored Value Thrown) : Task Args Value Thrown :=
  { t with
    shared := t.shared.modify execution fun entry =>
      { entry with stored := entry.stored.or (some result) } }

/-- The destruction of `_task`, which an assignment to it brings about. -/
def abandon : Task Args Value Thrown :=
  match t.task with
  | none => t
  | some execution => { t.store execution .brokenPromise with task := none }

def initTask (args : Args) : Except TaskException (Task Args Value Thrown) :=
  if t.state = .running then
    .error { msg := "Cannot run/start a task that is already in the `run` state." }
  else
    let t := { t.abandon with state := .running }
    .ok { t with
      shared := t.shared ++ [{ boundArgs := args, stored := none }]
      task := some t.shared.length
      future := some t.shared.length }

/-- `_join` up to the end of the thread; it waits while the thread executes. -/
def joinThread : Option (Task Args Value Thrown × Reply Value Thrown) :=
  match t.thread with
  | none => some (t, .int (-eAlready))
  | some execution =>
      if execution ∈ t.underway then none
      else some ({ t with thread := none, calls := t.calls ++ [.join] }, .entered)

def join (timeout : Int) : Option (Task Args Value Thrown × Reply Value Thrown) :=
  if timeout = millisecondsMax then t.joinThread
  else
    match t.future with
    | none => some (t, .futureError)
    | some execution =>
        if (t.stored execution).isSome then t.joinThread
        else some (t, .int (-eTimedOut))

/-- The lock is held while the future is read; a future that is not ready is waited for. -/
def get : Option (Task Args Value Thrown × Reply Value Thrown) :=
  match t.state with
  | .ready =>
      some (t, .raised { msg := "Cannot get result from task that has not been started" })
  | .running => some (t, .raised { msg := "Join task before getting the result" })
  | .joined =>
      let t := { t with state := .ready }
      match t.future with
      | none => some (t, .futureError)
      | some execution =>
          (t.stored execution).map fun stored => ({ t with future := none }, .stored stored)

def setName (newName : String) : Task Args Value Thrown × Reply Value Thrown :=
  if t.state = .running then (t, .int (-eBusy))
  else ({ t with name := newName }, .int 0)

def setEssential (essentialTask : Bool) : Task Args Value Thrown × Reply Value Thrown :=
  if t.state = .running then (t, .int (-eBusy))
  else ({ t with essential := essentialTask }, .int 0)

end Task

inductive Process (Args Value Thrown : Type) where
  | alive (task : Task Args Value Thrown)
  /-- by `std::abort` -/
  | aborted
  /-- by `std::terminate` -/
  | terminated

inductive Action (Args Value Thrown : Type) where
  | start (args : Args)
  /-- `start` constructs the thread -/
  | spawn
  | run (args : Args)
  /-- `run` after the call of the packaged task -/
  | finishRun (execution : Nat)
  | join (timeout : Int)
  /-- `_join` after the join of the thread -/
  | finishJoin
  | get
  | setName (newName : String)
  | setEssential (essentialTask : Bool)
  | getName
  | getEssential
  | getState
  /-- the handler returns or throws -/
  | complete (execution : Nat) (outcome : Outcome Value Thrown)
  deriving DecidableEq, Repr

namespace Task

variable {Args Value Thrown : Type} (t : Task Args Value Thrown)

/-- The thread that `start` makes takes the packaged task with it. -/
def spawn : Process Args Value Thrown × Reply Value Thrown :=
  match t.thread, t.task with
  | none, some execution =>
      (.alive { t with
        thread := some execution
        task := none
        underway := execution :: t.underway
        calls := t.calls.erase .start }, .void)
  | _, _ => (.terminated, .terminates)

def complete (execution : Nat) (outcome : Outcome Value Thrown) :
    Process Args Value Thrown × Reply Value Thrown :=
  if outcome.isStandard && t.essential then (.aborted, .aborts)
  else
    (.alive { t.store execution (.outcome outcome) with
      underway := t.underway.erase execution }, .void)

/-- One step; `none` where the action has to wait or cannot happen. -/
def next : Action Args Value Thrown → Option (Process Args Value Thrown × Reply Value Thrown)
  | .start args =>
      match t.initTask args with
      | .error exception => some (.alive t, .raised exception)
      | .ok t => some (.alive { t with calls := t.calls ++ [.start] }, .entered)
  | .spawn => if .start ∈ t.calls then some t.spawn else none
  | .run args =>
      match t.initTask args with
      | .error exception => some (.alive t, .raised exception)
      | .ok ready =>
          some (.alive { ready with
            underway := t.shared.length :: ready.underway
            calls := ready.calls ++ [.run t.shared.length] }, .entered)
  | .finishRun execution =>
      if .run execution ∈ t.calls ∧ execution ∉ t.underway then
        some (.alive { t with
          state := .joined
          calls := t.calls.erase (.run execution) }, .void)
      else none
  | .join timeout => (t.join timeout).map fun (t, reply) => (.alive t, reply)
  | .finishJoin =>
      if .join ∈ t.calls then
        some (.alive { t with state := .joined, calls := t.calls.erase .join }, .int 0)
      else none
  | .get => t.get.map fun (t, reply) => (.alive t, reply)
  | .setName newName => some (.alive (t.setName newName).1, (t.setName newName).2)
  | .setEssential essentialTask =>
      some (.alive (t.setEssential essentialTask).1, (t.setEssential essentialTask).2)
  | .getName => some (.alive t, .name t.name)
  | .getEssential => some (.alive t, .bool t.essential)
  | .getState => some (.alive t, .state t.state)
  | .complete execution outcome =>
      if execution ∈ t.underway then some (t.complete execution outcome) else none

end Task

namespace Process

variable {Args Value Thrown : Type}

def next : Process Args Value Thrown → Action Args Value Thrown →
    Option (Process Args Value Thrown × Reply Value Thrown)
  | .alive t, action => t.next action
  | _, _ => none

def Step (process : Process Args Value Thrown) (action : Action Args Value Thrown)
    (reply : Reply Value Thrown) (process' : Process Args Value Thrown) : Prop :=
  process.next action = some (process', reply)

/-- What the handler does on the arguments it is called with. -/
def HandlerAnswers : Process Args Value Thrown → Action Args Value Thrown → Prop
  | .alive t, .complete execution outcome =>
      ∃ entry, t.shared[execution]? = some entry ∧ t.handler entry.boundArgs outcome
  | _, _ => True

end Process

end AresCommon.Tasks
