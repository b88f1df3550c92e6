import AresCommon.Foundation.Program
import AresCommon.Foundation.Transition
import Mathlib.Logic.Function.Basic

/-!
# Critical sections

Threads share an object and run its operations as programs under a lock that is a
test-and-set flag. Between two calls of a section the other threads try the flag, and do
what they may do without it. If at most one call of a section is visible to those, and
every other call commutes with what they do, the object is atomic: an operation takes
effect at one instant between its entry and its return.
-/

namespace AresCommon.Foundation

open AresCommon.Foundation.Transition
open Function (update)

set_option autoImplicit false

/-- An object whose operations are sections under a lock. -/
structure Guarded (Thread Op Call : Type) (Reply : Call → Type)
    (Result Shared Other Output : Type) where
  /-- when a thread may enter an operation -/
  ready : Shared → Thread → Op → Bool
  body : Thread → Op → Program Call Reply Result
  answer : Thread → Shared → (call : Call) → Reply call × Shared
  /-- the thread that does something without the lock, unless it is none of the threads -/
  actor : Other → Option Thread
  disturb : Shared → Other → Option (Output × Shared)
  /-- the calls that those without the lock may see -/
  loud : Call → Prop

inductive SectionEvent (Thread Op Result Other Output : Type) where
  | called (self : Thread) (op : Op)
  | returned (self : Thread) (result : Result)
  | did (act : Other) (output : Output)

namespace Guarded

variable {Thread Op Call : Type} {Reply : Call → Type} {Result Shared Other Output : Type}

/-! ## Interleaved sections -/

inductive Phase (Op Call : Type) (Reply : Call → Type) (Result : Type) where
  | idle
  | waiting (op : Op)
  | inside (op : Op) (rest : Program Call Reply Result)

def Phase.isIdle : Phase Op Call Reply Result → Bool
  | .idle => true
  | _ => false

structure Interleaved (Thread Op Call : Type) (Reply : Call → Type) (Result Shared : Type) where
  shared : Shared
  locked : Bool
  phases : Thread → Phase Op Call Reply Result

inductive SectionAction (Thread Op Other : Type) where
  | call (self : Thread) (op : Op)
  /-- One `test_and_set` of a thread that waits for the lock. -/
  | attempt (self : Thread)
  | advance (self : Thread)
  | release (self : Thread)
  | other (act : Other)

inductive SectionOutput (Result Output : Type) where
  | none
  | busy
  | returned (result : Result)
  | did (output : Output)

variable (g : Guarded Thread Op Call Reply Result Shared Other Output)

def interleaved (shared : Shared) : Interleaved Thread Op Call Reply Result Shared where
  shared
  locked := false
  phases := fun _ => .idle

/-- One step of the threads. The flag does not say who has set it. -/
def interleave [DecidableEq Thread] (c : Interleaved Thread Op Call Reply Result Shared) :
    SectionAction Thread Op Other →
      Option (Interleaved Thread Op Call Reply Result Shared × SectionOutput Result Output)
  | .call self op =>
      if (c.phases self).isIdle && g.ready c.shared self op then
        some ({ c with phases := update c.phases self (.waiting op) }, .none)
      else none
  | .attempt self =>
      match c.phases self with
      | .waiting op =>
          if c.locked then some (c, .busy)
          else some ({ c with
            locked := true
            phases := update c.phases self (.inside op (g.body self op)) }, .none)
      | _ => none
  | .advance self =>
      match c.phases self with
      | .inside op (.ask call rest) =>
          let (reply, shared) := g.answer self c.shared call
          some ({ c with shared, phases := update c.phases self (.inside op (rest reply)) }, .none)
      | _ => none
  | .release self =>
      match c.phases self with
      | .inside _ (.done result) =>
          some ({ c with locked := false, phases := update c.phases self .idle }, .returned result)
      | _ => none
  | .other act =>
      if (g.actor act).all (fun thread => (c.phases thread).isIdle) then
        (g.disturb c.shared act).map fun done => ({ c with shared := done.2 }, .did done.1)
      else none

def InterleavedStep [DecidableEq Thread] (c : Interleaved Thread Op Call Reply Result Shared)
    (action : SectionAction Thread Op Other) (output : SectionOutput Result Output)
    (c' : Interleaved Thread Op Call Reply Result Shared) : Prop :=
  g.interleave c action = some (c', output)

def SectionAction.event (entry : SectionAction Thread Op Other × SectionOutput Result Output) :
    Option (SectionEvent Thread Op Result Other Output) :=
  match entry with
  | (.call self op, _) => some (.called self op)
  | (.release self, .returned result) => some (.returned self result)
  | (.other act, .did output) => some (.did act output)
  | _ => none

/-! ## Atomic operations -/

inductive AtomicPhase (Op Result : Type) where
  | idle
  | called (op : Op)
  | performed (result : Result)
  deriving DecidableEq, Repr

structure Atomic (Thread Op Result Shared : Type) where
  shared : Shared
  phases : Thread → AtomicPhase Op Result

inductive AtomicAction (Thread Op Other : Type) where
  | call (self : Thread) (op : Op)
  | perform (self : Thread) (op : Op)
  | ret (self : Thread)
  | other (act : Other)

def atomic (shared : Shared) : Atomic Thread Op Result Shared where
  shared
  phases := fun _ => .idle

def effect (self : Thread) (op : Op) (shared : Shared) : Option (Result × Shared) :=
  (g.body self op).ending (g.answer self) shared

inductive AtomicStep [DecidableEq Thread] (a : Atomic Thread Op Result Shared) :
    AtomicAction Thread Op Other → SectionOutput Result Output →
      Atomic Thread Op Result Shared → Prop where
  | call {self : Thread} {op : Op} (rests : a.phases self = .idle)
      (ready : g.ready a.shared self op = true) :
      AtomicStep a (.call self op) .none { a with phases := update a.phases self (.called op) }
  | perform {self : Thread} {op : Op} {result : Result} {shared : Shared}
      (entered : a.phases self = .called op)
      (takes : g.effect self op a.shared = some (result, shared)) :
      AtomicStep a (.perform self op) (.returned result)
        { a with shared, phases := update a.phases self (.performed result) }
  | ret {self : Thread} {result : Result} (done : a.phases self = .performed result) :
      AtomicStep a (.ret self) (.returned result)
        { a with phases := update a.phases self .idle }
  | other {act : Other} {output : Output} {shared : Shared}
      (outside : ∀ thread, g.actor act = some thread → a.phases thread = .idle)
      (disturbs : g.disturb a.shared act = some (output, shared)) :
      AtomicStep a (.other act) (.did output) { a with shared }

def AtomicAction.event (entry : AtomicAction Thread Op Other × SectionOutput Result Output) :
    Option (SectionEvent Thread Op Result Other Output) :=
  match entry with
  | (.call self op, _) => some (.called self op)
  | (.ret self, .returned result) => some (.returned self result)
  | (.other act, .did output) => some (.did act output)
  | _ => none

/-! ## One operation after another -/

inductive Turn (Thread Op Other : Type) where
  | op (self : Thread) (op : Op)
  | other (act : Other)

def AtomicAction.turn (entry : AtomicAction Thread Op Other × SectionOutput Result Output) :
    Option (Turn Thread Op Other × SectionOutput Result Output) :=
  match entry with
  | (.perform self op, output) => some (.op self op, output)
  | (.other act, output) => some (.other act, output)
  | _ => none

inductive TurnStep (shared : Shared) :
    Turn Thread Op Other → SectionOutput Result Output → Shared → Prop where
  | op {self : Thread} {op : Op} {result : Result} {shared' : Shared}
      (takes : g.effect self op shared = some (result, shared')) :
      TurnStep shared (.op self op) (.returned result) shared'
  | other {act : Other} {output : Output} {shared' : Shared}
      (disturbs : g.disturb shared act = some (output, shared')) :
      TurnStep shared (.other act) (.did output) shared'

/-! ## Reducible sections -/

variable {g : Guarded Thread Op Call Reply Result Shared Other Output}

/-- What sections may rely on: the states they work in, the calls they make in them, and
the replies they get there. -/
structure Discipline (g : Guarded Thread Op Call Reply Result Shared Other Output) where
  sound : Shared → Prop
  permits : Call → Prop
  possible : (call : Call) → Reply call → Prop

def free (g : Guarded Thread Op Call Reply Result Shared Other Output) : Discipline g where
  sound _ := True
  permits _ := True
  possible _ _ := True

variable {d : Discipline g}

inductive Quiet {Value : Type} (d : Discipline g) : Program Call Reply Value → Prop where
  | done (result : Value) : Quiet d (.done result)
  | ask {call : Call} {next : Reply call → Program Call Reply Value} (quiet : ¬g.loud call)
      (permitted : d.permits call) (rest : ∀ reply, d.possible call reply → Quiet d (next reply)) :
      Quiet d (.ask call next)

inductive Once {Value : Type} (d : Discipline g) : Program Call Reply Value → Prop where
  | done (result : Value) : Once d (.done result)
  | stuck : Once d .stuck
  | loud {call : Call} {next : Reply call → Program Call Reply Value}
      (permitted : d.permits call) (rest : ∀ reply, d.possible call reply → Quiet d (next reply)) :
      Once d (.ask call next)
  | ask {call : Call} {next : Reply call → Program Call Reply Value} (quiet : ¬g.loud call)
      (permitted : d.permits call) (rest : ∀ reply, d.possible call reply → Once d (next reply)) :
      Once d (.ask call next)

/-- What makes the sections of an object atomic. A quiet call may be moved behind what
another thread did just before it, and before what another thread does just after it. -/
structure Reducible (g : Guarded Thread Op Call Reply Result Shared Other Output)
    (d : Discipline g) : Prop where
  once : ∀ self op, Once d (g.body self op)
  replies : ∀ {shared : Shared} (self : Thread) (call : Call), d.sound shared →
    d.possible call (g.answer self shared call).1
  kept : ∀ {self : Thread} {shared : Shared} {call : Call}, d.sound shared → d.permits call →
    d.sound (g.answer self shared call).2
  disturbed : ∀ {shared shared' : Shared} {act : Other} {output : Output}, d.sound shared →
    g.disturb shared act = some (output, shared') → d.sound shared'
  ready : ∀ {self thread : Thread} {shared : Shared} {call : Call} {op : Op}, d.sound shared →
    ¬g.loud call → thread ≠ self →
      g.ready (g.answer self shared call).2 thread op = g.ready shared thread op
  behind : ∀ {self : Thread} {shared shared' : Shared} {call : Call} {act : Other}
    {output : Output}, ¬g.loud call → g.actor act ≠ some self →
      g.disturb (g.answer self shared call).2 act = some (output, shared') →
        ∃ before, g.disturb shared act = some (output, before) ∧
          g.answer self before call = ((g.answer self shared call).1, shared')
  before : ∀ {self : Thread} {shared shared' : Shared} {call : Call} {act : Other}
    {output : Output}, ¬g.loud call → g.actor act ≠ some self →
      g.disturb shared act = some (output, shared') →
        ∃ after, g.answer self shared' call = ((g.answer self shared call).1, after) ∧
          g.disturb (g.answer self shared call).2 act = some (output, after)

/-- The state as two parts: what an open section may write, and what the others may.
`merge self mine theirs` takes the first part from `mine` and the second from `theirs`. -/
structure Separated (g : Guarded Thread Op Call Reply Result Shared Other Output) where
  merge : Thread → Shared → Shared → Shared
  agrees : Thread → Shared → Shared → Prop
  agrees_refl : ∀ thread shared, agrees thread shared shared
  merge_self : ∀ thread shared, merge thread shared shared = shared
  quiet : ∀ {thread : Thread} {mine theirs : Shared} {call : Call}, ¬g.loud call →
    agrees thread mine theirs → g.answer thread (merge thread mine theirs) call =
      ((g.answer thread mine call).1, merge thread (g.answer thread mine call).2 theirs)
  quiet_agrees : ∀ {thread : Thread} {mine : Shared} {call : Call}, ¬g.loud call →
    agrees thread (g.answer thread mine call).2 mine
  disturb : ∀ {thread : Thread} {mine theirs : Shared} {act : Other},
    g.actor act ≠ some thread → agrees thread mine theirs →
      g.disturb (merge thread mine theirs) act =
        (g.disturb theirs act).map fun done => (done.1, merge thread mine done.2)
  disturb_agrees : ∀ {thread : Thread} {theirs theirs' : Shared} {act : Other} {output : Output},
    g.actor act ≠ some thread → g.disturb theirs act = some (output, theirs') →
      agrees thread theirs theirs'

theorem Separated.answer_merge (parts : Separated g) {self : Thread} {shared : Shared}
    {call : Call} (quiet : ¬g.loud call) :
    parts.merge self (g.answer self shared call).2 shared = (g.answer self shared call).2 := by
  have answers : g.answer self (parts.merge self shared shared) call = _ :=
    parts.quiet quiet (parts.agrees_refl self shared)
  rw [parts.merge_self] at answers
  exact (congrArg Prod.snd answers).symm

theorem Separated.behind (parts : Separated g) {self : Thread} {shared shared' : Shared}
    {call : Call} {act : Other} {output : Output} (quiet : ¬g.loud call)
    (others : g.actor act ≠ some self)
    (disturbs : g.disturb (g.answer self shared call).2 act = some (output, shared')) :
    ∃ before, g.disturb shared act = some (output, before) ∧
      g.answer self before call = ((g.answer self shared call).1, shared') := by
  rw [← parts.answer_merge quiet, parts.disturb others (parts.quiet_agrees quiet)] at disturbs
  obtain ⟨⟨_, before⟩, moved, result⟩ := Option.map_eq_some_iff.mp disturbs
  cases result
  have apart := parts.disturb others (parts.agrees_refl self shared)
  rw [parts.merge_self, moved] at apart
  obtain ⟨_, merged⟩ := Prod.mk.inj (Option.some.inj apart)
  refine ⟨before, moved, ?_⟩
  rw [merged, parts.quiet quiet (parts.disturb_agrees others moved), ← merged]

theorem Separated.before (parts : Separated g) {self : Thread} {shared shared' : Shared}
    {call : Call} {act : Other} {output : Output} (quiet : ¬g.loud call)
    (others : g.actor act ≠ some self)
    (disturbs : g.disturb shared act = some (output, shared')) :
    ∃ after, g.answer self shared' call = ((g.answer self shared call).1, after) ∧
      g.disturb (g.answer self shared call).2 act = some (output, after) := by
  have apart := parts.disturb others (parts.agrees_refl self shared)
  rw [parts.merge_self, disturbs] at apart
  obtain ⟨_, merged⟩ := Prod.mk.inj (Option.some.inj apart)
  refine ⟨parts.merge self (g.answer self shared call).2 shared', ?_, ?_⟩
  · rw [merged, parts.quiet quiet (parts.disturb_agrees others disturbs), ← merged]
  · have agrees : parts.agrees self (g.answer self shared call).2 shared := parts.quiet_agrees quiet
    have moved := parts.disturb others agrees
    rw [parts.answer_merge quiet, disturbs] at moved
    exact moved

/-! ### Programs piece by piece -/

variable {Value Last : Type}

theorem Quiet.request {call : Call} {next : Reply call → Program Call Reply Value}
    (quiet : ¬g.loud call) (permitted : d.permits call)
    (rest : ∀ reply, d.possible call reply → Quiet d (next reply)) :
    Quiet d (Program.request call >>= next) :=
  .ask quiet permitted rest

theorem Quiet.ite {condition : Prop} [Decidable condition]
    {first second : Program Call Reply Value} (yes : condition → Quiet d first)
    (no : ¬condition → Quiet d second) : Quiet d (if condition then first else second) := by
  by_cases holds : condition
  · rw [if_pos holds]
    exact yes holds
  · rw [if_neg holds]
    exact no holds

theorem Once.request {call : Call} {next : Reply call → Program Call Reply Value}
    (quiet : ¬g.loud call) (permitted : d.permits call)
    (rest : ∀ reply, d.possible call reply → Once d (next reply)) :
    Once d (Program.request call >>= next) :=
  .ask quiet permitted rest

theorem Once.reveal {call : Call} {next : Reply call → Program Call Reply Value}
    (permitted : d.permits call)
    (rest : ∀ reply, d.possible call reply → Quiet d (next reply)) :
    Once d (Program.request call >>= next) :=
  .loud permitted rest

theorem Once.ite {condition : Prop} [Decidable condition]
    {first second : Program Call Reply Value} (yes : condition → Once d first)
    (no : ¬condition → Once d second) : Once d (if condition then first else second) := by
  by_cases holds : condition
  · rw [if_pos holds]
    exact yes holds
  · rw [if_neg holds]
    exact no holds

theorem Quiet.once {program : Program Call Reply Value} (quiet : Quiet d program) :
    Once d program := by
  induction quiet with
  | done result => exact .done result
  | ask silent permitted _ ih => exact .ask silent permitted ih

theorem Quiet.bind {program : Program Call Reply Value} {rest : Value → Program Call Reply Last}
    (first : Quiet d program) (second : ∀ result, Quiet d (rest result)) :
    Quiet d (program >>= rest) := by
  induction first with
  | done result => exact second result
  | ask silent permitted _ ih => exact .ask silent permitted ih

theorem Quiet.bind_once {program : Program Call Reply Value}
    {rest : Value → Program Call Reply Last} (first : Quiet d program)
    (second : ∀ result, Once d (rest result)) : Once d (program >>= rest) := by
  induction first with
  | done result => exact second result
  | ask silent permitted _ ih => exact .ask silent permitted ih

theorem Once.bind {program : Program Call Reply Value} {rest : Value → Program Call Reply Last}
    (first : Once d program) (second : ∀ result, Quiet d (rest result)) :
    Once d (program >>= rest) := by
  induction first with
  | done result => exact (second result).once
  | stuck => exact .stuck
  | loud permitted quiet => exact .loud permitted fun reply possible =>
      (quiet reply possible).bind second
  | ask silent permitted _ ih => exact .ask silent permitted ih

/-! ### Paths of quiet calls -/

/-- Quiet calls lead from a program in a state to the rest of it in a later state. -/
inductive Path (g : Guarded Thread Op Call Reply Result Shared Other Output) (d : Discipline g)
    (self : Thread) (program : Program Call Reply Result) (start : Shared) :
    Program Call Reply Result → Shared → Prop where
  | refl : Path g d self program start program start
  | snoc {call : Call} {next : Reply call → Program Call Reply Result} {shared : Shared}
      (prior : Path g d self program start (.ask call next) shared) (quiet : ¬g.loud call)
      (permitted : d.permits call) :
      Path g d self program start (next (g.answer self shared call).1)
        (g.answer self shared call).2

theorem Path.ending {self : Thread} {program rest : Program Call Reply Result}
    {start shared : Shared} (path : Path g d self program start rest shared) :
    program.ending (g.answer self) start = rest.ending (g.answer self) shared := by
  induction path with
  | refl => rfl
  | snoc _ _ _ ih => exact ih

theorem Path.sound (red : g.Reducible d) {self : Thread}
    {program rest : Program Call Reply Result} {start shared : Shared}
    (path : Path g d self program start rest shared) (sound : d.sound start) :
    d.sound shared := by
  induction path with
  | refl => exact sound
  | snoc _ _ permitted ih => exact red.kept ih permitted

theorem Path.ready (red : g.Reducible d) {self thread : Thread} {op : Op}
    {program rest : Program Call Reply Result} {start shared : Shared}
    (path : Path g d self program start rest shared) (sound : d.sound start)
    (others : thread ≠ self) : g.ready shared thread op = g.ready start thread op := by
  induction path with
  | refl => rfl
  | snoc prior quiet _ ih => rw [red.ready (prior.sound red sound) quiet others, ih]

/-- What another thread does after quiet calls it could have done before them. -/
theorem Path.pull (red : g.Reducible d) {self : Thread}
    {program rest : Program Call Reply Result} {start shared shared' : Shared} {act : Other}
    {output : Output} (path : Path g d self program start rest shared)
    (others : g.actor act ≠ some self)
    (disturbs : g.disturb shared act = some (output, shared')) :
    ∃ start', g.disturb start act = some (output, start') ∧
      Path g d self program start' rest shared' := by
  induction path generalizing shared' with
  | refl => exact ⟨shared', disturbs, .refl⟩
  | snoc prior quiet permitted ih =>
      obtain ⟨between, first, answers⟩ := red.behind quiet others disturbs
      obtain ⟨start', pulled, moved⟩ := ih first
      have longer := moved.snoc quiet permitted
      rw [answers] at longer
      exact ⟨start', pulled, longer⟩

/-- What another thread does before quiet calls it could have done after them. -/
theorem Quiet.push (red : g.Reducible d) {self : Thread} {rest : Program Call Reply Result}
    {shared shared' last : Shared} {act : Other} {output : Output} {result : Result}
    (quiet : Quiet d rest) (sound : d.sound shared) (others : g.actor act ≠ some self)
    (ends : rest.ending (g.answer self) shared = some (result, last))
    (disturbs : g.disturb shared act = some (output, shared')) :
    ∃ last', g.disturb last act = some (output, last') ∧
      rest.ending (g.answer self) shared' = some (result, last') := by
  induction quiet generalizing shared shared' with
  | done value =>
      cases ends
      exact ⟨shared', disturbs, rfl⟩
  | @ask call _ silent permitted _ ih =>
      obtain ⟨after, answers, moved⟩ := red.before silent others disturbs
      obtain ⟨last', pushed, ended⟩ :=
        ih _ (red.replies self call sound) (red.kept sound permitted) ends moved
      refine ⟨last', pushed, ?_⟩
      rw [Program.ending, answers]
      exact ended

theorem Quiet.ends (red : g.Reducible d) (self : Thread) {rest : Program Call Reply Result}
    {shared : Shared} (quiet : Quiet d rest) (sound : d.sound shared) :
    ∃ result last, rest.ending (g.answer self) shared = some (result, last) := by
  induction quiet generalizing shared with
  | done value => exact ⟨value, shared, rfl⟩
  | @ask call _ _ permitted _ ih =>
      exact ih _ (red.replies self call sound) (red.kept sound permitted)

theorem Quiet.ready (red : g.Reducible d) {self thread : Thread} {op : Op}
    {rest : Program Call Reply Result} {shared last : Shared} {result : Result}
    (quiet : Quiet d rest) (sound : d.sound shared) (others : thread ≠ self)
    (ends : rest.ending (g.answer self) shared = some (result, last)) :
    g.ready last thread op = g.ready shared thread op := by
  induction quiet generalizing shared with
  | done value =>
      cases ends
      rfl
  | @ask call _ silent permitted _ ih =>
      rw [ih _ (red.replies self call sound) (red.kept sound permitted) ends,
        red.ready sound silent others]

/-! ## The simulation -/

inductive Outside : Phase Op Call Reply Result → AtomicPhase Op Result → Prop where
  | idle : Outside .idle .idle
  | waiting (op : Op) : Outside (.waiting op) (.called op)

/-- How far a section is whose rest is `rest`: the calls it has made are quiet, or its
operation has taken effect and the calls it will make are quiet. -/
inductive Progress (g : Guarded Thread Op Call Reply Result Shared Other Output)
    (d : Discipline g) (self : Thread) (op : Op) (rest : Program Call Reply Result)
    (shared meaning : Shared) : AtomicPhase Op Result → Prop where
  | pending (sound : d.sound meaning)
      (path : Path g d self (g.body self op) meaning rest shared) (once : Once d rest) :
      Progress g d self op rest shared meaning (.called op)
  | committed {result : Result} (sound : d.sound shared) (quiet : Quiet d rest)
      (ends : rest.ending (g.answer self) shared = some (result, meaning)) :
      Progress g d self op rest shared meaning (.performed result)

/-- The interleaved sections and the atomic object they stand for. -/
inductive Reduces (g : Guarded Thread Op Call Reply Result Shared Other Output)
    (d : Discipline g) (c : Interleaved Thread Op Call Reply Result Shared)
    (a : Atomic Thread Op Result Shared) :
    Prop where
  | free (unlocked : c.locked = false) (sound : d.sound c.shared) (same : c.shared = a.shared)
      (outside : ∀ thread, Outside (c.phases thread) (a.phases thread))
  | held {holder : Thread} {op : Op} {rest : Program Call Reply Result} (locked : c.locked = true)
      (inside : c.phases holder = .inside op rest)
      (outside : ∀ thread, thread ≠ holder → Outside (c.phases thread) (a.phases thread))
      (progress : Progress g d holder op rest c.shared a.shared (a.phases holder))

theorem Reduces.shared_of_free {c : Interleaved Thread Op Call Reply Result Shared}
    {a : Atomic Thread Op Result Shared} (reduces : Reduces g d c a) (unlocked : c.locked = false) :
    c.shared = a.shared := by
  cases reduces with
  | free _ _ same _ => exact same
  | held locked => cases locked.symm.trans unlocked

theorem Progress.ready (red : g.Reducible d) {self holder : Thread} {op held : Op}
    {rest : Program Call Reply Result} {shared meaning : Shared} {seen : AtomicPhase Op Result}
    (progress : Progress g d holder held rest shared meaning seen) (others : self ≠ holder) :
    g.ready shared self op = g.ready meaning self op := by
  cases progress with
  | pending sound path _ => exact path.ready red sound others
  | committed sound quiet ends => exact (quiet.ready red sound others ends).symm

theorem Progress.disturb (red : g.Reducible d) {holder : Thread} {held : Op}
    {rest : Program Call Reply Result} {shared meaning shared' : Shared}
    {seen : AtomicPhase Op Result} {act : Other} {output : Output}
    (progress : Progress g d holder held rest shared meaning seen)
    (others : g.actor act ≠ some holder)
    (disturbs : g.disturb shared act = some (output, shared')) :
    ∃ meaning', g.disturb meaning act = some (output, meaning') ∧
      Progress g d holder held rest shared' meaning' seen := by
  cases progress with
  | pending start path once =>
      obtain ⟨meaning', pulled, moved⟩ := path.pull red others disturbs
      exact ⟨meaning', pulled, .pending (red.disturbed start pulled) moved once⟩
  | committed sound quiet ends =>
      obtain ⟨meaning', pushed, ended⟩ := quiet.push red sound others ends disturbs
      exact ⟨meaning', pushed, .committed (red.disturbed sound disturbs) quiet ended⟩

section Step

variable [DecidableEq Thread]
variable {c c' : Interleaved Thread Op Call Reply Result Shared}
variable {a : Atomic Thread Op Result Shared} {self : Thread} {op : Op} {result : Result}

def Answers (g : Guarded Thread Op Call Reply Result Shared Other Output) (d : Discipline g)
    (a : Atomic Thread Op Result Shared)
    (entry : SectionAction Thread Op Other × SectionOutput Result Output)
    (c' : Interleaved Thread Op Call Reply Result Shared) : Prop :=
  ∃ labels a', Run g.AtomicStep anyStep a labels a' ∧
    labels.filterMap AtomicAction.event = [entry].filterMap SectionAction.event ∧
      Reduces g d c' a'

theorem Answers.silent {entry : SectionAction Thread Op Other × SectionOutput Result Output}
    (unseen : SectionAction.event entry = none) (reduces : Reduces g d c' a) :
    Answers g d a entry c' :=
  ⟨[], a, .nil, by simp [unseen], reduces⟩

theorem Answers.single {entry : SectionAction Thread Op Other × SectionOutput Result Output}
    {action : AtomicAction Thread Op Other} {output : SectionOutput Result Output}
    {a' : Atomic Thread Op Result Shared} (move : g.AtomicStep a action output a')
    (seen : AtomicAction.event (action, output) = SectionAction.event entry)
    (reduces : Reduces g d c' a') : Answers g d a entry c' :=
  ⟨[(action, output)], a', .snoc .nil trivial move, by simp [List.filterMap, seen], reduces⟩

theorem Outside.of_idle {phase : Phase Op Call Reply Result} {seen : AtomicPhase Op Result}
    (outside : Outside phase seen) (idle : phase.isIdle = true) : seen = .idle := by
  cases outside with
  | idle => rfl
  | waiting op => cases idle

theorem Outside.of_waiting {seen : AtomicPhase Op Result}
    (outside : Outside (.waiting op : Phase Op Call Reply Result) seen) : seen = .called op := by
  cases outside with
  | waiting op => rfl

theorem Outside.not_inside {rest : Program Call Reply Result} {seen : AtomicPhase Op Result}
    (outside : Outside (.inside op rest) seen) : False := by
  cases outside

theorem outside_update {phase : Phase Op Call Reply Result} {seen : AtomicPhase Op Result}
    (now : Outside phase seen) {thread : Thread}
    (outside : Outside (c.phases thread) (a.phases thread)) :
    Outside (update c.phases self phase thread) (update a.phases self seen thread) := by
  by_cases same : thread = self
  · subst same
    rw [Function.update_self, Function.update_self]
    exact now
  · rw [Function.update_of_ne same, Function.update_of_ne same]
    exact outside

theorem Reduces.holder (reduces : Reduces g d c a) {rest : Program Call Reply Result}
    (inside : c.phases self = .inside op rest) :
    c.locked = true ∧ (∀ thread, thread ≠ self → Outside (c.phases thread) (a.phases thread)) ∧
      Progress g d self op rest c.shared a.shared (a.phases self) := by
  cases reduces with
  | free _ _ _ outside =>
      have mine := outside self
      rw [inside] at mine
      exact mine.not_inside.elim
  | @held holder heldOp heldRest locked holds outside progress =>
      by_cases same : self = holder
      · subst same
        rw [holds] at inside
        cases inside
        exact ⟨locked, outside, progress⟩
      · have mine := outside self same
        rw [inside] at mine
        exact mine.not_inside.elim

theorem Reduces.call (red : g.Reducible d) (reduces : Reduces g d c a)
    (idle : (c.phases self).isIdle = true) (ready : g.ready c.shared self op = true) :
    Answers g d a (.call self op, .none)
      { c with phases := update c.phases self (.waiting op) } := by
  cases reduces with
  | free unlocked sound same outside =>
      have rests := (outside self).of_idle idle
      rw [same] at ready
      apply Answers.single (.call rests ready) rfl
      exact .free unlocked sound same fun thread => outside_update (.waiting op) (outside thread)
  | @held holder held rest locked inside outside progress =>
      have other : self ≠ holder := by
        rintro rfl
        rw [inside] at idle
        cases idle
      have rests := (outside self other).of_idle idle
      rw [progress.ready red other] at ready
      apply Answers.single (.call rests ready) rfl
      have still : update c.phases self (.waiting op) holder = .inside held rest :=
        (Function.update_of_ne other.symm _ _).trans inside
      refine .held locked still
        (fun thread apart => outside_update (.waiting op) (outside thread apart)) ?_
      · dsimp only
        rw [Function.update_of_ne other.symm]
        exact progress

theorem Reduces.attempt (red : g.Reducible d) (reduces : Reduces g d c a)
    (waiting : c.phases self = .waiting op) (unlocked : c.locked = false) :
    Answers g d a (.attempt self, .none)
      { c with locked := true, phases := update c.phases self (.inside op (g.body self op)) } := by
  cases reduces with
  | held locked =>
      rw [locked] at unlocked
      cases unlocked
  | free _ sound same outside =>
      apply Answers.silent rfl
      have mine := outside self
      rw [waiting] at mine
      have seen := mine.of_waiting
      have inside : update c.phases self (.inside op (g.body self op)) self =
          .inside op (g.body self op) := Function.update_self _ _ _
      refine .held rfl inside ?_ ?_
      · intro thread other
        dsimp only
        rw [Function.update_of_ne other]
        exact outside thread
      · rw [same] at sound
        rw [seen, same]
        exact .pending sound .refl (red.once self op)

/-- A call that others see is the moment at which the operation takes effect. -/
theorem Reduces.advance (red : g.Reducible d) (reduces : Reduces g d c a) {call : Call}
    {next : Reply call → Program Call Reply Result}
    (inside : c.phases self = .inside op (.ask call next)) :
    Answers g d a (.advance self, .none)
      { c with
        shared := (g.answer self c.shared call).2
        phases := update c.phases self (.inside op (next (g.answer self c.shared call).1)) } := by
  obtain ⟨locked, outside, progress⟩ := reduces.holder inside
  have others {seen : AtomicPhase Op Result} (thread : Thread) (other : thread ≠ self) :
      Outside (update c.phases self (.inside op (next (g.answer self c.shared call).1)) thread)
        (update a.phases self seen thread) := by
    rw [Function.update_of_ne other, Function.update_of_ne other]
    exact outside thread other
  generalize seen : a.phases self = phase at progress
  have kept : update a.phases self phase = a.phases := by
    rw [← seen, Function.update_eq_self]
  have mine := Function.update_self self
    (Phase.inside op (next (g.answer self c.shared call).1)) c.phases
  cases progress with
  | committed sound quiet ends =>
      apply Answers.silent rfl
      cases quiet with
      | ask silent permitted rest =>
          refine .held locked mine (kept ▸ others) ?_
          dsimp only
          rw [seen]
          exact .committed (red.kept sound permitted) (rest _ (red.replies self call sound)) ends
  | pending start path once =>
      have sound := path.sound red start
      cases once with
      | ask silent permitted rest =>
          apply Answers.silent rfl
          refine .held locked mine (kept ▸ others) ?_
          dsimp only
          rw [seen]
          exact .pending start (path.snoc silent permitted)
            (rest _ (red.replies self call sound))
      | loud permitted rest =>
          have quiet := rest _ (red.replies self call sound)
          have after : d.sound (g.answer self c.shared call).2 := red.kept sound permitted
          obtain ⟨result, last, ends⟩ := quiet.ends red self after
          have takes : g.effect self op a.shared = some (result, last) := path.ending.trans ends
          refine .single (.perform seen takes) rfl (.held locked mine others ?_)
          dsimp only
          rw [Function.update_self]
          exact .committed after quiet ends

theorem Reduces.release (red : g.Reducible d) (reduces : Reduces g d c a)
    (inside : c.phases self = .inside op (.done result)) :
    Answers g d a (.release self, .returned result)
      { c with locked := false, phases := update c.phases self .idle } := by
  obtain ⟨locked, outside, progress⟩ := reduces.holder inside
  have all {shared : Shared} (sound : d.sound c.shared) (same : c.shared = shared) :
      Reduces g d { c with locked := false, phases := update c.phases self .idle }
        { shared, phases := update a.phases self .idle } := by
    refine .free rfl sound same fun thread => ?_
    by_cases mine : thread = self
    · subst mine
      dsimp only
      rw [Function.update_self, Function.update_self]
      exact .idle
    · dsimp only
      rw [Function.update_of_ne mine, Function.update_of_ne mine]
      exact outside thread mine
  generalize seen : a.phases self = phase at progress
  cases progress with
  | committed sound quiet ends =>
      obtain ⟨rfl, same⟩ := Prod.mk.inj (Option.some.inj ends)
      exact .single (.ret seen) rfl (all sound same)
  | pending start path once =>
      -- an operation that no one has seen takes effect when the lock is given back
      have takes : g.effect self op a.shared = some (result, c.shared) := path.ending
      let middle : Atomic Thread Op Result Shared :=
        { a with shared := c.shared, phases := update a.phases self (.performed result) }
      have performed : g.AtomicStep a (.perform self op) (.returned result) middle :=
        .perform seen takes
      have returned := AtomicStep.ret (g := g) (a := middle) (Function.update_self self _ _)
      refine ⟨_, _, (Run.nil.snoc trivial performed).snoc trivial returned, rfl, ?_⟩
      rw [show update middle.phases self .idle = update a.phases self .idle from
        Function.update_idem _ _ _]
      exact all (path.sound red start) rfl

theorem Reduces.other (red : g.Reducible d) (reduces : Reduces g d c a) {act : Other}
    {output : Output} {shared' : Shared}
    (idle : (g.actor act).all (fun thread => (c.phases thread).isIdle) = true)
    (disturbs : g.disturb c.shared act = some (output, shared')) :
    Answers g d a (.other act, .did output) { c with shared := shared' } := by
  have idleOf (thread : Thread) (acts : g.actor act = some thread) :
      (c.phases thread).isIdle = true := by
    rw [acts] at idle
    exact idle
  cases reduces with
  | free unlocked sound same outside =>
      have after := red.disturbed sound disturbs
      rw [same] at disturbs
      have rests (thread : Thread) (acts : g.actor act = some thread) :=
        (outside thread).of_idle (idleOf thread acts)
      exact .single (.other rests disturbs) rfl (.free unlocked after rfl outside)
  | @held holder held rest locked inside outside progress =>
      have others : g.actor act ≠ some holder := by
        intro acts
        have idle := idleOf holder acts
        rw [inside] at idle
        cases idle
      obtain ⟨meaning', moved, progress⟩ := progress.disturb red others disturbs
      have rests (thread : Thread) (acts : g.actor act = some thread) :=
        (outside thread fun same => others (same ▸ acts)).of_idle (idleOf thread acts)
      exact .single (.other rests moved) rfl (.held locked inside outside progress)

theorem Reduces.step (red : g.Reducible d) (reduces : Reduces g d c a)
    {action : SectionAction Thread Op Other} {output : SectionOutput Result Output}
    (move : g.InterleavedStep c action output c') : Answers g d a (action, output) c' := by
  cases action with
  | call self op =>
      simp only [InterleavedStep, interleave] at move
      split at move
      · rename_i may
        obtain ⟨idle, ready⟩ := Bool.and_eq_true_iff.mp may
        cases move
        exact reduces.call red idle ready
      · cases move
  | attempt self =>
      simp only [InterleavedStep, interleave] at move
      split at move
      · rename_i op waiting
        split at move
        · cases move
          exact .silent rfl reduces
        · rename_i unlocked
          cases move
          exact reduces.attempt red waiting (Bool.eq_false_iff.mpr unlocked)
      · cases move
  | advance self =>
      simp only [InterleavedStep, interleave] at move
      split at move
      · rename_i op call next inside
        cases move
        exact reduces.advance red inside
      · cases move
  | release self =>
      simp only [InterleavedStep, interleave] at move
      split at move
      · rename_i op result inside
        cases move
        exact reduces.release red inside
      · cases move
  | other act =>
      simp only [InterleavedStep, interleave] at move
      split at move
      · rename_i idle
        obtain ⟨⟨done, shared'⟩, disturbs, result⟩ := Option.map_eq_some_iff.mp move
        cases result
        exact reduces.other red idle disturbs
      · cases move

end Step

/-! ## Runs -/

variable [DecidableEq Thread]

/-- Every run of the threads is, up to what is called and returned, a run of the atomic
object, which stands for the state that the run ends in. -/
theorem sections_atomic (red : g.Reducible d)
    {start : Shared} {trace : List (SectionAction Thread Op Other × SectionOutput Result Output)}
    {final : Interleaved Thread Op Call Reply Result Shared}
    (run : Run g.InterleavedStep anyStep (interleaved start) trace final)
    (sound : d.sound start) :
    ∃ labels last, Run g.AtomicStep anyStep (atomic start) labels last ∧
      labels.filterMap AtomicAction.event = trace.filterMap SectionAction.event ∧
        Reduces g d final last := by
  have initial : Reduces g d (interleaved start) (atomic start) :=
    .free rfl sound rfl fun _ => .idle
  exact run.simulate_observed
    (fun _ _ _ _ _ reduces _ move => reduces.step red move) initial

theorem sections_exclusive (red : g.Reducible d)
    {start : Shared} {trace : List (SectionAction Thread Op Other × SectionOutput Result Output)}
    {final : Interleaved Thread Op Call Reply Result Shared}
    (run : Run g.InterleavedStep anyStep (interleaved start) trace final) (sound : d.sound start)
    {first second : Thread} {op op' : Op} {rest rest' : Program Call Reply Result}
    (here : final.phases first = .inside op rest)
    (there : final.phases second = .inside op' rest') :
    first = second := by
  obtain ⟨_, _, _, _, reduces⟩ := sections_atomic red run sound
  by_contra different
  have outside := (reduces.holder here).2.1 second (Ne.symm different)
  rw [there] at outside
  exact outside.not_inside

theorem interleaved_run_of_actions (g : Guarded Thread Op Call Reply Result Shared Other Output)
    (c : Interleaved Thread Op Call Reply Result Shared)
    (actions : List (SectionAction Thread Op Other))
    (test : List (SectionAction Thread Op Other × SectionOutput Result Output) →
      Interleaved Thread Op Call Reply Result Shared → Bool)
    (passed : (execute g.interleave (fun _ _ => true) c actions).any
      (fun run => test run.1 run.2) = true) :
    ∃ trace final, Run g.InterleavedStep anyStep c trace final ∧ test trace final = true :=
  run_of_execute (fun _ _ _ _ moved => moved) (fun _ _ _ => trivial) passed

/-! ## Operations that stay ready -/

/-- Nobody else takes the readiness of a thread away. -/
structure Steady (g : Guarded Thread Op Call Reply Result Shared Other Output)
    (d : Discipline g) : Prop where
  answer : ∀ {self thread : Thread} {shared : Shared} {op : Op} (call : Call), d.sound shared →
    thread ≠ self → g.ready (g.answer self shared call).2 thread op = g.ready shared thread op
  disturb : ∀ {thread : Thread} {shared shared' : Shared} {act : Other} {output : Output} {op : Op},
    d.sound shared → g.actor act ≠ some thread → g.disturb shared act = some (output, shared') →
      g.ready shared' thread op = g.ready shared thread op

def Keeps (d : Discipline g) (self : Thread) (shared shared' : Shared) : Prop :=
  d.sound shared' ∧ ∀ thread op, thread ≠ self →
    g.ready shared' thread op = g.ready shared thread op

omit [DecidableEq Thread] in
theorem Keeps.after_call (steady : g.Steady d) {self : Thread} {call : Call}
    {shared last : Shared} (sound : d.sound shared)
    (rest : Keeps d self (g.answer self shared call).2 last) : Keeps d self shared last := by
  obtain ⟨after, same⟩ := rest
  refine ⟨after, fun thread op other => ?_⟩
  rw [same thread op other, steady.answer call sound other]

omit [DecidableEq Thread] in
theorem Quiet.keeps (red : g.Reducible d) (steady : g.Steady d) {self : Thread}
    {program : Program Call Reply Result} {shared last : Shared} {result : Result}
    (quiet : Quiet d program) (sound : d.sound shared)
    (ends : program.ending (g.answer self) shared = some (result, last)) :
    Keeps d self shared last := by
  induction quiet generalizing shared with
  | done value =>
      cases ends
      exact ⟨sound, fun _ _ _ => rfl⟩
  | ask _ permitted _ ih =>
      exact (ih _ (red.replies self _ sound) (red.kept sound permitted) ends).after_call
        steady sound

omit [DecidableEq Thread] in
theorem Once.keeps (red : g.Reducible d) (steady : g.Steady d) {self : Thread}
    {program : Program Call Reply Result} {shared last : Shared} {result : Result}
    (once : Once d program) (sound : d.sound shared)
    (ends : program.ending (g.answer self) shared = some (result, last)) :
    Keeps d self shared last := by
  induction once generalizing shared with
  | done value =>
      cases ends
      exact ⟨sound, fun _ _ _ => rfl⟩
  | stuck => cases ends
  | loud permitted rest =>
      exact ((rest _ (red.replies self _ sound)).keeps red steady (red.kept sound permitted)
        ends).after_call steady sound
  | ask _ permitted _ ih =>
      exact (ih _ (red.replies self _ sound) (red.kept sound permitted) ends).after_call
        steady sound

structure Settled (d : Discipline g) (a : Atomic Thread Op Result Shared) : Prop where
  sound : d.sound a.shared
  ready : ∀ thread op, a.phases thread = .called op → g.ready a.shared thread op = true

theorem Settled.step (red : g.Reducible d) (steady : g.Steady d)
    {a a' : Atomic Thread Op Result Shared} {action : AtomicAction Thread Op Other}
    {output : SectionOutput Result Output} (settled : Settled d a)
    (move : g.AtomicStep a action output a') : Settled d a' := by
  cases move with
  | @call self op rests ready =>
      refine ⟨settled.sound, fun thread other called => ?_⟩
      by_cases same : thread = self
      · subst same
        dsimp only at called
        rw [Function.update_self] at called
        cases called
        exact ready
      · dsimp only at called
        rw [Function.update_of_ne same] at called
        exact settled.ready thread other called
  | @perform self op result shared entered takes =>
      obtain ⟨sound, same⟩ := (red.once self op).keeps red steady settled.sound takes
      refine ⟨sound, fun thread other called => ?_⟩
      by_cases mine : thread = self
      · subst mine
        dsimp only at called
        rw [Function.update_self] at called
        cases called
      · dsimp only at called
        rw [Function.update_of_ne mine] at called
        rw [same thread other mine]
        exact settled.ready thread other called
  | @ret self result done =>
      refine ⟨settled.sound, fun thread other called => ?_⟩
      by_cases mine : thread = self
      · subst mine
        dsimp only at called
        rw [Function.update_self] at called
        cases called
      · dsimp only at called
        rw [Function.update_of_ne mine] at called
        exact settled.ready thread other called
  | @other act output shared outside disturbs =>
      refine ⟨red.disturbed settled.sound disturbs, fun thread other called => ?_⟩
      have others : g.actor act ≠ some thread := by
        intro acts
        cases (outside thread acts).symm.trans called
      rw [steady.disturb settled.sound others disturbs]
      exact settled.ready thread other called

def ReadyTurn (g : Guarded Thread Op Call Reply Result Shared Other Output) (shared : Shared) :
    Turn Thread Op Other → Prop
  | .op self op => g.ready shared self op = true
  | .other _ => True

/-- The operations of the atomic object in the order in which they take effect, each in a
state in which its thread may enter it. -/
theorem ready_turns (red : g.Reducible d) (steady : g.Steady d) {start : Shared}
    {last : Atomic Thread Op Result Shared}
    {labels : List (AtomicAction Thread Op Other × SectionOutput Result Output)}
    (run : Run g.AtomicStep anyStep (atomic start) labels last) (sound : d.sound start) :
    Run g.TurnStep g.ReadyTurn start (labels.filterMap AtomicAction.turn) last.shared := by
  have initial : Settled d (atomic start) :=
    ⟨sound, fun _ _ called => by cases called⟩
  have always : Settled d last ∧
      Run g.TurnStep g.ReadyTurn start (labels.filterMap AtomicAction.turn) last.shared := by
    induction run with
    | nil => exact ⟨initial, .nil⟩
    | snoc _ _ move ih =>
        obtain ⟨settled, turns⟩ := ih
        refine ⟨settled.step red steady move, ?_⟩
        rw [List.filterMap_append]
        cases move with
        | call | ret =>
            change Run g.TurnStep g.ReadyTurn start (_ ++ []) _
            rw [List.append_nil]
            exact turns
        | perform entered takes => exact turns.snoc (settled.ready _ _ entered) (.op takes)
        | other _ disturbs => exact turns.snoc trivial (.other disturbs)
  exact always.2

end Guarded

end AresCommon.Foundation
