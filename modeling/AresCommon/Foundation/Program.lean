import Mathlib.Data.List.Basic

/-!
# Programs that call an environment

A program is done with a result, or it makes a call and goes on with whatever the
environment replies. A loop without a bound is written with fuel and is `stuck` when
that has run out; its calls so far are the calls of the loop.

What a program may rely on and what it owes is a contract over a ghost state: which
calls it may make, which replies the environment gives, and how the ghost state follows
the calls. `Contract.wp` is the weakest precondition under a contract.
-/

namespace AresCommon.Foundation

set_option autoImplicit false

inductive Program (Call : Type) (Reply : Call → Type) (Result : Type) : Type where
  | done (result : Result)
  | stuck
  | ask (call : Call) (next : Reply call → Program Call Reply Result)

abbrev Event (Call : Type) (Reply : Call → Type) : Type := (call : Call) × Reply call

namespace Program

variable {Call : Type} {Reply : Call → Type} {Result Other : Type}

def bind : Program Call Reply Result → (Result → Program Call Reply Other) →
    Program Call Reply Other
  | .done result, rest => rest result
  | .stuck, _ => .stuck
  | .ask call next, rest => .ask call fun reply => (next reply).bind rest

instance : Monad (Program Call Reply) where
  pure := .done
  bind := bind

theorem bind_assoc {Last : Type} (program : Program Call Reply Result)
    (rest : Result → Program Call Reply Other) (last : Other → Program Call Reply Last) :
    program >>= rest >>= last = program >>= fun result => rest result >>= last := by
  induction program with
  | done result => rfl
  | stuck => rfl
  | ask call next ih => exact congrArg (Program.ask call) (funext fun reply => ih reply)

def request (call : Call) : Program Call Reply (Reply call) := .ask call .done

/-- What a program does: the calls it has made so far, with their replies, and its
result once it has one. -/
inductive Yields : Program Call Reply Result → List (Event Call Reply) → Option Result →
    Prop where
  | finished (result : Result) : Yields (.done result) [] (some result)
  | unfinished (program : Program Call Reply Result) : Yields program [] none
  | asked {call : Call} {next : Reply call → Program Call Reply Result} {reply : Reply call}
      {events : List (Event Call Reply)} {outcome : Option Result}
      (rest : Yields (next reply) events outcome) :
      Yields (.ask call next) (⟨call, reply⟩ :: events) outcome

theorem Yields.of_pure {result last : Result} {events : List (Event Call Reply)}
    (yields : Yields (pure result) events (some last)) : last = result ∧ events = [] := by
  cases yields
  exact ⟨rfl, rfl⟩

theorem Yields.split {program : Program Call Reply Result}
    {rest : Result → Program Call Reply Other} {events : List (Event Call Reply)} {last : Other}
    (yields : Yields (program >>= rest) events (some last)) :
    ∃ earlier later middle, Yields program earlier (some middle) ∧
      Yields (rest middle) later (some last) ∧ events = earlier ++ later := by
  induction program generalizing events with
  | done result => exact ⟨[], events, result, .finished result, yields, rfl⟩
  | stuck => cases yields
  | ask call next ih =>
      cases yields with
      | asked yields =>
          obtain ⟨earlier, later, middle, first, second, rfl⟩ := ih _ yields
          exact ⟨_ :: earlier, later, middle, .asked first, second, rfl⟩

theorem Yields.of_map {program : Program Call Reply Result} {value : Result → Other}
    {events : List (Event Call Reply)} {last : Other}
    (yields : Yields (program >>= fun result => pure (value result)) events (some last)) :
    ∃ result, Yields program events (some result) ∧ value result = last := by
  obtain ⟨earlier, later, result, first, second, rfl⟩ := yields.split
  cases second
  rw [List.append_nil]
  exact ⟨result, first, rfl⟩

variable {World : Type}

/-- Run a program in a world that answers its calls. -/
def play (answer : World → (call : Call) → Reply call × World) :
    Program Call Reply Result → World → List (Event Call Reply) × Option Result
  | .done result, _ => ([], some result)
  | .stuck, _ => ([], none)
  | .ask call next, world =>
      let (reply, world) := answer world call
      let (events, outcome) := play answer (next reply) world
      (⟨call, reply⟩ :: events, outcome)

theorem play_yields (answer : World → (call : Call) → Reply call × World)
    (program : Program Call Reply Result) (world : World) :
    Yields program (program.play answer world).1 (program.play answer world).2 := by
  induction program generalizing world with
  | done result => exact .finished result
  | stuck => exact .unfinished _
  | ask call next ih => exact .asked (ih _ _)

theorem yields_of_play {answer : World → (call : Call) → Reply call × World}
    {program : Program Call Reply Result} {world : World} {outcome : Option Result}
    (ended : (program.play answer world).2 = outcome) :
    Yields program (program.play answer world).1 outcome :=
  ended ▸ play_yields answer program world

theorem play_replies (reply : (call : Call) → Reply call) (program : Program Call Reply Result)
    (world : World) : ∀ event ∈ (program.play (fun world call => (reply call, world)) world).1,
      event.2 = reply event.1 := by
  induction program with
  | done result => exact fun _ listed => absurd listed List.not_mem_nil
  | stuck => exact fun _ listed => absurd listed List.not_mem_nil
  | ask call next ih =>
      intro event listed
      rcases List.mem_cons.mp listed with rfl | listed
      · rfl
      · exact ih _ event listed

def ending (answer : World → (call : Call) → Reply call × World) :
    Program Call Reply Result → World → Option (Result × World)
  | .done result, world => some (result, world)
  | .stuck, _ => none
  | .ask call next, world => ending answer (next (answer world call).1) (answer world call).2

theorem ending_bind (answer : World → (call : Call) → Reply call × World)
    (program : Program Call Reply Result) (rest : Result → Program Call Reply Other)
    (world : World) :
    (program >>= rest).ending answer world =
      (program.ending answer world).bind fun ended => (rest ended.1).ending answer ended.2 := by
  induction program generalizing world with
  | done result => rfl
  | stuck => rfl
  | ask call next ih => exact ih _ _

@[simp] theorem ending_pure (answer : World → (call : Call) → Reply call × World)
    (result : Result) (world : World) :
    (pure result : Program Call Reply Result).ending answer world = some (result, world) := rfl

@[simp] theorem ending_request (answer : World → (call : Call) → Reply call × World)
    {call : Call} (rest : Reply call → Program Call Reply Result) (world : World) :
    (request call >>= rest).ending answer world =
      (rest (answer world call).1).ending answer (answer world call).2 := rfl

@[simp] theorem ending_stuck (answer : World → (call : Call) → Reply call × World) (world : World) :
    (stuck : Program Call Reply Result).ending answer world = none := rfl

@[simp] theorem ending_single (answer : World → (call : Call) → Reply call × World) (call : Call)
    (world : World) : (request call).ending answer world = some (answer world call) := rfl

theorem ending_ite (answer : World → (call : Call) → Reply call × World) {condition : Prop}
    [Decidable condition] (first second : Program Call Reply Result) (world : World) :
    (if condition then first else second).ending answer world =
      if condition then first.ending answer world else second.ending answer world :=
  apply_ite (fun program => program.ending answer world) condition first second

theorem play_ending (answer : World → (call : Call) → Reply call × World)
    (program : Program Call Reply Result) (world : World) :
    (program.play answer world).2 = (program.ending answer world).map Prod.fst := by
  induction program generalizing world with
  | done result => rfl
  | stuck => rfl
  | ask call next ih => exact ih _ _

end Program

/-- A contract between a program and its environment, over a ghost state. -/
structure Contract (Call : Type) (Reply : Call → Type) (Ghost : Type) where
  permits : Ghost → Call → Prop
  honest : Ghost → (call : Call) → Reply call → Prop
  observe : Ghost → (call : Call) → Reply call → Ghost

namespace Contract

variable {Call : Type} {Reply : Call → Type} {Ghost Result Other : Type}
variable (contract : Contract Call Reply Ghost)

def after (ghost : Ghost) (events : List (Event Call Reply)) : Ghost :=
  events.foldl (fun ghost event => contract.observe ghost event.1 event.2) ghost

/-- The environment keeps the contract in all its replies. -/
def Honest : Ghost → List (Event Call Reply) → Prop
  | _, [] => True
  | ghost, ⟨call, reply⟩ :: events =>
      contract.honest ghost call reply ∧ Honest (contract.observe ghost call reply) events

/-- The program keeps the contract in all its calls. -/
def Permitted : Ghost → List (Event Call Reply) → Prop
  | _, [] => True
  | ghost, ⟨call, reply⟩ :: events =>
      contract.permits ghost call ∧ Permitted (contract.observe ghost call reply) events

variable {contract} in
theorem after_append {ghost : Ghost} {earlier later : List (Event Call Reply)} :
    contract.after ghost (earlier ++ later) =
      contract.after (contract.after ghost earlier) later := List.foldl_append

variable {contract} in
theorem permitted_append {ghost : Ghost} {earlier later : List (Event Call Reply)} :
    contract.Permitted ghost (earlier ++ later) ↔ contract.Permitted ghost earlier ∧
      contract.Permitted (contract.after ghost earlier) later := by
  induction earlier generalizing ghost with
  | nil => simp [Permitted, after]
  | cons event earlier ih =>
      obtain ⟨call, reply⟩ := event
      rw [List.cons_append, Permitted, Permitted, ih, and_assoc]
      exact Iff.rfl

def wp : Program Call Reply Result → (Result → Ghost → Prop) → Ghost → Prop
  | .done result, post, ghost => post result ghost
  | .stuck, _, _ => True
  | .ask call next, post, ghost => contract.permits ghost call ∧
      ∀ reply, contract.honest ghost call reply →
        wp (next reply) post (contract.observe ghost call reply)

/-- No promises on replies; every call is one of these. -/
def only (permitted : Call → Prop) : Contract Call Reply Unit where
  permits := fun _ call => permitted call
  honest := fun _ _ _ => True
  observe := fun _ _ _ => ()

variable {contract}

@[simp]
theorem wp_done (result : Result) (post : Result → Ghost → Prop) (ghost : Ghost) :
    contract.wp (.done result) post ghost ↔ post result ghost := Iff.rfl

@[simp]
theorem wp_stuck (post : Result → Ghost → Prop) (ghost : Ghost) :
    contract.wp .stuck post ghost ↔ True := Iff.rfl

@[simp]
theorem wp_pure (result : Result) (post : Result → Ghost → Prop) (ghost : Ghost) :
    contract.wp (pure result) post ghost ↔ post result ghost := Iff.rfl

@[simp]
theorem wp_request (call : Call) (post : Reply call → Ghost → Prop) (ghost : Ghost) :
    contract.wp (.request call) post ghost ↔ contract.permits ghost call ∧
      ∀ reply, contract.honest ghost call reply →
        post reply (contract.observe ghost call reply) := Iff.rfl

/-- The rule of sequencing. -/
@[simp]
theorem wp_bind (program : Program Call Reply Result)
    (rest : Result → Program Call Reply Other) (post : Other → Ghost → Prop) (ghost : Ghost) :
    contract.wp (program >>= rest) post ghost ↔
      contract.wp program (fun result ghost => contract.wp (rest result) post ghost) ghost := by
  induction program generalizing ghost with
  | done result => exact Iff.rfl
  | stuck => exact Iff.rfl
  | ask call next ih =>
      refine and_congr_right fun _ => forall_congr' fun reply => ?_
      exact imp_congr_right fun _ => ih reply _

/-- The rule of consequence. -/
theorem wp_mono {program : Program Call Reply Result} {post weaker : Result → Ghost → Prop}
    {ghost : Ghost} (holds : contract.wp program post ghost)
    (weaken : ∀ result ghost, post result ghost → weaker result ghost) :
    contract.wp program weaker ghost := by
  induction program generalizing ghost with
  | done result => exact weaken _ _ holds
  | stuck => trivial
  | ask call next ih =>
      exact ⟨holds.1, fun reply honest => ih reply (holds.2 reply honest)⟩

/-- What the weakest precondition promises of every execution, finished or not. -/
theorem wp_sound {program : Program Call Reply Result} {post : Result → Ghost → Prop}
    {ghost : Ghost} {events : List (Event Call Reply)} {outcome : Option Result}
    (holds : contract.wp program post ghost) (yields : program.Yields events outcome)
    (honest : contract.Honest ghost events) :
    contract.Permitted ghost events ∧
      ∀ result, outcome = some result → post result (contract.after ghost events) := by
  induction yields generalizing ghost with
  | finished result =>
      refine ⟨trivial, ?_⟩
      rintro _ ⟨rfl⟩
      exact holds
  | unfinished program => exact ⟨trivial, fun _ none => by cases none⟩
  | asked rest ih =>
      obtain ⟨reply, later⟩ := honest
      obtain ⟨permitted, finishes⟩ := ih (holds.2 _ reply) later
      exact ⟨⟨holds.1, permitted⟩, finishes⟩

theorem honest_of_always (always : ∀ ghost call reply, contract.honest ghost call reply)
    (ghost : Ghost) (events : List (Event Call Reply)) : contract.Honest ghost events := by
  induction events generalizing ghost with
  | nil => trivial
  | cons event events ih => exact ⟨always _ _ _, ih _⟩

theorem play_honest {answer : Ghost → (call : Call) → Reply call}
    (truthful : ∀ ghost call, contract.honest ghost call (answer ghost call))
    (program : Program Call Reply Result) (ghost : Ghost) :
    contract.Honest ghost (program.play (fun ghost call =>
      (answer ghost call, contract.observe ghost call (answer ghost call))) ghost).1 := by
  induction program generalizing ghost with
  | done result => trivial
  | stuck => trivial
  | ask call next ih => exact ⟨truthful ghost call, ih _ _⟩

theorem only_permitted {permitted : Call → Prop} {events : List (Event Call Reply)} :
    (Contract.only permitted).Permitted () events ↔ ∀ event ∈ events, permitted event.1 := by
  induction events with
  | nil => simp [Permitted]
  | cons event events ih =>
      obtain ⟨call, reply⟩ := event
      rw [Permitted, List.forall_mem_cons, ← ih]
      exact Iff.rfl

theorem only_mono {permitted wider : Call → Prop} {program : Program Call Reply Result}
    {post : Result → Unit → Prop} (holds : (Contract.only permitted).wp program post ())
    (widen : ∀ call, permitted call → wider call) :
    (Contract.only wider).wp program post () := by
  induction program with
  | done result => exact holds
  | stuck => trivial
  | ask call next ih => exact ⟨widen _ holds.1, fun reply _ => ih reply (holds.2 reply trivial)⟩

theorem calls_of_only {permitted : Call → Prop} {program : Program Call Reply Result}
    {post : Result → Unit → Prop} {events : List (Event Call Reply)} {outcome : Option Result}
    (holds : (Contract.only permitted).wp program post ())
    (yields : program.Yields events outcome) : ∀ event ∈ events, permitted event.1 :=
  only_permitted.mp
    (wp_sound holds yields (honest_of_always (fun _ _ _ => trivial) _ _)).1

/-- Of a program whose calls are all quiet, permitted ones that leave the ghost state
alone, a postcondition that ignores the ghost state carries over. -/
theorem wp_of_quiet {quiet : Call → Prop} {program : Program Call Reply Result} {ghost : Ghost}
    {post : Result → Prop}
    (silent : ∀ call, quiet call → contract.permits ghost call ∧
      ∀ reply, contract.honest ghost call reply → contract.observe ghost call reply = ghost)
    (calls : (Contract.only quiet).wp program (fun result _ => post result) ()) :
    contract.wp program (fun result after => post result ∧ after = ghost) ghost := by
  induction program with
  | done result => exact ⟨calls, rfl⟩
  | stuck => trivial
  | ask call next ih =>
      obtain ⟨permitted, unchanged⟩ := silent call calls.1
      refine ⟨permitted, fun reply honest => ?_⟩
      rw [unchanged reply honest]
      exact ih reply (calls.2 reply trivial)

/-! ### Recording

A contract whose ghost state is the list of all calls so far.
-/

def recording (permits : List (Event Call Reply) → Call → Prop)
    (honest : List (Event Call Reply) → (call : Call) → Reply call → Prop) :
    Contract Call Reply (List (Event Call Reply)) where
  permits := permits
  honest := honest
  observe := fun past call reply => past ++ [⟨call, reply⟩]

section Recording

variable {permits : List (Event Call Reply) → Call → Prop}
variable {honest : List (Event Call Reply) → (call : Call) → Reply call → Prop}

theorem recording_after (past events : List (Event Call Reply)) :
    (recording permits honest).after past events = past ++ events := by
  induction events generalizing past with
  | nil => exact (List.append_nil past).symm
  | cons event events ih => exact (ih _).trans (List.append_assoc past [event] events)

theorem recording_permitted {events : List (Event Call Reply)}
    (permitted : (recording permits honest).Permitted [] events)
    (earlier : List (Event Call Reply)) (event : Event Call Reply)
    (later : List (Event Call Reply)) (split : events = earlier ++ event :: later) :
    permits earlier event.1 := by
  subst split
  have permits := (permitted_append.mp permitted).2.1
  rwa [recording_after, List.nil_append] at permits

end Recording

end Contract

/-- A program that works on an object and may throw. What it wrote to the object before
it threw stays written. -/
abbrev Method (Call : Type) (Reply : Call → Type) (Object Error Result : Type) : Type :=
  ExceptT Error (StateT Object (Program Call Reply)) Result

namespace Method

variable {Call : Type} {Reply : Call → Type} {Object Inner Error Raised Result Other : Type}

def on (method : Method Call Reply Object Error Result) (object : Object) :
    Program Call Reply (Except Error Result × Object) := method.run.run object

def request (call : Call) : Method Call Reply Object Error (Reply call) :=
  ExceptT.lift (StateT.lift (.request call))

def stuck : Method Call Reply Object Error Result := ExceptT.mk fun _ => .stuck

def attempt (method : Method Call Reply Object Error Result) :
    Method Call Reply Object Raised (Except Error Result) :=
  ExceptT.lift method.run

/-- Work on an object of one's own, which is lost on a throw. -/
def within (method : Method Call Reply Inner Error Result) (inner : Inner) :
    Method Call Reply Object Error (Result × Inner) :=
  ExceptT.mk fun object => do
    match ← method.on inner with
    | (.ok result, inner) => pure (.ok (result, inner), object)
    | (.error error, _) => pure (.error error, object)

def resume (rest : Other × Inner → Method Call Reply Object Error Result) (object : Object) :
    Except Error Other × Inner → Program Call Reply (Except Error Result × Object)
  | (.ok result, inner) => (rest (result, inner)).on object
  | (.error error, _) => pure (.error error, object)

theorem on_within (method : Method Call Reply Inner Error Other) (inner : Inner)
    (rest : Other × Inner → Method Call Reply Object Error Result) (object : Object) :
    (method.within inner >>= rest).on object = method.on inner >>= resume rest object := by
  refine (Program.bind_assoc (method.on inner) _ _).trans ?_
  apply congrArg (method.on inner >>= ·)
  funext outcome
  rcases outcome with ⟨error | result, inner⟩ <;> rfl

end Method

namespace Contract

variable {Call : Type} {Reply : Call → Type} {Ghost : Type}
variable {Object Inner Error Raised Result Other : Type}
variable (contract : Contract Call Reply Ghost)

/-- The weakest precondition of a method, with one postcondition for a return and one
for a throw. -/
def runs (method : Method Call Reply Object Error Result) (object : Object)
    (returns : Result → Object → Ghost → Prop) (throws : Error → Object → Ghost → Prop)
    (ghost : Ghost) : Prop :=
  contract.wp (method.on object) (fun outcome ghost =>
    match outcome.1 with
    | .ok result => returns result outcome.2 ghost
    | .error error => throws error outcome.2 ghost) ghost

variable {contract}
variable {object : Object} {ghost : Ghost}
variable {returns : Result → Object → Ghost → Prop} {throws : Error → Object → Ghost → Prop}

@[simp]
theorem runs_pure (result : Result) :
    contract.runs (pure result) object returns throws ghost ↔ returns result object ghost :=
  Iff.rfl

@[simp]
theorem runs_throw (error : Error) :
    contract.runs (throw error) object returns throws ghost ↔ throws error object ghost :=
  Iff.rfl

@[simp]
theorem runs_stuck : contract.runs .stuck object returns throws ghost ↔ True := Iff.rfl

private theorem wp_cases {method : Method Call Reply Object Error Other}
    {next : Except Error Other → StateT Object (Program Call Reply) (Except Raised Result)}
    {throws : Raised → Object → Ghost → Prop} :
    contract.runs (ExceptT.mk (method.run >>= next)) object returns throws ghost ↔
      contract.runs method object
        (fun result object ghost =>
          contract.runs (ExceptT.mk (next (.ok result))) object returns throws ghost)
        (fun error object ghost =>
          contract.runs (ExceptT.mk (next (.error error))) object returns throws ghost)
        ghost := by
  unfold runs Method.on
  change contract.wp ((method.run >>= next).run object) _ ghost ↔ _
  rw [StateT.run_bind, wp_bind]
  refine iff_of_eq (congrArg (contract.wp _ · _) (funext fun outcome => funext fun ghost => ?_))
  rcases outcome with ⟨error | result, object⟩ <;> rfl

/-- The rule of sequencing, where a throw skips the rest. -/
@[simp]
theorem runs_bind {method : Method Call Reply Object Error Other}
    {rest : Other → Method Call Reply Object Error Result} :
    contract.runs (method >>= rest) object returns throws ghost ↔
      contract.runs method object
        (fun result object ghost => contract.runs (rest result) object returns throws ghost)
        throws ghost := wp_cases

@[simp]
theorem runs_catch {method : Method Call Reply Object Error Result}
    {handler : Error → Method Call Reply Object Error Result} :
    contract.runs (tryCatch method handler) object returns throws ghost ↔
      contract.runs method object returns
        (fun error object ghost => contract.runs (handler error) object returns throws ghost)
        ghost := by
  have unfolded : tryCatch method handler =
      ExceptT.mk (method.run >>= fun outcome => match outcome with
        | .ok result => pure (.ok result)
        | .error error => (handler error).run) := rfl
  rw [unfolded, wp_cases]
  exact Iff.rfl

@[simp]
theorem runs_attempt {method : Method Call Reply Object Error Result}
    {returns : Except Error Result → Object → Ghost → Prop}
    {throws : Raised → Object → Ghost → Prop} :
    contract.runs method.attempt object returns throws ghost ↔
      contract.runs method object (fun result => returns (.ok result))
        (fun error => returns (.error error)) ghost := by
  have unfolded : (method.attempt : Method Call Reply Object Raised _) =
      ExceptT.mk (method.run >>= fun outcome => pure (.ok outcome)) := rfl
  rw [unfolded, wp_cases]
  exact Iff.rfl

@[simp]
theorem runs_get {returns : Object → Object → Ghost → Prop} :
    contract.runs get object returns throws ghost ↔ returns object object ghost := Iff.rfl

@[simp]
theorem runs_modify {returns : PUnit → Object → Ghost → Prop} (update : Object → Object) :
    contract.runs (modify update) object returns throws ghost ↔
      returns () (update object) ghost := Iff.rfl

@[simp]
theorem runs_request {call : Call} {returns : Reply call → Object → Ghost → Prop} :
    contract.runs (.request call) object returns throws ghost ↔
      contract.permits ghost call ∧ ∀ reply, contract.honest ghost call reply →
        returns reply object (contract.observe ghost call reply) := Iff.rfl

@[simp]
theorem runs_within {method : Method Call Reply Inner Error Result} {inner : Inner}
    {returns : Result × Inner → Object → Ghost → Prop} :
    contract.runs (method.within inner) object returns throws ghost ↔
      contract.runs method inner (fun result inner => returns (result, inner) object)
        (fun error _ => throws error object) ghost := by
  unfold runs
  change contract.wp (method.on inner >>= _) _ ghost ↔ _
  rw [wp_bind]
  refine iff_of_eq (congrArg (contract.wp _ · _) (funext fun outcome => funext fun ghost => ?_))
  rcases outcome with ⟨error | result, object⟩ <;> rfl

@[simp]
theorem runs_ite {condition : Prop} [Decidable condition]
    {yes no : Method Call Reply Object Error Result} :
    contract.runs (if condition then yes else no) object returns throws ghost ↔
      if condition then contract.runs yes object returns throws ghost
      else contract.runs no object returns throws ghost := by
  split <;> rfl

theorem runs_mono {method : Method Call Reply Object Error Result}
    {returns' : Result → Object → Ghost → Prop} {throws' : Error → Object → Ghost → Prop}
    (holds : contract.runs method object returns throws ghost)
    (returned : ∀ result object ghost, returns result object ghost → returns' result object ghost)
    (thrown : ∀ error object ghost, throws error object ghost → throws' error object ghost) :
    contract.runs method object returns' throws' ghost := by
  apply wp_mono holds
  rintro ⟨error | result, object⟩ ghost ended
  · exact thrown _ _ _ ended
  · exact returned _ _ _ ended

theorem runs_seq {method : Method Call Reply Object Error Other}
    {rest : Other → Method Call Reply Object Error Result}
    {middle : Other → Object → Ghost → Prop} {raises : Error → Object → Ghost → Prop}
    (first : contract.runs method object middle raises ghost)
    (next : ∀ result object ghost, middle result object ghost →
      contract.runs (rest result) object returns throws ghost)
    (raised : ∀ error object ghost, raises error object ghost → throws error object ghost) :
    contract.runs (method >>= rest) object returns throws ghost := by
  rw [runs_bind]
  exact runs_mono first next raised

theorem runs_then {method : Method Call Reply Object Error Other}
    {rest : Other → Method Call Reply Object Error Result}
    {middle : Other → Object → Ghost → Prop}
    (first : contract.runs method object middle (fun _ _ _ => False) ghost)
    (next : ∀ result object ghost, middle result object ghost →
      contract.runs (rest result) object returns throws ghost) :
    contract.runs (method >>= rest) object returns throws ghost :=
  runs_seq first next fun _ _ _ impossible => impossible.elim

/-- What the precondition of a method promises of every execution. -/
theorem runs_sound {method : Method Call Reply Object Error Result}
    {events : List (Event Call Reply)} {outcome : Option (Except Error Result × Object)}
    (holds : contract.runs method object returns throws ghost)
    (yields : (method.on object).Yields events outcome)
    (honest : contract.Honest ghost events) :
    contract.Permitted ghost events ∧
      (∀ result object, outcome = some (.ok result, object) →
        returns result object (contract.after ghost events)) ∧
      ∀ error object, outcome = some (.error error, object) →
        throws error object (contract.after ghost events) := by
  obtain ⟨permitted, ended⟩ := wp_sound holds yields honest
  exact ⟨permitted, fun _ _ returned => ended _ returned, fun _ _ thrown => ended _ thrown⟩

end Contract

namespace Method

variable {Call : Type} {Reply : Call → Type} {Object Inner Error Raised Result Other : Type}

/-- A method that makes no other calls than these and keeps an invariant of its object. -/
def Respects (permitted : Call → Prop) (invariant : Object → Prop)
    (method : Method Call Reply Object Error Result) : Prop :=
  ∀ object, invariant object → (Contract.only permitted).runs method object
    (fun _ after _ => invariant after) (fun _ after _ => invariant after) ()

namespace Respects

variable {permitted : Call → Prop} {invariant : Object → Prop}

theorem pure (result : Result) :
    (Pure.pure result : Method Call Reply Object Error Result).Respects permitted invariant :=
  fun _ holds => holds

theorem throw (error : Error) :
    (MonadExcept.throw error : Method Call Reply Object Error Result).Respects permitted
      invariant := fun _ holds => holds

theorem stuck : (Method.stuck : Method Call Reply Object Error Result).Respects permitted
    invariant := fun _ _ => trivial

theorem request {call : Call} (fits : permitted call) :
    (Method.request call : Method Call Reply Object Error _).Respects permitted invariant :=
  fun _ holds => ⟨fits, fun _ _ => holds⟩

theorem get : (MonadState.get : Method Call Reply Object Error Object).Respects permitted
    invariant := fun _ holds => holds

theorem update {write : Object → Object}
    (kept : ∀ object, invariant object → invariant (write object)) :
    (modify write : Method Call Reply Object Error PUnit).Respects permitted invariant :=
  fun object holds => kept object holds

theorem bind {method : Method Call Reply Object Error Other}
    {rest : Other → Method Call Reply Object Error Result}
    (first : method.Respects permitted invariant)
    (second : ∀ result, (rest result).Respects permitted invariant) :
    (method >>= rest).Respects permitted invariant := by
  intro object holds
  exact Contract.runs_seq (first object holds)
    (fun result after _ kept => second result after kept) (fun _ _ _ kept => kept)

theorem inspect {rest : Object → Method Call Reply Object Error Result}
    (later : ∀ object, invariant object → (rest object).Respects permitted invariant) :
    (MonadState.get >>= rest).Respects permitted invariant :=
  fun object holds => later object holds object holds

theorem tryCatch {method : Method Call Reply Object Error Result}
    {handler : Error → Method Call Reply Object Error Result}
    (first : method.Respects permitted invariant)
    (second : ∀ error, (handler error).Respects permitted invariant) :
    (MonadExcept.tryCatch method handler).Respects permitted invariant := by
  intro object holds
  rw [Contract.runs_catch]
  exact Contract.runs_mono (first object holds) (fun _ _ _ kept => kept)
    (fun error after _ kept => second error after kept)

theorem attempt {method : Method Call Reply Object Error Result}
    (respects : method.Respects permitted invariant) :
    (method.attempt : Method Call Reply Object Raised _).Respects permitted invariant := by
  intro object holds
  rw [Contract.runs_attempt]
  exact respects object holds

theorem within {method : Method Call Reply Inner Error Result} {inner : Inner}
    (respects : method.Respects permitted fun _ => True) :
    (method.within inner : Method Call Reply Object Error _).Respects permitted invariant := by
  intro object holds
  rw [Contract.runs_within]
  exact Contract.runs_mono (respects inner trivial) (fun _ _ _ _ => holds) (fun _ _ _ _ => holds)

theorem ite {condition : Prop} [Decidable condition]
    {yes no : Method Call Reply Object Error Result} (first : yes.Respects permitted invariant)
    (second : no.Respects permitted invariant) :
    (if condition then yes else no).Respects permitted invariant := by
  split
  · exact first
  · exact second

theorem mono {wider : Call → Prop} {method : Method Call Reply Object Error Result}
    (respects : method.Respects permitted invariant)
    (widen : ∀ call, permitted call → wider call) : method.Respects wider invariant :=
  fun object holds => Contract.only_mono (respects object holds) widen

theorem runs {Ghost : Type} {contract : Contract Call Reply Ghost} {ghost : Ghost}
    {method : Method Call Reply Object Error Result} {object : Object}
    (respects : method.Respects permitted invariant) (holds : invariant object)
    (silent : ∀ call, permitted call → contract.permits ghost call ∧
      ∀ reply, contract.honest ghost call reply → contract.observe ghost call reply = ghost) :
    contract.runs method object (fun _ after now => invariant after ∧ now = ghost)
      (fun _ after now => invariant after ∧ now = ghost) ghost := by
  have calls : (Contract.only permitted).wp (method.on object)
      (fun outcome _ => invariant outcome.2) () := by
    apply Contract.wp_mono (respects object holds)
    rintro ⟨error | result, after⟩ _ kept
    · exact kept
    · exact kept
  apply Contract.wp_mono (Contract.wp_of_quiet silent calls)
  rintro ⟨error | result, after⟩ _ kept
  · exact kept
  · exact kept

end Respects

end Method

end AresCommon.Foundation
