import Mathlib.Data.List.Basic

/-!
# Runs of labelled transition systems

A system is a relation `step state action output state'`. A run records the
label (action and output) of every step, so that histories are functions of
the recorded trace, and carries a side condition on the steps it may take.
The condition sees the state before the step. Two rules are used throughout:
an invariant rule for single systems and a forward simulation rule that
carries a concrete run, label by label, to an abstract one.
-/

namespace AresCommon.Foundation.Transition

set_option autoImplicit false

variable {State Abstract Action Output History : Type*}

/-- Finite runs from `start` whose steps all satisfy `allowed`. The trace
grows at its end, so that the last step of a run is its outermost constructor. -/
inductive Run (step : State → Action → Output → State → Prop)
    (allowed : State → Action → Prop) (start : State) :
    List (Action × Output) → State → Prop where
  | nil : Run step allowed start [] start
  | snoc {trace : List (Action × Output)} {middle final : State}
      {action : Action} {output : Output}
      (prior : Run step allowed start trace middle)
      (permitted : allowed middle action)
      (move : step middle action output final) :
      Run step allowed start (trace ++ [(action, output)]) final

def anyStep : State → Action → Prop := fun _ _ => True

variable {step : State → Action → Output → State → Prop}
variable {allowed : State → Action → Prop}
variable {start middle final : State} {trace later : List (Action × Output)}

theorem Run.mono {weaker : State → Action → Prop}
    (run : Run step allowed start trace final)
    (weaken : ∀ state action, allowed state action → weaker state action) :
    Run step weaker start trace final := by
  induction run with
  | nil => exact .nil
  | snoc _ permitted move ih => exact .snoc ih (weaken _ _ permitted) move

theorem Run.unrestricted (run : Run step allowed start trace final) :
    Run step anyStep start trace final :=
  run.mono fun _ _ _ => trivial

theorem Run.append (first : Run step allowed start trace middle)
    (second : Run step allowed middle later final) :
    Run step allowed start (trace ++ later) final := by
  induction second with
  | nil => simpa using first
  | snoc _ permitted move ih =>
      rw [← List.append_assoc]
      exact .snoc ih permitted move

/-- An invariant of the state and of a history folded over the trace holds
along a run as soon as every permitted step preserves it. -/
theorem Run.invariant (observe : History → Action × Output → History)
    (invariant : History → State → Prop) {initial : History}
    (preserved : ∀ history state action output state',
      invariant history state → allowed state action →
        step state action output state' →
          invariant (observe history (action, output)) state')
    (run : Run step allowed start trace final)
    (base : invariant initial start) :
    invariant (trace.foldl observe initial) final := by
  induction run with
  | nil => exact base
  | snoc _ permitted move ih =>
      rw [List.foldl_append]
      exact preserved _ _ _ _ _ ih permitted move

theorem Run.preserves (invariant : State → Prop)
    (preserved : ∀ state action output state',
      invariant state → allowed state action →
        step state action output state' → invariant state')
    (run : Run step allowed start trace final) (base : invariant start) :
    invariant final := by
  induction run with
  | nil => exact base
  | snoc _ permitted move ih => exact preserved _ _ _ _ ih permitted move

theorem Run.labels (invariant : State → Prop) (good : Action × Output → Prop)
    (preserved : ∀ state action output state',
      invariant state → allowed state action → step state action output state' →
        good (action, output) ∧ invariant state')
    (run : Run step allowed start trace final) (base : invariant start) :
    (∀ entry ∈ trace, good entry) ∧ invariant final := by
  induction run with
  | nil => exact ⟨by simp, base⟩
  | snoc _ permitted move ih =>
      obtain ⟨earlier, holds⟩ := ih
      obtain ⟨last, next⟩ := preserved _ _ _ _ holds permitted move
      refine ⟨fun entry member => ?_, next⟩
      rcases List.mem_append.mp member with before | now
      · exact earlier entry before
      · rwa [List.mem_singleton.mp now]

/-- Forward simulation: if related states answer every concrete step by an
abstract step with the same label, every concrete run has an abstract run
with the same trace that ends in a related state. -/
theorem Run.simulate {abstractStep : Abstract → Action → Output → Abstract → Prop}
    {permittedBelow : Abstract → Action → Prop} {related : State → Abstract → Prop}
    (transfer : ∀ state abstract action, related state abstract →
      allowed state action → permittedBelow abstract action)
    (matched : ∀ state abstract action output state', related state abstract →
      step state action output state' →
        ∃ abstract', abstractStep abstract action output abstract' ∧ related state' abstract')
    (run : Run step allowed start trace final) {image : Abstract}
    (base : related start image) :
    ∃ finalImage, Run abstractStep permittedBelow image trace finalImage ∧
      related final finalImage := by
  induction run with
  | nil => exact ⟨image, .nil, base⟩
  | snoc _ permitted move ih =>
      obtain ⟨mid, priorImage, midRelated⟩ := ih
      obtain ⟨next, abstractMove, nextRelated⟩ :=
        matched _ _ _ _ _ midRelated move
      exact ⟨next, .snoc priorImage (transfer _ _ _ midRelated permitted) abstractMove,
        nextRelated⟩

/-- Forward simulation where the abstract step, and that it is allowed, may rest on the
concrete step being allowed. -/
theorem Run.simulate_permitted
    {abstractStep : Abstract → Action → Output → Abstract → Prop}
    {permittedBelow : Abstract → Action → Prop} {related : State → Abstract → Prop}
    (matched : ∀ state abstract action output state', related state abstract →
      allowed state action → step state action output state' →
        permittedBelow abstract action ∧
          ∃ abstract', abstractStep abstract action output abstract' ∧ related state' abstract')
    (run : Run step allowed start trace final) {image : Abstract} (base : related start image) :
    ∃ finalImage, Run abstractStep permittedBelow image trace finalImage ∧
      related final finalImage := by
  induction run with
  | nil => exact ⟨image, .nil, base⟩
  | snoc _ permitted move ih =>
      obtain ⟨mid, prior, midRelated⟩ := ih
      obtain ⟨below, next, abstractMove, nextRelated⟩ :=
        matched _ _ _ _ _ midRelated permitted move
      exact ⟨next, prior.snoc below abstractMove, nextRelated⟩

/-- Simulation up to what is observed: if related states answer every concrete step by
abstract steps with the same observations, every concrete run has an abstract run with the
same observations that ends in a related state. -/
theorem Run.simulate_observed {AbstractAction AbstractOutput Event : Type*}
    {abstractStep : Abstract → AbstractAction → AbstractOutput → Abstract → Prop}
    {related : State → Abstract → Prop} {event : Action × Output → Option Event}
    {abstractEvent : AbstractAction × AbstractOutput → Option Event}
    (matched : ∀ state abstract action output state', related state abstract →
      allowed state action → step state action output state' →
        ∃ labels abstract', Run abstractStep anyStep abstract labels abstract' ∧
          labels.filterMap abstractEvent = [(action, output)].filterMap event ∧
          related state' abstract')
    (run : Run step allowed start trace final) {image : Abstract} (base : related start image) :
    ∃ labels finalImage, Run abstractStep anyStep image labels finalImage ∧
      labels.filterMap abstractEvent = trace.filterMap event ∧ related final finalImage := by
  induction run with
  | nil => exact ⟨[], image, .nil, rfl, base⟩
  | snoc _ permitted move ih =>
      obtain ⟨earlier, mid, prior, seen, midRelated⟩ := ih
      obtain ⟨labels, next, moves, seenNow, nextRelated⟩ :=
        matched _ _ _ _ _ midRelated permitted move
      refine ⟨earlier ++ labels, next, prior.append moves, ?_, nextRelated⟩
      rw [List.filterMap_append, List.filterMap_append, seen, seenNow]

/-- A run of a system is a run of another one with the same states and other labels, if the
steps between states of an invariant are. -/
theorem Run.relabel {OtherAction OtherOutput : Type*}
    {other : State → OtherAction → OtherOutput → State → Prop}
    {label : Action × Output → OtherAction × OtherOutput} (invariant : State → Prop)
    (same : ∀ state action output state', invariant state → allowed state action →
      step state action output state' →
        other state (label (action, output)).1 (label (action, output)).2 state' ∧
          invariant state')
    (run : Run step allowed start trace final) (base : invariant start) :
    Run other anyStep start (trace.map label) final ∧ invariant final := by
  induction run with
  | nil => exact ⟨.nil, base⟩
  | snoc _ permitted move ih =>
      obtain ⟨prior, holds⟩ := ih
      obtain ⟨now, kept⟩ := same _ _ _ _ holds permitted move
      rw [List.map_append]
      exact ⟨prior.snoc trivial now, kept⟩

/-- How many labels of a trace pass a test that looks at the history before them. -/
def countAlong (observe : History → Action × Output → History)
    (test : History → Action × Output → Bool) : History → List (Action × Output) → Nat
  | _, [] => 0
  | history, label :: rest =>
      (test history label).toNat + countAlong observe test (observe history label) rest

theorem countAlong_snoc {observe : History → Action × Output → History}
    {test : History → Action × Output → Bool} (history : History)
    (trace : List (Action × Output)) (label : Action × Output) :
    countAlong observe test history (trace ++ [label]) =
      countAlong observe test history trace + (test (trace.foldl observe history) label).toNat := by
  induction trace generalizing history with
  | nil => simp [countAlong]
  | cons first rest ih =>
      rw [List.cons_append, countAlong, countAlong, ih, List.foldl_cons, Nat.add_assoc]

/-- A potential pays for the steps that spend: if every step that earns adds at most `price`
to it and every step that spends takes one, the spending steps of a run are bounded by the
earning ones. What a step earns may depend on the history. -/
theorem Run.charged {spends : Action × Output → Bool}
    {earns : History → Action × Output → Bool} (price : Nat) (potential : State → Nat)
    (observe : History → Action × Output → History) (invariant : History → State → Prop)
    {initial : History} (paid : ∀ history state action output state',
      invariant history state → allowed state action → step state action output state' →
        potential state' + (spends (action, output)).toNat ≤
          potential state + price * (earns history (action, output)).toNat ∧
        invariant (observe history (action, output)) state')
    (run : Run step allowed start trace final) (base : invariant initial start) :
    potential final + trace.countP spends ≤
      potential start + price * countAlong observe earns initial trace := by
  have together : potential final + trace.countP spends ≤
      potential start + price * countAlong observe earns initial trace ∧
      invariant (trace.foldl observe initial) final := by
    induction run with
    | nil => exact ⟨by simp [countAlong], base⟩
    | @snoc _ _ _ action output _ permitted move ih =>
        obtain ⟨before, known⟩ := ih
        obtain ⟨now, kept⟩ := paid _ _ _ _ _ known permitted move
        have count : [(action, output)].countP spends = (spends (action, output)).toNat := by
          cases value : spends (action, output) <;> simp [value]
        refine ⟨?_, by rw [List.foldl_append]; exact kept⟩
        rw [List.countP_append, count, countAlong_snoc, Nat.mul_add]
        omega
  exact together.1

/-- Where every waiting state is at the goal or has a step to a waiting state of smaller
measure, a run no longer than the measure reaches the goal. -/
theorem Run.reaches (waiting : Nat → State → Prop) (goal : State → Prop)
    (advances : ∀ bound state, waiting bound state → goal state ∨
      ∃ action output state' smaller, allowed state action ∧ step state action output state' ∧
        smaller < bound ∧ waiting smaller state')
    {bound : Nat} (waits : waiting bound start) :
    ∃ trace final, Run step allowed start trace final ∧ goal final ∧ trace.length ≤ bound := by
  induction bound using Nat.strongRecOn generalizing start with
  | ind bound ih =>
      rcases advances bound start waits with reached | moves
      · exact ⟨[], start, .nil, reached, Nat.zero_le _⟩
      · obtain ⟨action, output, next, smaller, permitted, move, less, still⟩ := moves
        obtain ⟨trace, final, rest, reached, short⟩ := ih smaller less still
        have first : Run step allowed start [(action, output)] next := .snoc .nil permitted move
        refine ⟨_, final, first.append rest, reached, ?_⟩
        rw [List.length_append, List.length_singleton]
        omega

/-- Some state of the run, its first and its last one included, satisfies
`condition`: the run splits there. -/
def Visits (step : State → Action → Output → State → Prop)
    (allowed : State → Action → Prop) (start : State)
    (trace : List (Action × Output)) (final : State) (condition : State → Prop) : Prop :=
  ∃ before after middle, trace = before ++ after ∧
    Run step allowed start before middle ∧ Run step allowed middle after final ∧
    condition middle

theorem Run.visits_last {condition : State → Prop}
    (run : Run step allowed start trace final) (holds : condition final) :
    Visits step allowed start trace final condition :=
  ⟨trace, [], final, by simp, run, .nil, holds⟩

theorem Run.visits_first {condition : State → Prop}
    (run : Run step allowed start trace final) (holds : condition start) :
    Visits step allowed start trace final condition :=
  ⟨[], trace, start, by simp, .nil, run, holds⟩

theorem Visits.mono {condition : State → Prop} {weaker : State → Action → Prop}
    (visits : Visits step allowed start trace final condition)
    (weaken : ∀ state action, allowed state action → weaker state action) :
    Visits step weaker start trace final condition := by
  obtain ⟨before, after, middle, split, first, second, holds⟩ := visits
  exact ⟨before, after, middle, split, first.mono weaken, second.mono weaken, holds⟩

theorem Visits.extend {condition : State → Prop} {action : Action} {output : Output}
    {next : State} (visits : Visits step allowed start trace final condition)
    (permitted : allowed final action) (move : step final action output next) :
    Visits step allowed start (trace ++ [(action, output)]) next condition := by
  obtain ⟨before, after, middle, rfl, first, second, holds⟩ := visits
  exact ⟨before, after ++ [(action, output)], middle, List.append_assoc _ _ _, first,
    .snoc second permitted move, holds⟩

/-- A state invariant or, from some state of the run on, an event: what every
step from a state with the invariant keeps or fulfils. -/
theorem Run.until (invariant condition : State → Prop)
    (preserved : ∀ state action output state', invariant state → allowed state action →
      step state action output state' → invariant state' ∨ condition state')
    (run : Run step allowed start trace final) (base : invariant start) :
    invariant final ∨ Visits step allowed start trace final condition := by
  induction run with
  | nil => exact .inl base
  | snoc prior permitted move ih =>
      rcases ih with still | visited
      · rcases preserved _ _ _ _ still permitted move with kept | reached
        · exact .inl kept
        · exact .inr ((Run.snoc prior permitted move).visits_last reached)
      · exact .inr (visited.extend permitted move)

/-! ## Taking runs apart -/

theorem Run.of_nil (run : Run step allowed start [] final) : final = start := by
  generalize none : [] = trace at run
  cases run with
  | nil => rfl
  | snoc => simp at none

theorem Run.of_snoc {action : Action} {output : Output}
    (run : Run step allowed start (trace ++ [(action, output)]) final) :
    ∃ middle, Run step allowed start trace middle ∧ allowed middle action ∧
      step middle action output final := by
  generalize whole : trace ++ [(action, output)] = labels at run
  cases run with
  | nil => simp at whole
  | snoc prior permitted move =>
      obtain ⟨rfl, last⟩ := List.append_inj' whole rfl
      cases last
      exact ⟨_, prior, permitted, move⟩

theorem Run.of_single {action : Action} {output : Output}
    (run : Run step allowed start [(action, output)] final) :
    allowed start action ∧ step start action output final := by
  have appended : Run step allowed start ([] ++ [(action, output)]) final := run
  obtain ⟨middle, prior, permitted, move⟩ := appended.of_snoc
  cases prior.of_nil
  exact ⟨permitted, move⟩

theorem Run.split {first second : List (Action × Output)} {final : State}
    (run : Run step allowed start (first ++ second) final) :
    ∃ middle, Run step allowed start first middle ∧ Run step allowed middle second final := by
  generalize whole : first ++ second = trace at run
  induction run generalizing second with
  | nil =>
      obtain ⟨rfl, rfl⟩ := List.append_eq_nil_iff.mp whole
      exact ⟨start, .nil, .nil⟩
  | @snoc trace middle final action output prior permitted move ih =>
      rcases List.eq_nil_or_concat second with rfl | ⟨later, last, rfl⟩
      · rw [List.append_nil] at whole
        exact ⟨final, whole ▸ prior.snoc permitted move, .nil⟩
      · rw [List.concat_eq_append, ← List.append_assoc] at whole
        obtain ⟨parts, same⟩ := List.append_inj' whole rfl
        cases same
        obtain ⟨between, early, late⟩ := ih parts
        refine ⟨between, early, ?_⟩
        rw [List.concat_eq_append]
        exact late.snoc permitted move

theorem Visits.of_single {condition : State → Prop} {entry : Action × Output}
    (visits : Visits step allowed start [entry] final condition) :
    condition start ∨ condition final := by
  obtain ⟨before, after, middle, split, first, second, holds⟩ := visits
  rcases List.singleton_eq_append_iff.mp split with ⟨rfl, rfl⟩ | ⟨rfl, rfl⟩
  · cases first.of_nil
    exact .inl holds
  · cases second.of_nil
    exact .inr holds

/-! ## Calls that may block

An entry point that blocks is two actions of its thread: `opening` enters the
call, and when its answer is to wait, the first `closing` returns from it. -/

/-- A call by `opening` returns `output`, with the trace of what happened from
its entry to its return. -/
inductive CallReturns (step : State → Action → Output → State → Prop)
    (allowed : State → Action → Prop) (waits : Output → Prop) (opening closing : Action)
    (start : State) : List (Action × Output) → Output → State → Prop where
  | atOnce {output : Output} {final : State} (permitted : allowed start opening)
      (move : step start opening output final) (direct : ¬waits output) :
      CallReturns step allowed waits opening closing start [(opening, output)] output final
  | blocked {entry output : Output} {entered last final : State}
      {during : List (Action × Output)} (permitted : allowed start opening)
      (move : step start opening entry entered) (blocks : waits entry)
      (meanwhile : Run step (fun state action => allowed state action ∧ action ≠ closing)
        entered during last)
      (released : allowed last closing) (answer : step last closing output final) :
      CallReturns step allowed waits opening closing start
        ((opening, entry) :: during ++ [(closing, output)]) output final

namespace CallReturns

variable {waits : Output → Prop} {opening closing : Action} {output : Output}

theorem run (call : CallReturns step allowed waits opening closing start trace output final) :
    Run step allowed start trace final := by
  cases call with
  | atOnce permitted move => exact .snoc .nil permitted move
  | blocked permitted move _ meanwhile released answer =>
      have opened : Run step allowed start [_] _ := .snoc .nil permitted move
      have waited := meanwhile.mono fun _ _ both => both.1
      exact .snoc (opened.append waited) released answer

theorem mono {weaker : State → Action → Prop}
    (call : CallReturns step allowed waits opening closing start trace output final)
    (weaken : ∀ state action, allowed state action → weaker state action) :
    CallReturns step weaker waits opening closing start trace output final := by
  cases call with
  | atOnce permitted move direct => exact .atOnce (weaken _ _ permitted) move direct
  | blocked permitted move blocks meanwhile released answer =>
      have waited := meanwhile.mono fun state action both =>
        And.intro (weaken state action both.1) both.2
      exact .blocked (weaken _ _ permitted) move blocks waited (weaken _ _ released) answer

theorem enters (call : CallReturns step allowed waits opening closing start trace output final) :
    ∃ entry entered rest, trace = (opening, entry) :: rest ∧ step start opening entry entered := by
  cases call with
  | atOnce _ move => exact ⟨_, _, [], rfl, move⟩
  | blocked _ move => exact ⟨_, _, _, rfl, move⟩

/-- The rule for calls: what the entry of a waiting call establishes and every
other action keeps, the return may rely on. -/
theorem rule (observe : History → Action × Output → History)
    (invariant : History → State → Prop) (post : History → Output → State → Prop)
    {initial : History}
    (direct : ∀ output state, step start opening output state → ¬waits output →
      post (observe initial (opening, output)) output state)
    (opened : ∀ output state, step start opening output state → waits output →
      invariant (observe initial (opening, output)) state)
    (preserved : ∀ history state action output state', invariant history state →
      allowed state action ∧ action ≠ closing → step state action output state' →
        invariant (observe history (action, output)) state')
    (returned : ∀ history state output state', invariant history state →
      step state closing output state' → post (observe history (closing, output)) output state')
    (call : CallReturns step allowed waits opening closing start trace output final) :
    post (trace.foldl observe initial) output final := by
  cases call with
  | atOnce _ move answers => exact direct _ _ move answers
  | blocked _ move blocks meanwhile _ answer =>
      have kept := meanwhile.invariant observe invariant preserved (opened _ _ move blocks)
      rw [List.cons_append, List.foldl_cons, List.foldl_append]
      exact returned _ _ _ _ kept answer

theorem during (observe : History → Action × Output → History)
    (invariant : History → State → Prop) {initial : History}
    (opened : ∀ output state, step start opening output state → waits output →
      invariant (observe initial (opening, output)) state)
    (preserved : ∀ history state action output state', invariant history state →
      allowed state action ∧ action ≠ closing → step state action output state' →
        invariant (observe history (action, output)) state')
    (call : CallReturns step allowed waits opening closing start trace output final)
    {first rest : List (Action × Output)} {action : Action} {answer : Output}
    (split : trace = first ++ (action, answer) :: rest)
    (inside : action ≠ opening ∧ action ≠ closing) :
    ∃ state state', invariant (first.foldl observe initial) state ∧
      step state action answer state' := by
  cases call with
  | atOnce =>
      rcases first with _ | ⟨head, tail⟩ <;> simp_all
  | blocked permitted move blocks meanwhile =>
      rcases first with _ | ⟨head, first⟩
      · simp_all
      · rcases List.eq_nil_or_concat rest with rfl | ⟨rest, tail, rfl⟩
        · have same := congrArg List.getLast? split
          simp_all
        · simp only [List.concat_eq_append, List.cons_append, List.cons.injEq] at split
          obtain ⟨rfl, split⟩ := split
          rw [← List.cons_append, ← List.append_assoc] at split
          obtain ⟨rfl, _⟩ := List.append_inj' split rfl
          obtain ⟨state, before, after⟩ := meanwhile.split
          have kept := before.invariant observe invariant preserved (opened _ _ move blocks)
          rw [← List.singleton_append] at after
          obtain ⟨state', now, _⟩ := after.split
          exact ⟨state, state', kept, now.of_single.2⟩

end CallReturns

/-! ## Executing a list of actions -/

def execute (next : State → Action → Option (State × Output))
    (permits : State → Action → Bool) :
    State → List Action → Option (List (Action × Output) × State)
  | state, [] => some ([], state)
  | state, action :: rest =>
      if permits state action then
        match next state action with
        | none => none
        | some (state', output) =>
            (execute next permits state' rest).map fun later =>
              ((action, output) :: later.1, later.2)
      else none

theorem execute_run {next : State → Action → Option (State × Output)}
    {permits : State → Action → Bool}
    (sound : ∀ state action output state',
      next state action = some (state', output) → step state action output state')
    (allows : ∀ state action, permits state action = true → allowed state action)
    {actions : List Action}
    (ran : execute next permits start actions = some (trace, final)) :
    Run step allowed start trace final := by
  induction actions generalizing start trace with
  | nil =>
      cases ran
      exact .nil
  | cons action rest ih =>
      unfold execute at ran
      split at ran
      · rename_i permitted
        split at ran
        · cases ran
        · rename_i state' output moved
          obtain ⟨⟨later, reached⟩, continued, result⟩ := Option.map_eq_some_iff.mp ran
          cases result
          have first : Run step allowed start [(action, output)] state' :=
            .snoc .nil (allows _ _ permitted) (sound _ _ _ _ moved)
          exact first.append (ih continued)
      · cases ran

/-- What a computed run establishes: a run to a state that passes a test. -/
theorem run_of_execute {next : State → Action → Option (State × Output)}
    {permits : State → Action → Bool}
    (sound : ∀ state action output state',
      next state action = some (state', output) → step state action output state')
    (allows : ∀ state action, permits state action = true → allowed state action)
    {actions : List Action} {test : List (Action × Output) → State → Bool}
    (passed : (execute next permits start actions).any (fun run => test run.1 run.2) = true) :
    ∃ trace final, Run step allowed start trace final ∧ test trace final = true := by
  obtain ⟨⟨trace, final⟩, ran, tested⟩ := (Option.any_eq_true _ _).mp passed
  exact ⟨trace, final, execute_run sound allows ran, tested⟩

def executeCall [DecidableEq Action] (next : State → Action → Option (State × Output))
    (permits : State → Action → Bool) (waits : Output → Bool) (opening closing : Action)
    (state : State) (actions : List Action) :
    Option (List (Action × Output) × Output × State) :=
  if permits state opening then
    match next state opening with
    | none => none
    | some (entered, entry) =>
        if waits entry then
          match execute next (fun state action => permits state action && action ≠ closing)
            entered actions with
          | none => none
          | some (labels, last) =>
              if permits last closing then
                (next last closing).map fun (final, output) =>
                  ((opening, entry) :: labels ++ [(closing, output)], output, final)
              else none
        else some ([(opening, entry)], entry, entered)
  else none

theorem call_of_execute [DecidableEq Action] {next : State → Action → Option (State × Output)}
    {permits : State → Action → Bool} {waits : Output → Bool} {opening closing : Action}
    (sound : ∀ state action output state',
      next state action = some (state', output) → step state action output state')
    (allows : ∀ state action, permits state action = true → allowed state action)
    {actions : List Action} {test : List (Action × Output) × Output × State → Bool}
    (passed : (executeCall next permits waits opening closing start actions).any test = true) :
    ∃ trace output final,
      CallReturns step allowed (fun output => waits output = true) opening closing start trace
        output final ∧ test (trace, output, final) = true := by
  obtain ⟨⟨trace, output, final⟩, ran, tested⟩ := (Option.any_eq_true _ _).mp passed
  refine ⟨trace, output, final, ?_, tested⟩
  unfold executeCall at ran
  split at ran
  · rename_i permitted
    split at ran
    · cases ran
    · rename_i entered entry moved
      split at ran
      · rename_i blocks
        split at ran
        · cases ran
        · rename_i labels last continued
          split at ran
          · rename_i guard
            obtain ⟨⟨final, output⟩, answered, result⟩ := Option.map_eq_some_iff.mp ran
            cases result
            have others : ∀ state action, (permits state action && action ≠ closing) = true →
                allowed state action ∧ action ≠ closing := by
              intro state action both
              obtain ⟨permitted, differs⟩ := Bool.and_eq_true_iff.mp both
              exact ⟨allows _ _ permitted, of_decide_eq_true differs⟩
            exact .blocked (allows _ _ permitted) (sound _ _ _ _ moved) blocks
              (execute_run sound others continued) (allows _ _ guard) (sound _ _ _ _ answered)
          · cases ran
      · rename_i direct
        cases ran
        exact .atOnce (allows _ _ permitted) (sound _ _ _ _ moved) direct
  · cases ran

end AresCommon.Foundation.Transition
