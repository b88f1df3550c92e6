import AresCommon.Logging.Filtering

/-!
# Log modules

The macros of `log.hpp` give a file a logger, found in the register by the name of the module,
and a saved level. Modules of one name share a logger. Loggers of different names have nothing
in common but what their callbacks act on.
-/

namespace AresCommon.Logging

open AresCommon.Foundation.Transition
open Function (update)

set_option autoImplicit false

variable {Module World : Type} [DecidableEq Module]

/-- What `LOG_MODULE_REGISTER` declares in a file. -/
structure LogModule where
  /-- `__name__`, by which `__logger__` was found -/
  name : List Char
  savedLevel : LogLevel
  deriving DecidableEq

structure LogModules (Module World : Type) where
  /-- `loggers`, the register -/
  loggers : List Char → Option (LoggerImpl World)
  modules : Module → Option LogModule
  /-- what the callbacks of all loggers act on -/
  world : World

/-- The macros that a module may use once it is registered. -/
inductive ModuleCall (World : Type) where
  | log (severity : Severity) (formatted : Option (List Char))
  | logHexdump (severity : Severity) (msg : List Char) (buf : List UInt8) (bytes : Nat)
  | currentLevel
  | saveLogLevelAndOverride (newLevel : LogLevel)
  | saveLogLevelAndForce (newLevel : LogLevel)
  | restoreLogLevel
  | setLogLevel (newLevel : LogLevel)
  | registerCallbacks (cb : LoggerCallbacks World)

inductive ModuleAction (Module World : Type) where
  /-- `LOG_MODULE_REGISTER` -/
  | register (module : Module) (name : List Char) (level : LogLevel)
  | use (module : Module) (call : ModuleCall World)
  /-- something else changes the world -/
  | environment (world : World)

structure ModuleOutput (World : Type) where
  logger : Option (List Char)
  calls : List (LoggerCall World × LoggerReply)

/-- What a macro does to the logger and to the saved level, and the calls that it makes. -/
def LoggerImpl.perform (impl : LoggerImpl World) (saved : LogLevel) :
    ModuleCall World → LoggerImpl World × LogLevel × List (LoggerCall World × LoggerReply)
  | .log severity formatted =>
      (impl.log severity.level formatted, saved, [(.log severity.level formatted, .void)])
  | .logHexdump severity msg buf bytes =>
      (impl.logHexdump severity.level msg buf bytes, saved,
        [(.logHexdump severity.level msg buf bytes, .void)])
  | .currentLevel =>
      let (level, impl) := impl.getLogLevel
      (impl, saved, [(.getLogLevel, .level level)])
  | .saveLogLevelAndOverride newLevel =>
      let (level, impl) := impl.getLogLevel
      if newLevel < level then
        (impl.setLogLevel newLevel, level,
          [(.getLogLevel, .level level), (.setLogLevel newLevel, .void)])
      else (impl, level, [(.getLogLevel, .level level)])
  | .saveLogLevelAndForce newLevel =>
      let (level, impl) := impl.getLogLevel
      (impl.setLogLevel newLevel, level,
        [(.getLogLevel, .level level), (.setLogLevel newLevel, .void)])
  | .restoreLogLevel => (impl.setLogLevel saved, saved, [(.setLogLevel saved, .void)])
  | .setLogLevel newLevel => (impl.setLogLevel newLevel, saved, [(.setLogLevel newLevel, .void)])
  | .registerCallbacks cb =>
      (impl.registerLoggingCallbacks cb, saved, [(.registerLoggingCallbacks cb, .void)])

namespace LogModules

def empty (world : World) : LogModules Module World where
  loggers := fun _ => none
  modules := fun _ => none
  world

variable (s : LogModules Module World)

/-- `LoggerImpl::find_logger`: a logger that is there stays as it is. -/
def findLogger (name : List Char) (level : LogLevel) : LogModules Module World :=
  match s.loggers name with
  | some _ => s
  | none =>
      { s with loggers := update s.loggers name (some (.constructed name level s.world)) }

/-- One action; `none` for a second registration and for a module that is not registered. -/
def step : ModuleAction Module World → Option (LogModules Module World × ModuleOutput World)
  | .register module name level =>
      match s.modules module with
      | some _ => none
      | none =>
          let s := s.findLogger name level
          some ({ s with modules := update s.modules module (some ⟨name, level⟩) },
            ⟨some name, []⟩)
  | .use module call =>
      match s.modules module with
      | none => none
      | some ⟨name, saved⟩ =>
          match s.loggers name with
          | none => none
          | some impl =>
              let (impl, saved, calls) := { impl with world := s.world }.perform saved call
              some ({ loggers := update s.loggers name (some impl)
                      modules := update s.modules module (some ⟨name, saved⟩)
                      world := impl.world }, ⟨some name, calls⟩)
  | .environment world => some ({ s with world }, ⟨none, []⟩)

def Step (action : ModuleAction Module World) (output : ModuleOutput World)
    (s' : LogModules Module World) : Prop :=
  s.step action = some (s', output)

def logger (name : List Char) : Option (LoggerImpl World) :=
  (s.loggers name).map fun impl => { impl with world := s.world }

end LogModules

/-! ## Every logger by itself -/

def madeByModule : LoggerCall World × LoggerReply → Bool
  | (.environment _, _) => false
  | _ => true

def callsOf (name : List Char)
    (trace : List (ModuleAction Module World × ModuleOutput World)) :
    List (LoggerCall World × LoggerReply) :=
  trace.flatMap fun entry => if entry.2.logger = some name then entry.2.calls else []

def ModuleAction.registers (name : List Char) : ModuleAction Module World → Option LogLevel
  | .register _ registered level => if registered = name then some level else none
  | _ => none

def firstLevel (name : List Char)
    (trace : List (ModuleAction Module World × ModuleOutput World)) : Option LogLevel :=
  trace.findSome? fun entry => entry.1.registers name

namespace LoggerImpl

/-- A macro is a short run of its logger. -/
theorem perform_run (impl : LoggerImpl World) (saved : LogLevel) (call : ModuleCall World) :
    Run step anyStep impl (impl.perform saved call).2.2 (impl.perform saved call).1 ∧
      (impl.perform saved call).2.2.filter madeByModule = (impl.perform saved call).2.2 := by
  have one : ∀ (s : LoggerImpl World) call, Run step anyStep s [(call, (s.call call).1)]
      (s.call call).2 := fun s call => .snoc .nil trivial rfl
  have two : ∀ newLevel, Run step anyStep impl
      [(.getLogLevel, .level impl.getLogLevel.1), (.setLogLevel newLevel, .void)]
      (impl.getLogLevel.2.setLogLevel newLevel) := fun newLevel =>
    (one impl .getLogLevel).snoc trivial rfl
  cases call with
  | saveLogLevelAndOverride newLevel =>
      unfold perform
      simp only
      split
      · exact ⟨two newLevel, rfl⟩
      · exact ⟨one impl .getLogLevel, rfl⟩
  | saveLogLevelAndForce newLevel => exact ⟨two newLevel, rfl⟩
  | log severity formatted => exact ⟨one impl (.log severity.level formatted), rfl⟩
  | logHexdump severity msg buf bytes =>
      exact ⟨one impl (.logHexdump severity.level msg buf bytes), rfl⟩
  | currentLevel => exact ⟨one impl .getLogLevel, rfl⟩
  | restoreLogLevel => exact ⟨one impl (.setLogLevel saved), rfl⟩
  | setLogLevel newLevel => exact ⟨one impl (.setLogLevel newLevel), rfl⟩
  | registerCallbacks cb => exact ⟨one impl (.registerLoggingCallbacks cb), rfl⟩

/-- The logger has come about by these calls, and by changes from outside. -/
def LivedBy (name : List Char) (level : LogLevel) (calls : List (LoggerCall World × LoggerReply))
    (impl : LoggerImpl World) : Prop :=
  ∃ start trace, Run step anyStep (.constructed name level start) trace impl ∧
    trace.filter madeByModule = calls

variable {name : List Char} {level : LogLevel} {impl after : LoggerImpl World}
variable {calls later : List (LoggerCall World × LoggerReply)}

theorem LivedBy.constructed (world : World) :
    LivedBy name level [] (LoggerImpl.constructed name level world) :=
  ⟨world, [], .nil, rfl⟩

theorem LivedBy.append (lived : LivedBy name level calls impl)
    (run : Run step anyStep impl later after) :
    LivedBy name level (calls ++ later.filter madeByModule) after := by
  obtain ⟨start, trace, prior, same⟩ := lived
  exact ⟨start, trace ++ later, prior.append run, by rw [List.filter_append, same]⟩

theorem LivedBy.environment (lived : LivedBy name level calls impl) (world : World) :
    LivedBy name level calls { impl with world } := by
  have change : Run step anyStep impl [(.environment world, .void)] { impl with world } :=
    .snoc .nil trivial rfl
  simpa [madeByModule] using lived.append change

end LoggerImpl

section Traces

variable {name : List Char} {trace : List (ModuleAction Module World × ModuleOutput World)}
variable {entry : ModuleAction Module World × ModuleOutput World}

omit [DecidableEq Module] in
theorem callsOf_append :
    callsOf name (trace ++ [entry]) =
      callsOf name trace ++ if entry.2.logger = some name then entry.2.calls else [] := by
  simp [callsOf]

omit [DecidableEq Module] in
theorem callsOf_own (own : entry.2.logger = some name) :
    callsOf name (trace ++ [entry]) = callsOf name trace ++ entry.2.calls := by
  rw [callsOf_append, if_pos own]

omit [DecidableEq Module] in
theorem callsOf_other (other : entry.2.logger ≠ some name) :
    callsOf name (trace ++ [entry]) = callsOf name trace := by
  rw [callsOf_append, if_neg other, List.append_nil]

omit [DecidableEq Module] in
theorem firstLevel_append :
    firstLevel name (trace ++ [entry]) =
      (firstLevel name trace).or (entry.1.registers name) := by
  rw [firstLevel, firstLevel, List.findSome?_append, List.findSome?_singleton]

end Traces

namespace LogModules

variable {s s' : LogModules Module World} {name : List Char}
variable {action : ModuleAction Module World} {output : ModuleOutput World}

inductive Touches (name : List Char) (action : ModuleAction Module World)
    (output : ModuleOutput World) : Option (LoggerImpl World) → Option (LoggerImpl World) → Prop
  | absent (unregistered : action.registers name = none) (silent : output.logger ≠ some name) :
      Touches name action output none none
  | created {level : LogLevel} (world : World) (registered : action.registers name = some level)
      (silent : output.calls = []) :
      Touches name action output none (some (.constructed name level world))
  | called {impl after : LoggerImpl World} (own : output.logger = some name)
      (run : Run LoggerImpl.step anyStep impl output.calls after)
      (calls : output.calls.filter madeByModule = output.calls) :
      Touches name action output (some impl) (some after)
  | spared {impl : LoggerImpl World} (other : output.logger ≠ some name) (world : World) :
      Touches name action output (some impl) (some { impl with world })

theorem step_touches (move : s.Step action output s') (name : List Char) :
    Touches name action output (s.logger name) (s'.logger name) := by
  cases action with
  | environment world =>
      cases move
      cases found : s.loggers name with
      | none =>
          simp only [logger, found, Option.map_none]
          exact .absent rfl (by simp)
      | some impl =>
          simp only [logger, found, Option.map_some]
          exact .spared (by simp) world
  | register module registered level =>
      cases known : s.modules module with
      | some statics => simp [Step, step, known] at move
      | none =>
          simp only [Step, step, known, Option.some.injEq, Prod.mk.injEq] at move
          obtain ⟨rfl, rfl⟩ := move
          by_cases own : registered = name
          · subst own
            have registers : (ModuleAction.register module registered level :
                ModuleAction Module World).registers registered = some level := by
              simp [ModuleAction.registers]
            cases found : s.loggers registered with
            | none =>
                simp only [logger, findLogger, found, Option.map_none, Function.update_self]
                exact .created s.world registers rfl
            | some impl =>
                simp only [logger, findLogger, found, Option.map_some]
                exact .called rfl .nil rfl
          · have same : (s.findLogger registered level).logger name = s.logger name := by
              unfold findLogger
              cases s.loggers registered with
              | none => simp [logger, Ne.symm own]
              | some impl => rfl
            change Touches name _ _ _ ((s.findLogger registered level).logger name)
            rw [same]
            cases found : s.loggers name with
            | none =>
                simp only [logger, found, Option.map_none]
                exact .absent (by simp [ModuleAction.registers, own]) (by simp [own])
            | some impl =>
                simp only [logger, found, Option.map_some]
                exact .spared (by simp [own]) s.world
  | use module call =>
      cases known : s.modules module with
      | none => simp [Step, step, known] at move
      | some statics =>
          obtain ⟨registered, saved⟩ := statics
          cases found : s.loggers registered with
          | none => simp [Step, step, known, found] at move
          | some impl =>
              simp only [Step, step, known, found, Option.some.injEq, Prod.mk.injEq] at move
              obtain ⟨rfl, rfl⟩ := move
              by_cases own : registered = name
              · subst own
                obtain ⟨run, calls⟩ :=
                  LoggerImpl.perform_run { impl with world := s.world } saved call
                simp only [logger, found, Option.map_some, Function.update_self]
                exact .called rfl run calls
              · cases there : s.loggers name with
                | none =>
                    simp only [logger, there, Function.update_of_ne (Ne.symm own),
                      Option.map_none]
                    exact .absent rfl (by simp [own])
                | some other =>
                    simp only [logger, there, Function.update_of_ne (Ne.symm own),
                      Option.map_some]
                    exact .spared (by simp [own]) _

/-- The loggers of the register, the levels they began with, and their calls. -/
def Accounted (name : List Char)
    (trace : List (ModuleAction Module World × ModuleOutput World))
    (s : LogModules Module World) : Prop :=
  match s.logger name with
  | none => firstLevel name trace = none ∧ callsOf name trace = []
  | some impl => ∃ level, firstLevel name trace = some level ∧
      impl.LivedBy name level (callsOf name trace)

theorem Accounted.step {trace : List (ModuleAction Module World × ModuleOutput World)}
    (accounted : Accounted name trace s) (move : s.Step action output s') :
    Accounted name (trace ++ [(action, output)]) s' := by
  have touches := step_touches move name
  unfold Accounted at accounted ⊢
  generalize s.logger name = before at accounted touches
  generalize s'.logger name = after at touches ⊢
  cases touches with
  | absent unregistered silent =>
      rw [firstLevel_append, callsOf_other silent]
      simpa [unregistered] using accounted
  | @created level world registered silent =>
      obtain ⟨unknown, none⟩ := accounted
      have calls : callsOf name (trace ++ [(action, output)]) = [] := by
        simp [callsOf_append, none, silent]
      refine ⟨level, by rw [firstLevel_append, unknown, registered, Option.none_or], ?_⟩
      rw [calls]
      exact .constructed world
  | called own run calls =>
      obtain ⟨level, first, lived⟩ := accounted
      refine ⟨level, by rw [firstLevel_append, first, Option.some_or], ?_⟩
      rw [callsOf_own own, ← calls]
      exact lived.append run
  | spared other world =>
      obtain ⟨level, first, lived⟩ := accounted
      refine ⟨level, by rw [firstLevel_append, first, Option.some_or], ?_⟩
      rw [callsOf_other other]
      exact lived.environment world

/-- The loggers of the register do not notice each other: in every run, the logger of a name
has come about, from the level that the name was registered with first, by the calls that
modules of this name have made, in their order, and by changes of the world. -/
theorem loggers_live_alone {world : World}
    {trace : List (ModuleAction Module World × ModuleOutput World)}
    (run : Run Step anyStep (LogModules.empty world) trace s) {impl : LoggerImpl World}
    (found : s.logger name = some impl) :
    ∃ level, firstLevel name trace = some level ∧
      impl.LivedBy name level (callsOf name trace) := by
  have accounted : Accounted name trace s := by
    clear found
    induction run with
    | nil => exact ⟨rfl, rfl⟩
    | snoc _ _ move ih => exact ih.step move
  rw [Accounted, found] at accounted
  exact accounted

def runActions (s : LogModules Module World) (actions : List (ModuleAction Module World)) :
    Option (List (ModuleAction Module World × ModuleOutput World) × LogModules Module World) :=
  execute step (fun _ _ => true) s actions

theorem run_of_actions {start final : LogModules Module World}
    {actions : List (ModuleAction Module World)}
    {trace : List (ModuleAction Module World × ModuleOutput World)}
    (ran : start.runActions actions = some (trace, final)) :
    Run Step anyStep start trace final :=
  execute_run (fun _ _ _ _ moved => moved) (fun _ _ _ => trivial) ran

/-- Two modules share the logger `a`; the level of the second is ignored, and the calls of a
module of another name are not among its calls. -/
theorem loggers_live_alone_of_shared_name :
    ∃ impl : LoggerImpl Unit, impl.level = logLevelError ∧
      impl.LivedBy ['a'] logLevelInfo [(.setLogLevel logLevelError, .void)] := by
  let actions : List (ModuleAction (Fin 3) Unit) :=
    [.register 0 ['a'] logLevelInfo, .register 1 ['a'] logLevelDbg,
      .register 2 ['b'] logLevelWarn, .use 1 (.setLogLevel logLevelError),
      .use 2 (.setLogLevel logLevelDbg)]
  have ran : (LogModules.empty ()).runActions actions = some (_, _) := rfl
  obtain ⟨level, first, lived⟩ := loggers_live_alone (run_of_actions ran)
    (rfl : LogModules.logger _ ['a'] = some _)
  cases first
  exact ⟨_, rfl, lived⟩

end LogModules

/-! ## Saving and restoring the level -/

def ModuleCall.saves : ModuleCall World → Bool
  | .saveLogLevelAndOverride _ | .saveLogLevelAndForce _ => true
  | _ => false

namespace LoggerImpl

variable {impl : LoggerImpl World} {saved : LogLevel} {call : ModuleCall World}

theorem perform_saves (saves : call.saves = true) :
    (impl.perform saved call).2.1 = impl.getLogLevel.1 := by
  cases call with
  | saveLogLevelAndOverride newLevel =>
      unfold perform
      simp only
      split <;> rfl
  | saveLogLevelAndForce newLevel => rfl
  | _ => cases saves

theorem perform_keeps (other : call.saves = false) : (impl.perform saved call).2.1 = saved := by
  cases call <;> first | rfl | cases other

theorem setLogLevel_level (impl : LoggerImpl World) (level : LogLevel) :
    (impl.setLogLevel level).level = level := by
  unfold setLogLevel tellLevel
  cases impl.cb.setLevel <;> rfl

end LoggerImpl

namespace LogModules

variable {s s' : LogModules Module World} {module : Module} {name : List Char}

def level (s : LogModules Module World) (name : List Char) : Option LogLevel :=
  (s.loggers name).map LoggerImpl.level

/-- The level that `LOG_MODULE_CURRENT_LEVEL` reports. -/
def reported (s : LogModules Module World) (name : List Char) : Option LogLevel :=
  (s.logger name).map fun impl => impl.getLogLevel.1

def keepsSaved (module : Module) : LogModules Module World → ModuleAction Module World → Prop :=
  fun _ action => ∀ call, action = .use module call → call.saves = false

theorem use_step {call : ModuleCall World} {output : ModuleOutput World}
    (move : s.Step (.use module call) output s') :
    ∃ name saved impl, s.modules module = some ⟨name, saved⟩ ∧ s.logger name = some impl ∧
      s'.loggers = update s.loggers name (some (impl.perform saved call).1) ∧
      s'.modules = update s.modules module (some ⟨name, (impl.perform saved call).2.1⟩) := by
  cases known : s.modules module with
  | none => simp [Step, step, known] at move
  | some statics =>
      obtain ⟨name, saved⟩ := statics
      cases found : s.loggers name with
      | none => simp [Step, step, known, found] at move
      | some impl =>
          simp only [Step, step, known, found, Option.some.injEq, Prod.mk.injEq] at move
          obtain ⟨rfl, rfl⟩ := move
          exact ⟨name, saved, { impl with world := s.world }, rfl, by simp [logger, found], rfl,
            rfl⟩

omit [DecidableEq Module] in
theorem findLogger_modules (s : LogModules Module World) (name : List Char) (level : LogLevel) :
    (s.findLogger name level).modules = s.modules := by
  unfold findLogger
  cases s.loggers name <;> rfl

theorem statics_stay {statics : LogModule} {action : ModuleAction Module World}
    {output : ModuleOutput World} (known : s.modules module = some statics)
    (keeps : s.keepsSaved module action) (move : s.Step action output s') :
    s'.modules module = some statics := by
  cases action with
  | environment world =>
      cases move
      exact known
  | register other name level =>
      cases there : s.modules other with
      | some statics => simp [Step, step, there] at move
      | none =>
          simp only [Step, step, there, Option.some.injEq, Prod.mk.injEq] at move
          obtain ⟨rfl, rfl⟩ := move
          have apart : module ≠ other := by
            rintro rfl
            simp [there] at known
          simp only [findLogger_modules, Function.update_of_ne apart, known]
  | use other call =>
      obtain ⟨name, saved, impl, there, _, _, modules⟩ := use_step move
      rw [modules]
      by_cases same : module = other
      · subst same
        rw [LoggerImpl.perform_keeps (keeps call rfl), Function.update_self, ← there, known]
      · rw [Function.update_of_ne same, known]

/-- Restoring undoes what was done since the level was saved: whatever modules have done in
between, the level is again the one that the logger reported when this module saved it last.
The other loggers and modules stay as they are. -/
theorem restore_returns_to_saved_level {s₁ s₂ s₃ : LogModules Module World}
    {save : ModuleCall World} {span : List (ModuleAction Module World × ModuleOutput World)}
    {first last : ModuleOutput World} (saves : save.saves = true)
    (saved : s.Step (.use module save) first s₁)
    (meanwhile : Run Step (keepsSaved module) s₁ span s₂)
    (restored : s₂.Step (.use module .restoreLogLevel) last s₃) :
    ∃ name, (s.modules module).map LogModule.name = some name ∧
      s₃.level name = s.reported name ∧
      (∀ other, other ≠ name → s₃.loggers other = s₂.loggers other) ∧
      s₃.modules = s₂.modules := by
  obtain ⟨name, _, impl, known, found, _, modules⟩ := use_step saved
  have statics : s₂.modules module = some ⟨name, impl.getLogLevel.1⟩ := by
    refine meanwhile.preserves (fun s => s.modules module = some ⟨name, impl.getLogLevel.1⟩) ?_ ?_
    · exact fun _ _ _ _ known keeps move => statics_stay known keeps move
    · rw [modules, Function.update_self, LoggerImpl.perform_saves saves]
  obtain ⟨name', level, impl', there, _, loggers, kept⟩ := use_step restored
  cases statics.symm.trans there
  refine ⟨name, by rw [known]; rfl, ?_, fun other differs => ?_, ?_⟩
  · rw [LogModules.level, loggers, Function.update_self, reported, found]
    exact congrArg some (impl'.setLogLevel_level _)
  · rw [loggers, Function.update_of_ne differs]
  · rw [kept, LoggerImpl.perform_keeps rfl, ← there, Function.update_eq_self]

/-- Another module of the same name saves and sets the level in between. -/
theorem restore_returns_to_saved_level_of_shared :
    ∃ s s₂ s₃ : LogModules (Fin 2) Unit, s.level ['a'] = some logLevelInfo ∧
      s₂.level ['a'] = some logLevelDbg ∧ s₃.level ['a'] = s.reported ['a'] ∧
      s.reported ['a'] = some logLevelInfo := by
  let actions : List (ModuleAction (Fin 2) Unit) :=
    [.register 0 ['a'] logLevelInfo, .register 1 ['a'] logLevelDbg]
  let s := (((LogModules.empty ()).runActions actions).get rfl).2
  let s₁ := ((s.step (.use 0 (.saveLogLevelAndForce logLevelError))).get rfl).1
  let between := ((s₁.step (.use 1 (.saveLogLevelAndOverride logLevelWarn))).get rfl).1
  let s₂ := ((between.step (.use 1 (.setLogLevel logLevelDbg))).get rfl).1
  let s₃ := ((s₂.step (.use 0 .restoreLogLevel)).get rfl).1
  have saved : s.Step (.use 0 (.saveLogLevelAndForce logLevelError)) _ s₁ := rfl
  have savedToo : s₁.Step (.use 1 (.saveLogLevelAndOverride logLevelWarn)) _ between := rfl
  have set : between.Step (.use 1 (.setLogLevel logLevelDbg)) _ s₂ := rfl
  have restored : s₂.Step (.use 0 .restoreLogLevel) _ s₃ := rfl
  have other (s : LogModules (Fin 2) Unit) (call : ModuleCall Unit) :
      s.keepsSaved 0 (.use 1 call) := by
    intro _ same
    simp at same
  have meanwhile : Run Step (keepsSaved 0) s₁ _ s₂ :=
    (Run.nil.snoc (other _ _) savedToo).snoc (other _ _) set
  obtain ⟨name, named, level, _⟩ := restore_returns_to_saved_level rfl saved meanwhile restored
  cases named
  exact ⟨s, s₂, s₃, rfl, rfl, level, rfl⟩

end LogModules

end AresCommon.Logging
