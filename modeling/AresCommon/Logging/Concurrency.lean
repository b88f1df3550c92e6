import AresCommon.Foundation.CriticalSection
import AresCommon.Logging.Filtering

/-!
# Calls of a logger from several threads

The member functions of `LoggerImpl` access by access, under `_lock`. The callbacks act on
a world that others change at any time; nothing else that a section touches can be seen
without the lock. So the calls of any number of threads are calls one after another, the
calls of `Logger.lean`.
-/

namespace AresCommon.Logging

open AresCommon.Foundation AresCommon.Foundation.Transition

set_option autoImplicit false

variable {World : Type}

/-! ## Accesses -/

def LoggerCallbacks.assignMessage (cb : LoggerCallbacks World) (severity : Severity)
    (callback : Option (List Char → World → World)) : LoggerCallbacks World :=
  match severity with
  | .dbg => { cb with dbg := callback }
  | .inf => { cb with info := callback }
  | .wrn => { cb with warn := callback }
  | .err => { cb with error := callback }
  | .crit => { cb with critical := callback }

/-- What a section reads, writes and calls. -/
inductive LoggerAccess (World : Type) where
  | loadLevel
  | storeLevel (level : LogLevel)
  | testMessage (severity : Severity)
  | callMessage (severity : Severity) (msg : List Char)
  | testSetLevel
  | callSetLevel (level : Int64)
  | testGetLevel
  | callGetLevel
  | print (severity : Severity) (msg : List Char)
  /-- the members of `_cb = cb`, one after another -/
  | assignMessage (severity : Severity) (callback : Option (List Char → World → World))
  | assignSetLevel (callback : Option (Int64 → World → World))
  | assignGetLevel (callback : Option (World → Int64 × World))

@[reducible]
def LoggerAnswer : LoggerAccess World → Type
  | .loadLevel => LogLevel
  | .testMessage _ => Bool
  | .testSetLevel => Bool
  | .testGetLevel => Bool
  | .callGetLevel => Int64
  | _ => Unit

namespace LoggerImpl

def access (s : LoggerImpl World) :
    (call : LoggerAccess World) → LoggerAnswer call × LoggerImpl World
  | .loadLevel => (s.level, s)
  | .storeLevel level => ((), { s with level })
  | .testMessage severity => ((severity.callback s.cb).isSome, s)
  | .callMessage severity msg =>
      ((), { s with world :=
        (severity.callback s.cb).elim s.world fun callback => callback msg s.world })
  | .testSetLevel => (s.cb.setLevel.isSome, s)
  | .callSetLevel level =>
      ((), { s with world := s.cb.setLevel.elim s.world fun setLevel => setLevel level s.world })
  | .testGetLevel => (s.cb.getLevel.isSome, s)
  | .callGetLevel =>
      let (level, world) := s.cb.getLevel.elim (0, s.world) fun getLevel => getLevel s.world
      (level, { s with world })
  | .print severity msg => ((), s.printLine severity.color severity.tag msg)
  | .assignMessage severity callback => ((), { s with cb := s.cb.assignMessage severity callback })
  | .assignSetLevel callback => ((), { s with cb := { s.cb with setLevel := callback } })
  | .assignGetLevel callback => ((), { s with cb := { s.cb with getLevel := callback } })

end LoggerImpl

/-! ## Sections -/

abbrev LoggerProgram (World Result : Type) : Type :=
  Program (LoggerAccess World) LoggerAnswer Result

/-- The calls that take `_lock`; `log` and `log_hexdump` format their text before. -/
inductive LoggerSection (World : Type) where
  | setLogLevel (level : LogLevel)
  | getLogLevel
  | message (severity : Severity) (text : List Char)
  | registerLoggingCallbacks (cb : LoggerCallbacks World)

namespace LoggerProgram

def tellLevel (level : LogLevel) : LoggerProgram World LoggerReply := do
  let registered : Bool ← Program.request LoggerAccess.testSetLevel
  if registered then
    Program.request (LoggerAccess.callSetLevel (levelToLong level))
    pure .void
  else pure .void

def setLogLevel (level : LogLevel) : LoggerProgram World LoggerReply := do
  Program.request (LoggerAccess.storeLevel level)
  tellLevel level

def getLogLevel : LoggerProgram World LoggerReply := do
  let registered : Bool ← Program.request LoggerAccess.testGetLevel
  if registered then
    let level : Int64 ← Program.request LoggerAccess.callGetLevel
    pure (.level (levelOfLong level))
  else
    let level : LogLevel ← Program.request LoggerAccess.loadLevel
    pure (.level level)

def logAs (severity : Severity) (msg : List Char) : LoggerProgram World LoggerReply := do
  let registered : Bool ← Program.request (LoggerAccess.testMessage severity)
  if registered then
    Program.request (LoggerAccess.callMessage severity msg)
    pure .void
  else
    let level : LogLevel ← Program.request LoggerAccess.loadLevel
    if severity.Passes level then
      Program.request (LoggerAccess.print severity msg)
      pure .void
    else pure .void

def registerLoggingCallbacks (cb : LoggerCallbacks World) : LoggerProgram World LoggerReply := do
  Program.request (LoggerAccess.assignMessage .dbg cb.dbg)
  Program.request (LoggerAccess.assignMessage .inf cb.info)
  Program.request (LoggerAccess.assignMessage .wrn cb.warn)
  Program.request (LoggerAccess.assignMessage .err cb.error)
  Program.request (LoggerAccess.assignMessage .crit cb.critical)
  Program.request (LoggerAccess.assignSetLevel cb.setLevel)
  Program.request (LoggerAccess.assignGetLevel cb.getLevel)
  let level : LogLevel ← Program.request LoggerAccess.loadLevel
  tellLevel level

end LoggerProgram

namespace LoggerSection

def body : LoggerSection World → LoggerProgram World LoggerReply
  | .setLogLevel level => LoggerProgram.setLogLevel level
  | .getLogLevel => LoggerProgram.getLogLevel
  | .message severity text => LoggerProgram.logAs severity (cString text)
  | .registerLoggingCallbacks cb => LoggerProgram.registerLoggingCallbacks cb

def call : LoggerSection World → LoggerCall World
  | .setLogLevel level => .setLogLevel level
  | .getLogLevel => .getLogLevel
  | .message severity text => .log severity.level (some text)
  | .registerLoggingCallbacks cb => .registerLoggingCallbacks cb

end LoggerSection

def LoggerAccess.callsBack : LoggerAccess World → Prop
  | .callMessage _ _ => True
  | .callSetLevel _ => True
  | .callGetLevel => True
  | _ => False

/-- A logger that threads share; others change the world. -/
def sharedLogger (Thread World : Type) :
    Guarded Thread (LoggerSection World) (LoggerAccess World) LoggerAnswer LoggerReply
      (LoggerImpl World) World Unit where
  ready _ _ _ := true
  body _ := LoggerSection.body
  answer _ := LoggerImpl.access
  actor _ := none
  disturb s world := some ((), { s with world })
  loud := LoggerAccess.callsBack

/-! ## Every section calls back at most once -/

section Once

variable {Thread : Type}

theorem tellLevel_once (level : LogLevel) :
    Guarded.Once (sharedLogger Thread World).free (LoggerProgram.tellLevel level) := by
  refine .request (fun back => back) trivial fun registered _ => ?_
  apply Guarded.Once.ite
  · intro _
    exact .reveal trivial fun _ _ => .done _
  · intro _
    exact .done _

theorem section_once (self : Thread) (call : LoggerSection World) :
    Guarded.Once (sharedLogger Thread World).free ((sharedLogger Thread World).body self call) := by
  cases call with
  | setLogLevel level =>
      exact .request (fun back => back) trivial fun _ _ => tellLevel_once level
  | getLogLevel =>
      refine .request (fun back => back) trivial fun registered _ => ?_
      apply Guarded.Once.ite
      · intro _
        exact .reveal trivial fun _ _ => .done _
      · intro _
        exact .request (fun back => back) trivial fun _ _ => .done _
  | message severity text =>
      refine .request (fun back => back) trivial fun registered _ => ?_
      apply Guarded.Once.ite
      · intro _
        exact .reveal trivial fun _ _ => .done _
      · intro _
        refine .request (fun back => back) trivial fun level _ => ?_
        apply Guarded.Once.ite
        · intro _
          exact .request (fun back => back) trivial fun _ _ => .done _
        · intro _
          exact .done _
  | registerLoggingCallbacks cb =>
      refine .request (fun back => back) trivial fun _ _ => ?_
      refine .request (fun back => back) trivial fun _ _ => ?_
      refine .request (fun back => back) trivial fun _ _ => ?_
      refine .request (fun back => back) trivial fun _ _ => ?_
      refine .request (fun back => back) trivial fun _ _ => ?_
      refine .request (fun back => back) trivial fun _ _ => ?_
      refine .request (fun back => back) trivial fun _ _ => ?_
      exact .request (fun back => back) trivial fun level _ => tellLevel_once level

end Once

theorem access_world {call : LoggerAccess World} (quiet : ¬call.callsBack)
    (s : LoggerImpl World) (world : World) :
    LoggerImpl.access { s with world } call =
      ((s.access call).1, { (s.access call).2 with world }) := by
  cases call with
  | callMessage | callSetLevel | callGetLevel => exact (quiet trivial).elim
  | _ => rfl

/-- The sections write the members, the others the world. -/
def loggerParts (Thread World : Type) : (sharedLogger Thread World).Separated where
  merge _ mine theirs := { mine with world := theirs.world }
  agrees _ _ _ := True
  agrees_refl _ _ := trivial
  merge_self _ _ := rfl
  quiet quiet _ := access_world quiet _ _
  quiet_agrees _ := trivial
  disturb _ _ := rfl
  disturb_agrees _ _ := trivial

theorem shared_logger_reducible (Thread World : Type) :
    (sharedLogger Thread World).Reducible (sharedLogger Thread World).free where
  once := section_once
  replies _ _ _ := trivial
  kept _ _ := trivial
  disturbed _ _ := trivial
  ready _ _ _ := rfl
  behind := (loggerParts Thread World).behind
  before := (loggerParts Thread World).before

theorem shared_logger_steady (Thread World : Type) :
    (sharedLogger Thread World).Steady (sharedLogger Thread World).free where
  answer _ _ _ := rfl
  disturb _ _ _ := rfl

/-! ## A section that nothing comes between is the call -/

section Effect

variable {Thread : Type}

theorem ending_tellLevel (s : LoggerImpl World) :
    (LoggerProgram.tellLevel s.level).ending LoggerImpl.access s = some (.void, s.tellLevel) := by
  unfold LoggerProgram.tellLevel LoggerImpl.tellLevel
  rw [Program.ending_request]
  cases registered : s.cb.setLevel with
  | none => simp [LoggerImpl.access, registered]
  | some setLevel => simp [LoggerImpl.access, registered]

theorem ending_getLogLevel (s : LoggerImpl World) :
    LoggerProgram.getLogLevel.ending LoggerImpl.access s =
      some (.level s.getLogLevel.1, s.getLogLevel.2) := by
  unfold LoggerProgram.getLogLevel LoggerImpl.getLogLevel
  rw [Program.ending_request]
  cases registered : s.cb.getLevel with
  | none => simp [LoggerImpl.access, registered]
  | some getLevel => simp [LoggerImpl.access, registered]

theorem ending_logAs (s : LoggerImpl World) (severity : Severity) (msg : List Char) :
    (LoggerProgram.logAs severity msg).ending LoggerImpl.access s =
      some (.void, s.logAs severity msg) := by
  rw [LoggerImpl.logAs_eq]
  unfold LoggerProgram.logAs
  rw [Program.ending_request]
  cases registered : severity.callback s.cb with
  | some callback => simp [LoggerImpl.access, registered, LoggerImpl.redirectOr]
  | none =>
      by_cases passes : severity.Passes s.level
      · simp [LoggerImpl.access, registered, LoggerImpl.redirectOr, passes]
      · simp [LoggerImpl.access, registered, LoggerImpl.redirectOr, passes]

theorem ending_registerLoggingCallbacks (s : LoggerImpl World) (cb : LoggerCallbacks World) :
    (LoggerProgram.registerLoggingCallbacks cb).ending LoggerImpl.access s =
      some (.void, s.registerLoggingCallbacks cb) := by
  unfold LoggerProgram.registerLoggingCallbacks
  simp only [Program.ending_request, LoggerImpl.access, LoggerCallbacks.assignMessage]
  exact ending_tellLevel { s with cb }

theorem shared_logger_effect (self : Thread) (call : LoggerSection World) (s : LoggerImpl World) :
    (sharedLogger Thread World).effect self call s = some (s.call call.call) := by
  cases call with
  | setLogLevel level => exact ending_tellLevel { s with level }
  | getLogLevel => exact ending_getLogLevel s
  | message severity text =>
      refine (ending_logAs s severity (cString text)).trans ?_
      rw [← LoggerImpl.log_level]
      rfl
  | registerLoggingCallbacks cb => exact ending_registerLoggingCallbacks s cb

end Effect

/-! ## Runs -/

def loggerTurn {Thread : Type} :
    Guarded.Turn Thread (LoggerSection World) World × Guarded.SectionOutput LoggerReply Unit →
      LoggerCall World × LoggerReply
  | (.op _ call, .returned reply) => (call.call, reply)
  | (.op _ call, _) => (call.call, .void)
  | (.other world, _) => (.environment world, .void)

def loggerTurns {Thread : Type}
    (labels : List (Guarded.AtomicAction Thread (LoggerSection World) World ×
      Guarded.SectionOutput LoggerReply Unit)) : List (LoggerCall World × LoggerReply) :=
  (labels.filterMap Guarded.AtomicAction.turn).map loggerTurn

/-- The calls of threads that share a logger are atomic: whatever the interleaving of their
accesses, the calls take effect one after another, each between its entry and its return,
with the replies and the state of a logger that no two threads use at a time. -/
theorem logger_calls_atomic {Thread World : Type} [DecidableEq Thread] {name : List Char}
    {level : LogLevel} {world : World}
    {trace : List (Guarded.SectionAction Thread (LoggerSection World) World ×
      Guarded.SectionOutput LoggerReply Unit)}
    {final : Guarded.Interleaved Thread (LoggerSection World) (LoggerAccess World) LoggerAnswer
      LoggerReply (LoggerImpl World)}
    (run : Run (sharedLogger Thread World).InterleavedStep anyStep
      (Guarded.interleaved (.constructed name level world)) trace final) :
    ∃ labels last,
      Run (sharedLogger Thread World).AtomicStep anyStep
        (Guarded.atomic (.constructed name level world)) labels last ∧
      labels.filterMap Guarded.AtomicAction.event = trace.filterMap Guarded.SectionAction.event ∧
      Run LoggerImpl.step anyStep (.constructed name level world) (loggerTurns labels)
        last.shared ∧
      (final.locked = false → final.shared = last.shared) := by
  obtain ⟨labels, last, below, seen, reduces⟩ :=
    Guarded.sections_atomic (shared_logger_reducible Thread World) run trivial
  refine ⟨labels, last, below, seen, ?_, reduces.shared_of_free⟩
  have turns := Guarded.ready_turns (shared_logger_reducible Thread World)
    (shared_logger_steady Thread World) below trivial
  refine (turns.relabel (fun _ => True) ?_ trivial).1
  intro s action output s' _ _ move
  refine ⟨?_, trivial⟩
  cases move with
  | @op self call reply s' takes =>
      rw [shared_logger_effect] at takes
      exact Option.some.inj takes
  | other disturbs =>
      cases disturbs
      rfl

/-- Two threads set the level; the second one tries the lock while the first one is inside. -/
theorem logger_calls_atomic_of_two_threads :
    ∃ labels last,
      Run (sharedLogger Bool Unit).AtomicStep anyStep
        (Guarded.atomic (.constructed ['a'] logLevelInfo ())) labels last ∧
      Run LoggerImpl.step anyStep (.constructed ['a'] logLevelInfo ()) (loggerTurns labels)
        last.shared ∧
      last.shared.level = logLevelError := by
  obtain ⟨trace, final, run, passed⟩ := (sharedLogger Bool Unit).interleaved_run_of_actions
    (Guarded.interleaved (.constructed ['a'] logLevelInfo ()))
    [.call false (.setLogLevel logLevelWarn), .call true (.setLogLevel logLevelError),
      .attempt false, .attempt true, .advance false, .attempt true, .advance false,
      .release false, .attempt true, .advance true, .advance true, .release true]
    (fun _ final => !final.locked && final.shared.level == logLevelError) (by decide)
  obtain ⟨labels, last, below, _, turns, same⟩ := logger_calls_atomic run
  obtain ⟨unlocked, level⟩ := Bool.and_eq_true_iff.mp passed
  refine ⟨labels, last, below, turns, ?_⟩
  rw [← same (by simpa using unlocked)]
  exact eq_of_beq level

end AresCommon.Logging
