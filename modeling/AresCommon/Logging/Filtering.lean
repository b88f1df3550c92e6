import AresCommon.Logging.Logger

/-!
# Which messages are printed

The gates read the level that was set last. A `get_level` callback is asked by
`get_log_level` only, and the gate for debug messages compares for equality. So the level
that the logger reports decides what is printed where the two levels lie on one side of
the severity, and where a debug message does not meet a level below its own.
-/

namespace AresCommon.Logging

open AresCommon.Foundation.Transition

set_option autoImplicit false

variable {World : Type}

/-! ## Severities -/

namespace Severity

def level : Severity → LogLevel
  | .dbg => logLevelDbg
  | .inf => logLevelInfo
  | .wrn => logLevelWarn
  | .err => logLevelError
  | .crit => logLevelCritical

def callback (cb : LoggerCallbacks World) : Severity → Option (List Char → World → World)
  | .dbg => cb.dbg
  | .inf => cb.info
  | .wrn => cb.warn
  | .err => cb.error
  | .crit => cb.critical

def color : Severity → List Char
  | .dbg => dbgColor
  | .inf => infColor
  | .wrn => wrnColor
  | .err => errColor
  | .crit => critColor

def tag : Severity → List Char
  | .dbg => "[DBG]".toList
  | .inf => "[INFO]".toList
  | .wrn => "[WARN]".toList
  | .err => "[ERR]".toList
  | .crit => "[CRIT]".toList

def Passes (severity : Severity) (level : LogLevel) : Prop :=
  match severity with
  | .dbg => level = logLevelDbg
  | .inf => level ≤ logLevelInfo
  | .wrn => level ≤ logLevelWarn
  | .err => level ≤ logLevelError
  | .crit => level ≤ logLevelCritical

instance (severity : Severity) (level : LogLevel) : Decidable (severity.Passes level) :=
  match severity with
  | .dbg => inferInstanceAs (Decidable (level = logLevelDbg))
  | .inf => inferInstanceAs (Decidable (level ≤ logLevelInfo))
  | .wrn => inferInstanceAs (Decidable (level ≤ logLevelWarn))
  | .err => inferInstanceAs (Decidable (level ≤ logLevelError))
  | .crit => inferInstanceAs (Decidable (level ≤ logLevelCritical))

theorem ofLevel_level (severity : Severity) : ofLevel severity.level = some severity := by
  cases severity <;> decide

/-- What the gate for debug messages does differently: a level below its own stops it. -/
theorem passes_iff (severity : Severity) (level : LogLevel) :
    severity.Passes level ↔
      level ≤ severity.level ∧ (severity = .dbg → logLevelDbg ≤ level) := by
  cases severity with
  | dbg =>
      simp only [Passes, Severity.level, forall_const]
      exact ⟨fun same => same ▸ ⟨UInt32.le_refl _, UInt32.le_refl _⟩,
        fun both => UInt32.le_antisymm both.1 both.2⟩
  | inf => simp [Passes, Severity.level]
  | wrn => simp [Passes, Severity.level]
  | err => simp [Passes, Severity.level]
  | crit => simp [Passes, Severity.level]

def line (severity : Severity) (name msg : List Char) : List Char :=
  severity.color ++ severity.tag ++ resetColor ++ " ".toList ++ name ++ ": ".toList ++ msg ++
    "\n".toList

theorem line_ne_nil (severity : Severity) (name msg : List Char) :
    severity.line name msg ≠ [] := by
  unfold line
  exact List.append_ne_nil_of_right_ne_nil _ (by decide)

end Severity

namespace LoggerImpl

variable {s : LoggerImpl World} {severity : Severity}

/-! ## One message -/

/-- The five member functions are one with five callbacks, gates, colours and tags. -/
theorem logAs_eq (s : LoggerImpl World) (severity : Severity) (msg : List Char) :
    s.logAs severity msg =
      s.redirectOr (severity.callback s.cb) msg
        (if severity.Passes s.level then s.printLine severity.color severity.tag msg else s) := by
  cases severity <;> rfl

theorem log_level (s : LoggerImpl World) (severity : Severity) (text : List Char) :
    s.log severity.level (some text) = s.logAs severity (cString text) := by
  simp only [log, Severity.ofLevel_level]

theorem log_of_logAs {P : LoggerImpl World → Prop} (kept : P s)
    (member : ∀ severity msg, P (s.logAs severity msg)) (level : LogLevel)
    (formatted : Option (List Char)) : P (s.log level formatted) := by
  unfold log
  cases formatted with
  | none => exact kept
  | some text =>
      cases Severity.ofLevel level with
      | none => exact kept
      | some severity => exact member severity _

theorem logHexdump_of_logAs {P : LoggerImpl World → Prop} (kept : P s)
    (member : ∀ severity msg, P (s.logAs severity msg)) (level : LogLevel) (msg : List Char)
    (buf : List UInt8) (bytes : Nat) : P (s.logHexdump level msg buf bytes) := by
  unfold logHexdump
  cases Logging.logHexdump s.name level msg buf bytes with
  | none => exact kept
  | some entry => exact member entry.1 _

theorem log_out (silent : severity.callback s.cb = none) (text : List Char) :
    (s.log severity.level (some text)).out =
      s.out ++ if severity.Passes s.level then severity.line s.name (cString text) else [] := by
  rw [log_level, logAs_eq, silent]
  unfold redirectOr
  by_cases passes : severity.Passes s.level
  · rw [if_pos passes, if_pos passes]
    rfl
  · rw [if_neg passes, if_neg passes, List.append_nil]

/-- A dump is a message like any other. -/
theorem logHexdump_eq_log (s : LoggerImpl World) (severity : Severity) (msg : List Char)
    (buf : List UInt8) (bytes : Nat) :
    ∃ text, s.logHexdump severity.level msg buf bytes = s.log severity.level (some text) := by
  obtain ⟨text, dump⟩ : ∃ text,
      Logging.logHexdump s.name severity.level msg buf bytes = some (severity, text) := by
    simp only [Logging.logHexdump, Severity.ofLevel_level, Option.map_some]
    exact ⟨_, rfl⟩
  refine ⟨text, ?_⟩
  rw [log_level, logHexdump, dump]

def Prints (s : LoggerImpl World) (severity : Severity) : Prop :=
  ∀ text, (s.log severity.level (some text)).out =
    s.out ++ severity.line s.name (cString text)

/-- A message of the severity is printed if and only if the severity is at least the level
that `get_log_level` reports. -/
def FollowsReported (s : LoggerImpl World) (severity : Severity) : Prop :=
  ∀ text, (s.log severity.level (some text)).out =
    s.out ++
      if s.getLogLevel.1 ≤ severity.level then severity.line s.name (cString text) else []

theorem prints_iff (silent : severity.callback s.cb = none) :
    s.Prints severity ↔ severity.Passes s.level := by
  unfold Prints
  constructor
  · intro prints
    have printed := prints []
    rw [log_out silent, List.append_cancel_left_eq] at printed
    by_contra stopped
    rw [if_neg stopped] at printed
    exact severity.line_ne_nil _ _ printed.symm
  · intro passes text
    rw [log_out silent, if_pos passes]

theorem followsReported_iff (silent : severity.callback s.cb = none) :
    s.FollowsReported severity ↔
      (severity.Passes s.level ↔ s.getLogLevel.1 ≤ severity.level) := by
  unfold FollowsReported
  simp only [log_out silent, List.append_cancel_left_eq]
  constructor
  · intro follows
    have same := follows []
    constructor
    · intro passes
      by_contra above
      rw [if_pos passes, if_neg above] at same
      exact severity.line_ne_nil _ _ same
    · intro below
      by_contra stopped
      rw [if_neg stopped, if_pos below] at same
      exact severity.line_ne_nil _ _ same.symm
  · intro same text
    simp only [same]

end LoggerImpl

/-! ## Every run -/

/-- The level that was set last and the callbacks that were registered last. -/
structure Settings (World : Type) where
  level : LogLevel
  cb : LoggerCallbacks World

def Settings.observe (settings : Settings World) (entry : LoggerCall World × LoggerReply) :
    Settings World :=
  match entry.1 with
  | .setLogLevel level => { settings with level }
  | .registerLoggingCallbacks cb => { settings with cb }
  | _ => settings

def settingsAfter (level : LogLevel) (trace : List (LoggerCall World × LoggerReply)) :
    Settings World :=
  trace.foldl Settings.observe { level, cb := .null }

namespace LoggerImpl

variable {s s' : LoggerImpl World} {severity : Severity}

def Holds (name : List Char) (settings : Settings World) (s : LoggerImpl World) : Prop :=
  s.level = settings.level ∧ s.cb = settings.cb ∧ s.name = name

theorem tellLevel_holds {name : List Char} {settings : Settings World}
    (holds : s.Holds name settings) : s.tellLevel.Holds name settings := by
  unfold tellLevel
  cases s.cb.setLevel with
  | none => exact holds
  | some setLevel => exact holds

theorem setLogLevel_holds {name : List Char} {settings : Settings World}
    (holds : s.Holds name settings) (level : LogLevel) :
    (s.setLogLevel level).Holds name { settings with level } :=
  tellLevel_holds ⟨rfl, holds.2⟩

theorem registerLoggingCallbacks_holds {name : List Char} {settings : Settings World}
    (holds : s.Holds name settings) (cb : LoggerCallbacks World) :
    (s.registerLoggingCallbacks cb).Holds name { settings with cb } :=
  tellLevel_holds ⟨holds.1, rfl, holds.2.2⟩

theorem getLogLevel_holds {name : List Char} {settings : Settings World}
    (holds : s.Holds name settings) : s.getLogLevel.2.Holds name settings := by
  unfold getLogLevel
  cases s.cb.getLevel with
  | none => exact holds
  | some getLevel => exact holds

theorem logAs_holds {name : List Char} {settings : Settings World}
    (holds : s.Holds name settings) (severity : Severity) (msg : List Char) :
    (s.logAs severity msg).Holds name settings := by
  rw [logAs_eq]
  unfold redirectOr
  cases severity.callback s.cb with
  | some callback => exact holds
  | none =>
      by_cases passes : severity.Passes s.level
      · rw [if_pos passes]
        exact holds
      · rw [if_neg passes]
        exact holds

theorem step_holds {name : List Char} {settings : Settings World} {call : LoggerCall World}
    {reply : LoggerReply} (holds : s.Holds name settings) (move : s.step call reply s') :
    s'.Holds name (settings.observe (call, reply)) := by
  have final : (s.call call).2 = s' := congrArg Prod.snd move
  rw [← final]
  cases call with
  | setLogLevel level => exact setLogLevel_holds holds level
  | getLogLevel => exact getLogLevel_holds holds
  | log level formatted => exact log_of_logAs holds (logAs_holds holds) level formatted
  | logHexdump level msg buf bytes =>
      exact logHexdump_of_logAs holds (logAs_holds holds) level msg buf bytes
  | registerLoggingCallbacks cb => exact registerLoggingCallbacks_holds holds cb
  | environment world => exact holds

/-- Every run leaves the logger with the level that was set last and the callbacks that
were registered last. -/
theorem run_holds {name : List Char} {level : LogLevel} {world : World}
    {trace : List (LoggerCall World × LoggerReply)}
    (run : Run step anyStep (constructed name level world) trace s) :
    s.Holds name (settingsAfter level trace) := by
  apply Run.invariant Settings.observe (fun settings s => s.Holds name settings) ?_ run
  · exact ⟨rfl, rfl, rfl⟩
  · intro settings s call reply s' holds _ move
    exact step_holds holds move

end LoggerImpl

/-! ## The reported level -/

/-- Where the gate of a severity and the reported level agree. The gate compares with the
level that was set last; the reported level is the answer of `get_level`, or that level. -/
def Settings.Agrees (settings : Settings World) (severity : Severity) (world : World) : Prop :=
  match settings.cb.getLevel with
  | none => severity = .dbg → logLevelDbg ≤ settings.level
  | some getLevel =>
      (severity.Passes settings.level ↔ levelOfLong (getLevel world).1 ≤ severity.level)

namespace LoggerImpl

variable {s : LoggerImpl World} {severity : Severity}

theorem followsReported_iff_agrees {name : List Char} {settings : Settings World}
    (holds : s.Holds name settings) (silent : severity.callback settings.cb = none) :
    s.FollowsReported severity ↔ settings.Agrees severity s.world := by
  obtain ⟨level, cb, -⟩ := holds
  rw [← cb] at silent
  rw [followsReported_iff silent, level]
  unfold Settings.Agrees getLogLevel
  rw [cb]
  cases settings.cb.getLevel with
  | none =>
      simp only [level, Severity.passes_iff, and_iff_left_iff_imp]
      constructor
      · intro follows debug
        by_contra below
        subst debug
        exact below (follows (UInt32.le_of_lt (UInt32.not_le.mp below)) rfl)
      · intro above _
        exact above
  | some getLevel => exact Iff.rfl

/-- Along every run, for a severity without a callback: the printed messages follow the
reported level exactly under `Agrees`. A lower level then stops a message that was printed
before exactly where it is a debug message and the level is below its own. -/
theorem printed_messages_follow_reported_level_iff {name : List Char} {level : LogLevel}
    {world : World} {trace : List (LoggerCall World × LoggerReply)}
    (run : Run step anyStep (constructed name level world) trace s)
    (silent : severity.callback (settingsAfter level trace).cb = none) :
    (s.FollowsReported severity ↔ (settingsAfter level trace).Agrees severity s.world) ∧
    (∀ lower, lower ≤ (settingsAfter level trace).level → s.Prints severity →
      ((s.setLogLevel lower).Prints severity ↔ (severity = .dbg → logLevelDbg ≤ lower))) ∧
    ∀ msg buf bytes, ∃ text,
      s.logHexdump severity.level msg buf bytes = s.log severity.level (some text) := by
  have holds := run_holds run
  refine ⟨followsReported_iff_agrees holds silent, ?_, s.logHexdump_eq_log severity⟩
  intro lower below prints
  have lowered := setLogLevel_holds holds lower
  have silent_before : severity.callback s.cb = none := holds.2.1 ▸ silent
  have silent_after : severity.callback (s.setLogLevel lower).cb = none := lowered.2.1 ▸ silent
  have passed := (prints_iff silent_before).mp prints
  rw [holds.1, Severity.passes_iff] at passed
  rw [prints_iff silent_after, lowered.1, Severity.passes_iff]
  exact and_iff_right (UInt32.le_trans below passed.1)

theorem run_call {start : LoggerImpl World} {trace : List (LoggerCall World × LoggerReply)}
    (run : Run step anyStep start trace s) (call : LoggerCall World) :
    Run step anyStep start (trace ++ [(call, (s.call call).1)]) (s.call call).2 :=
  .snoc run trivial rfl

def levelCallbacks : LoggerCallbacks Int64 :=
  { LoggerCallbacks.null with
    setLevel := some fun value _ => value
    getLevel := some fun world => (world, world) }

def redirected : LoggerImpl Int64 :=
  (constructed "cut".toList 10 0).registerLoggingCallbacks levelCallbacks

theorem printed_messages_follow_reported_level_warn :
    ((redirected.setLogLevel 30).FollowsReported .wrn ↔
      ({ level := 30, cb := levelCallbacks } : Settings Int64).Agrees .wrn 30) ∧
    (∀ lower, lower ≤ 30 → (redirected.setLogLevel 30).Prints .wrn →
      (((redirected.setLogLevel 30).setLogLevel lower).Prints .wrn ↔
        (Severity.wrn = .dbg → logLevelDbg ≤ lower))) ∧
    ∀ msg buf bytes, ∃ text,
      (redirected.setLogLevel 30).logHexdump 30 msg buf bytes =
        (redirected.setLogLevel 30).log 30 (some text) :=
  have start : Run step anyStep (constructed "cut".toList 10 (0 : Int64)) [] _ := .nil
  have run := run_call (run_call start (.registerLoggingCallbacks levelCallbacks))
    (.setLogLevel 30)
  have silent : Severity.callback levelCallbacks .wrn = none := rfl
  printed_messages_follow_reported_level_iff run silent

/-- A debug message that was printed is not printed any more once the level is zero,
although zero is what the logger reports. And a logger that reports `CRITICAL` through its
`get_level` prints an info message. -/
theorem gates_leave_the_reported_level :
    (∃ trace s, Run step anyStep (constructed "cut".toList 10 ()) trace s ∧
      Severity.callback s.cb .dbg = none ∧ s.out = Severity.line .dbg "cut".toList "a".toList ∧
      s.getLogLevel.1 = 0 ∧ (s.log logLevelDbg (some "a".toList)).out = s.out ∧
      ¬ s.FollowsReported .dbg) ∧
    ∃ trace s, Run step anyStep (constructed "cut".toList 10 ()) trace s ∧
      Severity.callback s.cb .inf = none ∧ s.getLogLevel.1 = logLevelCritical ∧
      (s.log logLevelInfo (some "a".toList)).out =
        s.out ++ Severity.line .inf "cut".toList "a".toList ∧
      ¬ s.FollowsReported .inf := by
  constructor
  · refine ⟨_, _, run_call (run_call .nil (.log logLevelDbg (some "a".toList))) (.setLogLevel 0),
      rfl, rfl, rfl, rfl, ?_⟩
    intro follows
    exact absurd (follows "a".toList) (by decide)
  · refine ⟨_, _, run_call .nil (.registerLoggingCallbacks
      { LoggerCallbacks.null with getLevel := some fun world => (50, world) }),
      rfl, rfl, rfl, ?_⟩
    intro follows
    exact absurd (follows "a".toList) (by decide)

end LoggerImpl

/-! ## Callbacks that keep the level -/

theorem levelOfLong_levelToLong (level : LogLevel) : levelOfLong (levelToLong level) = level := by
  unfold levelOfLong levelToLong
  rw [UInt64.toUInt64_toInt64, UInt32.toUInt32_toUInt64]

/-- A redirected logger with a level of its own: `get_level` answers what `set_level` was
given last, and messages leave it alone. -/
structure LoggerCallbacks.KeepsLevel (cb : LoggerCallbacks World) : Prop where
  set : ∀ getLevel, cb.getLevel = some getLevel → ∃ setLevel, cb.setLevel = some setLevel ∧
    ∀ value world, (getLevel (setLevel value world)).1 = value
  asked : ∀ getLevel, cb.getLevel = some getLevel → ∀ world,
    (getLevel (getLevel world).2).1 = (getLevel world).1
  message : ∀ getLevel, cb.getLevel = some getLevel → ∀ (severity : Severity) callback,
    severity.callback cb = some callback → ∀ msg world,
      (getLevel (callback msg world)).1 = (getLevel world).1

namespace LoggerImpl

variable {s s' : LoggerImpl World}

/-- Calls that set no level below `DBG`, and leave every level to `set_level`. -/
def KeepsLevel (s : LoggerImpl World) : LoggerCall World → Prop
  | .setLogLevel level => logLevelDbg ≤ level
  | .registerLoggingCallbacks cb => cb.KeepsLevel
  | .environment world => ∀ getLevel, s.cb.getLevel = some getLevel →
      (getLevel world).1 = (getLevel s.world).1
  | _ => True

structure InStep (s : LoggerImpl World) : Prop where
  above : logLevelDbg ≤ s.level
  keeps : s.cb.KeepsLevel
  answers : ∀ getLevel, s.cb.getLevel = some getLevel →
    levelOfLong (getLevel s.world).1 = s.level

theorem tellLevel_inStep (above : logLevelDbg ≤ s.level) (keeps : s.cb.KeepsLevel) :
    s.tellLevel.InStep := by
  unfold tellLevel
  cases told : s.cb.setLevel with
  | none =>
      refine ⟨above, keeps, fun getLevel asks => ?_⟩
      obtain ⟨setLevel, sets, _⟩ := keeps.set getLevel asks
      rw [told] at sets
      cases sets
  | some setLevel =>
      refine ⟨above, keeps, fun getLevel asks => ?_⟩
      obtain ⟨_, sets, answers⟩ := keeps.set getLevel asks
      rw [told, Option.some.injEq] at sets
      subst sets
      simp only [answers, levelOfLong_levelToLong]

theorem inStep_of_world {world : World} (inStep : s.InStep)
    (same : ∀ getLevel, s.cb.getLevel = some getLevel →
      (getLevel world).1 = (getLevel s.world).1) : InStep { s with world } := by
  refine ⟨inStep.above, inStep.keeps, fun getLevel asks => ?_⟩
  exact (congrArg levelOfLong (same getLevel asks)).trans (inStep.answers getLevel asks)

theorem logAs_inStep (inStep : s.InStep) (severity : Severity) (msg : List Char) :
    (s.logAs severity msg).InStep := by
  rw [logAs_eq]
  unfold redirectOr
  cases redirected : severity.callback s.cb with
  | some callback =>
      apply inStep_of_world inStep
      intro getLevel asks
      exact inStep.keeps.message getLevel asks severity callback redirected msg s.world
  | none =>
      by_cases passes : severity.Passes s.level
      · rw [if_pos passes]
        exact ⟨inStep.above, inStep.keeps, inStep.answers⟩
      · rw [if_neg passes]
        exact inStep

theorem step_inStep {call : LoggerCall World} {reply : LoggerReply} (inStep : s.InStep)
    (keeps : s.KeepsLevel call) (move : s.step call reply s') : s'.InStep := by
  have final : (s.call call).2 = s' := congrArg Prod.snd move
  rw [← final]
  cases call with
  | setLogLevel level => exact tellLevel_inStep keeps inStep.keeps
  | getLogLevel =>
      simp only [LoggerImpl.call, getLogLevel]
      cases asks : s.cb.getLevel with
      | none => exact inStep
      | some getLevel =>
          apply inStep_of_world inStep
          intro other asked
          rw [asks, Option.some.injEq] at asked
          subst asked
          exact inStep.keeps.asked getLevel asks s.world
  | log level formatted => exact log_of_logAs inStep (logAs_inStep inStep) level formatted
  | logHexdump level msg buf bytes =>
      exact logHexdump_of_logAs inStep (logAs_inStep inStep) level msg buf bytes
  | registerLoggingCallbacks cb => exact tellLevel_inStep inStep.above keeps
  | environment world => exact inStep_of_world inStep keeps

/-- Where no level is below `DBG` and every `get_level` answers what was set last, the
printed messages follow the reported level in every state. -/
theorem followsReported_of_keepsLevel {name : List Char} {level : LogLevel} {world : World}
    {trace : List (LoggerCall World × LoggerReply)} {severity : Severity}
    (run : Run step KeepsLevel (constructed name level world) trace s)
    (above : logLevelDbg ≤ level) (silent : severity.callback s.cb = none) :
    s.FollowsReported severity := by
  have inStep : s.InStep := by
    apply Run.preserves InStep ?_ run
    · exact ⟨above, ⟨nofun, nofun, nofun⟩, nofun⟩
    · intro s call reply s' inStep keeps move
      exact step_inStep inStep keeps move
  rw [followsReported_iff silent, Severity.passes_iff]
  have reported : s.getLogLevel.1 = s.level := by
    unfold getLogLevel
    cases asks : s.cb.getLevel with
    | none => rfl
    | some getLevel => exact inStep.answers getLevel asks
  rw [reported]
  exact and_iff_left fun _ => inStep.above

end LoggerImpl

end AresCommon.Logging
