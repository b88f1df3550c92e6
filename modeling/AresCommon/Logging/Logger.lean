import AresCommon.Foundation.Transition
import AresCommon.Logging.Hexdump

/-!
# The logger

A `LoggerImpl` with what it has printed and the world that its callbacks act on. Every
member function holds `_lock` until it returns, so a call is one step and no callback comes
back to the logger. The world may change between two calls.
-/

namespace AresCommon.Logging

open AresCommon.Foundation.Transition

set_option autoImplicit false

variable {World : Type}

/-! ## Members -/

/-- `LoggerCallbacks`; `none` is `nullptr` and a `long` is `Int64`. -/
structure LoggerCallbacks (World : Type) where
  dbg : Option (List Char → World → World)
  info : Option (List Char → World → World)
  warn : Option (List Char → World → World)
  error : Option (List Char → World → World)
  critical : Option (List Char → World → World)
  setLevel : Option (Int64 → World → World)
  getLevel : Option (World → Int64 × World)

def LoggerCallbacks.null : LoggerCallbacks World where
  dbg := none
  info := none
  warn := none
  error := none
  critical := none
  setLevel := none
  getLevel := none

structure LoggerImpl (World : Type) where
  name : List Char
  level : LogLevel
  cb : LoggerCallbacks World
  world : World
  out : List Char

def resetColor : List Char := "\x1b[0m".toList
def dbgColor : List Char := resetColor
def infColor : List Char := "\x1b[38;2;39;163;105m".toList
def wrnColor : List Char := "\x1b[38;2;163;115;76m".toList
def errColor : List Char := "\x1b[38;2;193;29;40m".toList
def critColor : List Char := "\x1b[38;2;117;80;123m".toList

def levelToLong (level : LogLevel) : Int64 := level.toUInt64.toInt64

/-- `static_cast<LogLevel>` of a `long`. -/
def levelOfLong (value : Int64) : LogLevel := value.toUInt64.toUInt32

/-- What a `const char *` into the text refers to. -/
def cString (text : List Char) : List Char := text.takeWhile (· ≠ Char.ofNat 0)

namespace LoggerImpl

variable (s : LoggerImpl World)

def constructed (name : List Char) (level : LogLevel) (world : World) : LoggerImpl World where
  name
  level
  cb := .null
  world
  out := []

def tellLevel : LoggerImpl World :=
  match s.cb.setLevel with
  | none => s
  | some setLevel => { s with world := setLevel (levelToLong s.level) s.world }

def setLogLevel (level : LogLevel) : LoggerImpl World :=
  { s with level }.tellLevel

def registerLoggingCallbacks (cb : LoggerCallbacks World) : LoggerImpl World :=
  { s with cb }.tellLevel

def getLogLevel : LogLevel × LoggerImpl World :=
  match s.cb.getLevel with
  | none => (s.level, s)
  | some getLevel =>
      (levelOfLong (getLevel s.world).1, { s with world := (getLevel s.world).2 })

/-! ## Printing a message -/

/-- `printf("%s[tag]%s %s: %s\n", color, reset_color, _name, msg)`. -/
def printLine (color tag msg : List Char) : LoggerImpl World :=
  { s with
    out := s.out ++
      (color ++ tag ++ resetColor ++ " ".toList ++ s.name ++ ": ".toList ++ msg ++ "\n".toList) }

/-- A message goes to its callback; without one it may be printed. -/
def redirectOr (callback : Option (List Char → World → World)) (msg : List Char)
    (unredirected : LoggerImpl World) : LoggerImpl World :=
  match callback with
  | some callback => { s with world := callback msg s.world }
  | none => unredirected

/-- What `_log_inf`, `_log_wrn`, `_log_err` and `_log_crit` share. -/
def logUpTo (callback : Option (List Char → World → World)) (limit : LogLevel)
    (color tag msg : List Char) : LoggerImpl World :=
  s.redirectOr callback msg (if s.level ≤ limit then s.printLine color tag msg else s)

/-- `_log_dbg`, which compares for equality. -/
def logDbg (msg : List Char) : LoggerImpl World :=
  s.redirectOr s.cb.dbg msg
    (if s.level = logLevelDbg then s.printLine dbgColor "[DBG]".toList msg else s)

def logInf (msg : List Char) : LoggerImpl World :=
  s.logUpTo s.cb.info logLevelInfo infColor "[INFO]".toList msg

def logWrn (msg : List Char) : LoggerImpl World :=
  s.logUpTo s.cb.warn logLevelWarn wrnColor "[WARN]".toList msg

def logErr (msg : List Char) : LoggerImpl World :=
  s.logUpTo s.cb.error logLevelError errColor "[ERR]".toList msg

def logCrit (msg : List Char) : LoggerImpl World :=
  s.logUpTo s.cb.critical logLevelCritical critColor "[CRIT]".toList msg

def logAs : Severity → List Char → LoggerImpl World
  | .dbg => s.logDbg
  | .inf => s.logInf
  | .wrn => s.logWrn
  | .err => s.logErr
  | .crit => s.logCrit

/-- `log`, over the message that `vsnprintf` formats; `none` when it fails. -/
def log (level : LogLevel) (formatted : Option (List Char)) : LoggerImpl World :=
  match formatted with
  | none => s
  | some text =>
      match Severity.ofLevel level with
      | some severity => s.logAs severity (cString text)
      | none => s

def logHexdump (level : LogLevel) (msg : List Char) (buf : List UInt8) (bytes : Nat) :
    LoggerImpl World :=
  match Logging.logHexdump s.name level msg buf bytes with
  | some (severity, text) => s.logAs severity (cString text)
  | none => s

end LoggerImpl

/-! ## Calls -/

inductive LoggerCall (World : Type) where
  | setLogLevel (level : LogLevel)
  | getLogLevel
  | log (level : LogLevel) (formatted : Option (List Char))
  | logHexdump (level : LogLevel) (msg : List Char) (buf : List UInt8) (bytes : Nat)
  | registerLoggingCallbacks (cb : LoggerCallbacks World)
  /-- something else changes the world -/
  | environment (world : World)

inductive LoggerReply where
  | void
  | level (level : LogLevel)
  deriving DecidableEq, Repr

def LoggerImpl.call (s : LoggerImpl World) : LoggerCall World → LoggerReply × LoggerImpl World
  | .setLogLevel level => (.void, s.setLogLevel level)
  | .getLogLevel => (.level s.getLogLevel.1, s.getLogLevel.2)
  | .log level formatted => (.void, s.log level formatted)
  | .logHexdump level msg buf bytes => (.void, s.logHexdump level msg buf bytes)
  | .registerLoggingCallbacks cb => (.void, s.registerLoggingCallbacks cb)
  | .environment world => (.void, { s with world })

def LoggerImpl.step (s : LoggerImpl World) (call : LoggerCall World) (reply : LoggerReply)
    (s' : LoggerImpl World) : Prop :=
  s.call call = (reply, s')

end AresCommon.Logging
