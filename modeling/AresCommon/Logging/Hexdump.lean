import Mathlib.Data.List.Basic

/-!
# Hex dumps of the logger

A stream of text with the format flags that outlive an insertion, and the functions of
the logger that write a dump into it. A `char` of the text is its code in the C locale; a
`char` of the data is signed.
-/

namespace AresCommon.Logging

set_option autoImplicit false

/-! ## String streams -/

inductive Radix where
  | dec
  | hex
  deriving DecidableEq, Repr

structure StringStream where
  str : List Char
  radix : Radix
  width : Nat
  fill : Char
  deriving DecidableEq, Repr

namespace StringStream

def constructed : StringStream where
  str := []
  radix := .dec
  width := 0
  fill := ' '

variable (ss : StringStream)

def dec : StringStream := { ss with radix := .dec }

def hex : StringStream := { ss with radix := .hex }

def setw (n : Nat) : StringStream := { ss with width := n }

def setfill (c : Char) : StringStream := { ss with fill := c }

/-- A formatted insertion fills up to the width, on the left, and takes the width back. -/
def insert (field : List Char) : StringStream :=
  { ss with
    str := ss.str ++ (List.replicate (ss.width - field.length) ss.fill ++ field)
    width := 0 }

/-- Only decimal output has a sign. -/
def insertInt (value : Int32) : StringStream :=
  match ss.radix with
  | .dec => ss.insert (toString value.toInt).toList
  | .hex => ss.insert (Nat.toDigits 16 value.toUInt32.toNat)

end StringStream

/-! ## The dump -/

/-- `std::isprint` in the C locale. -/
def isprint (c : UInt8) : Bool := 0x20 ≤ c && c ≤ 0x7e

def applyPadding (ss : StringStream) (pad : Nat) : StringStream :=
  ss.insert (List.replicate pad ' ')

def bytesPerLine : Nat := 8

def spaceBreak : Nat := bytesPerLine / 2 - 1

def dumpHex (idx : Nat) (data : List Int8) (ss : StringStream) : StringStream :=
  (List.range bytesPerLine).foldl
    (fun ss i =>
      let ss := match data[i + idx]? with
        | some c =>
            (((ss.hex.setw 2).setfill '0').insertInt (c.toInt32 &&& 0xFF)).insert " ".toList
        | none => ss.insert "   ".toList
      if i = spaceBreak then ss.insert "  ".toList else ss)
    ss

def dumpAscii (idx : Nat) (data : List Int8) (ss : StringStream) : StringStream :=
  let ss := (List.range bytesPerLine).foldl
    (fun ss i =>
      let ss := match data[i + idx]? with
        | some c =>
            let c := c.toUInt8
            ss.insert [if isprint c then Char.ofNat c.toNat else '.']
        | none => ss
      if i = spaceBreak then ss.insert " ".toList else ss)
    (ss.insert "  |".toList)
  -- the index of the loop has reached the number of bytes on a line
  let i := bytesPerLine
  if i + idx < data.length then ss.dec.insert "\n".toList else ss

def constructHexdumpFrom (i : Nat) (data : List Int8) (pad : Nat) (ss : StringStream) :
    StringStream :=
  if i < data.length then
    constructHexdumpFrom (i + bytesPerLine) data pad
      (dumpAscii i data (dumpHex i data (applyPadding ss pad)))
  else ss
termination_by data.length - i
decreasing_by
  simp only [bytesPerLine]
  omega

def constructHexdump (data : List Int8) (pad : Nat) (ss : StringStream) : StringStream :=
  constructHexdumpFrom 0 data pad ss

/-! ## The call -/

abbrev LogLevel := UInt32

def logLevelDbg : LogLevel := 10
def logLevelInfo : LogLevel := 20
def logLevelWarn : LogLevel := 30
def logLevelError : LogLevel := 40
def logLevelCritical : LogLevel := 50

inductive Severity where
  | dbg
  | inf
  | wrn
  | err
  | crit
  deriving DecidableEq, Repr

/-- The switch of `log` and `log_hexdump`. -/
def Severity.ofLevel (level : LogLevel) : Option Severity :=
  if level = logLevelDbg then some .dbg
  else if level = logLevelInfo then some .inf
  else if level = logLevelWarn then some .wrn
  else if level = logLevelError then some .err
  else if level = logLevelCritical then some .crit
  else none

/-- The bytes of the vector seen as `char`, in a view that is no longer than they are. -/
def stringView (buf : List UInt8) (bytes : Nat) : List Int8 :=
  (buf.take (min bytes buf.length)).map UInt8.toInt8

/-- `LoggerImpl::log_hexdump`: the member function that it calls, with the message. -/
def logHexdump (name : List Char) (level : LogLevel) (msg : List Char) (buf : List UInt8)
    (bytes : Nat) : Option (Severity × List Char) :=
  let ss := (StringStream.constructed.insert msg).insert "\n".toList
  let offset := if level = logLevelDbg ∨ level = logLevelError then 6 else 7
  let offset := offset + (name.length + 2)
  let ss := constructHexdump (stringView buf bytes) offset ss
  (Severity.ofLevel level).map fun severity => (severity, ss.str)

end AresCommon.Logging
