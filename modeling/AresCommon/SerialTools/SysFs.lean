import AresCommon.Foundation.Numerals

/-!
# Serial ports in sysfs

What the library reads about one serial port from the file system: where its device
directory is, which subsystem it belongs to and, for a USB port, the files of the USB
device. A path is its characters. The file system is given by what the calls of the
standard library that are made on it answer.
-/

namespace AresCommon.SerialTools

open AresCommon.Foundation.Numerals

set_option autoImplicit false

/-! ## Paths -/

abbrev Path := List Char

namespace Path

def filename (path : Path) : Path := (path.reverse.takeWhile (· ≠ '/')).reverse

/-- The path up to its file name, without the separators in front of that. -/
def parentPath (path : Path) : Path :=
  let directory := (path.reverse.dropWhile (· ≠ '/')).reverse
  let stripped := (directory.reverse.dropWhile (· = '/')).reverse
  if stripped = [] then directory.take 1 else stripped

def stem (path : Path) : List Char :=
  let name := path.filename
  let upToDot := (name.reverse.dropWhile (· ≠ '.')).reverse.dropLast
  if name = ['.'] ∨ name = ['.', '.'] ∨ upToDot = [] then name else upToDot

def join (path other : Path) : Path :=
  if other.head? = some '/' then other
  else if path = [] ∨ path.getLast? = some '/' then path ++ other
  else path ++ '/' :: other

end Path

/-! ## The standard library -/

inductive ScanError where
  | filesystemError (path : Path)
  | invalidArgument
  | outOfRange
  deriving DecidableEq, Repr

structure FileSystem where
  /-- `read_symlink`, on the paths that `is_symlink` says yes to -/
  symlink : Path → Option Path
  canonical : Path → Option Path
  /-- what a file holds, when it can be opened -/
  contents : Path → Option (List Char)
  glob : List Char → List Path

def FileSystem.canonicalPath (fs : FileSystem) (path : Path) : Except ScanError Path :=
  match fs.canonical path with
  | some found => .ok found
  | none => .error (.filesystemError path)

/-- `" \t\n\r\f\v"`, which is also what `std::isspace` accepts -/
def isSpace (c : Char) : Bool :=
  c = ' ' || c = '\t' || c = '\n' || c = '\r' || c = '\x0c' || c = '\x0b'

/-- `std::stoull` in base 10 or 16; a prefix `0x` alone is a zero. -/
def stoull (base : Nat) (text : List Char) : Except ScanError UInt64 :=
  let text := text.dropWhile isSpace
  let negative := text.head? = some '-'
  let text := if negative ∨ text.head? = some '+' then text.tail else text
  let hexPrefix := base = 16 ∧ text.head? = some '0' ∧
    (text[1]? = some 'x' ∨ text[1]? = some 'X')
  let text := if hexPrefix then text.drop 2 else text
  let digits := digitsOf base text
  if digits = [] ∧ ¬hexPrefix then .error .invalidArgument
  else if valueOf base digits < 2 ^ 64 then
    let value := UInt64.ofNat (valueOf base digits)
    .ok (if negative then -value else value)
  else .error .outOfRange

/-! ## One port -/

structure SysFs where
  device : Path
  name : List Char
  description : List Char
  hwid : List Char
  serialNumber : List Char
  location : List Char
  manufacturer : List Char
  product : List Char
  interface : List Char
  vid : UInt64
  pid : UInt64
  devicePath : Path
  usbDevicePath : Path
  subsystem : List Char
  usbInterfacePath : Path
  deriving DecidableEq, Repr

namespace SysFs

def usbDescription (port : SysFs) : List Char :=
  if port.interface ≠ [] then port.product ++ " - ".toList ++ port.interface
  else if port.product ≠ [] then port.product
  else port.name

/-- Width, fill, case and base of the stream are those of the two numbers. -/
def usbInfo (port : SysFs) : List Char :=
  "USB VID:PID=".toList ++ padded 4 16 port.vid.toNat ++ ':' :: padded 4 16 port.pid.toNat ++
    " SER=".toList ++ port.serialNumber ++ " LOCATION=".toList ++ port.location

def applyUsbInfo (port : SysFs) : SysFs :=
  { port with description := port.usbDescription, hwid := port.usbInfo }

end SysFs

namespace FileSystem

variable (fs : FileSystem)

def readLine (path file : Path) : List Char :=
  match fs.contents (path.join file) with
  | none => []
  | some text =>
      let line := (text.takeWhile (· ≠ '\n')).dropWhile isSpace
      (line.reverse.dropWhile isSpace).reverse

/-- One interface when the file does not say; the number is cut to `uint32_t`. -/
def numInterfaces (usbDevicePath : Path) : Except ScanError UInt32 :=
  let line := fs.readLine usbDevicePath "bNumInterfaces".toList
  if line = [] then .ok 1 else (stoull 10 line).map UInt64.toUInt32

def fillUsbDevInfo (port : SysFs) : Except ScanError SysFs := do
  let usbDevicePath := port.usbInterfacePath.parentPath
  let numInterfaces ← fs.numInterfaces usbDevicePath
  let vid ← stoull 16 (fs.readLine usbDevicePath "idVendor".toList)
  let pid ← stoull 16 (fs.readLine usbDevicePath "idProduct".toList)
  return { port with
    usbDevicePath := usbDevicePath
    vid := vid
    pid := pid
    serialNumber := fs.readLine usbDevicePath "serial".toList
    location := if 1 < numInterfaces then port.usbInterfacePath.stem else usbDevicePath.stem
    manufacturer := fs.readLine usbDevicePath "manufacturer".toList
    product := fs.readLine usbDevicePath "product".toList
    interface := fs.readLine port.usbInterfacePath "interface".toList }

def linkTarget (dev : Path) : Option Path := if dev ≠ [] then fs.symlink dev else none

def baseHwid (dev : Path) : Except ScanError (List Char) :=
  if (fs.linkTarget dev).isSome then
    (fs.canonicalPath dev).map fun found => "LINK=".toList ++ found
  else .ok "n/a".toList

def initialised (dev : Path) (hwid : List Char) : SysFs where
  device := dev
  name := dev.stem
  description := "n/a".toList
  hwid := hwid
  serialNumber := []
  location := []
  manufacturer := []
  product := []
  interface := []
  vid := 0
  pid := 0
  devicePath := []
  usbDevicePath := []
  subsystem := []
  usbInterfacePath := []

def sysFsBase (dev : Path) : Except ScanError SysFs := (fs.baseHwid dev).map (initialised dev)

def classTty : Path := "/sys/class/tty".toList

def pnp : List Char := "pnp".toList
def amba : List Char := "amba".toList
def usb : List Char := "usb".toList
def usbSerial : List Char := "usb-serial".toList
def platform : List Char := "platform".toList

/-- The link to the device directory, as `/sys/class/tty` has it. -/
def deviceLink (name : List Char) : Path := (classTty.join name).join "device".toList

/-- The USB interface of a port is looked for above the link itself for `usb-serial`, and
in the directory that the link leads to for `usb`. -/
def interfacePath (link : Path) (port : SysFs) : Path :=
  if port.subsystem = usbSerial then link.parentPath
  else if port.subsystem = usb then port.devicePath
  else []

def describe (port : SysFs) : SysFs :=
  if port.subsystem = usb ∨ port.subsystem = usbSerial then port.applyUsbInfo
  else if port.subsystem = pnp then
    { port with description := port.name, hwid := fs.readLine port.devicePath "id".toList }
  else if port.subsystem = amba then
    { port with description := port.name, hwid := port.devicePath.stem }
  else port

def usbFilled (port : SysFs) : Except ScanError SysFs :=
  if port.usbInterfacePath ≠ [] then fs.fillUsbDevInfo port else .ok port

/-- A link to a device is named behind the hardware id. -/
def linked (dev : Path) (port : SysFs) : SysFs :=
  match fs.linkTarget dev with
  | some target => { port with hwid := port.hwid ++ " LINK=".toList ++ target }
  | none => port

/-- The device directory, the subsystem and the USB interface of a port. -/
def located (port : SysFs) (devicePath subsystemPath : Path) : SysFs :=
  let port := { port with devicePath := devicePath, subsystem := subsystemPath.filename }
  { port with usbInterfacePath := interfacePath (deviceLink port.name) port }

def sysFsLinux (dev : Path) : Except ScanError SysFs := do
  let port ← fs.sysFsBase dev
  let devicePath ← fs.canonicalPath (deviceLink port.name)
  let subsystemPath ← fs.canonicalPath (devicePath.join "subsystem".toList)
  let port ← fs.usbFilled (located port devicePath subsystemPath)
  return fs.linked dev (fs.describe port)

end FileSystem

/-! ## The scan -/

structure ScanAttr where
  ttyS : Bool := true
  ttyUSB : Bool := true
  ttyXRUSB : Bool := true
  ttyACM : Bool := true
  ttyAMA : Bool := true
  rfcomm : Bool := true
  ttyAP : Bool := true
  ttyGS : Bool := true
  deriving DecidableEq, Repr

namespace ScanAttr

/-- What each attribute scans for: a name and the stars behind it. -/
def families (attr : ScanAttr) : List (Bool × List Char × List Char) :=
  [(attr.ttyS, "/dev/ttyS".toList, "*".toList), (attr.ttyUSB, "/dev/ttyUSB".toList, "*".toList),
    (attr.ttyXRUSB, "/dev/ttyXRUSB".toList, "*".toList),
    (attr.ttyACM, "/dev/ttyACM".toList, "**".toList),
    (attr.ttyAMA, "/dev/ttyAMA".toList, "*".toList),
    (attr.rfcomm, "/dev/rfcomm".toList, "*".toList),
    (attr.ttyAP, "/dev/ttyAP".toList, "*".toList), (attr.ttyGS, "/dev/ttyGS".toList, "*".toList)]

/-- The patterns of the scan, whatever is chosen of them. -/
def patterns : List (List Char × List Char) := (families {}).map Prod.snd

end ScanAttr

namespace FileSystem

variable (fs : FileSystem)

def devices (attr : ScanAttr) : List Path :=
  (attr.families.filter Prod.fst).flatMap fun family => fs.glob (family.2.1 ++ family.2.2)

def listed : List Path → Except ScanError (List SysFs)
  | [] => .ok []
  | device :: rest => do
      let port ← fs.sysFsLinux device
      let ports ← listed rest
      return if port.subsystem ≠ platform then port :: ports else ports

def comports (attr : ScanAttr) : Except ScanError (List SysFs) := fs.listed (fs.devices attr)

end FileSystem

end AresCommon.SerialTools
