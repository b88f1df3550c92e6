import AresCommon.SerialTools.SysFs
import Mathlib.Data.List.Nodup
import Mathlib.Data.List.TakeWhile

/-!
# The list of ports

The hardware id of a USB port is a text that can be read back. The scan lists every port
that its patterns find, once and in their order, except those of the platform, and it
lists nothing when one of the ports does not resolve.
-/

namespace AresCommon.SerialTools

open AresCommon.Foundation.Numerals

set_option autoImplicit false

/-! ## Reading a hardware id -/

/-- The numbers, the serial number and the location of a USB hardware id. -/
def readUsbInfo (info : List Char) :
    Except ScanError (UInt64 × UInt64 × List Char × List Char) := do
  let ids := info.drop "USB VID:PID=".length
  let vid ← stoull 16 ids
  let fromPid := (ids.dropWhile (· ≠ ':')).tail
  let pid ← stoull 16 fromPid
  let fromSerial := (fromPid.dropWhile (· ≠ '=')).tail
  let serial := fromSerial.takeWhile (· ≠ '=')
  return (vid, pid, serial.take (serial.length - " LOCATION".length),
    (fromSerial.dropWhile (· ≠ '=')).tail)

theorem digitChar_plain (digit : Nat) : isSpace (digitChar digit) = false ∧
    digitChar digit ≠ '-' ∧ digitChar digit ≠ '+' ∧ digitChar digit ≠ 'x' ∧
    digitChar digit ≠ 'X' ∧ digitChar digit ≠ ':' ∧ digitChar digit ≠ '=' := by
  unfold digitChar
  by_cases small : digit < digitChars.length
  · have chars : ∀ digit < digitChars.length, isSpace (digitChars.getD digit '0') = false ∧
        digitChars.getD digit '0' ≠ '-' ∧ digitChars.getD digit '0' ≠ '+' ∧
        digitChars.getD digit '0' ≠ 'x' ∧ digitChars.getD digit '0' ≠ 'X' ∧
        digitChars.getD digit '0' ≠ ':' ∧ digitChars.getD digit '0' ≠ '=' := by decide
    exact chars digit small
  · rw [List.getD_eq_getElem?_getD, List.getElem?_eq_none (by omega)]
    decide

/-- A printed number is read back up to what stands behind it. -/
theorem stoull_padded (n : UInt64) (width : Nat) {rest : List Char}
    (stops : ∀ c ∈ rest.head?, digitValue 16 c = none ∧ c ≠ 'x' ∧ c ≠ 'X') :
    stoull 16 (padded width 16 n.toNat ++ rest) = .ok n := by
  obtain ⟨digits, text, small, nonempty, value⟩ :=
    padded_digits 16 (by decide) width n.toNat
  obtain ⟨first, later, rfl⟩ := List.exists_cons_of_ne_nil nonempty
  rw [text]
  have read := digitsOf_written (by decide) (first :: later) small fun c member =>
    (stops c member).1
  obtain ⟨space, minus, plus, _⟩ := digitChar_plain first
  have second : ((later.map digitChar ++ rest)[0]? ≠ some 'x') ∧
      ((later.map digitChar ++ rest)[0]? ≠ some 'X') := by
    cases later with
    | nil =>
        cases rest with
        | nil => simp
        | cons c rest => simpa using (stops c rfl).2
    | cons digit later =>
        obtain ⟨_, _, _, small, capital, _⟩ := digitChar_plain digit
        simp [small, capital]
  unfold stoull
  simp only [List.map_cons, List.cons_append] at read ⊢
  have bounded : n.toNat < 18446744073709551616 := n.toNat_lt
  simp [space, minus, plus, second, read, value, bounded]

theorem padded_plain {c : Char} (width : Nat) (n : UInt64)
    (other : ∀ digit, digitChar digit ≠ c) : c ∉ padded width 16 n.toNat := by
  obtain ⟨digits, text, _⟩ := padded_digits 16 (by decide) width n.toNat
  rw [text]
  rintro member
  obtain ⟨digit, _, same⟩ := List.mem_map.mp member
  exact other digit same

theorem dropWhile_to {c : Char} {front : List Char} (absent : c ∉ front) (rest : List Char) :
    (front ++ c :: rest).dropWhile (· ≠ c) = c :: rest := by
  rw [List.dropWhile_append_of_pos fun d member => ?_]
  · simp
  · exact decide_eq_true fun same => absent (same ▸ member)

theorem takeWhile_to {c : Char} {front : List Char} (absent : c ∉ front) (rest : List Char) :
    (front ++ c :: rest).takeWhile (· ≠ c) = front := by
  rw [List.takeWhile_append_of_pos fun d member => ?_]
  · simp
  · exact decide_eq_true fun same => absent (same ▸ member)

/-- What `usb_info` prints can be read back, by the function that read the numbers. -/
theorem usb_info_round_trip (port : SysFs) (plain : '=' ∉ port.serialNumber) :
    readUsbInfo port.usbInfo = .ok (port.vid, port.pid, port.serialNumber, port.location) := by
  obtain ⟨vidText, vidPrinted⟩ : ∃ text, padded 4 16 port.vid.toNat = text := ⟨_, rfl⟩
  obtain ⟨pidText, pidPrinted⟩ : ∃ text, padded 4 16 port.pid.toNat = text := ⟨_, rfl⟩
  have noColon : ':' ∉ vidText := vidPrinted ▸
    padded_plain 4 port.vid fun digit => (digitChar_plain digit).2.2.2.2.2.1
  have noSign : '=' ∉ pidText := pidPrinted ▸
    padded_plain 4 port.pid fun digit => (digitChar_plain digit).2.2.2.2.2.2
  -- the text behind each of the four marks
  obtain ⟨marked, behindSerial⟩ : ∃ text, text =
    port.serialNumber ++ " LOCATION".toList ++ '=' :: port.location := ⟨_, rfl⟩
  obtain ⟨behindPid, pidEnd⟩ : ∃ text, text = " SER".toList ++ '=' :: marked := ⟨_, rfl⟩
  have info : port.usbInfo =
      "USB VID:PID=".toList ++ (vidText ++ ':' :: (pidText ++ behindPid)) := by
    have serialMark : " SER=".toList = " SER".toList ++ ['='] := rfl
    have locationMark : " LOCATION=".toList = " LOCATION".toList ++ ['='] := rfl
    unfold SysFs.usbInfo
    rw [vidPrinted, pidPrinted, serialMark, locationMark, pidEnd, behindSerial]
    simp only [List.append_assoc, List.cons_append, List.nil_append]
  have vid : stoull 16 (vidText ++ ':' :: (pidText ++ behindPid)) = .ok port.vid := by
    rw [← vidPrinted]
    refine stoull_padded port.vid 4 fun c first => ?_
    obtain rfl : ':' = c := by simpa using first
    decide
  have pid : stoull 16 (pidText ++ behindPid) = .ok port.pid := by
    rw [← pidPrinted]
    refine stoull_padded port.pid 4 fun c first => ?_
    obtain rfl : ' ' = c := by simpa [pidEnd] using first
    decide
  have toPid := dropWhile_to noColon (pidText ++ behindPid)
  have toSerial : (pidText ++ behindPid).dropWhile (· ≠ '=') = '=' :: marked := by
    rw [pidEnd, ← List.append_assoc]
    refine dropWhile_to ?_ marked
    simp [noSign]
  have serialMark : '=' ∉ port.serialNumber ++ " LOCATION".toList := by
    simp [plain]
  have serial : marked.takeWhile (· ≠ '=') = port.serialNumber ++ " LOCATION".toList :=
    behindSerial ▸ takeWhile_to serialMark port.location
  have location : marked.dropWhile (· ≠ '=') = '=' :: port.location :=
    behindSerial ▸ dropWhile_to serialMark port.location
  have skipped : port.usbInfo.drop "USB VID:PID=".length =
      vidText ++ ':' :: (pidText ++ behindPid) := by
    rw [info]
    exact List.drop_left
  have front : (port.serialNumber ++ " LOCATION".toList).take
      ((port.serialNumber ++ " LOCATION".toList).length - " LOCATION".length) =
        port.serialNumber := by
    rw [List.length_append]
    exact List.take_left' (Nat.add_sub_cancel _ _).symm
  unfold readUsbInfo
  simp only [skipped, vid, toPid, List.tail_cons, pid, toSerial, serial, location, front, bind,
    Except.bind]
  rfl

/-! ## Ports that resolve -/

theorem bind_ok {α β : Type} {x : Except ScanError α} {f : α → Except ScanError β} {b : β} :
    x >>= f = .ok b ↔ ∃ a, x = .ok a ∧ f a = .ok b := by
  cases x <;> simp [bind, Except.bind]

theorem map_ok {α β : Type} {x : Except ScanError α} {f : α → β} {b : β} :
    x.map f = .ok b ↔ ∃ a, x = .ok a ∧ f a = b := by
  cases x <;> simp [Except.map]

namespace FileSystem

variable (fs : FileSystem)

def subsystemOf (dev : Path) : Option (List Char) :=
  (fs.canonical (deviceLink dev.stem)).bind fun devicePath =>
    (fs.canonical (devicePath.join "subsystem".toList)).map Path.filename

/-- The numbers above a USB interface can be read. -/
structure UsbReadable (interface : Path) : Prop where
  interfaces : fs.readLine interface.parentPath "bNumInterfaces".toList ≠ [] →
    ∃ n, stoull 10 (fs.readLine interface.parentPath "bNumInterfaces".toList) = .ok n
  vendor : ∃ vid, stoull 16 (fs.readLine interface.parentPath "idVendor".toList) = .ok vid
  product : ∃ pid, stoull 16 (fs.readLine interface.parentPath "idProduct".toList) = .ok pid

/-- Everything is there that the library reads about a port. -/
structure Resolves (dev : Path) : Prop where
  target : (fs.linkTarget dev).isSome → (fs.canonical dev).isSome
  found : (fs.subsystemOf dev).isSome
  serialUsb : fs.subsystemOf dev = some usbSerial →
    fs.UsbReadable (deviceLink dev.stem).parentPath
  usb : ∀ devicePath, fs.canonical (deviceLink dev.stem) = some devicePath →
    fs.subsystemOf dev = some usb → devicePath ≠ [] → fs.UsbReadable devicePath

/-- What is written behind the hardware id of a device that is a link. -/
def linkSuffix (dev : Path) : List Char :=
  match fs.linkTarget dev with
  | some target => " LINK=".toList ++ target
  | none => []

/-- The USB members of a port, by the files of its interface and of the device above it. -/
structure UsbDescribed (port : SysFs) : Prop where
  device : port.usbDevicePath = port.usbInterfacePath.parentPath
  vid : stoull 16 (fs.readLine port.usbDevicePath "idVendor".toList) = .ok port.vid
  pid : stoull 16 (fs.readLine port.usbDevicePath "idProduct".toList) = .ok port.pid
  serialNumber : port.serialNumber = fs.readLine port.usbDevicePath "serial".toList
  location : ∃ count, fs.numInterfaces port.usbDevicePath = .ok count ∧
    port.location = if 1 < count then port.usbInterfacePath.stem else port.usbDevicePath.stem
  manufacturer : port.manufacturer = fs.readLine port.usbDevicePath "manufacturer".toList
  product : port.product = fs.readLine port.usbDevicePath "product".toList
  interface : port.interface = fs.readLine port.usbInterfacePath "interface".toList

structure UsbAbsent (port : SysFs) : Prop where
  device : port.usbDevicePath = []
  ids : port.vid = 0 ∧ port.pid = 0
  texts : port.serialNumber = [] ∧ port.location = [] ∧ port.manufacturer = [] ∧
    port.product = [] ∧ port.interface = []

/-- The description and the hardware id of a port, by its subsystem. -/
def Told (dev : Path) (port : SysFs) : Prop :=
  if port.subsystem = FileSystem.usb ∨ port.subsystem = usbSerial then
    port.description = port.usbDescription ∧ port.hwid = port.usbInfo ++ fs.linkSuffix dev
  else if port.subsystem = pnp then
    port.description = port.name ∧
      port.hwid = fs.readLine port.devicePath "id".toList ++ fs.linkSuffix dev
  else if port.subsystem = amba then
    port.description = port.name ∧ port.hwid = port.devicePath.stem ++ fs.linkSuffix dev
  else
    port.description = "n/a".toList ∧
      ∃ base, fs.baseHwid dev = .ok base ∧ port.hwid = base ++ fs.linkSuffix dev

structure Describes (dev : Path) (port : SysFs) : Prop where
  device : port.device = dev
  name : port.name = dev.stem
  directory : fs.canonical (deviceLink dev.stem) = some port.devicePath
  subsystem : fs.subsystemOf dev = some port.subsystem
  interface : port.usbInterfacePath =
    if port.subsystem = usbSerial then (deviceLink dev.stem).parentPath
    else if port.subsystem = FileSystem.usb then port.devicePath else []
  usb : port.usbInterfacePath ≠ [] → fs.UsbDescribed port
  noUsb : port.usbInterfacePath = [] → UsbAbsent port
  told : fs.Told dev port

variable {fs} {port port' : SysFs} {dev : Path}

theorem canonicalPath_ok {path found : Path} :
    fs.canonicalPath path = .ok found ↔ fs.canonical path = some found := by
  unfold canonicalPath
  cases fs.canonical path <;> simp

theorem fillUsbDevInfo_ok (filled : fs.fillUsbDevInfo port = .ok port') :
    fs.UsbDescribed port' ∧ ∃ usbDevicePath vid pid serialNumber location manufacturer product
      interface, port' = { port with
        usbDevicePath := usbDevicePath, vid := vid, pid := pid, serialNumber := serialNumber,
        location := location, manufacturer := manufacturer, product := product,
        interface := interface } := by
  unfold fillUsbDevInfo at filled
  obtain ⟨count, counted, filled⟩ := bind_ok.mp filled
  obtain ⟨vid, vendor, filled⟩ := bind_ok.mp filled
  obtain ⟨pid, product, filled⟩ := bind_ok.mp filled
  cases filled
  exact ⟨⟨rfl, vendor, product, rfl, ⟨count, counted, rfl⟩, rfl, rfl, rfl⟩,
    _, _, _, _, _, _, _, _, rfl⟩

theorem fillUsbDevInfo_returns :
    (∃ port', fs.fillUsbDevInfo port = .ok port') ↔ fs.UsbReadable port.usbInterfacePath := by
  unfold fillUsbDevInfo
  constructor
  · rintro ⟨port', filled⟩
    obtain ⟨count, counted, filled⟩ := bind_ok.mp filled
    obtain ⟨vid, vendor, filled⟩ := bind_ok.mp filled
    obtain ⟨pid, product, _⟩ := bind_ok.mp filled
    refine ⟨fun present => ?_, ⟨vid, vendor⟩, ⟨pid, product⟩⟩
    rw [numInterfaces, if_neg present] at counted
    obtain ⟨n, read, _⟩ := map_ok.mp counted
    exact ⟨n, read⟩
  · rintro ⟨interfaces, ⟨vid, vendor⟩, ⟨pid, product⟩⟩
    have counted : ∃ count, fs.numInterfaces port.usbInterfacePath.parentPath = .ok count := by
      by_cases absent : fs.readLine port.usbInterfacePath.parentPath "bNumInterfaces".toList = []
      · exact ⟨1, by rw [numInterfaces, if_pos absent]⟩
      · obtain ⟨n, read⟩ := interfaces absent
        rw [numInterfaces, if_neg absent]
        exact ⟨_, map_ok.mpr ⟨n, read, rfl⟩⟩
    obtain ⟨count, counted⟩ := counted
    exact ⟨_, bind_ok.mpr ⟨count, counted, bind_ok.mpr ⟨vid, vendor, bind_ok.mpr
      ⟨pid, product, rfl⟩⟩⟩⟩

theorem usbFilled_returns : (∃ port', fs.usbFilled port = .ok port') ↔
    (port.usbInterfacePath ≠ [] → fs.UsbReadable port.usbInterfacePath) := by
  unfold usbFilled
  by_cases present : port.usbInterfacePath ≠ []
  · rw [if_pos present, fillUsbDevInfo_returns]
    exact ⟨fun readable _ => readable, fun readable => readable present⟩
  · rw [if_neg present]
    exact ⟨fun _ some => absurd some present, fun _ => ⟨port, rfl⟩⟩

theorem baseHwid_returns : (∃ hwid, fs.baseHwid dev = .ok hwid) ↔
    ((fs.linkTarget dev).isSome → (fs.canonical dev).isSome) := by
  unfold baseHwid
  by_cases link : (fs.linkTarget dev).isSome = true
  · rw [if_pos link]
    constructor
    · rintro ⟨hwid, told⟩ _
      obtain ⟨found, resolved, _⟩ := map_ok.mp told
      rw [canonicalPath_ok.mp resolved]
      rfl
    · intro resolves
      obtain ⟨found, resolved⟩ := Option.isSome_iff_exists.mp (resolves link)
      exact ⟨_, map_ok.mpr ⟨found, canonicalPath_ok.mpr resolved, rfl⟩⟩
  · rw [if_neg link]
    exact ⟨fun _ some => absurd some link, fun _ => ⟨_, rfl⟩⟩

theorem sysFsLinux_ok : fs.sysFsLinux dev = .ok port ↔
    ∃ hwid devicePath subsystemPath port', fs.baseHwid dev = .ok hwid ∧
      fs.canonical (deviceLink dev.stem) = some devicePath ∧
      fs.canonical (devicePath.join "subsystem".toList) = some subsystemPath ∧
      fs.usbFilled (located (initialised dev hwid) devicePath subsystemPath) = .ok port' ∧
      fs.linked dev (fs.describe port') = port := by
  unfold sysFsLinux
  constructor
  · intro built
    obtain ⟨base, based, built⟩ := bind_ok.mp built
    obtain ⟨hwid, told, rfl⟩ := map_ok.mp based
    obtain ⟨devicePath, found, built⟩ := bind_ok.mp built
    obtain ⟨subsystemPath, named, built⟩ := bind_ok.mp built
    obtain ⟨port', filled, built⟩ := bind_ok.mp built
    cases built
    exact ⟨hwid, devicePath, subsystemPath, port', told, canonicalPath_ok.mp found,
      canonicalPath_ok.mp named, filled, rfl⟩
  · rintro ⟨hwid, devicePath, subsystemPath, port', told, found, named, filled, rfl⟩
    exact bind_ok.mpr ⟨_, map_ok.mpr ⟨hwid, told, rfl⟩, bind_ok.mpr ⟨devicePath,
      canonicalPath_ok.mpr found, bind_ok.mpr ⟨subsystemPath, canonicalPath_ok.mpr named,
      bind_ok.mpr ⟨port', filled, rfl⟩⟩⟩⟩

theorem subsystemOf_eq {devicePath subsystemPath : Path}
    (found : fs.canonical (deviceLink dev.stem) = some devicePath)
    (named : fs.canonical (devicePath.join "subsystem".toList) = some subsystemPath) :
    fs.subsystemOf dev = some subsystemPath.filename := by
  unfold subsystemOf
  rw [found, Option.bind_some, named, Option.map_some]

theorem subsystemOf_some {subsystem : List Char} (known : fs.subsystemOf dev = some subsystem) :
    ∃ devicePath subsystemPath, fs.canonical (deviceLink dev.stem) = some devicePath ∧
      fs.canonical (devicePath.join "subsystem".toList) = some subsystemPath ∧
      subsystemPath.filename = subsystem := by
  obtain ⟨devicePath, found, named⟩ := Option.bind_eq_some_iff.mp known
  obtain ⟨subsystemPath, named, same⟩ := Option.map_eq_some_iff.mp named
  exact ⟨devicePath, subsystemPath, found, named, same⟩

theorem mem_join {c : Char} {path other : Path} (relative : other.head? ≠ some '/')
    (member : c ∈ path) : c ∈ path.join other := by
  unfold Path.join
  rw [if_neg relative]
  split <;> exact List.mem_append_left _ member

theorem mem_deviceLink (name : List Char) : '/' ∈ deviceLink name := by
  refine mem_join (by decide) ?_
  by_cases absolute : name.head? = some '/'
  · unfold Path.join
    rw [if_pos absolute]
    exact List.mem_of_head? absolute
  · exact mem_join absolute (by decide)

theorem parentPath_ne_nil {path : Path} (separated : '/' ∈ path) : path.parentPath ≠ [] := by
  have directory : (path.reverse.dropWhile (· ≠ '/')).reverse ≠ [] := by
    intro empty
    have none := List.dropWhile_eq_nil_iff.mp (List.reverse_eq_nil_iff.mp empty)
    simpa using none '/' (List.mem_reverse.mpr separated)
  obtain ⟨c, rest, shape⟩ := List.exists_cons_of_ne_nil directory
  unfold Path.parentPath
  simp only [shape]
  split
  · simp
  · assumption

/-- The constructor returns exactly for the ports that resolve. -/
theorem sysFsLinux_returns : (∃ port, fs.sysFsLinux dev = .ok port) ↔ fs.Resolves dev := by
  have serialInterface : (deviceLink dev.stem).parentPath ≠ [] :=
    parentPath_ne_nil (mem_deviceLink _)
  have apart : FileSystem.usb ≠ usbSerial := by decide
  constructor
  · rintro ⟨port, built⟩
    obtain ⟨hwid, devicePath, subsystemPath, port', told, found, named, filled, _⟩ :=
      sysFsLinux_ok.mp built
    have subsystem := subsystemOf_eq found named
    have readable := usbFilled_returns.mp ⟨port', filled⟩
    refine ⟨baseHwid_returns.mp ⟨hwid, told⟩, by simp [subsystem], ?_, ?_⟩
    · intro serial
      rw [subsystem, Option.some_inj] at serial
      simpa [located, interfacePath, initialised, serial, serialInterface] using readable
    · intro other same usb present
      rw [found, Option.some_inj] at same
      rw [subsystem, Option.some_inj] at usb
      subst same
      simpa [located, interfacePath, initialised, usb, apart, present] using readable
  · intro resolves
    obtain ⟨hwid, told⟩ := baseHwid_returns.mpr resolves.target
    obtain ⟨subsystem, known⟩ := Option.isSome_iff_exists.mp resolves.found
    obtain ⟨devicePath, subsystemPath, found, named, rfl⟩ := subsystemOf_some known
    have readable : (located (initialised dev hwid) devicePath subsystemPath).usbInterfacePath ≠
        [] → fs.UsbReadable
          (located (initialised dev hwid) devicePath subsystemPath).usbInterfacePath := by
      intro present
      simp only [located, interfacePath, initialised] at present ⊢
      split
      · rename_i serial
        exact resolves.serialUsb (known.trans (congrArg some serial))
      · rename_i other
        rw [if_neg other] at present
        split
        · rename_i usb
          rw [if_pos usb] at present
          exact resolves.usb devicePath found (known.trans (congrArg some usb)) present
        · rename_i neither
          simp [neither] at present
    obtain ⟨port', filled⟩ := usbFilled_returns.mpr readable
    exact ⟨_, sysFsLinux_ok.mpr ⟨hwid, devicePath, subsystemPath, port', told, found, named,
      filled, rfl⟩⟩

theorem usbFilled_ok (filled : fs.usbFilled port = .ok port') (fresh : UsbAbsent port) :
    (port'.device = port.device ∧ port'.name = port.name ∧
      port'.description = port.description ∧ port'.hwid = port.hwid ∧
      port'.devicePath = port.devicePath ∧ port'.subsystem = port.subsystem ∧
      port'.usbInterfacePath = port.usbInterfacePath) ∧
    (port'.usbInterfacePath ≠ [] → fs.UsbDescribed port') ∧
    (port'.usbInterfacePath = [] → UsbAbsent port') := by
  unfold usbFilled at filled
  split at filled
  · rename_i present
    obtain ⟨described, _, _, _, _, _, _, _, _, rfl⟩ := fillUsbDevInfo_ok filled
    exact ⟨⟨rfl, rfl, rfl, rfl, rfl, rfl, rfl⟩, fun _ => described,
      fun absent => absurd absent present⟩
  · rename_i absent
    cases filled
    exact ⟨⟨rfl, rfl, rfl, rfl, rfl, rfl, rfl⟩, fun present => absurd present absent,
      fun _ => fresh⟩

theorem linked_eq (dev : Path) (port : SysFs) :
    fs.linked dev port = { port with hwid := port.hwid ++ fs.linkSuffix dev } := by
  unfold linked linkSuffix
  cases fs.linkTarget dev with
  | none => simp
  | some target => simp

theorem describe_tells {base : List Char} (told : fs.baseHwid dev = .ok base)
    (initial : port.description = "n/a".toList ∧ port.hwid = base) :
    ∃ description hwid, fs.linked dev (fs.describe port) =
      { port with description := description, hwid := hwid } ∧
      fs.Told dev { port with description := description, hwid := hwid } := by
  rw [linked_eq]
  unfold describe Told
  split
  · exact ⟨_, _, rfl, rfl, rfl⟩
  · split
    · exact ⟨_, _, rfl, rfl, rfl⟩
    · split
      · exact ⟨_, _, rfl, rfl, rfl⟩
      · exact ⟨_, _, rfl, initial.1, base, told, congrArg (· ++ fs.linkSuffix dev) initial.2⟩

theorem sysFsLinux_describes (built : fs.sysFsLinux dev = .ok port) : fs.Describes dev port := by
  obtain ⟨hwid, devicePath, subsystemPath, port', told, found, named, filled, rfl⟩ :=
    sysFsLinux_ok.mp built
  obtain ⟨⟨device, name, description, initial, directory, subsystem, interface⟩, usb, noUsb⟩ :=
    usbFilled_ok filled ⟨rfl, ⟨rfl, rfl⟩, rfl, rfl, rfl, rfl, rfl⟩
  obtain ⟨_, _, shape, tells⟩ := describe_tells told (And.intro description initial)
  rw [shape]
  refine ⟨device, name, ?_, ?_, ?_, fun present => ?_, fun absent => ?_, tells⟩
  · exact found.trans (congrArg some directory.symm)
  · exact (subsystemOf_eq found named).trans (congrArg some subsystem.symm)
  · exact (directory ▸ subsystem ▸ interface)
  · obtain ⟨device, vid, pid, serial, location, manufacturer, product, interface⟩ := usb present
    exact ⟨device, vid, pid, serial, location, manufacturer, product, interface⟩
  · obtain ⟨device, ids, texts⟩ := noUsb absent
    exact ⟨device, ids, texts⟩

/-! ## The scan -/

theorem listed_cons_ok {rest : List Path} {ports : List SysFs} :
    fs.listed (dev :: rest) = .ok ports ↔ ∃ port later, fs.sysFsLinux dev = .ok port ∧
      fs.listed rest = .ok later ∧
      (if port.subsystem ≠ platform then port :: later else later) = ports := by
  rw [listed]
  constructor
  · intro ran
    obtain ⟨port, built, ran⟩ := bind_ok.mp ran
    obtain ⟨later, scanned, ran⟩ := bind_ok.mp ran
    cases ran
    exact ⟨port, later, built, scanned, rfl⟩
  · rintro ⟨port, later, built, scanned, rfl⟩
    exact bind_ok.mpr ⟨port, built, bind_ok.mpr ⟨later, scanned, rfl⟩⟩

theorem listed_returns (devices : List Path) :
    (∃ ports, fs.listed devices = .ok ports) ↔ ∀ dev ∈ devices, fs.Resolves dev := by
  induction devices with
  | nil => exact ⟨fun _ => by simp, fun _ => ⟨[], rfl⟩⟩
  | cons dev rest ih =>
      rw [List.forall_mem_cons, ← ih, ← sysFsLinux_returns]
      constructor
      · rintro ⟨ports, ran⟩
        obtain ⟨port, later, built, scanned, _⟩ := listed_cons_ok.mp ran
        exact ⟨⟨port, built⟩, later, scanned⟩
      · rintro ⟨⟨port, built⟩, later, scanned⟩
        exact ⟨_, listed_cons_ok.mpr ⟨port, later, built, scanned, rfl⟩⟩

theorem listed_ok {devices : List Path} {ports : List SysFs}
    (ran : fs.listed devices = .ok ports) :
    ports.map SysFs.device =
      devices.filter (fun dev => fs.subsystemOf dev ≠ some platform) ∧
    ∀ port ∈ ports, fs.Describes port.device port := by
  induction devices generalizing ports with
  | nil =>
      cases ran
      exact ⟨rfl, by simp⟩
  | cons dev rest ih =>
      obtain ⟨port, later, built, scanned, rfl⟩ := listed_cons_ok.mp ran
      obtain ⟨devices, described⟩ := ih scanned
      have describes := sysFsLinux_describes built
      by_cases hidden : port.subsystem = platform
      · have out : ¬fs.subsystemOf dev ≠ some platform := by
          rw [describes.subsystem, hidden]
          exact fun differs => differs rfl
        rw [if_neg (not_not.mpr hidden), List.filter_cons_of_neg (by simpa using out)]
        exact ⟨devices, described⟩
      · have shown : fs.subsystemOf dev ≠ some platform := by
          rw [describes.subsystem]
          exact fun same => hidden (Option.some_inj.mp same)
        rw [if_pos hidden, List.filter_cons_of_pos (by simpa using shown), List.map_cons, devices,
          describes.device]
        refine ⟨rfl, List.forall_mem_cons.mpr ⟨?_, described⟩⟩
        rw [describes.device]
        exact describes

/-! ## The patterns -/

/-- Canonical paths are not empty. -/
def CanonicalNamed (fs : FileSystem) : Prop :=
  ∀ path found, fs.canonical path = some found → found ≠ []

/-- What a pattern of the scan finds begins as the pattern does and has no separator behind. -/
def GlobMatches (fs : FileSystem) : Prop :=
  ∀ pattern ∈ ScanAttr.patterns, ∀ path ∈ fs.glob (pattern.1 ++ pattern.2),
    ∃ rest, path = pattern.1 ++ rest ∧ '/' ∉ rest

/-- A pattern of the scan finds each path once. -/
def GlobOnce (fs : FileSystem) : Prop :=
  ∀ pattern ∈ ScanAttr.patterns, (fs.glob (pattern.1 ++ pattern.2)).Nodup

theorem families_patterns (attr : ScanAttr) {family : Bool × List Char × List Char}
    (member : family ∈ attr.families) : family.2 ∈ ScanAttr.patterns := by
  have same : attr.families.map Prod.snd = ScanAttr.patterns := rfl
  exact same ▸ List.mem_map_of_mem member

theorem families_apart (attr : ScanAttr) : attr.families.Pairwise fun first second =>
    ¬first.2.1 <+: second.2.1 ∧ ¬second.2.1 <+: first.2.1 := by
  have names : (attr.families.map fun family => family.2.1).Pairwise fun first second =>
      ¬first <+: second ∧ ¬second <+: first := by
    simp only [ScanAttr.families, List.map_cons, List.map_nil]
    decide
  exact List.pairwise_map.mp names

theorem found_family {attr : ScanAttr} (found : dev ∈ fs.devices attr) :
    ∃ pattern ∈ ScanAttr.patterns, dev ∈ fs.glob (pattern.1 ++ pattern.2) := by
  obtain ⟨family, chosen, path⟩ := List.mem_flatMap.mp found
  exact ⟨family.2, families_patterns attr (List.mem_filter.mp chosen).1, path⟩

theorem devices_nodup (named : fs.GlobMatches) (once : fs.GlobOnce) (attr : ScanAttr) :
    (fs.devices attr).Nodup := by
  have pattern {family : Bool × List Char × List Char}
      (chosen : family ∈ attr.families.filter Prod.fst) : family.2 ∈ ScanAttr.patterns :=
    families_patterns attr (List.mem_filter.mp chosen).1
  refine List.nodup_flatMap.mpr ⟨fun family chosen => once _ (pattern chosen), ?_⟩
  refine ((families_apart attr).filter _).imp_of_mem ?_
  intro first second early late apart path found again
  obtain ⟨rest, one, _⟩ := named _ (pattern early) path found
  obtain ⟨other, two, _⟩ := named _ (pattern late) path again
  rcases List.prefix_or_prefix_of_prefix ⟨rest, one.symm⟩ ⟨other, two.symm⟩ with before | behind
  · exact apart.1 before
  · exact apart.2 behind

theorem GlobMatches.named (named : fs.GlobMatches) {attr : ScanAttr}
    (found : dev ∈ fs.devices attr) :
    ∃ name, dev = "/dev/".toList ++ name ∧ '/' ∉ name ∧ name.head?.any (· ≠ '.') := by
  obtain ⟨pattern, member, path⟩ := found_family found
  obtain ⟨rest, rfl, plain⟩ := named pattern member dev path
  have names : ScanAttr.patterns.all fun pattern => "/dev/".toList.isPrefixOf pattern.1 &&
      !(pattern.1.drop 5).contains '/' && (pattern.1.drop 5).head?.any (· ≠ '.') := by
    decide
  have shape := List.all_eq_true.mp names pattern member
  simp only [Bool.and_eq_true, List.isPrefixOf_iff_prefix] at shape
  obtain ⟨⟨⟨name, begins⟩, separated⟩, first⟩ := shape
  rw [← begins] at separated first ⊢
  refine ⟨name ++ rest, List.append_assoc _ _ _, ?_, ?_⟩
  · rw [List.mem_append, not_or]
    exact ⟨by simpa using separated, plain⟩
  · cases name with
    | nil => cases first
    | cons c name => exact first

end FileSystem

/-- A scan returns exactly when every device it finds resolves. It lists these devices, each
once and in the order of the patterns, except those of the platform, and describes each by
what the file system says. -/
theorem comports_all_or_nothing (fs : FileSystem) (attr : ScanAttr) :
    ((∃ ports, fs.comports attr = .ok ports) ↔ ∀ dev ∈ fs.devices attr, fs.Resolves dev) ∧
    ∀ ports, fs.comports attr = .ok ports →
      ports.map SysFs.device = (fs.devices attr).filter
        (fun dev => fs.subsystemOf dev ≠ some FileSystem.platform) ∧
      (∀ port ∈ ports, fs.Describes port.device port) ∧
      (fs.GlobMatches → fs.GlobOnce → (ports.map SysFs.device).Nodup) := by
  refine ⟨FileSystem.listed_returns _, fun ports listed => ?_⟩
  obtain ⟨devices, described⟩ := FileSystem.listed_ok listed
  refine ⟨devices, described, fun named once => ?_⟩
  rw [devices]
  exact (FileSystem.devices_nodup named once attr).filter _

def FileSystem.ofTables (nodes : List Path) (links files : List (Path × Path)) :
    FileSystem where
  symlink := fun _ => none
  canonical := fun path => links.lookup path
  contents := fun path => files.lookup path
  glob := fun pattern =>
    let name := pattern.takeWhile (· ≠ '*')
    nodes.filter fun path => name.isPrefixOf path && '/' ∉ path.drop name.length

theorem FileSystem.ofTables_named (nodes : List Path) {links : List (Path × Path)}
    (files : List (Path × Path)) (targets : ∀ link ∈ links, link.2 ≠ []) :
    (ofTables nodes links files).CanonicalNamed := by
  intro path found known
  obtain ⟨before, after, rfl, _⟩ := List.lookup_eq_some_iff.mp known
  exact targets (path, found) (by simp)

theorem FileSystem.ofTables_matches (nodes : List Path) (links files : List (Path × Path)) :
    (ofTables nodes links files).GlobMatches := by
  intro pattern member path found
  have cuts : ScanAttr.patterns.all fun pattern =>
      (pattern.1 ++ pattern.2).takeWhile (· ≠ '*') = pattern.1 := by
    decide
  have cut := of_decide_eq_true (List.all_eq_true.mp cuts pattern member)
  have matched := (List.mem_filter.mp found).2
  simp only [cut, Bool.and_eq_true, decide_eq_true_eq] at matched
  obtain ⟨⟨rest, rfl⟩, separated⟩ := And.imp_left List.isPrefixOf_iff_prefix.mp matched
  exact ⟨rest, rfl, by simpa using separated⟩

/-- The numbers in the files of a USB device and its serial number can be read back from
the hardware id of the port that a scan lists for it. -/
theorem listed_ids_read_back (fs : FileSystem) (named : fs.CanonicalNamed) (attr : ScanAttr)
    {ports : List SysFs} (listed : fs.comports attr = .ok ports) {port : SysFs}
    (member : port ∈ ports) (usb : port.subsystem = FileSystem.usb)
    (plain : '=' ∉ port.serialNumber) :
    ∃ interface vid pid,
      fs.canonical (FileSystem.deviceLink port.device.stem) = some interface ∧
      stoull 16 (fs.readLine interface.parentPath "idVendor".toList) = .ok vid ∧
      stoull 16 (fs.readLine interface.parentPath "idProduct".toList) = .ok pid ∧
      readUsbInfo port.hwid = .ok (vid, pid, fs.readLine interface.parentPath "serial".toList,
        port.location ++ fs.linkSuffix port.device) := by
  have describes := (FileSystem.listed_ok listed).2 port member
  have apart : FileSystem.usb ≠ FileSystem.usbSerial := by decide
  have interface : port.usbInterfacePath = port.devicePath := by
    rw [describes.interface, usb, if_neg apart, if_pos rfl]
  have found := interface ▸ describes.directory
  obtain ⟨directory, vendor, product, serial, _⟩ := describes.usb (named _ _ found)
  rw [directory] at vendor product serial
  refine ⟨_, _, _, found, vendor, product, ?_⟩
  have read := usb_info_round_trip
    { port with location := port.location ++ fs.linkSuffix port.device } plain
  have hwid : port.hwid =
      SysFs.usbInfo { port with location := port.location ++ fs.linkSuffix port.device } := by
    have told := describes.told
    rw [FileSystem.Told, if_pos (.inl usb)] at told
    rw [told.2]
    unfold SysFs.usbInfo
    rw [List.append_assoc _ port.location]
  rw [hwid, ← serial]
  exact read

/-- A machine with a port of the platform, a modem behind a hub and a serial adapter, as
far as these have device nodes. -/
def hubMachine (nodes : List Path) : FileSystem :=
  .ofTables nodes
    [("/sys/class/tty/ttyS0/device".toList, "/sys/devices/platform/serial8250".toList),
      ("/sys/devices/platform/serial8250/subsystem".toList, "/sys/bus/platform".toList),
      ("/sys/class/tty/ttyACM0/device".toList, "/sys/devices/usb1/1-4.1/1-4.1:1.0".toList),
      ("/sys/devices/usb1/1-4.1/1-4.1:1.0/subsystem".toList, "/sys/bus/usb".toList),
      ("/sys/class/tty/ttyUSB0/device".toList,
        "/sys/devices/usb1/1-4.2/1-4.2:1.0/ttyUSB0".toList),
      ("/sys/devices/usb1/1-4.2/1-4.2:1.0/ttyUSB0/subsystem".toList,
        "/sys/bus/usb-serial".toList)]
    [("/sys/devices/usb1/1-4.1/idVendor".toList, "1d6b\n".toList),
      ("/sys/devices/usb1/1-4.1/idProduct".toList, "0104\n".toList),
      ("/sys/devices/usb1/1-4.1/serial".toList, "A1\n".toList)]

theorem hubMachine_named (nodes : List Path) : (hubMachine nodes).CanonicalNamed :=
  FileSystem.ofTables_named nodes _ (by decide)

def modemNodes : List Path := ["/dev/ttyS0".toList, "/dev/ttyACM0".toList]

/-- The location of the modem is cut at the dot, so that it names the hub alone. -/
theorem listed_ids_read_back_of_modem :
    ∃ ports port, (hubMachine modemNodes).comports {} = .ok ports ∧ port ∈ ports ∧
      readUsbInfo port.hwid = .ok (0x1d6b, 0x0104, "A1".toList, "1-4".toList) := by
  have tested : ((hubMachine modemNodes).comports {}).toOption.any (fun ports =>
      ports.any fun port => port.subsystem = FileSystem.usb && '=' ∉ port.serialNumber &&
        port.device = "/dev/ttyACM0".toList && port.location = "1-4".toList) = true := by
    decide +kernel
  obtain ⟨ports, scan, tested⟩ := (Option.any_eq_true _ _).mp tested
  obtain ⟨port, member, tested⟩ := List.any_eq_true.mp tested
  simp only [Bool.and_eq_true, decide_eq_true_eq] at tested
  obtain ⟨⟨⟨usb, plain⟩, device⟩, location⟩ := tested
  have listed : (hubMachine modemNodes).comports {} = .ok ports := by
    cases ran : (hubMachine modemNodes).comports {} with
    | ok found => rw [ran] at scan; cases scan; rfl
    | error => rw [ran] at scan; cases scan
  obtain ⟨interface, vid, pid, found, vendor, product, read⟩ :=
    listed_ids_read_back _ (hubMachine_named _) {} listed member usb plain
  rw [device] at found read
  have directory : (hubMachine modemNodes).canonical (FileSystem.deviceLink
      (Path.stem "/dev/ttyACM0".toList)) = some "/sys/devices/usb1/1-4.1/1-4.1:1.0".toList := by
    decide +kernel
  obtain rfl := Option.some_inj.mp (directory.symm.trans found)
  have ids : stoull 16 ((hubMachine modemNodes).readLine
        (Path.parentPath "/sys/devices/usb1/1-4.1/1-4.1:1.0".toList) "idVendor".toList) =
        .ok 0x1d6b ∧
      stoull 16 ((hubMachine modemNodes).readLine
        (Path.parentPath "/sys/devices/usb1/1-4.1/1-4.1:1.0".toList) "idProduct".toList) =
        .ok 0x0104 ∧
      (hubMachine modemNodes).readLine
        (Path.parentPath "/sys/devices/usb1/1-4.1/1-4.1:1.0".toList) "serial".toList =
        "A1".toList := by decide +kernel
  rw [ids.1] at vendor
  rw [ids.2.1] at product
  cases vendor
  cases product
  rw [ids.2.2, location] at read
  exact ⟨ports, port, listed, member, read⟩

/-! ## Where the constructor looks for the USB files -/

namespace Path

theorem filename_of_join (directory : Path) {name : Path} (plain : '/' ∉ name) :
    filename (directory ++ '/' :: name) = name := by
  unfold filename
  rw [List.reverse_append, List.reverse_cons, List.append_assoc]
  have absent : '/' ∉ name.reverse := by simpa using plain
  rw [List.singleton_append, takeWhile_to absent, List.reverse_reverse]

theorem parentPath_of_join {directory name : Path} (plain : '/' ∉ name)
    (present : directory ≠ []) (ends : directory.getLast? ≠ some '/') :
    parentPath (directory ++ '/' :: name) = directory := by
  have front : (directory ++ '/' :: name).reverse.dropWhile (· ≠ '/') =
      '/' :: directory.reverse := by
    have absent : '/' ∉ name.reverse := by simpa using plain
    rw [List.reverse_append, List.reverse_cons, List.append_assoc, List.singleton_append,
      dropWhile_to absent]
  obtain ⟨last, shape⟩ : ∃ c, directory.reverse.head? = some c :=
    Option.isSome_iff_exists.mp (by simpa [List.isSome_head?] using present)
  have stays : directory.reverse.dropWhile (· = '/') = directory.reverse := by
    obtain ⟨rest, reversed⟩ := List.head?_eq_some_iff.mp shape
    rw [List.head?_reverse] at shape
    have other : last ≠ '/' := fun same => ends (shape.trans (congrArg some same))
    rw [reversed]
    simp [other]
  unfold parentPath
  simp only
  rw [front, List.reverse_reverse, List.dropWhile_cons_of_pos (by simp), stays,
    List.reverse_reverse, if_neg present]

theorem join_of_name {directory name : Path} (present : directory ≠ [])
    (ends : directory.getLast? ≠ some '/') (plain : '/' ∉ name) :
    directory.join name = directory ++ '/' :: name := by
  have relative : name.head? ≠ some '/' := fun first => plain (List.mem_of_head? first)
  unfold join
  rw [if_neg relative, if_neg (not_or.mpr ⟨present, ends⟩)]

theorem stem_plain {path : Path} (plain : '/' ∉ path.filename) : '/' ∉ path.stem := by
  unfold stem
  simp only
  split
  · exact plain
  · intro member
    refine plain (List.mem_reverse.mp ?_)
    have kept := (List.dropLast_sublist _).mem member
    exact (List.dropWhile_sublist _).mem (List.mem_reverse.mp kept)

theorem stem_ne_nil {path : Path} (present : path.filename ≠ []) : path.stem ≠ [] := by
  unfold stem
  simp only
  split
  · exact present
  · rename_i shortened
    exact fun empty => shortened (.inr (.inr empty))

end Path

namespace FileSystem

/-- The USB files of a `usb-serial` port are looked for in the class directory itself. -/
theorem deviceLink_above {name : List Char} (present : name ≠ []) (plain : '/' ∉ name) :
    (deviceLink name).parentPath.parentPath = classTty := by
  have ends : classTty.getLast? ≠ some '/' := by decide
  have joined : classTty.join name = classTty ++ '/' :: name :=
    Path.join_of_name (by decide) ends plain
  obtain ⟨last, shape⟩ : ∃ c, name.getLast? = some c :=
    ⟨_, List.getLast?_eq_some_getLast present⟩
  have closed : (classTty ++ '/' :: name).getLast? ≠ some '/' := by
    rw [List.getLast?_append, List.getLast?_cons, shape]
    intro same
    have slash : last = '/' := by simpa using same
    exact plain (slash ▸ List.mem_of_getLast? shape)
  unfold deviceLink
  rw [joined, Path.join_of_name (by simp) closed (by decide),
    Path.parentPath_of_join (by decide) (by simp) closed,
    Path.parentPath_of_join plain (by decide) ends]

end FileSystem

/-- A scan that finds a `usb-serial` port throws, unless the class directory of the
terminals has a file with the number of a vendor. -/
theorem usb_serial_port_ends_scan (fs : FileSystem) (named : fs.GlobMatches) (attr : ScanAttr)
    (dev : Path) (found : dev ∈ fs.devices attr)
    (serial : fs.subsystemOf dev = some FileSystem.usbSerial)
    (closed : fs.contents "/sys/class/tty/idVendor".toList = none) :
    ∃ error, fs.comports attr = .error error := by
  obtain ⟨name, rfl, plain, first⟩ := named.named found
  have filename : Path.filename ("/dev/".toList ++ name) = name :=
    Path.filename_of_join "/dev".toList plain
  have present : name ≠ [] := by
    rintro rfl
    cases first
  have above : (FileSystem.deviceLink (Path.stem ("/dev/".toList ++ name))).parentPath.parentPath =
      FileSystem.classTty :=
    FileSystem.deviceLink_above (Path.stem_ne_nil (filename.symm ▸ present))
      (Path.stem_plain (filename.symm ▸ plain))
  cases scan : fs.comports attr with
  | error error => exact ⟨error, rfl⟩
  | ok ports =>
      have resolves := (FileSystem.listed_returns _).mp ⟨ports, scan⟩ _ found
      obtain ⟨vid, vendor⟩ := (resolves.serialUsb serial).vendor
      have line : fs.readLine FileSystem.classTty "idVendor".toList = [] := by
        have path : FileSystem.classTty.join "idVendor".toList =
            "/sys/class/tty/idVendor".toList := by decide
        unfold FileSystem.readLine
        rw [path, closed]
      rw [above, line] at vendor
      cases vendor

/-- The serial adapter next to the modem keeps the modem from being listed. -/
theorem usb_serial_port_ends_scan_of_adapter :
    ∃ error, (hubMachine ["/dev/ttyACM0".toList, "/dev/ttyUSB0".toList]).comports {} =
      .error error :=
  usb_serial_port_ends_scan _ (FileSystem.ofTables_matches _ _ _) {} "/dev/ttyUSB0".toList
    (by decide +kernel) (by decide +kernel) (by decide +kernel)

end AresCommon.SerialTools
