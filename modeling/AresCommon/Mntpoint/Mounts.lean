import Mathlib.Data.List.Infix

/-!
# The device behind a path

`find_mount_device` looks for a line of the mount table whose mount point is on the same
device as the path. What it should find is the mount that the path belongs to in the tree of
mounts: of those above the path the one made last.
-/

namespace AresCommon.Mntpoint

set_option autoImplicit false

abbrev Path := List Char

/-! ## The search -/

structure Mntent where
  mntFsname : List Char
  mntDir : Path
  deriving DecidableEq, Repr

structure System where
  /-- `st_dev` of what is at a path, or an error number -/
  stat : Path → Except Nat Nat
  /-- the lines of `/proc/mounts`, when it can be opened -/
  mounts : Option (List Mntent)

def eAcces : Int := 13

def eNodata : Int := 61

def pathMax : Nat := 4096

/-- `c_str`, as far as the operating system reads it -/
def cStr (path : Path) : Path := path.takeWhile (· ≠ '\x00')

namespace System

variable (sys : System)

def statDirectory (path : Path) : Except Int Nat :=
  match sys.stat path with
  | .ok dev => .ok dev
  | .error errno => .error (-errno)

def scan (devId : Nat) : List Mntent → Option Mntent
  | [] => none
  | m :: rest =>
      match sys.stat m.mntDir with
      | .error _ => scan devId rest
      | .ok dev => if dev = devId then some m else scan devId rest

/-- What is left in `dev` has room for the terminating null. -/
def getMount (path : Path) (devLen : Nat) : Except Int (List Char) := do
  let devId ← sys.statDirectory path
  match sys.mounts with
  | none => .error (-eAcces)
  | some mounts =>
      match sys.scan devId mounts with
      | none => .error (-eNodata)
      | some m => .ok (m.mntFsname.take (devLen - 1))

def findMountDevice (path : Path) : List Char :=
  if path = [] then []
  else
    match sys.getMount (cStr path) pathMax with
    | .ok dev => dev
    | .error _ => []

def mountDeviceNvme (path : Path) : Bool :=
  let dev := sys.findMountDevice path
  if dev = [] then false else "/dev/nvme".toList.isPrefixOf dev

end System

/-! ## The tree of mounts -/

/-- A mount: where its point is in the tree, and how the mount table shows it. -/
structure Mount where
  place : List (List Char)
  dev : Nat
  entry : Mntent
  deriving DecidableEq, Repr

/-- What `find_mount_device` can tell of a mount. -/
def Mount.name (mount : Mount) : List Char := mount.entry.mntFsname.take (pathMax - 1)

/-- The mount that a place belongs to. A mount covers all that is below its point, the mounts
made there before it included. -/
def covering (mounts : List Mount) (place : List (List Char)) : Option Mount :=
  mounts.reverse.find? fun mount => mount.place.isPrefixOf place

/-- The mounts in the order in which they were made, and where a path leads to. -/
structure Namespace where
  mounts : List Mount
  lookup : Path → Option (List (List Char))
  root : ∃ mount ∈ mounts, mount.place = []
  /-- A path of the table leads to the mount point, or nowhere when a later mount hides it. -/
  point : ∀ mount ∈ mounts,
    lookup mount.entry.mntDir = none ∨ lookup mount.entry.mntDir = some mount.place
  /-- Only a mount above the point hides it. -/
  reached : ∀ mount ∈ mounts, (covering mounts mount.place).map Mount.place = some mount.place →
    lookup mount.entry.mntDir = some mount.place

def Namespace.onDevice (ns : Namespace) (devId : Nat) (mount : Mount) : Bool :=
  (ns.lookup mount.entry.mntDir).isSome &&
    (covering ns.mounts mount.place).any fun top => top.dev = devId

structure System.Shows (sys : System) (ns : Namespace) : Prop where
  table : sys.mounts = some (ns.mounts.map Mount.entry)
  found : ∀ path place mount, ns.lookup path = some place →
    covering ns.mounts place = some mount → sys.stat path = .ok mount.dev
  missing : ∀ path, ns.lookup path = none → ∃ errno, sys.stat path = .error errno

section Covering

variable {mounts : List Mount} {mount : Mount} {place : List (List Char)}

theorem covering_eq_some : covering mounts place = some mount ↔
    mount.place <+: place ∧ ∃ before later, mounts = before ++ mount :: later ∧
      ∀ other ∈ later, ¬other.place <+: place := by
  have turned (later before : List Mount) : mounts.reverse = later ++ mount :: before ↔
      mounts = before.reverse ++ mount :: later.reverse := by
    rw [List.reverse_eq_iff, List.reverse_append, List.reverse_cons, List.append_assoc,
      List.singleton_append]
  unfold covering
  rw [List.find?_eq_some_iff_append]
  simp only [List.isPrefixOf_iff_prefix, Bool.not_eq_true', ← Bool.not_eq_true, turned]
  refine and_congr_right fun above => ⟨?_, ?_⟩
  · intro ⟨later, before, order, free⟩
    refine ⟨before.reverse, later.reverse, order, fun other member => ?_⟩
    exact free other (List.mem_reverse.mp member)
  · intro ⟨before, later, order, free⟩
    refine ⟨later.reverse, before.reverse, ?_, fun other member => ?_⟩
    · rw [List.reverse_reverse, List.reverse_reverse, order]
    · exact free other (List.mem_reverse.mp member)

theorem covering_mem (covers : covering mounts place = some mount) : mount ∈ mounts := by
  obtain ⟨_, before, later, rfl, _⟩ := covering_eq_some.mp covers
  simp

theorem covering_own_place (covers : covering mounts place = some mount) :
    covering mounts mount.place = some mount := by
  obtain ⟨above, before, later, order, free⟩ := covering_eq_some.mp covers
  refine covering_eq_some.mpr ⟨List.prefix_refl _, before, later, order, ?_⟩
  intro other member hides
  exact free other member (hides.trans above)

theorem Namespace.covered (ns : Namespace) (place : List (List Char)) :
    ∃ mount, covering ns.mounts place = some mount := by
  obtain ⟨root, member, top⟩ := ns.root
  refine Option.isSome_iff_exists.mp (List.find?_isSome.mpr ⟨root, ?_, ?_⟩)
  · exact List.mem_reverse.mpr member
  · rw [top]
    rfl

theorem Namespace.onDevice_covering (ns : Namespace)
    (covers : covering ns.mounts place = some mount) : ns.onDevice mount.dev mount = true := by
  have own := covering_own_place covers
  have reached := ns.reached mount (covering_mem covers) (by rw [own, Option.map_some])
  unfold Namespace.onDevice
  rw [reached, own]
  simp

end Covering

/-! ## What the search finds -/

section Search

variable {sys : System} {ns : Namespace} {mount : Mount} {place : List (List Char)}

theorem System.Shows.line (shown : sys.Shows ns) (devId : Nat) (mount : Mount)
    (member : mount ∈ ns.mounts) (rest : List Mntent) :
    sys.scan devId (mount.entry :: rest) =
      if ns.onDevice devId mount then some mount.entry else sys.scan devId rest := by
  rw [System.scan, Namespace.onDevice]
  rcases ns.point mount member with hidden | visible
  · obtain ⟨errno, failed⟩ := shown.missing _ hidden
    rw [failed, hidden]
    rfl
  · obtain ⟨top, covers⟩ := ns.covered mount.place
    rw [shown.found _ _ _ visible covers, visible, covers]
    simp

theorem System.Shows.scan (shown : sys.Shows ns) (devId : Nat) {mounts : List Mount}
    (known : ∀ mount ∈ mounts, mount ∈ ns.mounts) :
    sys.scan devId (mounts.map Mount.entry) =
      (mounts.find? (ns.onDevice devId)).map Mount.entry := by
  induction mounts with
  | nil => rfl
  | cons mount rest ih =>
      obtain ⟨here, later⟩ := List.forall_mem_cons.mp known
      rw [List.map_cons, shown.line devId mount here, ih later, List.find?_cons]
      cases ns.onDevice devId mount <;> rfl

/-- The first line on the device decides. -/
theorem System.Shows.findMountDevice (shown : sys.Shows ns) {path : Path} (present : path ≠ [])
    (found : ns.lookup (cStr path) = some place)
    (covers : covering ns.mounts place = some mount) :
    ∃ first, ns.mounts.find? (ns.onDevice mount.dev) = some first ∧
      sys.findMountDevice path = first.name := by
  have own := ns.onDevice_covering covers
  obtain ⟨first, finds⟩ := Option.isSome_iff_exists.mp
    (List.find?_isSome.mpr ⟨mount, covering_mem covers, own⟩)
  refine ⟨first, finds, ?_⟩
  have stat := shown.found _ _ _ found covers
  have scan := shown.scan mount.dev fun _ member => member
  unfold System.findMountDevice System.getMount System.statDirectory
  rw [if_neg present, stat, shown.table]
  simp only [bind, Except.bind, scan, finds]
  rfl

theorem nvme_prefix_name (mount : Mount) :
    "/dev/nvme".toList <+: mount.name ↔ "/dev/nvme".toList <+: mount.entry.mntFsname := by
  constructor
  · exact fun cut => cut.trans (List.take_prefix _ _)
  · exact fun whole => List.prefix_take_iff.mpr ⟨whole, by decide⟩

theorem mount_device_nvme_iff (sys : System) (path : Path) :
    sys.mountDeviceNvme path = true ↔ "/dev/nvme".toList <+: sys.findMountDevice path := by
  simp only [System.mountDeviceNvme]
  split
  · rename_i nothing
    rw [nothing]
    decide
  · exact List.isPrefixOf_iff_prefix

end Search

/-! ## A system for every namespace -/

def eNoent : Nat := 2

def Namespace.system (ns : Namespace) : System where
  stat path :=
    match ns.lookup path with
    | none => .error eNoent
    | some place =>
        match covering ns.mounts place with
        | none => .error eNoent
        | some mount => .ok mount.dev
  mounts := some (ns.mounts.map Mount.entry)

theorem Namespace.system_shows (ns : Namespace) : ns.system.Shows ns where
  table := rfl
  found path place mount found covers := by
    simp only [Namespace.system, found, covers]
  missing path lost := ⟨eNoent, by simp only [Namespace.system, lost]⟩

def rootDisk : Mount where
  place := []
  dev := 1
  entry := { mntFsname := "/dev/sda1".toList, mntDir := "/".toList }

def dataDisk : Mount where
  place := ["data".toList]
  dev := 2
  entry := { mntFsname := "/dev/sdb1".toList, mntDir := "/data".toList }

def fastDisk : Mount where
  place := ["data".toList]
  dev := 3
  entry := { mntFsname := "/dev/nvme0n1".toList, mntDir := "/data".toList }

/-- A disk is mounted at `/data`, and a faster one over it. -/
def overmounted : Namespace where
  mounts := [rootDisk, dataDisk, fastDisk]
  lookup := fun path => [("/".toList, []), ("/data".toList, ["data".toList]),
    ("/data/log".toList, ["data".toList, "log".toList])].lookup path
  root := by decide
  point := by decide
  reached := by decide

/-- `find_mount_device` names the mount that a path belongs to, and `mount_device_nvme` tells
of that name, as long as no mount hides the point of another one and the mounts of a device go
by one name. In general it names the first mount of the table with a point on the device: a
mount that is hidden by the right one at the same point is taken for it. -/
theorem first_on_device_named (sys : System) (ns : Namespace) (shown : sys.Shows ns)
    {path : Path} {place : List (List Char)} {mount : Mount} (present : path ≠ [])
    (found : ns.lookup (cStr path) = some place)
    (covers : covering ns.mounts place = some mount) :
    (∃ first, ns.mounts.find? (ns.onDevice mount.dev) = some first ∧
      sys.findMountDevice path = first.name) ∧
    ((∀ other ∈ ns.mounts, covering ns.mounts other.place = some other) →
      (∀ other ∈ ns.mounts, other.dev = mount.dev →
        other.entry.mntFsname = mount.entry.mntFsname) →
      sys.findMountDevice path = mount.name ∧
      (sys.mountDeviceNvme path = true ↔ "/dev/nvme".toList <+: mount.entry.mntFsname)) ∧
    ∀ before hidden after, ns.mounts = before ++ hidden :: after →
      hidden.place = mount.place → (∀ other ∈ before, ns.onDevice mount.dev other = false) →
      sys.findMountDevice path = hidden.name := by
  obtain ⟨first, finds, named⟩ := shown.findMountDevice present found covers
  refine ⟨⟨first, finds, named⟩, fun apart oneName => ?_, ?_⟩
  · have member := List.mem_of_find?_eq_some finds
    have onDevice := List.find?_some finds
    rw [Namespace.onDevice, apart first member, Option.any_some, Bool.and_eq_true,
      decide_eq_true_eq] at onDevice
    have right : first.name = mount.name := by
      rw [Mount.name, Mount.name, oneName first member onDevice.2]
    refine ⟨named.trans right, ?_⟩
    rw [mount_device_nvme_iff, named, right, nvme_prefix_name]
  · intro before hidden after order same free
    have own := covering_own_place covers
    have member : hidden ∈ ns.mounts := by
      rw [order]
      simp
    have reached := ns.reached hidden member (by rw [same, own, Option.map_some])
    have onDevice : ns.onDevice mount.dev hidden = true := by
      rw [Namespace.onDevice, reached, same, own]
      simp
    rw [order, List.find?_append, List.find?_eq_none.mpr (by simpa using free), Option.none_or,
      List.find?_cons_of_pos onDevice, Option.some_inj] at finds
    rw [named, finds]

theorem first_on_device_named_of_overmount :
    covering overmounted.mounts ["data".toList, "log".toList] = some fastDisk ∧
      overmounted.system.findMountDevice "/data/log".toList = dataDisk.name := by
  have covers : covering overmounted.mounts ["data".toList, "log".toList] = some fastDisk := by
    decide
  have present : "/data/log".toList ≠ [] := by decide
  have named := first_on_device_named _ overmounted overmounted.system_shows present (by decide)
    covers
  exact ⟨covers, named.2.2 [rootDisk] dataDisk [fastDisk] rfl rfl (by decide)⟩

end AresCommon.Mntpoint
