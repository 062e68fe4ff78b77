import TclB220G.Kernel.Errno
import TclB220G.Lib.WordInterval

/-!
# Memory that firmware describes for the remote file system

The RMTFS driver maps a window of memory that an ACPI or software-node device names in its first
memory resource.  For an ACPI device the window has to lie inside one descriptor of reserved memory
of the EFI memory map.  All sums and differences are those of 64-bit words.

The check is made on the window as the resource gives it.  On request the driver then discards the
first and the last page.  A window of less than two pages makes the size wrap around, and the region
that is mapped is almost the whole address space.
-/

namespace TclB220G.Soc

open Kernel Kernel.Errno Lib

/-- A memory resource by its first and last address. -/
structure Resource where
  start : BitVec 64
  last : BitVec 64
  deriving DecidableEq, Repr

def resourceSize (resource : Resource) : BitVec 64 := resource.last - resource.start + 1

/-- The addresses of a resource. -/
def Resource.window (resource : Resource) : WordInterval 64 := ⟨resource.start, resourceSize resource⟩

/-- What is used of `efi_memory_desc_t`. -/
structure MemoryDescriptor where
  type : ℕ
  physAddr : BitVec 64
  numPages : BitVec 64
  deriving DecidableEq, Repr

/-- The memory type `EFI_RESERVED_TYPE`. -/
def efiReservedType : ℕ := 0

/-- The value of `EFI_PAGE_SHIFT`. -/
def efiPageShift : ℕ := 12

/-- Whether there is an EFI memory map, and the descriptor that it has for an address. -/
structure Efi where
  memmap : Bool
  memDescLookup : BitVec 64 → Option MemoryDescriptor

def MemoryDescriptor.size (descriptor : MemoryDescriptor) : BitVec 64 :=
  descriptor.numPages <<< efiPageShift

/-- The check that `cmd_db_validate_acpi_resource` and `qcom_rmtfs_validate_acpi_resource` share. -/
def validateAcpiResource (efi : Efi) (isAcpi : Bool) (resource : Resource) : Option Errno :=
  if !isAcpi then none
  else if !efi.memmap then some EINVAL
  else
    match efi.memDescLookup resource.start with
    | none => some EINVAL
    | some descriptor =>
      if descriptor.type ≠ efiReservedType ∨
          descriptor.numPages > BitVec.allOnes 64 >>> efiPageShift then some EINVAL
      else if descriptor.physAddr > resource.start ∨ descriptor.size < resourceSize resource ∨
          resource.start - descriptor.physAddr > descriptor.size - resourceSize resource then
        some EINVAL
      else none

def qcomRmtfsValidateAcpiResource : Efi → Bool → Resource → Option Errno := validateAcpiResource

/-! ## The probe of the remote file system memory -/

/-- Where the probe takes the memory from: the reserved memory of an OF node, or the first memory
resource of any other device. -/
inductive MemorySource
  | reservedMem (memory : Option (WordInterval 64))
  | firmware (resource : Option Resource)

/-- What the probe asks its device and the kernel for. -/
structure RmtfsDevice where
  memory : MemorySource
  isAcpi : Bool
  clientId : Except Errno ℕ
  useGuardPages : Bool
  allocates : Bool

/-- What is used of `struct qcom_rmtfs_mem`. -/
structure RmtfsMem where
  clientId : ℕ
  addr : BitVec 64
  size : BitVec 64
  deriving DecidableEq, Repr

def RmtfsMem.region (mem : RmtfsMem) : WordInterval 64 := ⟨mem.addr, mem.size⟩

/-- Base and size of the memory, with the checks that they have to pass. -/
def rmtfsWindow (efi : Efi) (device : RmtfsDevice) : Except Errno (WordInterval 64) :=
  match device.memory with
  | .reservedMem none => .error EINVAL
  | .reservedMem (some memory) => .ok memory
  | .firmware none => .error EINVAL
  | .firmware (some resource) =>
    if resourceSize resource = 0 then .error EINVAL
    else
      match qcomRmtfsValidateAcpiResource efi device.isAcpi resource with
      | some errno => .error errno
      | none => .ok resource.window

def pageSize : BitVec 64 := 4096

/-- The window without its first and last page, if that is requested. -/
def discardGuardPages (requested : Bool) (window : WordInterval 64) : WordInterval 64 :=
  if requested then ⟨window.base + pageSize, window.size - 2 * pageSize⟩ else window

/-- The probe up to where it maps the region that it has put together. -/
def qcomRmtfsMemProbe (efi : Efi) (device : RmtfsDevice) : Except Errno RmtfsMem := do
  let window ← rmtfsWindow efi device
  let clientId ← device.clientId
  if device.allocates then
    let region := discardGuardPages device.useGuardPages window
    return ⟨clientId, region.base, region.size⟩
  else .error ENOMEM

/-- The probe gets to the mapping with this window. -/
structure ReachesMapping (efi : Efi) (device : RmtfsDevice) (resource : Resource) : Prop where
  nonempty : resourceSize resource ≠ 0
  valid : qcomRmtfsValidateAcpiResource efi device.isAcpi resource = none
  client : ∃ clientId, device.clientId = .ok clientId
  allocates : device.allocates = true

/-- Discarding a page at either end leaves a part of the window, if the window has these pages. -/
theorem inside_discardGuardPages_iff (requested : Bool) (window : WordInterval 64)
    (hsize : window.size ≠ 0) :
    (discardGuardPages requested window).Inside window ↔
      (requested = true → 2 * pageSize ≤ window.size) := by
  cases requested with
  | false => exact iff_of_true (fun _ h ↦ h) fun h ↦ absurd h Bool.false_ne_true
  | true =>
    have hpositive : 0 < window.size.toNat := by
      rw [Nat.pos_iff_ne_zero]
      exact fun hzero ↦ hsize (BitVec.eq_of_toNat_eq hzero)
    have hbound := window.size.isLt
    have hone : pageSize.toNat = 4096 := rfl
    have htwo : (2 * pageSize).toNat = 8192 := rfl
    have hzero : (0 : BitVec 64).toNat = 0 := rfl
    rw [discardGuardPages, if_pos rfl, WordInterval.inside_iff]
    simp only [true_imp_iff]
    rw [add_sub_cancel_left, ← BitVec.toNat_inj, BitVec.le_def, BitVec.toNat_sub]
    omega

section

variable {efi : Efi} {device : RmtfsDevice} {resource : Resource}
  (hmemory : device.memory = .firmware (some resource))

include hmemory

theorem rmtfsWindow_ok_iff (window : WordInterval 64) :
    rmtfsWindow efi device = .ok window ↔ resourceSize resource ≠ 0 ∧
      qcomRmtfsValidateAcpiResource efi device.isAcpi resource = none ∧
      resource.window = window := by
  rw [rmtfsWindow, hmemory]
  dsimp only
  split
  · next hempty => simp [hempty]
  · next hnonempty =>
    cases qcomRmtfsValidateAcpiResource efi device.isAcpi resource with
    | some errno => simp
    | none => exact ⟨fun h ↦ ⟨hnonempty, rfl, Except.ok.inj h⟩, fun h ↦ congrArg Except.ok h.2.2⟩

theorem qcomRmtfsMemProbe_of_reachesMapping (hreaches : ReachesMapping efi device resource) :
    ∃ mem, qcomRmtfsMemProbe efi device = .ok mem ∧
      mem.region = discardGuardPages device.useGuardPages resource.window := by
  obtain ⟨clientId, hclient⟩ := hreaches.client
  have hwindow := (rmtfsWindow_ok_iff hmemory resource.window).2
    ⟨hreaches.nonempty, hreaches.valid, rfl⟩
  refine ⟨⟨clientId, _, _⟩, ?_, rfl⟩
  simp only [qcomRmtfsMemProbe, hwindow, hclient, hreaches.allocates, bind, Except.bind, if_true]
  rfl

theorem reachesMapping_of_qcomRmtfsMemProbe {mem : RmtfsMem}
    (hprobe : qcomRmtfsMemProbe efi device = .ok mem) : ReachesMapping efi device resource := by
  unfold qcomRmtfsMemProbe at hprobe
  cases hwindow : rmtfsWindow efi device with
  | error errno => rw [hwindow] at hprobe; cases hprobe
  | ok window =>
    cases hclient : device.clientId with
    | error errno => rw [hwindow, hclient] at hprobe; cases hprobe
    | ok clientId =>
      simp only [hwindow, hclient, bind, Except.bind] at hprobe
      split at hprobe
      · next hallocates =>
        obtain ⟨hnonempty, hvalid, -⟩ := (rmtfsWindow_ok_iff hmemory window).1 hwindow
        exact ⟨hnonempty, hvalid, ⟨clientId, hclient⟩, hallocates⟩
      · cases hprobe

end

/-- Whatever the resource, the region that the probe goes on to map lies inside the window, except
where guard pages are requested of an accepted window of less than two pages. -/
theorem qcomRmtfsMemProbe_inside_iff (efi : Efi) (device : RmtfsDevice) (resource : Resource)
    (hmemory : device.memory = .firmware (some resource)) :
    (∀ mem, qcomRmtfsMemProbe efi device = .ok mem → mem.region.Inside resource.window) ↔
      (ReachesMapping efi device resource → device.useGuardPages = true →
        8192 ≤ (resourceSize resource).toNat) := by
  have htwo : 2 * pageSize ≤ resource.window.size ↔ 8192 ≤ (resourceSize resource).toNat :=
    Iff.rfl
  constructor
  · intro hinside hreaches
    obtain ⟨mem, hprobe, hregion⟩ := qcomRmtfsMemProbe_of_reachesMapping hmemory hreaches
    have hmem := hinside mem hprobe
    rw [hregion, inside_discardGuardPages_iff _ _ hreaches.nonempty] at hmem
    exact fun hguard ↦ htwo.1 (hmem hguard)
  · intro hlarge mem hprobe
    have hreaches := reachesMapping_of_qcomRmtfsMemProbe hmemory hprobe
    obtain ⟨other, hother, hregion⟩ := qcomRmtfsMemProbe_of_reachesMapping hmemory hreaches
    cases hprobe.symm.trans hother
    rw [hregion, inside_discardGuardPages_iff _ _ hreaches.nonempty]
    exact fun hguard ↦ htwo.2 (hlarge hreaches hguard)

/-- The board's memory map has one descriptor of two megabytes for the memory. -/
def boardEfi : Efi where
  memmap := true
  memDescLookup := fun _ ↦ some ⟨efiReservedType, 0x80600000, 0x200⟩

/-- An ACPI device that requests guard pages of a window of the given last address. -/
def guardedDevice (last : BitVec 64) : RmtfsDevice where
  memory := .firmware (some ⟨0x80600000, last⟩)
  isAcpi := true
  clientId := .ok 1
  useGuardPages := true
  allocates := true

/-- Two megabytes are enough for the guard pages. -/
theorem qcomRmtfsMemProbe_inside_iff_guardedDevice :
    ReachesMapping boardEfi (guardedDevice 0x807fffff) ⟨0x80600000, 0x807fffff⟩ ∧
      ∀ mem, qcomRmtfsMemProbe boardEfi (guardedDevice 0x807fffff) = .ok mem →
        mem.region.Inside ⟨0x80600000, 0x200000⟩ := by
  refine ⟨⟨by decide, by decide, ⟨1, rfl⟩, rfl⟩, ?_⟩
  exact (qcomRmtfsMemProbe_inside_iff boardEfi (guardedDevice 0x807fffff)
    ⟨0x80600000, 0x807fffff⟩ rfl).2 fun _ _ ↦ by decide

/-- A window of one page is accepted, and the region to be mapped starts behind it and is all but
one page of the address space. -/
theorem qcomRmtfsMemProbe_guardedDevice :
    ∃ mem, qcomRmtfsMemProbe boardEfi (guardedDevice 0x80600fff) = .ok mem ∧
      mem.region = ⟨0x80601000, 0xfffffffffffff000⟩ ∧
      ¬mem.region.Inside ⟨0x80600000, 0x1000⟩ :=
  ⟨⟨1, 0x80601000, 0xfffffffffffff000⟩, by decide, by decide, by decide⟩

end TclB220G.Soc
