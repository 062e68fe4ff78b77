import TclB220G.Soc.ReservedMemory

/-!
# Windows of reserved memory

Four places check that a window of memory lies inside one descriptor of reserved memory.  The drivers
of the shared memory, the command DB and the remote file system compare differences of words.  The
Wi-Fi coordinator takes the end of the window and subtracts the address of the descriptor.

For a window that ends inside the address space they all decide the same condition on the numbers.
-/

namespace TclB220G.Soc

open Kernel Kernel.Errno Lib

def cmdDbValidateAcpiResource : Efi → Bool → Resource → Option Errno := validateAcpiResource

/-- The same check with an error of its own for the number of pages. -/
def qcomSmemValidateAcpiResource (efi : Efi) (isAcpi : Bool) (resource : Resource) : Option Errno :=
  if !isAcpi then none
  else if !efi.memmap then some EINVAL
  else
    match efi.memDescLookup resource.start with
    | none => some EINVAL
    | some descriptor =>
      if descriptor.type ≠ efiReservedType then some EINVAL
      else if descriptor.numPages > BitVec.allOnes 64 >>> efiPageShift then some EOVERFLOW
      else if descriptor.physAddr > resource.start ∨ descriptor.size < resourceSize resource ∨
          resource.start - descriptor.physAddr > descriptor.size - resourceSize resource then
        some EINVAL
      else none

/-- The error of its own is all that is different. -/
theorem qcomSmemValidateAcpiResource_eq_none_iff (efi : Efi) (isAcpi : Bool) (resource : Resource) :
    qcomSmemValidateAcpiResource efi isAcpi resource = none ↔
      validateAcpiResource efi isAcpi resource = none := by
  unfold qcomSmemValidateAcpiResource validateAcpiResource
  cases efi.memDescLookup resource.start with
  | none => rfl
  | some descriptor =>
    by_cases htype : descriptor.type = efiReservedType
    · by_cases hpages : descriptor.numPages > BitVec.allOnes 64 >>> efiPageShift
      · simp only [htype, hpages, ne_eq, not_true_eq_false, false_or, if_true, if_false]
        cases isAcpi <;> cases efi.memmap <;> simp
      · simp only [htype, hpages, ne_eq, not_true_eq_false, false_or, if_false]
    · simp [htype]

def reservedWindow (efi : Efi) (base size : BitVec 64) : Option Errno :=
  match efi.memDescLookup base with
  | none => some EINVAL
  | some descriptor =>
    if descriptor.type ≠ efiReservedType ∨ descriptor.physAddr > base ∨
        descriptor.numPages > BitVec.allOnes 64 >>> efiPageShift ∨
        descriptor.size < base + size - descriptor.physAddr then some EINVAL
    else none

/-- The descriptor that the memory map has for an address.  There is none without a map. -/
structure Efi.Finds (efi : Efi) (address : BitVec 64) (descriptor : MemoryDescriptor) : Prop where
  memmap : efi.memmap = true
  lookup : efi.memDescLookup address = some descriptor

/-- The resource of the given first address and size. -/
def resourceAt (start size : BitVec 64) : Resource := ⟨start, start + size - 1⟩

theorem resourceSize_resourceAt (start size : BitVec 64) :
    resourceSize (resourceAt start size) = size := by
  simp only [resourceSize, resourceAt]
  abel

/-- The window lies inside the pages of the descriptor, and these inside the address space. -/
def MemoryDescriptor.Holds (descriptor : MemoryDescriptor) (start size : BitVec 64) : Prop :=
  descriptor.numPages.toNat < 2 ^ 52 ∧ descriptor.physAddr.toNat ≤ start.toNat ∧
    start.toNat + size.toNat ≤ descriptor.physAddr.toNat + descriptor.numPages.toNat * 4096

/-- The pages of a descriptor can be counted in bytes. -/
theorem MemoryDescriptor.numPages_le_iff (descriptor : MemoryDescriptor) :
    descriptor.numPages ≤ BitVec.allOnes 64 >>> efiPageShift ↔ descriptor.numPages.toNat < 2 ^ 52 := by
  rw [Word.le_allOnes_ushiftRight_iff, efiPageShift]
  omega

theorem MemoryDescriptor.toNat_size {descriptor : MemoryDescriptor}
    (hpages : descriptor.numPages.toNat < 2 ^ 52) :
    descriptor.size.toNat = descriptor.numPages.toNat * 4096 := by
  have hfits : descriptor.numPages.toNat * 2 ^ efiPageShift < 2 ^ 64 := by
    rw [efiPageShift]
    omega
  rw [size, Word.toNat_shiftLeft_of_lt hfits]
  rfl

/-- The comparison by differences, after the number of pages was checked. -/
theorem MemoryDescriptor.not_outside_iff {descriptor : MemoryDescriptor}
    (hpages : descriptor.numPages.toNat < 2 ^ 52) (start size : BitVec 64) :
    ¬(descriptor.physAddr > start ∨ descriptor.size < size ∨
        start - descriptor.physAddr > descriptor.size - size) ↔ descriptor.Holds start size := by
  simp only [not_or, gt_iff_lt, BitVec.not_lt]
  rw [Word.sub_le_sub_iff_add_le, toNat_size hpages]
  exact (and_iff_right hpages).symm

/-- The comparison by the end of the window. -/
theorem MemoryDescriptor.not_outside_iff_of_end {descriptor : MemoryDescriptor}
    (hpages : descriptor.numPages.toNat < 2 ^ 52) {start size : BitVec 64}
    (hend : start.toNat + size.toNat < 2 ^ 64) :
    ¬(descriptor.physAddr > start ∨ descriptor.size < start + size - descriptor.physAddr) ↔
      descriptor.Holds start size := by
  simp only [not_or, gt_iff_lt, BitVec.not_lt]
  rw [Word.add_sub_le_iff_add_le _ _ _ _ hend, toNat_size hpages]
  exact (and_iff_right hpages).symm

section

variable {efi : Efi} {descriptor : MemoryDescriptor} {start size : BitVec 64}
  (hfinds : efi.Finds start descriptor) (htype : descriptor.type = efiReservedType)
include hfinds htype

theorem validateAcpiResource_eq_none_iff :
    validateAcpiResource efi true (resourceAt start size) = none ↔ descriptor.Holds start size := by
  have hlookup : efi.memDescLookup (resourceAt start size).start = some descriptor := hfinds.lookup
  simp only [validateAcpiResource, hlookup, hfinds.memmap, Bool.not_true, Bool.false_eq_true,
    if_false, htype, ne_eq, not_true_eq_false, false_or, resourceSize_resourceAt]
  by_cases hpages : descriptor.numPages.toNat < 2 ^ 52
  · rw [if_neg (BitVec.not_lt.2 (descriptor.numPages_le_iff.2 hpages)), ite_eq_right_iff]
    simp only [reduceCtorEq, imp_false]
    exact MemoryDescriptor.not_outside_iff hpages start size
  · rw [if_pos (BitVec.not_le.1 (mt descriptor.numPages_le_iff.1 hpages))]
    exact iff_of_false (Option.some_ne_none _) fun hholds ↦ hpages hholds.1

theorem reservedWindow_eq_none_iff (hend : start.toNat + size.toNat < 2 ^ 64) :
    reservedWindow efi start size = none ↔ descriptor.Holds start size := by
  simp only [reservedWindow, hfinds.lookup, htype, ne_eq, not_true_eq_false, false_or,
    ite_eq_right_iff, reduceCtorEq, imp_false]
  by_cases hpages : descriptor.numPages.toNat < 2 ^ 52
  · have hcounted : ¬descriptor.numPages > BitVec.allOnes 64 >>> efiPageShift :=
      BitVec.not_lt.2 (descriptor.numPages_le_iff.2 hpages)
    simp only [hcounted, false_or]
    exact MemoryDescriptor.not_outside_iff_of_end hpages hend
  · have hexcess : descriptor.numPages > BitVec.allOnes 64 >>> efiPageShift :=
      BitVec.not_le.1 (mt descriptor.numPages_le_iff.1 hpages)
    exact iff_of_false (fun h ↦ h (.inr (.inl hexcess))) fun hholds ↦ hpages hholds.1

end

/-- **The four checks agree.** For a window that ends inside the address space, each of them accepts
exactly what the reserved descriptor holds as a range of numbers. -/
theorem reservedWindows_agree (efi : Efi) (start size : BitVec 64) (descriptor : MemoryDescriptor)
    (hfinds : efi.Finds start descriptor) (htype : descriptor.type = efiReservedType)
    (hend : start.toNat + size.toNat < 2 ^ 64) :
    (qcomSmemValidateAcpiResource efi true (resourceAt start size) = none ↔
      descriptor.Holds start size) ∧
    (cmdDbValidateAcpiResource efi true (resourceAt start size) = none ↔
      descriptor.Holds start size) ∧
    (qcomRmtfsValidateAcpiResource efi true (resourceAt start size) = none ↔
      descriptor.Holds start size) ∧
    (reservedWindow efi start size = none ↔ descriptor.Holds start size) :=
  have hshared : validateAcpiResource efi true (resourceAt start size) = none ↔
      descriptor.Holds start size := validateAcpiResource_eq_none_iff hfinds htype
  ⟨(qcomSmemValidateAcpiResource_eq_none_iff _ _ _).trans hshared, hshared, hshared,
    reservedWindow_eq_none_iff hfinds htype hend⟩

/-- The window of the remote file system fills the board's descriptor to its end. -/
theorem reservedWindows_agree_board :
    boardEfi.Finds 0x80600000 ⟨efiReservedType, 0x80600000, 0x200⟩ ∧
      cmdDbValidateAcpiResource boardEfi true (resourceAt 0x80600000 0x200000) = none ∧
      reservedWindow boardEfi 0x80600000 0x200000 = none := by
  have hholds : (⟨efiReservedType, 0x80600000, 0x200⟩ : MemoryDescriptor).Holds
      0x80600000 0x200000 := ⟨by decide, by decide, by decide⟩
  have hfinds : boardEfi.Finds 0x80600000 ⟨efiReservedType, 0x80600000, 0x200⟩ := ⟨rfl, rfl⟩
  obtain ⟨-, hcmdDb, -, hwindow⟩ := reservedWindows_agree boardEfi 0x80600000 0x200000
    ⟨efiReservedType, 0x80600000, 0x200⟩ hfinds rfl (by decide)
  exact ⟨hfinds, hcmdDb.2 hholds, hwindow.2 hholds⟩

end TclB220G.Soc
