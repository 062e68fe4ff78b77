import TclB220G.Kernel.Errno
import TclB220G.Lib.TracedRead

/-!
# Checks of the board's IORT table

The firmware table is a memory whose octet zero is the first of the table header.  Nodes and ID
mappings are addressed by their offset from there.  Every check reads the fields it compares in the
order of the source and stops at the first that fails.

The display, GPU and audio maps are one check with different expectations: a named component at a
fixed path, a list of input IDs that exactly one mapping each must cover, and the SMMU they lead to.
The USB and WLAN checks look at a single mapping and yield its first input ID.
-/

namespace TclB220G.Iort

open Lib Lib.TracedRead Kernel Kernel.Errno

/-! ## Layout -/

/-- Size of `struct acpi_iort_node` up to its data. -/
def nodeSize : ℕ := 16

/-- Size of `struct acpi_iort_named_component` up to the name. -/
def namedComponentSize : ℕ := 13

/-- Size of `struct acpi_iort_smmu`. -/
def smmuSize : ℕ := 44

/-- Size of `struct acpi_iort_id_mapping`. -/
def idMappingSize : ℕ := 20

def parentMin : ℕ := nodeSize + smmuSize

/-- The node type `ACPI_IORT_NODE_NAMED_COMPONENT`. -/
def namedComponentType : ℕ := 1

/-- The node type `ACPI_IORT_NODE_SMMU`. -/
def smmuType : ℕ := 3

/-- The SMMU model `ACPI_IORT_SMMU_V2`. -/
def smmuV2 : ℕ := 1

/-- The SMMU model `ACPI_IORT_SMMU_CORELINK_MMU500`. -/
def smmuCorelinkMmu500 : ℕ := 3

/-- The octets of a string literal, with the terminating zero. -/
def literal (text : String) : Bytes := text.toList.map (fun char ↦ UInt8.ofNat char.toNat) ++ [0]

/-- Subtraction of 32-bit words. -/
def sub32 (first second : ℕ) : ℕ := (first + 2 ^ 32 - second) % 2 ^ 32

/-- Subtraction of 64-bit words. -/
def sub64 (first second : ℕ) : ℕ := (first + 2 ^ 64 - second) % 2 ^ 64

section

variable {ε : Type}

variable (node : ℕ)

def tableLength : TracedRead ε ℕ := word 4 4
def nodeType : TracedRead ε ℕ := word 1 node
def nodeLength : TracedRead ε ℕ := word 2 (node + 1)
def mappingCount : TracedRead ε ℕ := word 4 (node + 8)
def mappingOffset : TracedRead ε ℕ := word 4 (node + 12)

def nodeFlags : TracedRead ε ℕ := word 4 (node + nodeSize)
def memoryProperties : TracedRead ε ℕ := word 8 (node + nodeSize + 4)
def memoryAddressLimit : TracedRead ε ℕ := word 1 (node + nodeSize + 12)

/-- Offset of `device_name` in a named component. -/
def deviceName : ℕ := node + nodeSize + namedComponentSize

variable (mapping : ℕ)

def inputBase : TracedRead ε ℕ := word 4 mapping
def idCount : TracedRead ε ℕ := word 4 (mapping + 4)
def outputBase : TracedRead ε ℕ := word 4 (mapping + 8)
def outputReference : TracedRead ε ℕ := word 4 (mapping + 12)
def mappingFlags : TracedRead ε ℕ := word 4 (mapping + 16)

def smmuBaseAddress : TracedRead ε ℕ := word 8 (node + nodeSize)
def smmuSpan : TracedRead ε ℕ := word 8 (node + nodeSize + 8)
def smmuModel : TracedRead ε ℕ := word 4 (node + nodeSize + 16)

/-! ## Parts of the checks -/

/-- The table does not carry the identity of the board's firmware. -/
def foreignTable : TracedRead ε Bool :=
  differs 10 ("QCOM  ".toList.map fun char ↦ UInt8.ofNat char.toNat) <||>
  differs 16 ("QCOMEDK2".toList.map fun char ↦ UInt8.ofNat char.toNat) <||>
  return (← word 4 24) != 0x7180

/-- An SMMU node at the offset would not fit into the table. -/
def smmuOutside (reference : ℕ) : TracedRead ε Bool :=
  (return (← tableLength) < parentMin) <||>
  return reference > sub32 (← tableLength) parentMin

/-- The node at the offset is not an SMMU node that lies inside the table. -/
def notSmmu (reference : ℕ) : TracedRead ε Bool :=
  (return (← nodeType reference) != smmuType) <||>
  (return (← nodeLength reference) < parentMin) <||>
  return (← nodeLength reference) > sub32 (← tableLength) reference

/-- The SMMU node does not describe the expected SMMU. -/
def foreignSmmu (reference base span model : ℕ) : TracedRead ε Bool :=
  (return (← smmuBaseAddress reference) != base) <||>
  (return (← smmuSpan reference) != span) <||>
  return (← smmuModel reference) != model

end

/-! ## Single mappings -/

/-- What the USB and WLAN checks expect of the component and its one mapping. -/
structure InputQuirk where
  path : String
  input : ℕ
  count : ℕ
  output : ℕ

/-- The USB component `\_SB.URS0`. -/
def ursQuirk : InputQuirk := ⟨"\\_SB.URS0", 0x80030000, 0, 0x540⟩

/-- The WLAN component `\_SB.AMSS.QWLN`, with two adjacent stream IDs. -/
def wlanQuirk : InputQuirk := ⟨"\\_SB.AMSS.QWLN", 0x11030000, 1, 0xc0⟩

/-- The checks of `iort_tcl_urs_input_id` and `iort_tcl_wlan_input_id` on the node.  Giving up stands
for `false`. -/
def InputQuirk.inputId (quirk : InputQuirk) (node : ℕ) : TracedRead Unit ℕ := do
  let nameEnd := nodeSize + namedComponentSize + (literal quirk.path).length
  refuse () <|
    (return (← nodeType node) != namedComponentType) <||>
    (return (← mappingCount node) != 1) <||>
    (return (← nodeLength node) < nameEnd) <||>
    (return (← mappingOffset node) < nameEnd) <||>
    return (← mappingOffset node) > sub64 (← nodeLength node) idMappingSize
  refuse () (differs (deviceName node) (literal quirk.path))
  let mapping := node + (← mappingOffset node)
  refuse () <|
    (return (← mappingFlags mapping) != 0) <||>
    (return (← inputBase mapping) != quirk.input) <||>
    (return (← idCount mapping) != quirk.count) <||>
    (return (← outputBase mapping) != quirk.output) <||>
    (return (← outputReference mapping) != 48) <||>
    (do smmuOutside (← outputReference mapping))
  let reference ← outputReference mapping
  refuse () (notSmmu reference)
  refuse () (foreignSmmu reference 0x15000000 0x100000 smmuCorelinkMmu500)
  inputBase mapping

/-! ## Board maps -/

/-- One input ID that a board map translates: the mapping that must cover it has this many further
IDs and this output. -/
structure Wanted where
  input : ℕ
  count : ℕ
  output : ℕ

/-- What the display, GPU and audio maps expect. -/
structure BoardMap where
  path : String
  component : ℕ → TracedRead Errno Unit
  wanted : List Wanted
  reference : ℕ
  base : ℕ
  span : ℕ
  model : ℕ

/-- What `iort_tcl_dpu_map` expects. -/
def dpuMap : BoardMap where
  path := "\\_SB.GPU0"
  component := fun _ ↦ pure ()
  wanted := [⟨0x30000, 0, 0x800⟩, ⟨0x30001, 0, 0x802⟩, ⟨0xa0000, 0, 0x801⟩]
  reference := 48
  base := 0x15000000
  span := 0x100000
  model := smmuCorelinkMmu500

/-- What `iort_tcl_gpu_map` expects, for the GPU or its GMU. -/
def gpuMap (gmu : Bool) : BoardMap where
  path := "\\_SB.GPU0"
  component := fun _ ↦ pure ()
  wanted := [⟨if gmu then 0x3030003 else 0x3030000, if gmu then 0 else 1, if gmu then 5 else 0⟩]
  reference := 0x32c
  base := 0x5040000
  span := 0x10000
  model := smmuV2

/-- What `iort_tcl_audio_map` expects.  It alone looks at the flags and memory properties of the
component. -/
def audioMap : BoardMap where
  path := "\\_SB.ADSP.ADCM"
  component := fun node ↦
    refuse EINVAL <|
      (return (← nodeFlags node) != 0) <||>
      (return (← memoryProperties node) != 0) <||>
      return (← memoryAddressLimit node) != 36
  wanted := [⟨0x07030000, 0, 0x1001⟩]
  reference := 48
  base := 0x15000000
  span := 0x100000
  model := smmuCorelinkMmu500

namespace BoardMap

/-- The inner loop: walks the mappings from `mapping` on, `remaining` of them, and counts those that
cover the wanted input. -/
def countMatches (map : BoardMap) (wanted : Wanted) :
    ℕ → ℕ → ℕ → TracedRead Errno ℕ
  | 0, _, found => pure found
  | remaining + 1, mapping, found => do
    refuse EINVAL (return (← mappingFlags mapping) &&& 1 != 0)
    let skips : Bool ←
      (return wanted.input < (← inputBase mapping)) <||>
      return sub32 wanted.input (← inputBase mapping) > (← idCount mapping)
    if skips then map.countMatches wanted remaining (mapping + idMappingSize) found
    else
      refuse EINVAL <|
        (return found + 1 != 1) <||>
        (return (← mappingFlags mapping) != 0) <||>
        (return (← inputBase mapping) != wanted.input) <||>
        (return (← idCount mapping) != wanted.count) <||>
        (return (← outputBase mapping) != wanted.output) <||>
        return (← outputReference mapping) != map.reference
      map.countMatches wanted remaining (mapping + idMappingSize) (found + 1)

/-- The outer loop. -/
def checkWanted (map : BoardMap) (count mapping : ℕ) : List Wanted → TracedRead Errno Unit
  | [] => pure ()
  | wanted :: rest => do
    let found ← map.countMatches wanted count mapping 0
    refuse EINVAL (return found != 1)
    map.checkWanted count mapping rest

/-- Everything a board map checks of the table before it looks at the device's fwspec. -/
def validate (map : BoardMap) (node : ℕ) : TracedRead Errno Unit := do
  let nameEnd := nodeSize + namedComponentSize + (literal map.path).length
  refuse ENODEV foreignTable
  refuse EINVAL <|
    (return (← nodeType node) != namedComponentType) <||>
    (return (← nodeLength node) < nameEnd) <||>
    (return (← mappingOffset node) < nameEnd) <||>
    (return (← mappingOffset node) > (← nodeLength node)) <||>
    return (← mappingCount node) > sub32 (← nodeLength node) (← mappingOffset node) / idMappingSize
  map.component node
  refuse EINVAL (differs (deviceName node) (literal map.path))
  let mapping := node + (← mappingOffset node)
  map.checkWanted (← mappingCount node) mapping map.wanted
  refuse EINVAL (smmuOutside map.reference)
  refuse EINVAL (notSmmu map.reference)
  refuse EINVAL (foreignSmmu map.reference map.base map.span map.model)

end BoardMap

/-- What `iort_tcl_venus_map` checks of the table. -/
def venusValidate : TracedRead Errno Unit := do
  refuse ENODEV (foreignTable <||> smmuOutside 48)
  refuse EINVAL (notSmmu 48)
  refuse EINVAL (foreignSmmu 48 0x15000000 0x100000 smmuCorelinkMmu500)

/-! ## Matches of a component by its name -/

/-- A named component whose device name is the path. -/
def namedAs (path : String) (node : ℕ) : TracedRead Empty Bool :=
  (return (← nodeType node) == namedComponentType) <&&>
  (return !(decide ((← nodeLength node) <
    nodeSize + namedComponentSize + (literal path).length))) <&&>
  return !(← differs (deviceName node) (literal path))

def iortTclAudioMatch (node : ℕ) : TracedRead Empty Bool := namedAs "\\_SB.ADSP.ADCM" node

end TclB220G.Iort
