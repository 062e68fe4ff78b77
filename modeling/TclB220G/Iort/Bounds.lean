import TclB220G.Iort.BoardMaps
import TclB220G.Lib.GuardedRead

/-!
# Bounds of the IORT checks

The checks run on tables that the firmware supplies.  Every check is written here a second time, with
subtractions and products that give up where they wrap around, and is shown to agree with the check
itself.  On the way the octets that it reads are located: they belong to the node or to the table.

All of this rests on the two headers.  The identity of the table is read before its length is looked at,
and the checks for USB and WLAN read the number of mappings before they test the length of the node.
-/

namespace TclB220G.Iort

open Lib Lib.TracedRead Kernel Kernel.Errno

/-! ## The checks with checked arithmetic -/

section

variable {ε : Type}

def smmuOutsideChecked (reference : ℕ) : TracedRead (Fault ε) Bool :=
  (return (← tableLength) < parentMin) <||> do
    let room ← checkedSub (← tableLength) parentMin
    return reference > room

def notSmmuChecked (reference : ℕ) : TracedRead (Fault ε) Bool :=
  (return (← nodeType reference) != smmuType) <||>
  (return (← nodeLength reference) < parentMin) <||> do
    let length ← nodeLength reference
    let room ← checkedSub (← tableLength) reference
    return length > room

/-- The test of the one mapping of a component, with the test of its reference. -/
def InputQuirk.mappingTest (quirk : InputQuirk) (mapping : ℕ) (outside : ℕ → TracedRead ε Bool) :
    TracedRead ε Bool :=
  (return (← mappingFlags mapping) != 0) <||>
  (return (← inputBase mapping) != quirk.input) <||>
  (return (← idCount mapping) != quirk.count) <||>
  (return (← outputBase mapping) != quirk.output) <||>
  (return (← outputReference mapping) != 48) <||>
  (do outside (← outputReference mapping))

end

def InputQuirk.inputIdChecked (quirk : InputQuirk) (node : ℕ) : TracedRead (Fault Unit) ℕ := do
  let nameEnd := nodeSize + namedComponentSize + (literal quirk.path).length
  refuse (.refused ()) <|
    (return (← nodeType node) != namedComponentType) <||>
    (return (← mappingCount node) != 1) <||>
    (return (← nodeLength node) < nameEnd) <||>
    (return (← mappingOffset node) < nameEnd) <||> do
      let offset ← mappingOffset node
      let room ← checkedSub (← nodeLength node) idMappingSize
      return offset > room
  refuse (.refused ()) (differs (deviceName node) (literal quirk.path))
  let mapping := node + (← mappingOffset node)
  refuse (.refused ()) (quirk.mappingTest mapping smmuOutsideChecked)
  let reference ← outputReference mapping
  refuse (.refused ()) (notSmmuChecked reference)
  refuse (.refused ()) (foreignSmmu reference 0x15000000 0x100000 smmuCorelinkMmu500)
  inputBase mapping

namespace BoardMap

/-- The inner loop over `maps[index]`, with as many mappings remaining. -/
def countMatchesChecked (map : BoardMap) (wanted : Wanted) (maps : ℕ) :
    ℕ → ℕ → ℕ → TracedRead (Fault Errno) ℕ
  | 0, _, found => pure found
  | remaining + 1, index, found => do
    let mapping := maps + (← checkedMul index idMappingSize)
    refuse (.refused EINVAL) (return (← mappingFlags mapping) &&& 1 != 0)
    let skips : Bool ←
      (return wanted.input < (← inputBase mapping)) <||> do
        let distance ← checkedSub wanted.input (← inputBase mapping)
        return distance > (← idCount mapping)
    if skips then map.countMatchesChecked wanted maps remaining (index + 1) found
    else
      refuse (.refused EINVAL) <|
        (return found + 1 != 1) <||>
        (return (← mappingFlags mapping) != 0) <||>
        (return (← inputBase mapping) != wanted.input) <||>
        (return (← idCount mapping) != wanted.count) <||>
        (return (← outputBase mapping) != wanted.output) <||>
        return (← outputReference mapping) != map.reference
      map.countMatchesChecked wanted maps remaining (index + 1) (found + 1)

def checkWantedChecked (map : BoardMap) (count maps : ℕ) :
    List Wanted → TracedRead (Fault Errno) Unit
  | [] => pure ()
  | wanted :: rest => do
    let found ← map.countMatchesChecked wanted maps count 0 0
    refuse (.refused EINVAL) (return found != 1)
    map.checkWantedChecked count maps rest

def validateChecked (map : BoardMap) (node : ℕ) : TracedRead (Fault Errno) Unit := do
  let nameEnd := nodeSize + namedComponentSize + (literal map.path).length
  refuse (.refused ENODEV) foreignTable
  refuse (.refused EINVAL) <|
    (return (← nodeType node) != namedComponentType) <||>
    (return (← nodeLength node) < nameEnd) <||>
    (return (← mappingOffset node) < nameEnd) <||>
    (return (← mappingOffset node) > (← nodeLength node)) <||> do
      let count ← mappingCount node
      let length ← nodeLength node
      let room ← checkedSub length (← mappingOffset node)
      return count > room / idMappingSize
  lifted (map.component node)
  refuse (.refused EINVAL) (differs (deviceName node) (literal map.path))
  let maps := node + (← mappingOffset node)
  map.checkWantedChecked (← mappingCount node) maps map.wanted
  refuse (.refused EINVAL) (smmuOutsideChecked map.reference)
  refuse (.refused EINVAL) (notSmmuChecked map.reference)
  refuse (.refused EINVAL) (foreignSmmu map.reference map.base map.span map.model)

end BoardMap

def venusValidateChecked : TracedRead (Fault Errno) Unit := do
  refuse (.refused ENODEV) (foreignTable <||> smmuOutsideChecked 48)
  refuse (.refused EINVAL) (notSmmuChecked 48)
  refuse (.refused EINVAL) (foreignSmmu 48 0x15000000 0x100000 smmuCorelinkMmu500)

/-! ## Extents -/

/-- Size of `struct acpi_table_header`. -/
def tableHeaderSize : ℕ := 36

/-- The octets of the span belong to the node or to the table, as their length fields have it. -/
def Inside (memory : Memory) (node : ℕ) (span : Span) : Prop :=
  node ≤ span.offset ∧ span.offset + span.length ≤ node + memory.littleEndian 2 (node + 1) ∨
    span.offset + span.length ≤ memory.littleEndian 4 4

/-- The node and the table are as long as their headers. -/
class HasHeaders (memory : Memory) (node : ℕ) : Prop where
  node_le : nodeSize ≤ memory.littleEndian 2 (node + 1)
  table_le : tableHeaderSize ≤ memory.littleEndian 4 4

section

variable {memory : Memory} {node : ℕ}

variable {offset width : ℕ}

theorem inside_table (hend : offset + width ≤ memory.littleEndian 4 4) :
    Inside memory node ⟨offset, width⟩ :=
  .inr hend

theorem inside_node (hend : offset + width ≤ memory.littleEndian 2 (node + 1)) :
    Inside memory node ⟨node + offset, width⟩ :=
  .inl ⟨Nat.le_add_right _ _, by simpa [Nat.add_assoc] using hend⟩

variable [HasHeaders memory node]

theorem inside_tableHeader (hend : offset + width ≤ tableHeaderSize) :
    Inside memory node ⟨offset, width⟩ :=
  inside_table (hend.trans (HasHeaders.table_le node))

theorem inside_nodeHeader (hend : offset + width ≤ nodeSize) :
    Inside memory node ⟨node + offset, width⟩ :=
  inside_node (hend.trans HasHeaders.node_le)

theorem inside_nodeType : Inside memory node ⟨node, 1⟩ :=
  inside_nodeHeader (by decide : 0 + 1 ≤ nodeSize)

theorem inside_nodeLength : Inside memory node ⟨node + 1, 2⟩ := inside_nodeHeader (by decide)

theorem inside_mappingCount : Inside memory node ⟨node + 8, 4⟩ := inside_nodeHeader (by decide)

theorem inside_mappingOffset : Inside memory node ⟨node + 12, 4⟩ := inside_nodeHeader (by decide)

end

/-! ## The parts of the checks -/

section

variable {ε : Type} {memory : Memory} {node : ℕ}

theorem guarded_foreignTable [HasHeaders memory node] :
    Guarded (Inside memory node) memory (foreignTable : TracedRead (Fault ε) Bool) foreignTable := by
  refine .orM (.differs (inside_tableHeader (by decide))) rfl fun _ ↦ ?_
  refine .orM (.differs (inside_tableHeader (by decide))) rfl fun _ ↦ ?_
  exact .word (inside_tableHeader (by decide)) (.pure _)

theorem guarded_smmuOutside [HasHeaders memory node] (reference : ℕ) :
    Guarded (Inside memory node) memory (smmuOutsideChecked reference : TracedRead (Fault ε) Bool)
      (smmuOutside reference) := by
  have hlength : Inside memory node ⟨4, 4⟩ := inside_tableHeader (by decide)
  refine .orM (.word hlength (.pure _)) rfl fun hshort ↦ ?_
  have hle : parentMin ≤ memory.littleEndian 4 4 := by simpa using hshort
  refine .word hlength ?_
  rw [checkedSub_of_le hle, pure_bind, sub32_of_le hle (memory.littleEndian_lt 4 4)]
  exact .pure _

/-- The check refuses a reference at which no SMMU node fits into the table. -/
theorem yields_smmuOutside (reference : ℕ) :
    Yields (smmuOutside reference : TracedRead ε Bool) memory
      !decide (reference + parentMin ≤ memory.littleEndian 4 4) := by
  have hlt := memory.littleEndian_lt 4 4
  have hvalue : (decide (memory.littleEndian 4 4 < parentMin) ||
      decide (reference > sub32 (memory.littleEndian 4 4) parentMin)) =
        !decide (reference + parentMin ≤ memory.littleEndian 4 4) := by
    rw [Bool.eq_iff_iff]
    simp only [Bool.or_eq_true, Bool.not_eq_true', decide_eq_true_eq, decide_eq_false_iff_not]
    by_cases hle : parentMin ≤ memory.littleEndian 4 4
    · rw [sub32_of_le hle hlt]
      omega
    · omega
  rw [← hvalue]
  exact Yields.orM rfl rfl

section

variable {reference : ℕ} (hfits : reference + parentMin ≤ memory.littleEndian 4 4)

include hfits

/-- The fixed part of an SMMU node that fits is inside. -/
theorem inside_smmu {offset width : ℕ} (hend : offset + width ≤ parentMin) :
    Inside memory node ⟨reference + offset, width⟩ :=
  inside_table (by omega)

theorem guarded_notSmmu [HasHeaders memory node] :
    Guarded (Inside memory node) memory (notSmmuChecked reference : TracedRead (Fault ε) Bool)
      (notSmmu reference) := by
  have htype : Inside memory node ⟨reference, 1⟩ := inside_smmu hfits (by decide : 0 + 1 ≤ parentMin)
  have hlength : Inside memory node ⟨reference + 1, 2⟩ := inside_smmu hfits (by decide)
  have hle : reference ≤ memory.littleEndian 4 4 := by omega
  refine .orM (.word htype (.pure _)) rfl fun _ ↦ ?_
  refine .orM (.word hlength (.pure _)) rfl fun _ ↦ ?_
  refine .word hlength (.word (inside_tableHeader (by decide)) ?_)
  rw [checkedSub_of_le hle, pure_bind, sub32_of_le hle (memory.littleEndian_lt 4 4)]
  exact .pure _

theorem guarded_foreignSmmu (base span model : ℕ) :
    Guarded (Inside memory node) memory
      (foreignSmmu reference base span model : TracedRead (Fault ε) Bool)
      (foreignSmmu reference base span model) := by
  have hbase : Inside memory node ⟨reference + nodeSize, 8⟩ := inside_smmu hfits (by decide)
  have hspan : Inside memory node ⟨reference + (nodeSize + 8), 8⟩ := inside_smmu hfits (by decide)
  have hmodel : Inside memory node ⟨reference + (nodeSize + 16), 4⟩ := inside_smmu hfits (by decide)
  refine .orM (.word hbase (.pure _)) rfl fun _ ↦ ?_
  refine .orM (.word hspan (.pure _)) rfl fun _ ↦ ?_
  exact .word hmodel (.pure _)

end

/-! ## Single mappings -/

theorem sub64_of_le {first second : ℕ} (hle : second ≤ first) (hfirst : first < 2 ^ 64) :
    sub64 first second = first - second := by
  rw [sub64, Nat.sub_add_comm hle, Nat.add_mod_right, Nat.mod_eq_of_lt (by omega)]

/-- A mapping lies inside the node. -/
structure MappingInside (memory : Memory) (node mapping : ℕ) : Prop where
  start : node ≤ mapping
  stop : mapping + idMappingSize ≤ node + memory.littleEndian 2 (node + 1)

namespace MappingInside

variable {mapping : ℕ} (hmapping : MappingInside memory node mapping)

include hmapping

theorem field {offset : ℕ} (hend : offset + 4 ≤ idMappingSize) :
    Inside memory node ⟨mapping + offset, 4⟩ := by
  have hstop := hmapping.stop
  refine .inl ⟨hmapping.start.trans (Nat.le_add_right _ _), ?_⟩
  dsimp only
  omega

theorem inputBase : Inside memory node ⟨mapping, 4⟩ :=
  hmapping.field (by decide : 0 + 4 ≤ idMappingSize)

theorem idCount : Inside memory node ⟨mapping + 4, 4⟩ := hmapping.field (by decide)

theorem outputBase : Inside memory node ⟨mapping + 8, 4⟩ := hmapping.field (by decide)

theorem outputReference : Inside memory node ⟨mapping + 12, 4⟩ := hmapping.field (by decide)

theorem mappingFlags : Inside memory node ⟨mapping + 16, 4⟩ := hmapping.field (by decide)

end MappingInside

variable (quirk : InputQuirk)

theorem guarded_mappingTest [HasHeaders memory node] {mapping : ℕ}
    (hmapping : MappingInside memory node mapping) :
    Guarded (Inside memory node) memory
      (quirk.mappingTest mapping smmuOutsideChecked : TracedRead (Fault ε) Bool)
      (quirk.mappingTest mapping smmuOutside) := by
  refine .orM (.word hmapping.mappingFlags (.pure _)) rfl fun _ ↦ ?_
  refine .orM (.word hmapping.inputBase (.pure _)) rfl fun _ ↦ ?_
  refine .orM (.word hmapping.idCount (.pure _)) rfl fun _ ↦ ?_
  refine .orM (.word hmapping.outputBase (.pure _)) rfl fun _ ↦ ?_
  refine .orM (.word hmapping.outputReference (.pure _)) rfl fun _ ↦ ?_
  exact .word hmapping.outputReference (guarded_smmuOutside _)

/-- A mapping that passes the test leads to a node that fits into the table. -/
theorem yields_mappingTest (mapping : ℕ) :
    ∃ value, Yields (quirk.mappingTest mapping smmuOutside : TracedRead ε Bool) memory value ∧
      (value = false →
        memory.littleEndian 4 (mapping + 12) + parentMin ≤ memory.littleEndian 4 4) := by
  refine ⟨_, Yields.orM rfl (Yields.orM rfl (Yields.orM rfl (Yields.orM rfl (Yields.orM rfl
    (Yields.bind rfl (yields_smmuOutside _)))))), fun hpassed ↦ ?_⟩
  simp only [Bool.or_eq_false_iff, Bool.not_eq_false', decide_eq_true_eq] at hpassed
  exact hpassed.2.2.2.2.2

theorem guarded_inputId [HasHeaders memory node] :
    Guarded (Inside memory node) memory (quirk.inputIdChecked node) (quirk.inputId node) := by
  have hword : memory.littleEndian 2 (node + 1) < 2 ^ 64 :=
    (memory.littleEndian_lt 2 (node + 1)).trans (by decide)
  have hsize : idMappingSize ≤ nodeSize + namedComponentSize := by decide
  dsimp only [InputQuirk.inputIdChecked, InputQuirk.inputId]
  apply Guarded.refuse_bind
  case hvalue => exact Yields.orM rfl (Yields.orM rfl (Yields.orM rfl (Yields.orM rfl rfl)))
  case hcondition =>
    refine .orM (.word inside_nodeType (.pure _)) rfl fun _ ↦ ?_
    refine .orM (.word inside_mappingCount (.pure _)) rfl fun _ ↦ ?_
    refine .orM (.word inside_nodeLength (.pure _)) rfl fun hname ↦ ?_
    refine .orM (.word inside_mappingOffset (.pure _)) rfl fun _ ↦ ?_
    have hle : idMappingSize ≤ memory.littleEndian 2 (node + 1) := by
      rw [decide_eq_false_iff_not] at hname
      omega
    refine .word inside_mappingOffset (.word inside_nodeLength ?_)
    rw [checkedSub_of_le hle, pure_bind, sub64_of_le hle hword]
    exact .pure _
  case hnext =>
    intro hlayout
    simp only [Bool.or_eq_false_iff, decide_eq_false_iff_not] at hlayout
    obtain ⟨-, -, hname, hstart, hstop⟩ := hlayout
    rw [sub64_of_le (by omega) hword] at hstop
    have hmapping : MappingInside memory node (node + memory.littleEndian 4 (node + 12)) :=
      ⟨Nat.le_add_right _ _, by omega⟩
    have hpath : Inside memory node ⟨deviceName node, (literal quirk.path).length⟩ := by
      rw [deviceName, Nat.add_assoc]
      exact inside_node (by omega)
    refine .bind (.refuse (.differs hpath) ()) fun _ _ ↦ .word inside_mappingOffset ?_
    obtain ⟨value, hvalue, hfits⟩ := yields_mappingTest quirk (node + memory.littleEndian 4 (node + 12))
    refine .refuse_bind (guarded_mappingTest quirk hmapping) hvalue () fun hpassed ↦ ?_
    refine .word hmapping.outputReference ?_
    refine .bind (.refuse (guarded_notSmmu (hfits hpassed)) ()) fun _ _ ↦ ?_
    refine .bind (.refuse (guarded_foreignSmmu (hfits hpassed) _ _ _) ()) fun _ _ ↦ ?_
    exact .word hmapping.inputBase (.pure _)

/-! ## Board maps -/

namespace BoardMap

/-- The mapping at an index of the array lies inside the node if those from it on do. -/
theorem mappingInside_of_remaining {maps index remaining : ℕ} (hmaps : node ≤ maps)
    (hend : maps + (index + (remaining + 1)) * idMappingSize ≤
      node + memory.littleEndian 2 (node + 1)) :
    MappingInside memory node (maps + index * idMappingSize) := by
  refine ⟨hmaps.trans (Nat.le_add_right _ _), ?_⟩
  calc
    maps + index * idMappingSize + idMappingSize = maps + (index + 1) * idMappingSize := by
      rw [Nat.add_assoc, Nat.succ_mul]
    _ ≤ maps + (index + (remaining + 1)) * idMappingSize :=
      Nat.add_le_add_left (Nat.mul_le_mul_right _ (by omega)) maps
    _ ≤ node + memory.littleEndian 2 (node + 1) := hend

/-- The inner loop stays in an array of mappings that lies inside the node, and the products that lead
to its elements do not wrap around. -/
theorem guarded_countMatches (map : BoardMap) {wanted : Wanted} (hinput : wanted.input < 2 ^ 32)
    {maps : ℕ} (hmaps : node ≤ maps) (remaining index found : ℕ)
    (hend : maps + (index + remaining) * idMappingSize ≤
      node + memory.littleEndian 2 (node + 1)) :
    Guarded (Inside memory node) memory (map.countMatchesChecked wanted maps remaining index found)
      (map.countMatches wanted remaining (maps + index * idMappingSize) found) := by
  induction remaining generalizing index found with
  | zero => exact .pure found
  | succ remaining ih =>
    have hlength := memory.littleEndian_lt 2 (node + 1)
    have hnext : maps + index * idMappingSize + idMappingSize = maps + (index + 1) * idMappingSize := by
      rw [Nat.add_assoc, Nat.succ_mul]
    have hrest : maps + (index + 1 + remaining) * idMappingSize ≤
        node + memory.littleEndian 2 (node + 1) := by
      rwa [Nat.add_assoc, Nat.add_comm 1]
    have hmapping := mappingInside_of_remaining hmaps hend
    have hproduct : index * idMappingSize < 2 ^ 32 := by
      have hstop := hmapping.stop
      omega
    rw [countMatchesChecked, countMatches, checkedMul_of_lt hproduct, pure_bind]
    refine .bind (.refuse (.word hmapping.mappingFlags (.pure _)) EINVAL) fun _ _ ↦ .bind ?_ fun skips _ ↦ ?_
    · -- The distance is taken only if the wanted input is not below the mapping.
      refine .orM (.word hmapping.inputBase (.pure _)) rfl fun hbelow ↦ .word hmapping.inputBase ?_
      have hle : memory.littleEndian 4 (maps + index * idMappingSize) ≤ wanted.input := by
        rw [decide_eq_false_iff_not] at hbelow
        omega
      rw [checkedSub_of_le hle, pure_bind, sub32_of_le hle hinput]
      exact .word hmapping.idCount (.pure _)
    · rw [hnext]
      cases skips with
      | true => exact ih (index + 1) found hrest
      | false =>
        refine .bind (.refuse ?_ EINVAL) fun _ _ ↦ ih (index + 1) (found + 1) hrest
        refine .orM (.pure _) rfl fun _ ↦ ?_
        refine .orM (.word hmapping.mappingFlags (.pure _)) rfl fun _ ↦ ?_
        refine .orM (.word hmapping.inputBase (.pure _)) rfl fun _ ↦ ?_
        refine .orM (.word hmapping.idCount (.pure _)) rfl fun _ ↦ ?_
        refine .orM (.word hmapping.outputBase (.pure _)) rfl fun _ ↦ ?_
        exact .word hmapping.outputReference (.pure _)

theorem guarded_checkWanted (map : BoardMap) {maps count : ℕ} (hmaps : node ≤ maps)
    (hend : maps + count * idMappingSize ≤ node + memory.littleEndian 2 (node + 1))
    (wanteds : List Wanted) (hinputs : ∀ wanted ∈ wanteds, wanted.input < 2 ^ 32) :
    Guarded (Inside memory node) memory (map.checkWantedChecked count maps wanteds)
      (map.checkWanted count maps wanteds) := by
  induction wanteds with
  | nil => exact .pure ()
  | cons wanted rest ih =>
    rw [List.forall_mem_cons] at hinputs
    have hcount := map.guarded_countMatches hinputs.1 hmaps count 0 0 (by rwa [Nat.zero_add])
    rw [Nat.zero_mul, Nat.add_zero] at hcount
    refine hcount.bind fun found _ ↦ ?_
    exact .bind (.refuse (.pure _) EINVAL) fun _ _ ↦ ih hinputs.2

/-- The component's own checks read nothing beyond the name's start. -/
def ComponentInside (map : BoardMap) : Prop :=
  ∀ memory node, deviceName node ≤ node + memory.littleEndian 2 (node + 1) →
    ∀ span ∈ (map.component node memory).2, Inside memory node span

theorem guarded_validate [HasHeaders memory node] {map : BoardMap} (hmap : map.WellFormed)
    (hcomponent : map.ComponentInside) :
    Guarded (Inside memory node) memory (map.validateChecked node) (map.validate node) := by
  have hword : memory.littleEndian 2 (node + 1) < 2 ^ 32 :=
    (memory.littleEndian_lt 2 (node + 1)).trans (by decide)
  dsimp only [validateChecked, validate]
  refine .bind (.refuse guarded_foreignTable ENODEV) fun _ _ ↦ ?_
  apply Guarded.refuse_bind
  case hvalue => exact Yields.orM rfl (Yields.orM rfl (Yields.orM rfl (Yields.orM rfl rfl)))
  case hcondition =>
    refine .orM (.word inside_nodeType (.pure _)) rfl fun _ ↦ ?_
    refine .orM (.word inside_nodeLength (.pure _)) rfl fun _ ↦ ?_
    refine .orM (.word inside_mappingOffset (.pure _)) rfl fun _ ↦ ?_
    refine .orM (.word inside_mappingOffset (.word inside_nodeLength (.pure _))) rfl fun hbeyond ↦ ?_
    have hle : memory.littleEndian 4 (node + 12) ≤ memory.littleEndian 2 (node + 1) := by
      rw [decide_eq_false_iff_not] at hbeyond
      omega
    refine .word inside_mappingCount (.word inside_nodeLength (.word inside_mappingOffset ?_))
    rw [checkedSub_of_le hle, pure_bind, sub32_of_le hle hword]
    exact .pure _
  case hnext =>
    intro hlayout
    simp only [Bool.or_eq_false_iff, decide_eq_false_iff_not] at hlayout
    obtain ⟨-, hname, hstart, hstop, hroom⟩ := hlayout
    rw [sub32_of_le (by omega) hword] at hroom
    have hmaps : memory.littleEndian 4 (node + 8) * idMappingSize ≤
        memory.littleEndian 2 (node + 1) - memory.littleEndian 4 (node + 12) :=
      (Nat.mul_le_mul_right _ (Nat.not_lt.1 hroom)).trans (Nat.div_mul_le_self _ _)
    have hpath : Inside memory node ⟨deviceName node, (literal map.path).length⟩ := by
      rw [deviceName, Nat.add_assoc]
      exact inside_node (by omega)
    have hown : Guarded (Inside memory node) memory (lifted (map.component node))
        (map.component node) := ⟨rfl, hcomponent memory node (by rw [deviceName]; omega)⟩
    refine hown.bind fun _ _ ↦ .bind (.refuse (.differs hpath) EINVAL) fun _ _ ↦ ?_
    refine .word inside_mappingOffset (.word inside_mappingCount ?_)
    refine .bind (map.guarded_checkWanted (Nat.le_add_right _ _) (by omega) _ hmap.input_lt)
      fun _ _ ↦ ?_
    refine .refuse_bind (guarded_smmuOutside _) (yields_smmuOutside _) EINVAL fun hinside ↦ ?_
    have hfits : map.reference + parentMin ≤ memory.littleEndian 4 4 := by simpa using hinside
    refine .bind (.refuse (guarded_notSmmu hfits) EINVAL) fun _ _ ↦ ?_
    exact .refuse (guarded_foreignSmmu hfits _ _ _) EINVAL

theorem componentInside_of_pure {map : BoardMap} (hpure : ∀ node, map.component node = pure ()) :
    map.ComponentInside := by
  intro memory node _ span hspan
  rw [hpure] at hspan
  simp [pure] at hspan

/-- The flags, the memory properties and the address limit are before the name. -/
theorem componentInside_audioMap : audioMap.ComponentInside := by
  intro memory node hend
  rw [deviceName, Nat.add_assoc, Nat.add_le_add_iff_left] at hend
  have hflags : Inside memory node ⟨node + nodeSize, 4⟩ := inside_node (le_trans (by decide) hend)
  have hproperties : Inside memory node ⟨node + (nodeSize + 4), 8⟩ :=
    inside_node (le_trans (by decide) hend)
  have hlimit : Inside memory node ⟨node + (nodeSize + 12), 1⟩ :=
    inside_node (le_trans (by decide) hend)
  have hcomponent : Guarded (Inside memory node) memory
      (refuse (.refused EINVAL) <|
        (return (← nodeFlags node) != 0) <||>
        (return (← memoryProperties node) != 0) <||>
        return (← memoryAddressLimit node) != 36)
      (audioMap.component node) := by
    refine .refuse ?_ EINVAL
    refine .orM (.word hflags (.pure _)) rfl fun _ ↦ ?_
    refine .orM (.word hproperties (.pure _)) rfl fun _ ↦ ?_
    exact .word hlimit (.pure _)
  exact hcomponent.within

end BoardMap

theorem guarded_venusValidate [HasHeaders memory node] :
    Guarded (Inside memory node) memory venusValidateChecked venusValidate := by
  have hforeign : Guarded (Inside memory node) memory
      (foreignTable <||> smmuOutsideChecked 48 : TracedRead (Fault Errno) Bool)
      (foreignTable <||> smmuOutside 48) :=
    .orM guarded_foreignTable (Yields.orM rfl (Yields.orM rfl rfl)) fun _ ↦ guarded_smmuOutside 48
  have hvalue : Yields (foreignTable <||> smmuOutside 48 : TracedRead Errno Bool) memory _ :=
    Yields.orM (Yields.orM rfl (Yields.orM rfl rfl)) (yields_smmuOutside 48)
  refine hforeign.refuse_bind hvalue ENODEV fun hinside ↦ ?_
  have hfits : 48 + parentMin ≤ memory.littleEndian 4 4 := by
    simpa using (Bool.or_eq_false_iff.1 hinside).2
  refine .bind (.refuse (guarded_notSmmu hfits) EINVAL) fun _ _ ↦ ?_
  exact .refuse (guarded_foreignSmmu hfits _ _ _) EINVAL

/-! ## Matches by name -/

/-- The test of the length and the comparison of the name. -/
theorem guarded_name [HasHeaders memory node] (path : String) :
    Guarded (Inside memory node) memory
      ((return !(decide ((← nodeLength node) <
          nodeSize + namedComponentSize + (literal path).length))) <&&>
        return !(← differs (deviceName node) (literal path)) : TracedRead (Fault Empty) Bool)
      ((return !(decide ((← nodeLength node) <
          nodeSize + namedComponentSize + (literal path).length))) <&&>
        return !(← differs (deviceName node) (literal path))) := by
  refine .andM (.word inside_nodeLength (.pure _)) rfl fun hlong ↦ ?_
  have hpath : Inside memory node ⟨deviceName node, (literal path).length⟩ := by
    rw [Bool.not_eq_true', decide_eq_false_iff_not] at hlong
    rw [deviceName, Nat.add_assoc]
    exact inside_node (by omega)
  exact .bind (.differs hpath) fun _ _ ↦ .pure _

theorem guarded_namedComponent [HasHeaders memory node] :
    Guarded (Inside memory node) memory
      (do return (← nodeType node) == namedComponentType : TracedRead (Fault Empty) Bool)
      (do return (← nodeType node) == namedComponentType) :=
  .word inside_nodeType (.pure _)

theorem inside_namedAs [HasHeaders memory node] (path : String) :
    ∀ span ∈ (namedAs path node memory).2, Inside memory node span :=
  (guarded_namedComponent.andM rfl fun _ ↦ guarded_name path).within

theorem inside_iortTclUfsMatch [HasHeaders memory node] (device : Device) :
    ∀ span ∈ (iortTclUfsMatch device node memory).2, Inside memory node span := by
  unfold iortTclUfsMatch
  cases device.companionOrSelf with
  | none => simp [pure]
  | some adev =>
    exact (Guarded.andM (.pure _) rfl fun _ ↦ guarded_namedComponent.andM rfl fun _ ↦
      .andM (.pure _) rfl fun _ ↦ guarded_name _).within

end

/-! ## All checks -/

/-- The check reads only octets of the node or of the table, and it agrees with the one that gives up
where a word wraps around, which it never does. -/
structure Bounded {ε α : Type} (memory : Memory) (node : ℕ) (checked : TracedRead (Fault ε) α)
    (read : TracedRead ε α) : Prop where
  inside : ∀ span ∈ (read memory).2, Inside memory node span
  agrees : checked memory = lifted read memory
  not_wrapped : checked.result memory ≠ .error .wrapped

theorem bounded_of_guarded {ε α : Type} {memory : Memory} {node : ℕ}
    {checked : TracedRead (Fault ε) α} {read : TracedRead ε α}
    (hguarded : Guarded (Inside memory node) memory checked read) :
    Bounded memory node checked read :=
  ⟨hguarded.within, hguarded.agrees, hguarded.result_ne_wrapped⟩

/-- At every node and on every table that are as long as their headers, the checks for USB, WLAN, display,
GPU, audio, video and UFS stay inside the node and the table, and nothing in their bounds wraps around. -/
theorem iort_checks_bounded (memory : Memory) (node : ℕ)
    (hnode : nodeSize ≤ memory.littleEndian 2 (node + 1))
    (htable : tableHeaderSize ≤ memory.littleEndian 4 4) :
    Bounded memory node
      (do refuse (.refused ()) foreignTable; ursQuirk.inputIdChecked node)
      (do refuse () foreignTable; ursQuirk.inputId node) ∧
    (∀ mismatch : Bool, Bounded memory node
      (do
        refuse (.refused ()) foreignTable
        refuse (.refused ()) (return mismatch)
        wlanQuirk.inputIdChecked node)
      (do
        refuse () foreignTable
        refuse () (return mismatch)
        wlanQuirk.inputId node)) ∧
    Bounded memory node (dpuMap.validateChecked node) (dpuMap.validate node) ∧
    (∀ gmu, Bounded memory node ((gpuMap gmu).validateChecked node) ((gpuMap gmu).validate node)) ∧
    Bounded memory node (audioMap.validateChecked node) (audioMap.validate node) ∧
    Bounded memory node venusValidateChecked venusValidate ∧
    (∀ span ∈ (iortTclAudioMatch node memory).2, Inside memory node span) ∧
    ∀ device, ∀ span ∈ (iortTclUfsMatch device node memory).2, Inside memory node span := by
  have : HasHeaders memory node := ⟨hnode, htable⟩
  refine ⟨?_, fun mismatch ↦ ?_, ?_, fun gmu ↦ ?_, ?_, ?_, inside_namedAs _, inside_iortTclUfsMatch⟩
  · exact bounded_of_guarded (.bind (.refuse guarded_foreignTable ()) fun _ _ ↦ guarded_inputId _)
  · refine bounded_of_guarded (.bind (.refuse guarded_foreignTable ()) fun _ _ ↦ ?_)
    exact .bind (.refuse (.pure _) ()) fun _ _ ↦ guarded_inputId _
  · have hcomponent := BoardMap.componentInside_of_pure fun _ ↦ (rfl : dpuMap.component _ = pure ())
    exact bounded_of_guarded (BoardMap.guarded_validate wellFormed_dpuMap hcomponent)
  · have hcomponent :=
      BoardMap.componentInside_of_pure fun _ ↦ (rfl : (gpuMap gmu).component _ = pure ())
    exact bounded_of_guarded (BoardMap.guarded_validate (wellFormed_gpuMap gmu) hcomponent)
  · exact bounded_of_guarded
      (BoardMap.guarded_validate wellFormed_audioMap BoardMap.componentInside_audioMap)
  · exact bounded_of_guarded guarded_venusValidate

/-- The display component of the board's table. -/
theorem iort_checks_bounded_display :
    nodeSize ≤ displayTable.toMemory.littleEndian 2 109 ∧
      tableHeaderSize ≤ displayTable.toMemory.littleEndian 4 4 ∧
      Bounded displayTable.toMemory 108 (dpuMap.validateChecked 108) (dpuMap.validate 108) :=
  ⟨by decide +kernel, by decide +kernel,
    (iort_checks_bounded displayTable.toMemory 108 (by decide +kernel) (by decide +kernel)).2.2.1⟩

/-- A table of a hundred octets that ends with a component of five. -/
def shortTable : Bytes := boardHeader 100 1 ++ List.replicate 47 0 ++ [1, 5, 0, 0, 0]

/-- The number of mappings of the short component is read behind the end of the table. -/
theorem not_inside_shortTable :
    shortTable.length = 100 ∧ shortTable.toMemory.littleEndian 4 4 = 100 ∧
      95 + shortTable.toMemory.littleEndian 2 96 = 100 ∧
      ⟨103, 4⟩ ∈ ((do refuse () foreignTable; ursQuirk.inputId 95 : TracedRead Unit ℕ)
        shortTable.toMemory).2 ∧
      ¬Inside shortTable.toMemory 95 ⟨103, 4⟩ := by
  have hnode : shortTable.toMemory.littleEndian 2 (95 + 1) = 5 := by decide +kernel
  have htable : shortTable.toMemory.littleEndian 4 4 = 100 := by decide +kernel
  refine ⟨by decide +kernel, htable, congrArg (95 + ·) hnode, by decide +kernel, ?_⟩
  rw [Inside, hnode, htable]
  decide

end TclB220G.Iort
