import TclB220G.Iort.Configure

/-!
# What the board maps accept

`iort_tcl_dpu_map`, `iort_tcl_gpu_map` and `iort_tcl_audio_map` walk the mappings of a component once
for every input ID that they translate.  Here the mappings are a list, and the walk is described by
the mappings of the list whose range covers the input.
-/

namespace TclB220G.Iort

open Lib Lib.TracedRead Kernel Kernel.Errno

/-! ## Mappings as a list -/

/-- A `struct acpi_iort_id_mapping`. -/
structure Mapping where
  input : ℕ
  count : ℕ
  output : ℕ
  reference : ℕ
  flags : ℕ
  deriving DecidableEq, Repr

/-- The input ID is in the range of the mapping.  Ranges are over the natural numbers and may pass
the largest 32-bit word. -/
def Mapping.Covers (mapping : Mapping) (input : ℕ) : Prop :=
  mapping.input ≤ input ∧ input ≤ mapping.input + mapping.count

instance (mapping : Mapping) (input : ℕ) : Decidable (mapping.Covers input) :=
  inferInstanceAs (Decidable (_ ∧ _))

/-- The flag `ACPI_IORT_ID_SINGLE_MAPPING`. -/
def Mapping.IsSingle (mapping : Mapping) : Prop := mapping.flags &&& 1 ≠ 0

instance (mapping : Mapping) : Decidable mapping.IsSingle := inferInstanceAs (Decidable (_ ≠ _))

def mappingAt (memory : Memory) (offset : ℕ) : Mapping where
  input := memory.littleEndian 4 offset
  count := memory.littleEndian 4 (offset + 4)
  output := memory.littleEndian 4 (offset + 8)
  reference := memory.littleEndian 4 (offset + 12)
  flags := memory.littleEndian 4 (offset + 16)

/-- The mappings in an array of the given length. -/
def mappingsFrom (memory : Memory) : ℕ → ℕ → List Mapping
  | 0, _ => []
  | count + 1, offset =>
    mappingAt memory offset :: mappingsFrom memory count (offset + idMappingSize)

/-- The mappings of a node. -/
def mappings (memory : Memory) (node : ℕ) : List Mapping :=
  mappingsFrom memory (memory.littleEndian 4 (node + 8)) (node + memory.littleEndian 4 (node + 12))

def covering (input : ℕ) (entries : List Mapping) : List Mapping :=
  entries.filter fun mapping ↦ mapping.Covers input

namespace BoardMap

/-- The one mapping that may cover a wanted input. -/
def expected (map : BoardMap) (wanted : Wanted) : Mapping :=
  ⟨wanted.input, wanted.count, wanted.output, map.reference, 0⟩

/-- No mapping is single, and every wanted input is covered by the expected mapping alone. -/
def Translates (map : BoardMap) (entries : List Mapping) : Prop :=
  (∀ mapping ∈ entries, ¬mapping.IsSingle) ∧
    ∀ wanted ∈ map.wanted, covering wanted.input entries = [map.expected wanted]

instance (map : BoardMap) (entries : List Mapping) : Decidable (map.Translates entries) :=
  inferInstanceAs (Decidable (_ ∧ _))

end BoardMap

/-! ## The loops -/

theorem sub32_of_le {first second : ℕ} (hle : second ≤ first) (hfirst : first < 2 ^ 32) :
    sub32 first second = first - second := by
  rw [sub32, Nat.sub_add_comm hle, Nat.add_mod_right, Nat.mod_eq_of_lt (by omega)]

/-- The two comparisons of 32-bit words skip a mapping that does not cover the input. -/
theorem skips_eq_not_covers (mapping : Mapping) {input : ℕ} (hinput : input < 2 ^ 32) :
    (decide (input < mapping.input) || decide (sub32 input mapping.input > mapping.count)) =
      !decide (mapping.Covers input) := by
  rw [Bool.eq_iff_iff]
  simp only [Bool.or_eq_true, Bool.not_eq_true', decide_eq_true_eq, decide_eq_false_iff_not]
  rw [Mapping.Covers]
  by_cases hbase : mapping.input ≤ input
  · rw [sub32_of_le hbase hinput]
    omega
  · exact iff_of_true (Or.inl (Nat.lt_of_not_le hbase)) fun hcovers ↦ hbase hcovers.1

variable {mapping : Mapping}

theorem covering_cons_of_covers {input : ℕ} (hcovers : mapping.Covers input)
    (entries : List Mapping) :
    covering input (mapping :: entries) = mapping :: covering input entries :=
  List.filter_cons_of_pos (decide_eq_true hcovers)

theorem covering_cons_of_not_covers {input : ℕ} (hcovers : ¬mapping.Covers input)
    (entries : List Mapping) :
    covering input (mapping :: entries) = covering input entries :=
  List.filter_cons_of_neg (by simpa using hcovers)

theorem eq_singleton_iff_forall_mem {entries : List Mapping} :
    entries = [mapping] ↔ (∀ entry ∈ entries, entry = mapping) ∧ entries.length = 1 := by
  rw [← List.replicate_one, List.eq_replicate_iff, and_comm]

namespace BoardMap

variable {memory : Memory}

variable (map : BoardMap)

/-- What the inner loop demands of a mapping that covers the wanted input. -/
theorem unexpected_eq_false_iff (wanted : Wanted) (mapping : Mapping) (found : ℕ) :
    (found + 1 != 1 || (mapping.flags != 0 || (mapping.input != wanted.input ||
        (mapping.count != wanted.count || (mapping.output != wanted.output ||
          mapping.reference != map.reference))))) = false ↔
      found = 0 ∧ mapping = map.expected wanted := by
  cases mapping
  simp only [expected, Mapping.mk.injEq, Bool.or_eq_false_iff, bne_eq_false_iff_eq]
  omega

/-- One turn of the inner loop. -/
theorem countMatches_succ_eq_ok {wanted : Wanted} (hinput : wanted.input < 2 ^ 32)
    (remaining offset found : ℕ) {total : ℕ} :
    (map.countMatches wanted (remaining + 1) offset found).result memory = .ok total ↔
      ¬(mappingAt memory offset).IsSingle ∧
        if (mappingAt memory offset).Covers wanted.input then
          (found = 0 ∧ mappingAt memory offset = map.expected wanted) ∧
            (map.countMatches wanted remaining (offset + idMappingSize) (found + 1)).result memory =
              .ok total
        else
          (map.countMatches wanted remaining (offset + idMappingSize) found).result memory =
            .ok total := by
  have hsingle : Yields (do return (← mappingFlags offset) &&& 1 != 0 : TracedRead Errno Bool)
      memory ((mappingAt memory offset).flags &&& 1 != 0) := rfl
  have hskips : Yields ((return wanted.input < (← inputBase offset)) <||>
      return sub32 wanted.input (← inputBase offset) > (← idCount offset) : TracedRead Errno Bool)
      memory !decide ((mappingAt memory offset).Covers wanted.input) := by
    rw [← skips_eq_not_covers _ hinput]
    exact Yields.orM rfl rfl
  have hunexpected : Yields ((return found + 1 != 1) <||>
        (return (← mappingFlags offset) != 0) <||>
        (return (← inputBase offset) != wanted.input) <||>
        (return (← idCount offset) != wanted.count) <||>
        (return (← outputBase offset) != wanted.output) <||>
        return (← outputReference offset) != map.reference : TracedRead Errno Bool) memory _ :=
    .orM rfl (.orM rfl (.orM rfl (.orM rfl (.orM rfl rfl))))
  rw [countMatches, hsingle.refuse_bind_eq_ok, bne_eq_false_iff_eq, Mapping.IsSingle, not_not,
    hskips.bind_eq_ok]
  refine and_congr_right fun _ ↦ ?_
  by_cases hcovers : (mappingAt memory offset).Covers wanted.input
  · simp only [hcovers, decide_true, Bool.not_true, Bool.false_eq_true, if_false, if_true]
    exact (hunexpected.refuse_bind_eq_ok EINVAL _).trans
      (and_congr_left' (map.unexpected_eq_false_iff wanted (mappingAt memory offset) found))
  · simp only [hcovers, decide_false, Bool.not_false, if_true, if_false]

/-- The inner loop succeeds if no mapping is single, the mappings that cover the input are as
expected, and there is at most one of them in all. -/
theorem countMatches_eq_ok {wanted : Wanted} (hinput : wanted.input < 2 ^ 32)
    (remaining offset found : ℕ) {total : ℕ} :
    (map.countMatches wanted remaining offset found).result memory = .ok total ↔
      (∀ mapping ∈ mappingsFrom memory remaining offset, ¬mapping.IsSingle) ∧
        (∀ mapping ∈ covering wanted.input (mappingsFrom memory remaining offset),
          mapping = map.expected wanted) ∧
        total = found + (covering wanted.input (mappingsFrom memory remaining offset)).length ∧
        (covering wanted.input (mappingsFrom memory remaining offset) = [] ∨ total ≤ 1) := by
  induction remaining generalizing offset found with
  | zero =>
    rw [countMatches, show (pure found : TracedRead Errno ℕ).result memory = .ok found from rfl]
    simp [mappingsFrom, covering, eq_comm]
  | succ remaining ih =>
    rw [countMatches_succ_eq_ok map hinput, mappingsFrom, List.forall_mem_cons]
    simp only [and_assoc]
    refine and_congr_right fun _ ↦ ?_
    by_cases hcovers : (mappingAt memory offset).Covers wanted.input
    · rw [if_pos hcovers, covering_cons_of_covers hcovers, ih, List.forall_mem_cons,
        List.length_cons, ← List.length_eq_zero_iff]
      grind
    · rw [if_neg hcovers, covering_cons_of_not_covers hcovers, ih]

/-- The outer loop. -/
theorem checkWanted_eq_ok (count offset : ℕ) (wanteds : List Wanted)
    (hinputs : ∀ wanted ∈ wanteds, wanted.input < 2 ^ 32) :
    (map.checkWanted count offset wanteds).result memory = .ok () ↔
      ∀ wanted ∈ wanteds,
        (∀ mapping ∈ mappingsFrom memory count offset, ¬mapping.IsSingle) ∧
          covering wanted.input (mappingsFrom memory count offset) = [map.expected wanted] := by
  induction wanteds with
  | nil => exact iff_of_true rfl (List.forall_mem_nil _)
  | cons wanted wanteds ih =>
    rw [List.forall_mem_cons] at hinputs ⊢
    have hfound (found : ℕ) : Yields (return found != 1 : TracedRead Errno Bool) memory
        (found != 1) := rfl
    simp only [checkWanted, bind_eq_ok, (hfound _).refuse_bind_eq_ok, ih hinputs.2,
      map.countMatches_eq_ok hinputs.1, eq_singleton_iff_forall_mem,
      bne_eq_false_iff_eq]
    grind

end BoardMap

/-! ## The other checks -/

/-- The table is the one of the board's firmware. -/
def HasIdentity (memory : Memory) : Prop :=
  HasOctets memory 10 ("QCOM  ".toList.map fun char ↦ UInt8.ofNat char.toNat) ∧
    HasOctets memory 16 ("QCOMEDK2".toList.map fun char ↦ UInt8.ofNat char.toNat) ∧
    memory.littleEndian 4 24 = 0x7180

instance (memory : Memory) : Decidable (HasIdentity memory) := inferInstanceAs (Decidable (_ ∧ _))

theorem refuse_foreignTable_eq_ok {memory : Memory} (error : Errno) {final : Unit} :
    (refuse error foreignTable).result memory = .ok final ↔ HasIdentity memory := by
  have hforeign : Yields (foreignTable : TracedRead Errno Bool) memory _ :=
    .orM (yields_differs 10 _) (.orM (yields_differs 16 _) rfl)
  rw [hforeign.refuse_eq_ok]
  simp only [Bool.or_eq_false_iff, Bool.not_eq_false', decide_eq_true_eq, bne_eq_false_iff_eq]
  rfl

theorem refuse_differs_eq_ok {memory : Memory} (error : Errno) (offset : ℕ) (octets : Bytes)
    {final : Unit} :
    (refuse error (differs offset octets)).result memory = .ok final ↔
      HasOctets memory offset octets := by
  rw [(yields_differs offset octets).refuse_eq_ok, Bool.not_eq_false', decide_eq_true_eq]

variable {map : BoardMap}

namespace BoardMap

variable {memory : Memory}

/-- The node is the named component of the map, with its mappings after the name and inside the
node. -/
def Names (map : BoardMap) (memory : Memory) (node : ℕ) : Prop :=
  memory.littleEndian 1 node = namedComponentType ∧
    nodeSize + namedComponentSize + (literal map.path).length ≤ memory.littleEndian 2 (node + 1) ∧
    nodeSize + namedComponentSize + (literal map.path).length ≤ memory.littleEndian 4 (node + 12) ∧
    memory.littleEndian 4 (node + 12) + memory.littleEndian 4 (node + 8) * idMappingSize ≤
      memory.littleEndian 2 (node + 1) ∧
    HasOctets memory (deviceName node) (literal map.path)

instance (map : BoardMap) (memory : Memory) (node : ℕ) : Decidable (map.Names memory node) :=
  inferInstanceAs (Decidable (_ ∧ _))

/-- The name is checked after the layout. -/
theorem names_iff (map : BoardMap) (node : ℕ) :
    map.Names memory node ↔
      (memory.littleEndian 1 node = namedComponentType ∧
        nodeSize + namedComponentSize + (literal map.path).length ≤
          memory.littleEndian 2 (node + 1) ∧
        nodeSize + namedComponentSize + (literal map.path).length ≤
          memory.littleEndian 4 (node + 12) ∧
        memory.littleEndian 4 (node + 12) + memory.littleEndian 4 (node + 8) * idMappingSize ≤
          memory.littleEndian 2 (node + 1)) ∧
      HasOctets memory (deviceName node) (literal map.path) := by
  simp only [Names, and_assoc]

/-- The SMMU that the map leads to stands at its place, inside the table. -/
def HasSmmu (map : BoardMap) (memory : Memory) : Prop :=
  map.reference + parentMin ≤ memory.littleEndian 4 4 ∧
    memory.littleEndian 1 map.reference = smmuType ∧
    parentMin ≤ memory.littleEndian 2 (map.reference + 1) ∧
    map.reference + memory.littleEndian 2 (map.reference + 1) ≤ memory.littleEndian 4 4 ∧
    memory.littleEndian 8 (map.reference + nodeSize) = map.base ∧
    memory.littleEndian 8 (map.reference + nodeSize + 8) = map.span ∧
    memory.littleEndian 4 (map.reference + nodeSize + 16) = map.model

instance (map : BoardMap) (memory : Memory) : Decidable (map.HasSmmu memory) :=
  inferInstanceAs (Decidable (_ ∧ _))

/-- What a map needs so that its loops can be described: there is something to translate, and inputs
are 32-bit words. -/
structure WellFormed (map : BoardMap) : Prop where
  wanted_ne_nil : map.wanted ≠ []
  input_lt : ∀ wanted ∈ map.wanted, wanted.input < 2 ^ 32

theorem checkWanted_eq_ok_iff_translates (hmap : map.WellFormed) (count offset : ℕ) :
    (map.checkWanted count offset map.wanted).result memory = .ok () ↔
      map.Translates (mappingsFrom memory count offset) := by
  obtain ⟨first, hfirst⟩ := List.exists_mem_of_ne_nil _ hmap.wanted_ne_nil
  rw [map.checkWanted_eq_ok _ _ _ hmap.input_lt]
  constructor
  · exact fun hall ↦ ⟨(hall first hfirst).1, fun wanted hwanted ↦ (hall wanted hwanted).2⟩
  · exact fun htranslates wanted hwanted ↦ ⟨htranslates.1, htranslates.2 wanted hwanted⟩

/-- What is checked of the SMMU. -/
theorem smmu_eq_ok_iff (map : BoardMap) (error : Errno) :
    (do
      refuse error (smmuOutside map.reference)
      refuse error (notSmmu map.reference)
      refuse error (foreignSmmu map.reference map.base map.span map.model) :
        TracedRead Errno Unit).result memory = .ok () ↔ map.HasSmmu memory := by
  have houtside : Yields (smmuOutside map.reference : TracedRead Errno Bool) memory _ :=
    .orM rfl rfl
  have hnot : Yields (notSmmu map.reference : TracedRead Errno Bool) memory _ :=
    .orM rfl (.orM rfl rfl)
  have hforeign : Yields (foreignSmmu map.reference map.base map.span map.model :
      TracedRead Errno Bool) memory _ :=
    .orM rfl (.orM rfl rfl)
  have htable := memory.littleEndian_lt 4 4
  rw [houtside.refuse_bind_eq_ok, hnot.refuse_bind_eq_ok, hforeign.refuse_eq_ok]
  simp only [HasSmmu, Bool.or_eq_false_iff, bne_eq_false_iff_eq, decide_eq_false_iff_not, not_lt,
    and_assoc]
  by_cases hmin : parentMin ≤ memory.littleEndian 4 4
  · rw [sub32_of_le hmin htable]
    by_cases hreference : map.reference ≤ memory.littleEndian 4 4
    · rw [sub32_of_le hreference htable]
      omega
    · omega
  · omega

/-- What is checked of the node before its name: the mappings begin after the name and end inside the
node. -/
theorem layout_eq_false_iff {kind length start count nameEnd : ℕ} (hlength : length < 2 ^ 32) :
    (kind != namedComponentType || (decide (length < nameEnd) || (decide (start < nameEnd) ||
        (decide (start > length) || decide (count > sub32 length start / idMappingSize))))) = false ↔
      kind = namedComponentType ∧ nameEnd ≤ length ∧ nameEnd ≤ start ∧
        start + count * idMappingSize ≤ length := by
  simp only [Bool.or_eq_false_iff, bne_eq_false_iff_eq, decide_eq_false_iff_not, not_lt]
  by_cases hstart : start ≤ length
  · rw [sub32_of_le hstart hlength, Nat.le_div_iff_mul_le (by decide)]
    omega
  · omega

/-- The checks of the table accept exactly the board's table with the expected component, mappings
and SMMU. -/
theorem validate_eq_ok (hmap : map.WellFormed) (node : ℕ) :
    (map.validate node).result memory = .ok () ↔
      HasIdentity memory ∧ map.Names memory node ∧
        (map.component node).result memory = .ok () ∧
        map.Translates (mappings memory node) ∧ map.HasSmmu memory := by
  have hlength : memory.littleEndian 2 (node + 1) < 2 ^ 32 :=
    (memory.littleEndian_lt 2 (node + 1)).trans (by decide)
  have hstart : Yields (mappingOffset node : TracedRead Errno ℕ) memory _ := yields_word _ _
  have hcount : Yields (mappingCount node : TracedRead Errno ℕ) memory _ := yields_word _ _
  have hlayout : Yields ((return (← nodeType node) != namedComponentType) <||>
      (return (← nodeLength node) < nodeSize + namedComponentSize + (literal map.path).length) <||>
      (return (← mappingOffset node) < nodeSize + namedComponentSize + (literal map.path).length) <||>
      (return (← mappingOffset node) > (← nodeLength node)) <||>
      return (← mappingCount node) >
        sub32 (← nodeLength node) (← mappingOffset node) / idMappingSize : TracedRead Errno Bool)
      memory _ :=
    .orM rfl (.orM rfl (.orM rfl (.orM rfl rfl)))
  rw [validate, bind_eq_ok, Unique.exists_iff, refuse_foreignTable_eq_ok]
  refine and_congr_right fun _ ↦ ?_
  rw [hlayout.refuse_bind_eq_ok, layout_eq_false_iff hlength, bind_eq_ok, Unique.exists_iff,
    bind_eq_ok, Unique.exists_iff, refuse_differs_eq_ok, hstart.bind_eq_ok, hcount.bind_eq_ok,
    bind_eq_ok, Unique.exists_iff, smmu_eq_ok_iff, PUnit.default_eq_unit,
    checkWanted_eq_ok_iff_translates hmap]
  rw [names_iff]
  exact (and_congr_right fun _ ↦ and_left_comm).trans and_assoc.symm

end BoardMap

/-! ## The translations -/

/-- The device after the translations, whether they succeed or not. -/
def translated (env : Environment) (parent : ℕ) (ids : List ℕ) (dma : Dma) : Dma :=
  ids.foldl (fun dma id ↦ (env.iortIommuXlate parent id dma).2) dma

/-- Every translation succeeds in the state that the ones before it leave. -/
def AllSucceed (env : Environment) (parent : ℕ) (ids : List ℕ) (dma : Dma) : Prop :=
  ∀ done id, done ++ [id] <+: ids →
    (env.iortIommuXlate parent id (translated env parent done dma)).1 = none

variable (env : Environment)

theorem allSucceed_cons (parent id : ℕ) (ids : List ℕ) (dma : Dma) :
    AllSucceed env parent (id :: ids) dma ↔
      (env.iortIommuXlate parent id dma).1 = none ∧
        AllSucceed env parent ids (env.iortIommuXlate parent id dma).2 := by
  constructor
  · intro hall
    refine ⟨hall [] id (by simp), fun done next hdone ↦ hall (id :: done) next ?_⟩
    exact (List.cons_prefix_cons).2 ⟨rfl, hdone⟩
  · rintro ⟨hfirst, hrest⟩ done next hdone
    cases done with
    | nil =>
      obtain ⟨rfl, -⟩ := List.cons_prefix_cons.1 hdone
      exact hfirst
    | cons head done =>
      obtain ⟨rfl, htail⟩ := List.cons_prefix_cons.1 hdone
      exact hrest done next htail

theorem xlateOrFree_eq_none (parent : ℕ) (ids : List ℕ) (dma : Dma) :
    (xlateOrFree env parent ids dma).1 = none ↔ AllSucceed env parent ids dma := by
  induction ids generalizing dma with
  | nil => exact iff_of_true rfl fun done id hdone ↦ by simp at hdone
  | cons id ids ih =>
    rw [allSucceed_cons, xlateOrFree]
    rcases env.iortIommuXlate parent id dma with ⟨_ | errno, after⟩
    · simpa using ih after
    · simp

theorem xlateOrFree_of_allSucceed (parent : ℕ) (ids : List ℕ) (dma : Dma)
    (hall : AllSucceed env parent ids dma) :
    xlateOrFree env parent ids dma = (none, translated env parent ids dma) := by
  induction ids generalizing dma with
  | nil => rfl
  | cons id ids ih =>
    rw [allSucceed_cons] at hall
    rw [xlateOrFree, translated, List.foldl_cons]
    revert hall
    rcases env.iortIommuXlate parent id dma with ⟨_ | errno, after⟩
    · exact fun hall ↦ ih after hall.2
    · exact fun hall ↦ absurd hall.1 (Option.some_ne_none errno)

/-- Translations that succeed append their IDs in order. -/
theorem fwspec_translated (hxlate : env.XlateAppends) (parent : ℕ) (ids : List ℕ) (dma : Dma)
    (hall : AllSucceed env parent ids dma) (hids : ids ≠ []) :
    (translated env parent ids dma).fwspec = some (dma.fwspec.getD [] ++ ids) := by
  induction ids generalizing dma with
  | nil => exact absurd rfl hids
  | cons id ids ih =>
    rw [allSucceed_cons] at hall
    have hfirst : (env.iortIommuXlate parent id dma).2.fwspec = some (dma.fwspec.getD [] ++ [id]) :=
      hxlate.succeeds dma.xlates parent id dma.fwspec hall.1
    rw [translated, List.foldl_cons]
    by_cases hrest : ids = []
    · rw [hrest]
      exact hfirst
    · rw [← translated, ih _ hall.2 hrest, hfirst]
      simp

/-! ## The maps as a whole -/

namespace BoardMap

/-- The stream IDs that a map adds to the device. -/
def outputs (map : BoardMap) : List ℕ := map.wanted.map Wanted.output

/-- The board, its table and the node are as the map expects them.  What the map demands of the
component beyond its name and mappings is a parameter. -/
def Admits (map : BoardMap) (component : Memory → ℕ → Prop) (env : Environment) (node : ℕ) : Prop :=
  env.isBoard = true ∧ ∃ memory, env.table = some memory ∧ HasIdentity memory ∧
    map.Names memory node ∧ component memory node ∧ map.Translates (mappings memory node) ∧
    map.HasSmmu memory

/-- What is to be shown of the function of a map: when it succeeds, which IDs the device has then,
and that the device is unchanged until the first translation. -/
structure Specifies (map : BoardMap) (component : Memory → ℕ → Prop)
    (run : Environment → ℕ → Dma → Option Errno × Dma) : Prop where
  succeeds_iff : ∀ env node dma, (run env node dma).1 = none ↔
    map.Admits component env node ∧ dma.fwspec = none ∧
      AllSucceed env map.reference map.outputs dma
  fwspec_eq : ∀ env node dma, env.XlateAppends → (run env node dma).1 = none →
    (run env node dma).2.fwspec = some map.outputs
  unchanged : ∀ env node dma, run env node dma = xlateOrFree env map.reference map.outputs dma ∨
    ∃ errno, run env node dma = (some errno, dma)

theorem check_eq_ok (hmap : map.WellFormed) (env : Environment) (node : ℕ) :
    map.check env node = .ok () ↔
      map.Admits (fun memory node ↦ (map.component node).result memory = .ok ()) env node := by
  unfold check Admits
  by_cases hboard : env.isBoard = true
  · cases htable : env.table with
    | none => simp [hboard]
    | some memory => simp [hboard, validate_eq_ok hmap]
  · simp [hboard]

theorem configure_of_check {env : Environment} {node : ℕ} (hcheck : map.check env node = .ok ())
    {dma : Dma} (hfwspec : dma.fwspec = none) :
    map.configure env node dma = xlateOrFree env map.reference map.outputs dma := by
  simp [configure, hcheck, hfwspec, outputs]

/-- A map either refuses and changes nothing or makes its translations. -/
theorem configure_cases (map : BoardMap) (env : Environment) (node : ℕ) (dma : Dma) :
    (map.check env node = .ok () ∧ dma.fwspec = none) ∨
      ∃ errno, map.configure env node dma = (some errno, dma) := by
  unfold configure
  cases map.check env node with
  | error errno => exact Or.inr ⟨errno, rfl⟩
  | ok =>
    cases hfwspec : dma.fwspec with
    | none => exact Or.inl ⟨rfl, rfl⟩
    | some ids => exact Or.inr ⟨EBUSY, rfl⟩

theorem configure_eq_none_iff (hmap : map.WellFormed) (env : Environment) (node : ℕ) (dma : Dma) :
    (map.configure env node dma).1 = none ↔
      map.Admits (fun memory node ↦ (map.component node).result memory = .ok ()) env node ∧
        dma.fwspec = none ∧ AllSucceed env map.reference map.outputs dma := by
  rw [← check_eq_ok hmap]
  by_cases hready : map.check env node = .ok () ∧ dma.fwspec = none
  · rw [configure_of_check hready.1 hready.2, xlateOrFree_eq_none]
    simp [hready]
  · obtain ⟨errno, hrefused⟩ := (map.configure_cases env node dma).resolve_left hready
    rw [hrefused]
    exact iff_of_false (Option.some_ne_none errno) fun hall ↦ hready ⟨hall.1, hall.2.1⟩

/-- The maps do what is specified of them. -/
theorem specifies_configure (hmap : map.WellFormed) {component : Memory → ℕ → Prop}
    (hcomponent : ∀ memory node, (map.component node).result memory = .ok () ↔
      component memory node) :
    map.Specifies component map.configure := by
  have hadmits : (fun memory node ↦ (map.component node).result memory = .ok ()) = component := by
    funext memory node
    exact propext (hcomponent memory node)
  have hsucceeds := configure_eq_none_iff hmap
  rw [hadmits] at hsucceeds
  refine ⟨hsucceeds, fun env node dma hxlate hstatus ↦ ?_, fun env node dma ↦ ?_⟩
  · have hall := ((hsucceeds env node dma).1 hstatus).2.2
    have hids : map.outputs ≠ [] := fun h ↦ hmap.wanted_ne_nil (List.map_eq_nil_iff.1 h)
    rcases map.configure_cases env node dma with ⟨hcheck, hfwspec⟩ | ⟨errno, hrefused⟩
    · rw [configure_of_check hcheck hfwspec, xlateOrFree_of_allSucceed _ _ _ _ hall,
        fwspec_translated _ hxlate _ _ _ hall hids, hfwspec]
      rfl
    · rw [hrefused] at hstatus
      cases hstatus
  · exact (map.configure_cases env node dma).imp_left fun hready ↦
      configure_of_check hready.1 hready.2

end BoardMap

/-- What the audio map demands of its component beyond name and mappings: neither flags nor memory
properties, and an address limit of 36 bits. -/
def AudioComponent (memory : Memory) (node : ℕ) : Prop :=
  memory.littleEndian 4 (node + nodeSize) = 0 ∧ memory.littleEndian 8 (node + nodeSize + 4) = 0 ∧
    memory.littleEndian 1 (node + nodeSize + 12) = 36

theorem component_audioMap_eq_ok (memory : Memory) (node : ℕ) :
    (audioMap.component node).result memory = .ok () ↔ AudioComponent memory node := by
  have hunfit : Yields ((return (← nodeFlags node) != 0) <||>
      (return (← memoryProperties node) != 0) <||>
      return (← memoryAddressLimit node) != 36 : TracedRead Errno Bool) memory _ :=
    .orM rfl (.orM rfl rfl)
  refine (hunfit.refuse_eq_ok EINVAL).trans ?_
  simp only [Bool.or_eq_false_iff, bne_eq_false_iff_eq]
  rfl

theorem wellFormed_dpuMap : dpuMap.WellFormed := ⟨by decide, by decide⟩

theorem wellFormed_gpuMap (gmu : Bool) : (gpuMap gmu).WellFormed := by
  cases gmu with
  | false => exact ⟨by decide, by decide⟩
  | true => exact ⟨by decide, by decide⟩

theorem wellFormed_audioMap : audioMap.WellFormed := ⟨by decide, by decide⟩

/-- The display and GPU maps demand nothing more of their component; the audio map demands what
`AudioComponent` says. -/
theorem iortTclMaps_specified :
    dpuMap.Specifies (fun _ _ ↦ True) iortTclDpuMap ∧
      (∀ device : Device, (gpuMap (device.name = some "tcl-sc7180-gmu")).Specifies (fun _ _ ↦ True)
        fun env ↦ iortTclGpuMap env device) ∧
      audioMap.Specifies AudioComponent iortTclAudioMap := by
  refine ⟨?_, fun device ↦ ?_, ?_⟩
  · exact BoardMap.specifies_configure wellFormed_dpuMap fun _ _ ↦ iff_of_true rfl trivial
  · exact BoardMap.specifies_configure (wellFormed_gpuMap _) fun _ _ ↦ iff_of_true rfl trivial
  · exact BoardMap.specifies_configure wellFormed_audioMap component_audioMap_eq_ok

/-! ## Tables -/

/-- The board with a table.  All translations succeed. -/
def tableEnvironment (table : Bytes) : Environment :=
  { wlanEnvironment with
    table := some table.toMemory
    xlate := fun _ _ id fwspec ↦ (none, some (fwspec.getD [] ++ [id])) }

/-- The Apps SMMU and an audio component whose address limit is zero. -/
def audioTable : Bytes :=
  boardHeader 172 2 ++ smmuNode 0x15000000 0x100000 smmuCorelinkMmu500 ++
    componentNode audioMap.path 48 audioMap.wanted

theorem admits_audioTable :
    audioMap.Admits (fun _ _ ↦ True) (tableEnvironment audioTable) 108 :=
  ⟨by decide, audioTable.toMemory, rfl, by decide +kernel⟩

/-- Name, mappings and SMMU of the audio component do not suffice. -/
theorem not_specifies_audioMap : ¬audioMap.Specifies (fun _ _ ↦ True) iortTclAudioMap := by
  intro hspecifies
  have hsucceeds := (hspecifies.succeeds_iff (tableEnvironment audioTable) 108 unconfigured).2
    ⟨admits_audioTable, rfl, fun _ _ _ ↦ rfl⟩
  have hrefused : (iortTclAudioMap (tableEnvironment audioTable) 108 unconfigured).1 =
      some EINVAL := by
    decide +kernel
  rw [hrefused] at hsucceeds
  cases hsucceeds

/-- With the limit in its place the same table is accepted. -/
example : iortTclAudioMap (tableEnvironment (audioTable.set 136 36)) 108 unconfigured =
    (none, ⟨some [0x1001], 1, none, []⟩) := by
  decide +kernel

example : iortTclDpuMap (tableEnvironment displayTable) 108 unconfigured =
    (none, ⟨some [0x800, 0x802, 0x801], 3, none, []⟩) := by
  decide +kernel

end TclB220G.Iort
