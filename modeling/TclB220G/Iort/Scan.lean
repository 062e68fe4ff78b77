import TclB220G.Iort.Configure

/-!
# The search for the node of a device

`iort_scan_node` walks over the nodes of the table and takes the first of the wanted type that a
callback accepts.  It is code of the kernel that the patches call and do not change.  The general
callback accepts a named component whose path is the full path of the device, letter for letter, or,
as the patches have it, leads to the same object of the ACPI namespace.

The UFS host is looked for with a callback of its own.  It accepts nothing but the spelling of the
board's table, so a table that spells the path in another way loses its mapping.
-/

namespace TclB220G.Iort

open Lib Lib.TracedRead Kernel Kernel.Errno

/-! ## The walk -/

variable (memory : Memory)

/-- A word of the table outside of any check. -/
def readWord (read : TracedRead Empty ℕ) : ℕ :=
  match read.result memory with
  | .ok value => value

/-- The walk from a node on, with the number of nodes that are left. -/
def scanFrom (memory : Memory) (type : ℕ) (callback : ℕ → Bool) : ℕ → ℕ → Option ℕ
  | 0, _ => none
  | count + 1, node =>
    if readWord memory tableLength ≤ node then none
    else if readWord memory (nodeType node) == type && callback node then some node
    else scanFrom memory type callback count (node + readWord memory (nodeLength node))

def nodeCount : TracedRead Empty ℕ := word 4 36

def nodeOffset : TracedRead Empty ℕ := word 4 40

def iortScanNode (type : ℕ) (callback : ℕ → Bool) : Option ℕ :=
  scanFrom memory type callback (readWord memory nodeCount) (readWord memory nodeOffset)

/-- The nodes from a node on. -/
def nodesFrom (memory : Memory) : ℕ → ℕ → List ℕ
  | 0, _ => []
  | count + 1, node =>
    if readWord memory tableLength ≤ node then []
    else node :: nodesFrom memory count (node + readWord memory (nodeLength node))

/-- The named components of the table, in order. -/
def namedComponents : List ℕ :=
  (nodesFrom memory (readWord memory nodeCount) (readWord memory nodeOffset)).filter fun node ↦
    readWord memory (nodeType node) == namedComponentType

theorem scanFrom_eq (memory : Memory) (type : ℕ) (callback : ℕ → Bool) (count node : ℕ) :
    scanFrom memory type callback count node = ((nodesFrom memory count node).filter fun node ↦
      readWord memory (nodeType node) == type).find? callback := by
  induction count generalizing node with
  | zero => rfl
  | succ count ih =>
    rw [scanFrom, nodesFrom]
    split
    · rfl
    · rw [ih, List.filter_cons]
      cases readWord memory (nodeType node) == type with
      | false => rfl
      | true =>
        rw [if_pos rfl, List.find?_cons, Bool.true_and]
        cases callback node with
        | false => rfl
        | true => rfl

theorem iortScanNode_eq (memory : Memory) (callback : ℕ → Bool) :
    iortScanNode memory namedComponentType callback = (namedComponents memory).find? callback :=
  scanFrom_eq memory _ callback _ _

/-- Two searches of a list agree on what the first one finds, exactly if the first element that it
accepts is the first one that the second accepts. -/
theorem find?_agrees_iff {α : Type*} (accepts other : α → Bool) (list : List α) :
    (∀ found, list.find? accepts = some found → list.find? other = some found) ↔
      ∀ before found after, list = before ++ found :: after →
        (∀ earlier ∈ before, accepts earlier = false) → accepts found = true →
          other found = true ∧ ∀ earlier ∈ before, other earlier = false := by
  constructor
  · intro hagrees before found after hlist hbefore haccepts
    have hother : list.find? other = some found := by
      apply hagrees
      rw [List.find?_eq_some_iff_append]
      exact ⟨haccepts, before, after, hlist, fun earlier h ↦ by rw [hbefore earlier h]; rfl⟩
    refine ⟨List.find?_some hother, ?_⟩
    rw [hlist, List.find?_append] at hother
    cases hfirst : before.find? other with
    | none =>
      intro earlier hearlier
      simpa using List.find?_eq_none.1 hfirst earlier hearlier
    | some first =>
      rw [hfirst] at hother
      have hrejects := hbefore first (List.mem_of_find?_eq_some hfirst)
      cases Option.some.inj hother
      rw [haccepts] at hrejects
      cases hrejects
  · intro hfirst found hfound
    obtain ⟨haccepts, before, after, hlist, hbefore⟩ := List.find?_eq_some_iff_append.1 hfound
    obtain ⟨hother, hearlier⟩ := hfirst before found after hlist
      (fun earlier h ↦ by simpa using hbefore earlier h) haccepts
    rw [List.find?_eq_some_iff_append]
    exact ⟨hother, before, after, hlist, fun earlier h ↦ by rw [hearlier earlier h]; rfl⟩

/-! ## The callbacks -/

/-- The ACPI namespace: the full path of an object, and the object that a zero-terminated path leads
to. -/
structure Namespace where
  acpiGetName : ℕ → Option Bytes
  acpiGetHandle : Memory → Option ℕ

/-- The part of `iort_match_node_callback` that is for named components.  The device stands for the
first of itself and its parents that has an ACPI object. -/
def iortMatchNodeCallback (acpi : Namespace) (memory : Memory) (ancestors : List Device)
    (device : Device) (node : ℕ) : Bool :=
  match (device :: ancestors).findSome? Device.companionOrSelf with
  | none => false
  | some adev =>
    match acpi.acpiGetName adev.handle with
    | none => false
    | some path =>
      HasOctets memory (deviceName node) (path ++ [0]) ||
        acpi.acpiGetHandle (fun index ↦ memory (deviceName node + index)) == some adev.handle

/-- The surroundings, with the table and the namespace themselves in place of what is known of
them. -/
def Environment.onTable (env : Environment) (acpi : Namespace) (memory : Memory)
    (ancestors : Device → List Device) : Environment :=
  { env with
    table := some memory
    scanNode := iortScanNode memory namedComponentType
    matchNode := fun device ↦ iortMatchNodeCallback acpi memory (ancestors device) device
    getHandle := fun path ↦ acpi.acpiGetHandle (literal path).toMemory }

/-! ## The UFS host -/

/-- An ACPI device of the UFS host.  If it has a name, the bus gave it one after its hardware ID. -/
structure IsUfsDevice (device : Device) (adev : AcpiDevice) : Prop where
  companion : device.companion = some adev
  companionOrSelf : device.companionOrSelf = some adev
  hid : adev.hid = "QCOM24A5"
  notPci : device.isPci = false
  name : ∀ name, device.name = some name → ∃ number, name = "QCOM24A5:" ++ number

/-- A component that is named `\_SB.UFS0` in just this spelling. -/
def namesUfs (node : ℕ) : Bool :=
  readWord memory (nodeType node) == namedComponentType &&
    (!decide (readWord memory (nodeLength node) <
      nodeSize + namedComponentSize + (literal "\\_SB.UFS0").length) &&
    HasOctets memory (deviceName node) (literal "\\_SB.UFS0"))

/-- The first component that the callback accepts is named `\_SB.UFS0`, and none before it is. -/
def FirstNamesUfs (callback : ℕ → Bool) : Prop :=
  ∀ before node after, namedComponents memory = before ++ node :: after →
    (∀ earlier ∈ before, callback earlier = false) → callback node = true →
      namesUfs memory node = true ∧ ∀ earlier ∈ before, namesUfs memory earlier = false

section

variable {device : Device} {adev : AcpiDevice} (hufs : IsUfsDevice device adev)

include hufs

theorem IsUfsDevice.not_isNamed (other property : String)
    (hother : other.toList.head? ≠ some 'Q') : device.isNamed other property = false := by
  cases hname : device.name with
  | none => simp [Device.isNamed, hname]
  | some name =>
    obtain ⟨number, hnumber⟩ := hufs.name name hname
    have hne : name ≠ other := by
      rintro rfl
      apply hother
      rw [hnumber, String.toList_append]
      rfl
    simp [Device.isNamed, hname, hne]

theorem IsUfsDevice.isDpu_eq_false : device.isDpu = false :=
  hufs.not_isNamed _ _ (by decide)

theorem IsUfsDevice.hasBoardMap_eq_false : device.hasBoardMap = false := by
  simp only [Device.hasBoardMap, Device.isVenus, Device.isAudio, Device.isGpu,
    hufs.isDpu_eq_false, Bool.or_eq_false_iff, and_true]
  exact ⟨⟨hufs.not_isNamed _ _ (by decide), hufs.not_isNamed _ _ (by decide)⟩,
    hufs.not_isNamed _ _ (by decide), hufs.not_isNamed _ _ (by decide)⟩

theorem yields_iortTclUfsMatch (hisUfs : device.isUfs = true) (memory : Memory) (node : ℕ) :
    Yields (iortTclUfsMatch device node) memory (namesUfs memory node) := by
  have hof : device.ofNode = false := by
    simp only [Device.isUfs, decide_eq_true_eq, Bool.not_eq_true'] at hisUfs
    exact hisUfs.1
  have hspelled : Yields (do return !(← differs (deviceName node) (literal "\\_SB.UFS0")) :
      TracedRead Empty Bool) memory (HasOctets memory (deviceName node) (literal "\\_SB.UFS0")) := by
    rw [← Bool.not_not (decide _)]
    exact (yields_differs _ _).bind (yields_pure _)
  have hlong : Yields (do return !(decide ((← nodeLength node) <
      nodeSize + namedComponentSize + (literal "\\_SB.UFS0").length)) : TracedRead Empty Bool) memory
      (!decide (readWord memory (nodeLength node) <
        nodeSize + namedComponentSize + (literal "\\_SB.UFS0").length)) :=
    (yields_word 2 _).bind (yields_pure _)
  have htype : Yields (do return (← nodeType node) == namedComponentType : TracedRead Empty Bool)
      memory (readWord memory (nodeType node) == namedComponentType) :=
    (yields_word 1 _).bind (yields_pure _)
  simp only [iortTclUfsMatch, hufs.companionOrSelf, hof, hufs.hid]
  exact (yields_pure _).andM (htype.andM ((yields_pure _).andM (hlong.andM hspelled)))

end

section

variable (env : Environment) (acpi : Namespace) (memory : Memory) (ancestors : Device → List Device)
  (device : Device) (adev : AcpiDevice) (hufs : IsUfsDevice device adev)

include hufs

/-- The callback that the host is looked for with. -/
theorem matcher_onTable :
    matcher (env.onTable acpi memory ancestors) device =
      if device.isUfs then namesUfs memory
      else iortMatchNodeCallback acpi memory (ancestors device) device := by
  have haudio : device.isAudio = false := hufs.not_isNamed _ _ (by decide)
  funext node
  unfold matcher
  rw [if_neg (Bool.eq_false_iff.1 haudio)]
  split
  · next hisUfs =>
    have hresult : (iortTclUfsMatch device node).result memory = .ok (namesUfs memory node) :=
      yields_iortTclUfsMatch hufs hisUfs memory node
    simp only [Environment.onTable, Option.map_some, hresult]
    cases namesUfs memory node with
    | false => rfl
    | true => rfl
  · rfl

/-- The host is configured through the node that the general callback selects, exactly if it is looked
for with this callback, or the first component that the callback accepts is the first one named
`\_SB.UFS0`. -/
theorem iortIommuConfigureId_ufs_agrees_iff :
    (∀ idIn dma, iortIommuConfigureId (env.onTable acpi memory ancestors) device idIn dma =
      match (env.onTable acpi memory ancestors).scanNode
          (matcher (env.onTable acpi memory ancestors) device) with
      | none => (some ENODEV, dma)
      | some node =>
        configureNamedComponent (env.onTable acpi memory ancestors) device node idIn dma) ∧
    ((∀ node, iortScanNode memory namedComponentType
          (iortMatchNodeCallback acpi memory (ancestors device) device) = some node →
        (env.onTable acpi memory ancestors).scanNode
          (matcher (env.onTable acpi memory ancestors) device) = some node) ↔
      device.isUfs = false ∨
        FirstNamesUfs memory (iortMatchNodeCallback acpi memory (ancestors device) device)) := by
  constructor
  · intro idIn dma
    exact iortIommuConfigureId_of_not_hasBoardMap _ device idIn dma hufs.notPci
      hufs.hasBoardMap_eq_false
  · rw [matcher_onTable env acpi memory ancestors device adev hufs]
    cases device.isUfs with
    | false => exact iff_of_true (fun _ h ↦ h) (.inl rfl)
    | true =>
      simp only [Environment.onTable, iortScanNode_eq, if_true, Bool.true_eq_false, false_or]
      exact find?_agrees_iff _ (namesUfs memory) (namedComponents memory)

end

/-- A table with an SMMU and a component of the given name. -/
def ufsTable (path : String) : Bytes :=
  boardHeader (128 + (nodeSize + namedComponentSize + (literal path).length)) 2 ++
    smmuNode 0x15000000 0x100000 smmuCorelinkMmu500 ++
    componentNode path 48 [⟨0x81030000, 0, 0xa0⟩]

/-- The namespace resolves both spellings to the host, and prints the longer one. -/
def ufsNamespace : Namespace where
  acpiGetName := fun handle ↦
    if handle = 4 then some ((literal "\\_SB_.UFS0").take 10) else none
  acpiGetHandle := fun text ↦
    if HasOctets text 0 (literal "\\_SB.UFS0") || HasOctets text 0 (literal "\\_SB_.UFS0") then some 4
    else none

/-- The host, with the DMA attribute that the firmware declares. -/
def ufsDevice (attr : DmaAttr) : Device where
  isPci := false
  ofNode := false
  name := some "QCOM24A5:00"
  hasProperty := fun _ ↦ false
  companion := some ⟨"QCOM24A5", 4, attr⟩
  companionOrSelf := some ⟨"QCOM24A5", 4, attr⟩

theorem isUfsDevice_ufsDevice (attr : DmaAttr) :
    IsUfsDevice (ufsDevice attr) ⟨"QCOM24A5", 4, attr⟩ :=
  ⟨rfl, rfl, rfl, rfl, fun _ h ↦ ⟨"00", (Option.some.inj h).symm⟩⟩

/-- A board whose table has a component of this name for the host. -/
def ufsBoard (path : String) : Environment :=
  wlanEnvironment.onTable ufsNamespace (ufsTable path).toMemory fun _ ↦ []

/-- With the full spelling, the general callback selects the component and the host is not configured
at all. -/
theorem iortIommuConfigureId_fullSpelling :
    iortScanNode (ufsTable "\\_SB_.UFS0").toMemory namedComponentType
        (iortMatchNodeCallback ufsNamespace (ufsTable "\\_SB_.UFS0").toMemory []
          (ufsDevice .coherent)) = some 108 ∧
      (ufsBoard "\\_SB_.UFS0").scanNode
        (matcher (ufsBoard "\\_SB_.UFS0") (ufsDevice .coherent)) = none ∧
      iortIommuConfigureId (ufsBoard "\\_SB_.UFS0") (ufsDevice .coherent) (some 0x81030000)
        unconfigured = (some ENODEV, unconfigured) := by
  decide +kernel

/-- With the spelling of the board, both select the component. -/
theorem iortIommuConfigureId_ufs_agrees_iff_board :
    FirstNamesUfs (ufsTable "\\_SB.UFS0").toMemory
      (iortMatchNodeCallback ufsNamespace (ufsTable "\\_SB.UFS0").toMemory []
        (ufsDevice .coherent)) := by
  have hagrees := (iortIommuConfigureId_ufs_agrees_iff wlanEnvironment ufsNamespace
    (ufsTable "\\_SB.UFS0").toMemory (fun _ ↦ []) (ufsDevice .coherent) _
    (isUfsDevice_ufsDevice .coherent)).2
  have hfound : (ufsBoard "\\_SB.UFS0").scanNode
      (matcher (ufsBoard "\\_SB.UFS0") (ufsDevice .coherent)) =
      iortScanNode (ufsTable "\\_SB.UFS0").toMemory namedComponentType
        (iortMatchNodeCallback ufsNamespace (ufsTable "\\_SB.UFS0").toMemory []
          (ufsDevice .coherent)) := by
    decide +kernel
  rcases hagrees.1 fun node h ↦ hfound.trans h with hother | hfirst
  · exact absurd hother (by decide)
  · exact hfirst

end TclB220G.Iort
