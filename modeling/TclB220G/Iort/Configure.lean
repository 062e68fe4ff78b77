import TclB220G.Iort.Table

/-!
# IOMMU configuration of a device from the IORT table

`iort_iommu_configure_id` finds the table node of a device and translates its stream IDs one by one.
Each translation appends to the device's fwspec.  The board's display, GPU, audio and video masters
have maps of their own, which free the fwspec when a translation fails.  All other devices, among
them USB and WLAN, keep whatever was translated before the failure.
-/

namespace TclB220G.Iort

open Lib Lib.TracedRead Kernel Kernel.Errno

/-- The values of `enum dev_dma_attr`. -/
inductive DmaAttr
  | notSupported | nonCoherent | coherent
  deriving DecidableEq, Repr

/-- What is used of `struct acpi_device`. -/
structure AcpiDevice where
  hid : String
  handle : ℕ
  dmaAttr : DmaAttr

/-- What is used of `struct device`.  A device may have an ACPI companion; a device on the ACPI bus
has none and stands for itself. -/
structure Device where
  isPci : Bool
  ofNode : Bool
  name : Option String
  hasProperty : String → Bool
  companion : Option AcpiDevice
  companionOrSelf : Option AcpiDevice

/-- A configuration that leads past the IOMMU drivers of this kernel. -/
inductive Detour
  | rimt | viot | dummyOps
  deriving DecidableEq, Repr

/-- What configuration changes about a device: the IDs of its fwspec, its DMA coherence, and the
detours taken.  Translations are counted so that each may turn out differently. -/
structure Dma where
  fwspec : Option (List ℕ)
  xlates : ℕ
  coherent : Option Bool
  detours : List Detour
  deriving DecidableEq, Repr

/-- The table, the board's identity and the parts of the kernel that the patches call or are called
by.  A translation is given the number of translations before it, the SMMU node, the stream ID and
the fwspec, and yields an error, if any, and the fwspec it leaves. -/
structure Environment where
  table : Option Memory
  sysVendor : Option String
  productName : Option String
  scanNode : (ℕ → Bool) → Option ℕ
  matchNode : Device → ℕ → Bool
  getHandle : String → Option ℕ
  xlate : ℕ → ℕ → ℕ → Option (List ℕ) → Option Errno × Option (List ℕ)
  nodeMapId : ℕ → ℕ → Option (ℕ × ℕ)
  nodeMapPlatformIds : ℕ → List (ℕ × ℕ)
  pciConfigure : Device → Option ℕ → Option (List ℕ) → Option Errno × Option (List ℕ)

namespace Environment

/-- The vendor and the product match by `dmi_match`. -/
def isBoard (env : Environment) : Bool :=
  env.sysVendor = some "TCL Communication Ltd." ∧ env.productName = some "B220G"

def iortIommuXlate (env : Environment) (parent id : ℕ) (dma : Dma) : Option Errno × Dma :=
  ((env.xlate dma.xlates parent id dma.fwspec).1,
    { dma with
      fwspec := (env.xlate dma.xlates parent id dma.fwspec).2
      xlates := dma.xlates + 1 })

end Environment

namespace Dma

def iommuFwspecFree (dma : Dma) : Dma := { dma with fwspec := none }

def detour (dma : Dma) (taken : Detour) : Dma := { dma with detours := taken :: dma.detours }

/-- The state after a configuration that yields a status and a fwspec. -/
def afterwards (dma : Dma) (outcome : Option Errno × Option (List ℕ)) : Option Errno × Dma :=
  (outcome.1, { dma with fwspec := outcome.2 })

end Dma

/-! ## The board's own maps -/

/-- The last loop of a board map. -/
def xlateOrFree (env : Environment) (parent : ℕ) : List ℕ → Dma → Option Errno × Dma
  | [], dma => (none, dma)
  | id :: ids, dma =>
    match env.iortIommuXlate parent id dma with
    | (none, dma) => xlateOrFree env parent ids dma
    | (some errno, dma) => (some errno, dma.iommuFwspecFree)

/-- The table passes the checks of a board map at the node. -/
def BoardMap.check (map : BoardMap) (env : Environment) (node : ℕ) : Except Errno Unit :=
  if env.isBoard then
    match env.table with
    | none => .error ENODEV
    | some memory => (map.validate node).result memory
  else .error ENODEV

/-- The whole of a board map. -/
def BoardMap.configure (map : BoardMap) (env : Environment) (node : ℕ) (dma : Dma) :
    Option Errno × Dma :=
  match map.check env node with
  | .error errno => (some errno, dma)
  | .ok () =>
    if dma.fwspec.isSome then (some EBUSY, dma)
    else xlateOrFree env map.reference (map.wanted.map Wanted.output) dma

def iortTclDpuMap : Environment → ℕ → Dma → Option Errno × Dma := dpuMap.configure

def iortTclGpuMap (env : Environment) (device : Device) : ℕ → Dma → Option Errno × Dma :=
  (gpuMap (device.name = some "tcl-sc7180-gmu")).configure env

def iortTclAudioMap : Environment → ℕ → Dma → Option Errno × Dma := audioMap.configure

/-- The stream match of the video master, with its mask in the high half. -/
def venusStream : ℕ := 0x0c00 ||| (0x60 <<< 16)

/-- The table passes the checks of `iort_tcl_venus_map`. -/
def venusCheck (env : Environment) : Except Errno Unit :=
  if env.isBoard then
    match env.table with
    | none => .error ENODEV
    | some memory => venusValidate.result memory
  else .error ENODEV

def iortTclVenusMap (env : Environment) (dma : Dma) : Option Errno × Dma :=
  match venusCheck env with
  | .error errno => (some errno, dma)
  | .ok () =>
    if dma.fwspec.isSome then (some EINVAL, dma)
    else xlateOrFree env 48 [venusStream] dma

/-! ## USB and WLAN -/

/-- The companion of a device without an OF node, on a table of the board's firmware. -/
def boardCompanion (env : Environment) (device : Device) : Option (AcpiDevice × Memory) :=
  match env.table, device.companion with
  | some memory, some adev => if device.ofNode then none else some (adev, memory)
  | _, _ => none

def iortTclUrsInputId (env : Environment) (device : Device) (node : ℕ) : Option ℕ :=
  match boardCompanion env device with
  | some (adev, memory) =>
    if adev.hid = "QCOM0897" then
      (do refuse () foreignTable; ursQuirk.inputId node : TracedRead Unit ℕ).result memory |>.toOption
    else none
  | none => none

def iortTclWlanInputId (env : Environment) (device : Device) (node : ℕ) : Option ℕ :=
  match boardCompanion env device with
  | some (adev, memory) =>
    (do
      refuse () foreignTable
      refuse () (return env.getHandle wlanQuirk.path != some adev.handle)
      wlanQuirk.inputId node : TracedRead Unit ℕ).result memory |>.toOption
  | none => none

def iortNcIommuMapId (env : Environment) (node id : ℕ) (dma : Dma) : Option Errno × Dma :=
  match env.nodeMapId node id with
  | none => (some ENODEV, dma)
  | some (parent, stream) => env.iortIommuXlate parent stream dma

/-- The loop of `iort_nc_iommu_map`, with the value of `err` so far. -/
def ncMapLoop (env : Environment) : Option Errno → List (ℕ × ℕ) → Dma → Option Errno × Dma
  | status, [], dma => (status, dma)
  | _, (parent, stream) :: rest, dma =>
    match env.iortIommuXlate parent stream dma with
    | (none, dma) => ncMapLoop env none rest dma
    | (some errno, dma) => (some errno, dma)

def iortNcIommuMap (env : Environment) (node : ℕ) (dma : Dma) : Option Errno × Dma :=
  ncMapLoop env (some ENODEV) (env.nodeMapPlatformIds node) dma

/-! ## The configuration of a device -/

namespace Device

def isNamed (device : Device) (name property : String) : Bool :=
  !device.ofNode ∧ device.name = some name ∧ device.hasProperty property

/-- The condition of `acpi_tcl_dpu_strict_dma`, which `iort_iommu_configure_id` repeats. -/
def isDpu (device : Device) : Bool := device.isNamed "tcl-sc7180-dpu" "qcom,tcl-acpi-display"

def isGpu (device : Device) : Bool :=
  device.isNamed "tcl-sc7180-adreno" "qcom,tcl-acpi-gpu" ||
    device.isNamed "tcl-sc7180-gmu" "qcom,tcl-acpi-gpu"

/-- The condition of `iort_tcl_audio_device`. -/
def isAudio (device : Device) : Bool := device.isNamed "tcl-q6asm-dai" "qcom,tcl-acpi-audio"

/-- The condition of `iort_tcl_venus_device`. -/
def isVenus (device : Device) : Bool := device.isNamed "tcl-sc7180-venus" "qcom,tcl-acpi-video"

/-- The device is matched as the board's UFS host. -/
def isUfs (device : Device) : Bool :=
  !device.ofNode ∧ device.name.isSome ∧ device.companion.map AcpiDevice.hid = some "QCOM24A5"

end Device

def iortTclUfsMatch (device : Device) (node : ℕ) : TracedRead Empty Bool :=
  match device.companionOrSelf with
  | none => return false
  | some adev =>
    (return !device.ofNode) <&&>
    (return (← nodeType node) == namedComponentType) <&&>
    (return adev.hid == "QCOM24A5") <&&>
    (return !(decide ((← nodeLength node) <
      nodeSize + namedComponentSize + (literal "\\_SB.UFS0").length))) <&&>
    return !(← differs (deviceName node) (literal "\\_SB.UFS0"))

/-- The match that the node of a device is looked for with. -/
def matcher (env : Environment) (device : Device) (node : ℕ) : Bool :=
  if device.isAudio then
    (env.table.map fun memory ↦ (iortTclAudioMatch node).result memory) matches some (.ok true)
  else if device.isUfs then
    (env.table.map fun memory ↦ (iortTclUfsMatch device node).result memory) matches some (.ok true)
  else env.matchNode device node

/-- Translation through the node of a device that no board map is for. -/
def configureNamedComponent (env : Environment) (device : Device) (node : ℕ) (idIn : Option ℕ)
    (dma : Dma) : Option Errno × Dma :=
  let idIn := idIn.or (iortTclUrsInputId env device node)
  match idIn with
  | some id => iortNcIommuMapId env node id dma
  | none =>
    match iortTclWlanInputId env device node with
    | some input =>
      match iortNcIommuMapId env node input dma with
      | (none, dma) => iortNcIommuMapId env node ((input + 1) % 2 ^ 32) dma
      | failed => failed
    | none => iortNcIommuMap env node dma

/-- The guard `id_in ? -EINVAL : map` of the board maps. -/
def withoutId (idIn : Option ℕ) (map : Dma → Option Errno × Dma) (dma : Dma) :
    Option Errno × Dma :=
  if idIn.isSome then (some EINVAL, dma) else map dma

def iortIommuConfigureId (env : Environment) (device : Device) (idIn : Option ℕ) (dma : Dma) :
    Option Errno × Dma :=
  if device.isPci then dma.afterwards (env.pciConfigure device idIn dma.fwspec)
  else if device.isVenus then withoutId idIn (iortTclVenusMap env) dma
  else
    match env.scanNode (matcher env device) with
    | none => (some ENODEV, dma)
    | some node =>
      if device.isAudio then withoutId idIn (iortTclAudioMap env node) dma
      else if device.isDpu then withoutId idIn (iortTclDpuMap env node) dma
      else if device.isGpu then withoutId idIn (iortTclGpuMap env device node) dma
      else configureNamedComponent env device node idIn dma

/-! ## What configuration leaves alone -/

/-- A configuration changes the fwspec of a device and nothing else. -/
def Frames (configure : Dma → Option Errno × Dma) : Prop :=
  ∀ dma, (configure dma).2.detours = dma.detours ∧ (configure dma).2.coherent = dma.coherent

variable (env : Environment)

theorem frames_xlateOrFree (parent : ℕ) (ids : List ℕ) :
    Frames (xlateOrFree env parent ids) := by
  induction ids with
  | nil => exact fun _ ↦ ⟨rfl, rfl⟩
  | cons id ids ih =>
    intro dma
    unfold xlateOrFree Environment.iortIommuXlate
    cases (env.xlate dma.xlates parent id dma.fwspec).1 with
    | none => exact ih _
    | some errno => exact ⟨rfl, rfl⟩

/-- The shape that all maps of the board have: a check of the table, and then the translations unless
the device has a fwspec. -/
def translateChecked (env : Environment) (check : Except Errno Unit) (busy : Errno) (parent : ℕ)
    (ids : List ℕ) (dma : Dma) : Option Errno × Dma :=
  match check with
  | .error errno => (some errno, dma)
  | .ok () => if dma.fwspec.isSome then (some busy, dma) else xlateOrFree env parent ids dma

variable (map : BoardMap)

theorem BoardMap.configure_eq (env : Environment) (node : ℕ) :
    map.configure env node = translateChecked env (map.check env node) EBUSY map.reference
      (map.wanted.map Wanted.output) :=
  rfl

theorem iortTclVenusMap_eq :
    iortTclVenusMap env = translateChecked env (venusCheck env) EINVAL 48 [venusStream] :=
  rfl

theorem frames_translateChecked (check : Except Errno Unit) (busy : Errno) (parent : ℕ)
    (ids : List ℕ) : Frames (translateChecked env check busy parent ids) := by
  intro dma
  unfold translateChecked
  cases check with
  | error errno => exact ⟨rfl, rfl⟩
  | ok =>
    dsimp only
    split
    · exact ⟨rfl, rfl⟩
    · exact frames_xlateOrFree env parent ids dma

theorem BoardMap.frames_configure (env : Environment) (node : ℕ) :
    Frames (map.configure env node) := by
  rw [map.configure_eq]
  exact frames_translateChecked env _ _ _ _

theorem frames_iortTclVenusMap : Frames (iortTclVenusMap env) := by
  rw [iortTclVenusMap_eq]
  exact frames_translateChecked env _ _ _ _

theorem frames_withoutId (idIn : Option ℕ) (map : Dma → Option Errno × Dma) (hmap : Frames map) :
    Frames (withoutId idIn map) := by
  intro dma
  unfold withoutId
  split
  · exact ⟨rfl, rfl⟩
  · exact hmap dma

theorem frames_iortNcIommuMapId (node id : ℕ) :
    Frames (iortNcIommuMapId env node id) := by
  intro dma
  unfold iortNcIommuMapId
  cases env.nodeMapId node id with
  | none => exact ⟨rfl, rfl⟩
  | some target => exact ⟨rfl, rfl⟩

theorem frames_ncMapLoop (status : Option Errno) (targets : List (ℕ × ℕ)) :
    Frames (ncMapLoop env status targets) := by
  induction targets generalizing status with
  | nil => exact fun _ ↦ ⟨rfl, rfl⟩
  | cons target targets ih =>
    intro dma
    unfold ncMapLoop Environment.iortIommuXlate
    cases (env.xlate dma.xlates target.1 target.2 dma.fwspec).1 with
    | none => exact ih none _
    | some errno => exact ⟨rfl, rfl⟩

variable (device : Device)

theorem frames_configureNamedComponent (node : ℕ) (idIn : Option ℕ) :
    Frames (configureNamedComponent env device node idIn) := by
  intro dma
  unfold configureNamedComponent
  dsimp only
  cases idIn.or (iortTclUrsInputId env device node) with
  | some id => exact frames_iortNcIommuMapId env node id dma
  | none =>
    cases iortTclWlanInputId env device node with
    | none => exact frames_ncMapLoop env _ _ dma
    | some input =>
      have hfirst := frames_iortNcIommuMapId env node input dma
      dsimp only
      generalize iortNcIommuMapId env node input dma = outcome at hfirst ⊢
      rcases outcome with ⟨_ | errno, after⟩
      · have hsecond := frames_iortNcIommuMapId env node ((input + 1) % 2 ^ 32) after
        exact ⟨hsecond.1.trans hfirst.1, hsecond.2.trans hfirst.2⟩
      · exact hfirst

theorem frames_iortIommuConfigureId (idIn : Option ℕ) :
    Frames (iortIommuConfigureId env device idIn) := by
  intro dma
  unfold iortIommuConfigureId
  split
  · exact ⟨rfl, rfl⟩
  · split
    · exact frames_withoutId idIn _ (frames_iortTclVenusMap env) dma
    · cases env.scanNode (matcher env device) with
      | none => exact ⟨rfl, rfl⟩
      | some node =>
        dsimp only
        split
        · exact frames_withoutId idIn _ (audioMap.frames_configure env node) dma
        · split
          · exact frames_withoutId idIn _ (dpuMap.frames_configure env node) dma
          · split
            · exact frames_withoutId idIn _ (BoardMap.frames_configure _ env node) dma
            · exact frames_configureNamedComponent env device node idIn dma

/-! ## Partly translated devices -/

/-- What is assumed of the IOMMU drivers: a translation that succeeds appends its ID, and one that
fails leaves the fwspec as it was. -/
structure Environment.XlateAppends (env : Environment) : Prop where
  succeeds : ∀ count parent id fwspec, (env.xlate count parent id fwspec).1 = none →
    (env.xlate count parent id fwspec).2 = some (fwspec.getD [] ++ [id])
  fails : ∀ count parent id fwspec, (env.xlate count parent id fwspec).1 ≠ none →
    (env.xlate count parent id fwspec).2 = fwspec

/-- One of the board maps is for the device. -/
def Device.hasBoardMap (device : Device) : Bool :=
  device.isVenus || device.isAudio || device.isDpu || device.isGpu

/-- The translations that a device without a board map asks for, in order.  An entry is empty where
the node maps the input ID nowhere. -/
def translations (env : Environment) (device : Device) (node : ℕ) (idIn : Option ℕ) :
    List (Option (ℕ × ℕ)) :=
  match idIn.or (iortTclUrsInputId env device node) with
  | some id => [env.nodeMapId node id]
  | none =>
    match iortTclWlanInputId env device node with
    | some input => [env.nodeMapId node input, env.nodeMapId node ((input + 1) % 2 ^ 32)]
    | none => (env.nodeMapPlatformIds node).map some

/-- Translation until the first failure. -/
def translate (env : Environment) : List (Option (ℕ × ℕ)) → Dma → Option Errno × Dma
  | [], dma => (none, dma)
  | none :: _, dma => (some ENODEV, dma)
  | some (parent, stream) :: rest, dma =>
    match env.iortIommuXlate parent stream dma with
    | (none, dma) => translate env rest dma
    | (some errno, dma) => (some errno, dma)

/-- How many translations succeed before the first that fails. -/
def succeeding (env : Environment) : List (Option (ℕ × ℕ)) → Dma → ℕ
  | [], _ => 0
  | none :: _, _ => 0
  | some (parent, stream) :: rest, dma =>
    match env.iortIommuXlate parent stream dma with
    | (none, dma) => succeeding env rest dma + 1
    | (some _, _) => 0

/-- A device without a board map has a translation that fails after an earlier one succeeded. -/
def PartlyTranslates (env : Environment) (device : Device) (idIn : Option ℕ) (dma : Dma) : Prop :=
  device.hasBoardMap = false ∧ ∃ node, env.scanNode (matcher env device) = some node ∧
    0 < succeeding env (translations env device node idIn) dma ∧
    succeeding env (translations env device node idIn) dma <
      (translations env device node idIn).length

theorem iortNcIommuMapId_eq (node id : ℕ) (dma : Dma) :
    iortNcIommuMapId env node id dma = translate env [env.nodeMapId node id] dma := by
  unfold iortNcIommuMapId
  cases env.nodeMapId node id with
  | none => rfl
  | some target =>
    obtain ⟨parent, stream⟩ := target
    dsimp only [translate]
    rcases env.iortIommuXlate parent stream dma with ⟨_ | errno, after⟩ <;> rfl

theorem translate_append (first second : List (Option (ℕ × ℕ))) (dma : Dma) :
    translate env (first ++ second) dma =
      match translate env first dma with
      | (none, dma) => translate env second dma
      | (some errno, dma) => (some errno, dma) := by
  induction first generalizing dma with
  | nil => rfl
  | cons target first ih =>
    cases target with
    | none => rfl
    | some target =>
      obtain ⟨parent, stream⟩ := target
      rw [List.cons_append]
      dsimp only [translate]
      rcases env.iortIommuXlate parent stream dma with ⟨_ | errno, after⟩
      · exact ih after
      · rfl

theorem ncMapLoop_eq (status : Option Errno) (targets : List (ℕ × ℕ)) (dma : Dma) :
    ncMapLoop env status targets dma =
      if targets = [] then (status, dma) else translate env (targets.map some) dma := by
  induction targets generalizing status dma with
  | nil => rfl
  | cons target targets ih =>
    obtain ⟨parent, stream⟩ := target
    rw [if_neg (List.cons_ne_nil _ _), List.map_cons]
    dsimp only [ncMapLoop, translate]
    rcases env.iortIommuXlate parent stream dma with ⟨_ | errno, after⟩
    · dsimp only
      rw [ih]
      split
      · next hnil => rw [hnil]; rfl
      · rfl
    · rfl

/-- A device without a board map makes its translations in order and keeps what they leave. -/
theorem configureNamedComponent_eq (node : ℕ) (idIn : Option ℕ) (dma : Dma) :
    configureNamedComponent env device node idIn dma =
      if translations env device node idIn = [] then (some ENODEV, dma)
      else translate env (translations env device node idIn) dma := by
  unfold configureNamedComponent translations
  dsimp only
  cases idIn.or (iortTclUrsInputId env device node) with
  | some id => exact iortNcIommuMapId_eq env node id dma
  | none =>
    cases iortTclWlanInputId env device node with
    | some input =>
      dsimp only
      rw [if_neg (List.cons_ne_nil _ _), ← List.singleton_append, translate_append,
        ← iortNcIommuMapId_eq]
      rcases iortNcIommuMapId env node input dma with ⟨_ | errno, after⟩
      · exact iortNcIommuMapId_eq env node _ after
      · rfl
    | none =>
      dsimp only
      rw [iortNcIommuMap, ncMapLoop_eq]
      simp only [List.map_eq_nil_iff]

theorem translate_status (targets : List (Option (ℕ × ℕ))) (dma : Dma) :
    (translate env targets dma).1 = none ↔ succeeding env targets dma = targets.length := by
  induction targets generalizing dma with
  | nil => exact iff_of_true rfl rfl
  | cons target targets ih =>
    cases target with
    | none => simp [translate, succeeding]
    | some target =>
      obtain ⟨parent, stream⟩ := target
      dsimp only [translate, succeeding]
      rcases env.iortIommuXlate parent stream dma with ⟨_ | errno, after⟩
      · dsimp only
        rw [ih, List.length_cons, Nat.add_right_cancel_iff]
      · simp

theorem succeeding_le (targets : List (Option (ℕ × ℕ))) (dma : Dma) :
    succeeding env targets dma ≤ targets.length := by
  induction targets generalizing dma with
  | nil => exact Nat.le_refl 0
  | cons target targets ih =>
    cases target with
    | none => exact Nat.zero_le _
    | some target =>
      obtain ⟨parent, stream⟩ := target
      dsimp only [succeeding]
      rcases env.iortIommuXlate parent stream dma with ⟨_ | errno, after⟩
      · exact Nat.succ_le_succ (ih after)
      · exact Nat.zero_le _

theorem translate_fwspec (hxlate : env.XlateAppends) (targets : List (Option (ℕ × ℕ))) (dma : Dma) :
    (translate env targets dma).2.fwspec = none ↔
      dma.fwspec = none ∧ succeeding env targets dma = 0 := by
  induction targets generalizing dma with
  | nil => simp [translate, succeeding]
  | cons target targets ih =>
    cases target with
    | none => simp [translate, succeeding]
    | some target =>
      obtain ⟨parent, stream⟩ := target
      have hsucceeds := hxlate.succeeds dma.xlates parent stream dma.fwspec
      have hfails := hxlate.fails dma.xlates parent stream dma.fwspec
      dsimp only [translate, succeeding, Environment.iortIommuXlate]
      cases hstatus : (env.xlate dma.xlates parent stream dma.fwspec).1 with
      | none =>
        dsimp only
        rw [ih]
        simp [hsucceeds hstatus]
      | some errno =>
        rw [hstatus] at hfails
        simp [hfails]

/-- A configuration that fails leaves a device without fwspec as it was. -/
def Clean (configure : Dma → Option Errno × Dma) : Prop :=
  ∀ dma, dma.fwspec = none → (configure dma).1 ≠ none → (configure dma).2.fwspec = none

theorem xlateOrFree_fwspec (parent : ℕ) (ids : List ℕ) (dma : Dma)
    (hstatus : (xlateOrFree env parent ids dma).1 ≠ none) :
    (xlateOrFree env parent ids dma).2.fwspec = none := by
  induction ids generalizing dma with
  | nil => exact absurd rfl hstatus
  | cons id ids ih =>
    revert hstatus
    unfold xlateOrFree
    rcases env.iortIommuXlate parent id dma with ⟨_ | errno, after⟩
    · exact ih after
    · exact fun _ ↦ rfl

theorem clean_translateChecked (check : Except Errno Unit) (busy : Errno) (parent : ℕ)
    (ids : List ℕ) : Clean (translateChecked env check busy parent ids) := by
  intro dma hfwspec hstatus
  unfold translateChecked at hstatus ⊢
  cases check with
  | error errno => exact hfwspec
  | ok =>
    simp only [hfwspec, Option.isSome_none, Bool.false_eq_true, if_false] at hstatus ⊢
    exact xlateOrFree_fwspec env parent ids dma hstatus

theorem BoardMap.clean_configure (env : Environment) (node : ℕ) :
    Clean (map.configure env node) := by
  rw [map.configure_eq]
  exact clean_translateChecked env _ _ _ _

theorem clean_iortTclVenusMap : Clean (iortTclVenusMap env) := by
  rw [iortTclVenusMap_eq]
  exact clean_translateChecked env _ _ _ _

theorem clean_withoutId (idIn : Option ℕ) (map : Dma → Option Errno × Dma) (hmap : Clean map) :
    Clean (withoutId idIn map) := by
  intro dma hfwspec hstatus
  unfold withoutId at hstatus ⊢
  split
  · exact hfwspec
  · next hid =>
    rw [if_neg hid] at hstatus
    exact hmap dma hfwspec hstatus

/-- A device with a board map is never left partly translated. -/
theorem clean_of_hasBoardMap (idIn : Option ℕ) (hpci : device.isPci = false)
    (hmap : device.hasBoardMap = true) :
    Clean (iortIommuConfigureId env device idIn) := by
  intro dma hfwspec
  unfold iortIommuConfigureId
  rw [if_neg (Bool.eq_false_iff.1 hpci)]
  split
  · exact clean_withoutId idIn _ (clean_iortTclVenusMap env) dma hfwspec
  · next hvenus =>
    cases env.scanNode (matcher env device) with
    | none => exact fun _ ↦ hfwspec
    | some node =>
      dsimp only
      split
      · exact clean_withoutId idIn _ (audioMap.clean_configure env node) dma hfwspec
      · next haudio =>
        split
        · exact clean_withoutId idIn _ (dpuMap.clean_configure env node) dma hfwspec
        · next hdpu =>
          split
          · exact clean_withoutId idIn _ (BoardMap.clean_configure _ env node) dma hfwspec
          · next hgpu => simp [Device.hasBoardMap, hvenus, haudio, hdpu, hgpu] at hmap

/-- Any other device makes the translations of its node. -/
theorem iortIommuConfigureId_of_not_hasBoardMap (idIn : Option ℕ) (dma : Dma)
    (hpci : device.isPci = false) (hmap : device.hasBoardMap = false) :
    iortIommuConfigureId env device idIn dma =
      match env.scanNode (matcher env device) with
      | none => (some ENODEV, dma)
      | some node => configureNamedComponent env device node idIn dma := by
  simp only [Device.hasBoardMap, Bool.or_eq_false_iff] at hmap
  obtain ⟨⟨⟨hvenus, haudio⟩, hdpu⟩, hgpu⟩ := hmap
  simp only [iortIommuConfigureId, hpci, hvenus, haudio, hdpu, hgpu, Bool.false_eq_true, if_false]

/-- A failing configuration leaves no fwspec unless the device has no board map and a translation
fails after an earlier one of the same call succeeded. -/
theorem iortIommuConfigureId_clean_iff (env : Environment) (hxlate : env.XlateAppends)
    (device : Device) (hpci : device.isPci = false) (idIn : Option ℕ) (dma : Dma)
    (hfwspec : dma.fwspec = none) :
    ((iortIommuConfigureId env device idIn dma).1 ≠ none →
        (iortIommuConfigureId env device idIn dma).2.fwspec = none) ↔
      ¬PartlyTranslates env device idIn dma := by
  cases hmap : device.hasBoardMap with
  | true =>
    apply iff_of_true
    · exact clean_of_hasBoardMap env device idIn hpci hmap dma hfwspec
    · exact fun h ↦ Bool.noConfusion (hmap.symm.trans h.1)
  | false =>
    rw [iortIommuConfigureId_of_not_hasBoardMap env device idIn dma hpci hmap]
    cases hnode : env.scanNode (matcher env device) with
    | none =>
      apply iff_of_true
      · exact fun _ ↦ hfwspec
      · intro h
        obtain ⟨-, node, hscan, -⟩ := h
        rw [hnode] at hscan
        cases hscan
    | some node =>
      have hpartly : PartlyTranslates env device idIn dma ↔
          0 < succeeding env (translations env device node idIn) dma ∧
            succeeding env (translations env device node idIn) dma <
              (translations env device node idIn).length := by
        simp [PartlyTranslates, hmap, hnode]
      dsimp only
      rw [hpartly, configureNamedComponent_eq]
      split
      · next hnil =>
        rw [hnil]
        exact iff_of_true (fun _ ↦ hfwspec) fun h ↦ Nat.not_lt_zero _ h.2
      · have hle := succeeding_le env (translations env device node idIn) dma
        rw [Ne, translate_status, translate_fwspec env hxlate, and_iff_right hfwspec]
        omega

/-! ## A WLAN device whose second translation fails -/

open Bytes (ofWord)

/-- The header of the board's table, of the given length and number of nodes. -/
def boardHeader (length count : ℕ) : Bytes :=
  [0x49, 0x4f, 0x52, 0x54] ++ ofWord 4 length ++ [0, 0] ++
    [0x51, 0x43, 0x4f, 0x4d, 0x20, 0x20] ++ [0x51, 0x43, 0x4f, 0x4d, 0x45, 0x44, 0x4b, 0x32] ++
    ofWord 4 0x7180 ++ ofWord 4 0 ++ ofWord 4 0 ++ ofWord 4 count ++ ofWord 4 48 ++ ofWord 4 0

/-- An SMMU node without mappings. -/
def smmuNode (base span model : ℕ) : Bytes :=
  [3] ++ ofWord 2 parentMin ++ [0] ++ ofWord 4 0 ++ ofWord 4 0 ++ ofWord 4 0 ++
    ofWord 8 base ++ ofWord 8 span ++ ofWord 4 model ++ List.replicate 24 0

/-- A named component with mappings to the node at the offset. -/
def componentNode (path : String) (reference : ℕ) (mappings : List Wanted) : Bytes :=
  let nameEnd := nodeSize + namedComponentSize + (literal path).length
  [1] ++ ofWord 2 (nameEnd + mappings.length * idMappingSize) ++ [0] ++ ofWord 4 0 ++
    ofWord 4 mappings.length ++ ofWord 4 nameEnd ++ ofWord 4 0 ++ ofWord 8 0 ++ [0] ++ literal path ++
    mappings.flatMap fun mapping ↦
      ofWord 4 mapping.input ++ ofWord 4 mapping.count ++ ofWord 4 mapping.output ++
        ofWord 4 reference ++ ofWord 4 0

/-- The Apps SMMU and the WLAN component. -/
def wlanTable : Bytes :=
  boardHeader 172 2 ++ smmuNode 0x15000000 0x100000 smmuCorelinkMmu500 ++
    componentNode wlanQuirk.path 48 [⟨wlanQuirk.input, wlanQuirk.count, wlanQuirk.output⟩]

/-- The Apps SMMU and the display component. -/
def displayTable : Bytes :=
  boardHeader 207 2 ++ smmuNode 0x15000000 0x100000 smmuCorelinkMmu500 ++
    componentNode dpuMap.path 48 dpuMap.wanted

/-- The board with the table of the WLAN component.  The first translation succeeds and every later one is out of
memory. -/
def wlanEnvironment : Environment where
  table := some wlanTable.toMemory
  sysVendor := some "TCL Communication Ltd."
  productName := some "B220G"
  scanNode := fun _ ↦ some 108
  matchNode := fun _ node ↦ node = 108
  getHandle := fun path ↦ if path = "\\_SB.AMSS.QWLN" then some 5 else none
  xlate := fun count _ id fwspec ↦
    if count = 0 then (none, some (fwspec.getD [] ++ [id])) else (some ENOMEM, fwspec)
  nodeMapId := fun _ id ↦
    if 0x11030000 ≤ id ∧ id ≤ 0x11030001 then some (48, 0xc0 + (id - 0x11030000)) else none
  nodeMapPlatformIds := fun _ ↦ []
  pciConfigure := fun _ _ fwspec ↦ (some ENODEV, fwspec)

def wlanDevice : Device where
  isPci := false
  ofNode := false
  name := some "QCOM24B2:00"
  hasProperty := fun _ ↦ false
  companion := some ⟨"QCOM24B2", 5, .nonCoherent⟩
  companionOrSelf := some ⟨"QCOM24B2", 5, .nonCoherent⟩

/-- A device that nothing has been configured for. -/
def unconfigured : Dma := ⟨none, 0, none, []⟩

theorem xlateAppends_wlanEnvironment : wlanEnvironment.XlateAppends := by
  constructor
  · intro count parent id fwspec hstatus
    by_cases hcount : count = 0
    · simp [wlanEnvironment, hcount]
    · simp [wlanEnvironment, hcount] at hstatus
  · intro count parent id fwspec hstatus
    by_cases hcount : count = 0
    · simp [wlanEnvironment, hcount] at hstatus
    · simp [wlanEnvironment, hcount]

theorem configure_wlanDevice :
    iortIommuConfigureId wlanEnvironment wlanDevice none unconfigured =
      (some ENOMEM, ⟨some [0xc0], 2, none, []⟩) := by
  decide +kernel

/-- The WLAN device is configured without success and keeps the first of its two stream IDs. -/
theorem iortIommuConfigureId_wlanDevice :
    wlanEnvironment.XlateAppends ∧ wlanDevice.isPci = false ∧ unconfigured.fwspec = none ∧
      ¬((iortIommuConfigureId wlanEnvironment wlanDevice none unconfigured).1 ≠ none →
        (iortIommuConfigureId wlanEnvironment wlanDevice none unconfigured).2.fwspec = none) := by
  refine ⟨xlateAppends_wlanEnvironment, rfl, rfl, ?_⟩
  rw [configure_wlanDevice]
  simp

theorem iortIommuConfigureId_clean_iff_wlanDevice :
    wlanEnvironment.XlateAppends ∧ wlanDevice.isPci = false ∧ unconfigured.fwspec = none ∧
      PartlyTranslates wlanEnvironment wlanDevice none unconfigured := by
  refine ⟨xlateAppends_wlanEnvironment, rfl, rfl, ?_⟩
  have hiff := iortIommuConfigureId_clean_iff wlanEnvironment xlateAppends_wlanEnvironment
    wlanDevice rfl none unconfigured rfl
  rw [configure_wlanDevice] at hiff
  by_contra hnot
  exact absurd (hiff.2 hnot) (by simp)

end TclB220G.Iort
