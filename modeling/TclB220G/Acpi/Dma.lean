import TclB220G.Iort.Configure

/-!
# DMA configuration of ACPI devices

`acpi_dma_configure_id` asks IORT, RIMT and VIOT in turn for the IOMMU of a device and then sets its
DMA coherence.  It ignores every error but a deferral.  The board's display engine is the exception:
it is configured by IORT alone, its stream IDs are compared with the expected ones on every path, and
any error is returned.

The GPU and video masters of the board have strict maps too, but no exception here.  A map that
rejects the firmware makes the fallbacks run, and in the end success is reported without a stream.
-/

namespace TclB220G.Acpi

open Kernel Kernel.Errno Iort

/-- The parts of the kernel around the configuration: the other firmware tables, configuration from
OF, the IOMMU domain of the device (`true` for a paging domain) and its default domain. -/
structure DmaEnvironment extends Environment where
  rimtConfigure : Device → Option ℕ → Option (List ℕ) → Option Errno × Option (List ℕ)
  viotConfigure : Device → Option (List ℕ) → Option Errno × Option (List ℕ)
  ofDmaConfigure : Dma → Option Errno × Dma
  iommuDomain : Option Bool
  useDefaultDomain : Option Errno

def acpiTclDpuStrictDma (device : Device) : Bool := device.isDpu

/-- An error other than a deferral. -/
def failsForGood (status : Option Errno) : Bool := status ≠ none ∧ status ≠ some EPROBE_DEFER

/-- The IDs that the display engine must have. -/
def dpuStreams : List ℕ := [0x800, 0x802, 0x801]

section

variable (env : DmaEnvironment) (device : Device)

/-- The call of `rimt_iommu_configure_id`, where what came before calls for it. -/
def tryRimt (idIn : Option ℕ) (outcome : Option Errno × Dma) : Option Errno × Dma :=
  if !acpiTclDpuStrictDma device && failsForGood outcome.1 then
    (outcome.2.detour .rimt).afterwards (env.rimtConfigure device idIn outcome.2.fwspec)
  else outcome

/-- The call of `viot_iommu_configure`, where what came before calls for it. -/
def tryViot (outcome : Option Errno × Dma) : Option Errno × Dma :=
  if !acpiTclDpuStrictDma device && failsForGood outcome.1 then
    (outcome.2.detour .viot).afterwards (env.viotConfigure device outcome.2.fwspec)
  else outcome

/-- The `validate:` part of `acpi_iommu_configure_id`. -/
def validateDpu (idIn : Option ℕ) (outcome : Option Errno × Dma) : Option Errno × Dma :=
  if outcome.1 = none ∧ acpiTclDpuStrictDma device = true ∧
      (idIn.isSome = true ∨ outcome.2.fwspec ≠ some dpuStreams) then (some EINVAL, outcome.2)
  else outcome

def acpiIommuConfigureId (idIn : Option ℕ) (dma : Dma) : Option Errno × Dma :=
  validateDpu device idIn <|
    if dma.fwspec.isSome then (none, dma)
    else tryViot env device <| tryRimt env device idIn <|
      iortIommuConfigureId env.toEnvironment device idIn dma

def acpiDmaConfigureId (attr : DmaAttr) (idIn : Option ℕ) (dma : Dma) : Option Errno × Dma :=
  if attr = .notSupported then
    if acpiTclDpuStrictDma device then (some ENODEV, dma) else (none, dma.detour .dummyOps)
  else
    let outcome := acpiIommuConfigureId env device idIn dma
    if outcome.1 = some EPROBE_DEFER ∨ (outcome.1 ≠ none ∧ acpiTclDpuStrictDma device = true) then
      outcome
    else (none, { outcome.2 with coherent := some (attr = .coherent) })

/-! ## The display engine -/

/-- Something that happens to a device: a call of `acpi_dma_configure_id`, or any other code that
leaves the device with some fwspec. -/
inductive DmaEvent
  | configure (attr : DmaAttr) (idIn : Option ℕ)
  | foreign (fwspec : Option (List ℕ))

def DmaEvent.apply (dma : Dma) : DmaEvent → Dma
  | .configure attr idIn => (acpiDmaConfigureId env device attr idIn dma).2
  | .foreign fwspec => { dma with fwspec }

variable {device}

theorem acpiIommuConfigureId_dpu (hdpu : device.isDpu = true) (idIn : Option ℕ) (dma : Dma) :
    (acpiIommuConfigureId env device idIn dma).2.detours = dma.detours ∧
      ((acpiIommuConfigureId env device idIn dma).1 = none →
        idIn = none ∧ (acpiIommuConfigureId env device idIn dma).2.fwspec = some dpuStreams) := by
  have hframe := (frames_iortIommuConfigureId env.toEnvironment device idIn dma).1
  have hconfigure : acpiIommuConfigureId env device idIn dma =
      validateDpu device idIn (if dma.fwspec.isSome then (none, dma)
        else iortIommuConfigureId env.toEnvironment device idIn dma) := by
    simp [acpiIommuConfigureId, tryRimt, tryViot, acpiTclDpuStrictDma, hdpu]
  have hdetours : (if dma.fwspec.isSome then (none, dma)
      else iortIommuConfigureId env.toEnvironment device idIn dma).2.detours = dma.detours := by
    split
    · rfl
    · exact hframe
  rw [hconfigure]
  generalize (if dma.fwspec.isSome then (none, dma)
    else iortIommuConfigureId env.toEnvironment device idIn dma) = outcome at hdetours ⊢
  unfold validateDpu
  split
  · exact ⟨hdetours, fun h ↦ absurd h (Option.some_ne_none _)⟩
  · next hvalid =>
    refine ⟨hdetours, fun hstatus ↦ ?_⟩
    simp only [acpiTclDpuStrictDma, hdpu, hstatus, true_and, not_or, not_not] at hvalid
    exact ⟨by simpa using hvalid.1, hvalid.2⟩

theorem acpiDmaConfigureId_dpu (hdpu : device.isDpu = true) (attr : DmaAttr) (idIn : Option ℕ)
    (dma : Dma) :
    (acpiDmaConfigureId env device attr idIn dma).2.detours = dma.detours ∧
      ((acpiDmaConfigureId env device attr idIn dma).1 = none →
        idIn = none ∧ (acpiDmaConfigureId env device attr idIn dma).2.fwspec = some dpuStreams) := by
  obtain ⟨hdetours, hfwspec⟩ := acpiIommuConfigureId_dpu env hdpu idIn dma
  unfold acpiDmaConfigureId
  split
  · simp [acpiTclDpuStrictDma, hdpu]
  · dsimp only
    split
    · exact ⟨hdetours, hfwspec⟩
    · next hsucceeds =>
      refine ⟨hdetours, fun _ ↦ hfwspec ?_⟩
      simpa [acpiTclDpuStrictDma, hdpu] using fun hstatus ↦ hsucceeds (.inr hstatus)

theorem detours_history (hdpu : device.isDpu = true) (events : List DmaEvent) (dma : Dma) :
    (events.foldl (DmaEvent.apply env device) dma).detours = dma.detours := by
  induction events generalizing dma with
  | nil => rfl
  | cons event events ih =>
    rw [List.foldl_cons, ih]
    cases event with
    | configure attr idIn => exact (acpiDmaConfigureId_dpu env hdpu attr idIn dma).1
    | foreign fwspec => rfl

/-- After any history, the configuration of the display engine succeeds only without an input ID and
with its three stream IDs in order.  No detour is ever taken. -/
theorem acpiDmaConfigureId_dpu_history (hdpu : device.isDpu = true) (events : List DmaEvent)
    (attr : DmaAttr) (idIn : Option ℕ) (dma : Dma) :
    let before := events.foldl (DmaEvent.apply env device) dma
    let result := acpiDmaConfigureId env device attr idIn before
    (result.1 = none → idIn = none ∧ result.2.fwspec = some [0x800, 0x802, 0x801]) ∧
      result.2.detours = dma.detours := by
  intro before result
  obtain ⟨hdetours, hfwspec⟩ := acpiDmaConfigureId_dpu env hdpu attr idIn before
  exact ⟨hfwspec, hdetours.trans (detours_history env hdpu events dma)⟩

end

/-- A kernel on the board in which every translation succeeds, there is no other firmware table, and
the component at offset 108 is the one that is looked for. -/
def boardEnvironment (table : Lib.Bytes) : DmaEnvironment where
  table := some table.toMemory
  sysVendor := some "TCL Communication Ltd."
  productName := some "B220G"
  scanNode := fun _ ↦ some 108
  matchNode := fun _ node ↦ node = 108
  getHandle := fun _ ↦ none
  xlate := fun _ _ id fwspec ↦ (none, some (fwspec.getD [] ++ [id]))
  nodeMapId := fun _ _ ↦ none
  nodeMapPlatformIds := fun _ ↦ []
  pciConfigure := fun _ _ fwspec ↦ (some ENODEV, fwspec)
  rimtConfigure := fun _ _ fwspec ↦ (some ENODEV, fwspec)
  viotConfigure := fun _ fwspec ↦ (some ENODEV, fwspec)
  ofDmaConfigure := fun dma ↦ (some ENODEV, dma)
  iommuDomain := some true
  useDefaultDomain := none

/-- A device that the board creates with a software node. -/
def boardDevice (name property : String) : Device where
  isPci := false
  ofNode := false
  name := some name
  hasProperty := fun other ↦ other = property
  companion := none
  companionOrSelf := none

/-- The display engine is configured for real after a foreign configuration was taken back. -/
theorem acpiDmaConfigureId_dpu_history_dpuTable :
    let device := boardDevice "tcl-sc7180-dpu" "qcom,tcl-acpi-display"
    let before := [.foreign (some [7]), .configure .coherent none, .foreign none].foldl
      (DmaEvent.apply (boardEnvironment displayTable) device) unconfigured
    let result := acpiDmaConfigureId (boardEnvironment displayTable) device .nonCoherent none before
    device.isDpu = true ∧ result.1 = none ∧ result.2.fwspec = some [0x800, 0x802, 0x801] ∧
      result.2.detours = [] := by
  have hdpu : (boardDevice "tcl-sc7180-dpu" "qcom,tcl-acpi-display").isDpu = true := by decide
  have hhistory := acpiDmaConfigureId_dpu_history (boardEnvironment displayTable) hdpu
    [.foreign (some [7]), .configure .coherent none, .foreign none] .nonCoherent none unconfigured
  refine ⟨hdpu, ?succeeds, (hhistory.1 ?succeeds).2, hhistory.2⟩
  decide +kernel

/-! ## Platform devices -/

/-- The kind of firmware node of a platform device. -/
inductive Fwnode
  | ofNode
  | acpi (adev : AcpiDevice)
  | software
  | absent

/-- A platform device with the ACPI objects of its parent and of its parent's parent.  Its driver, if
it has one, may manage its DMA itself. -/
structure PlatformDevice extends Device where
  fwnode : Fwnode
  parentAdev : Option AcpiDevice
  grandparentAdev : Option AcpiDevice
  managesDma : Option Bool

namespace PlatformDevice

def carries (device : PlatformDevice) (name property : String) : Bool :=
  device.name = some name ∧ device.hasProperty property

def isDisplay (device : PlatformDevice) : Bool :=
  device.carries "tcl-sc7180-dpu" "qcom,tcl-acpi-display"

/-- Neither an OF nor an ACPI node. -/
def isSupplemental (device : PlatformDevice) : Bool :=
  match device.fwnode with
  | .ofNode | .acpi _ => false
  | .software | .absent => true

end PlatformDevice

section

variable (env : DmaEnvironment) (device : PlatformDevice)

/-- Configuration by the kind of firmware node.  An error stands for an early return. -/
def configureFwnode (dma : Dma) : Except Errno (Option Errno × Dma) :=
  match device.fwnode with
  | .ofNode => .ok (env.ofDmaConfigure dma)
  | .acpi adev =>
    .ok (acpiDmaConfigureId env device.toDevice adev.dmaAttr
      (if adev.hid = "QCOM24A5" then some 0x81030000 else none) dma)
  | .software | .absent =>
    if device.isDisplay then
      match device.grandparentAdev with
      | none => .error ENODEV
      | some adev => .ok (acpiDmaConfigureId env device.toDevice adev.dmaAttr none dma)
    else .ok (none, dma)

/-- Configuration of the GPU and its GMU. -/
def configureGpu (outcome : Option Errno × Dma) : Except Errno (Option Errno × Dma) :=
  if device.isSupplemental && (device.carries "tcl-sc7180-adreno" "qcom,tcl-acpi-gpu" ||
      device.carries "tcl-sc7180-gmu" "qcom,tcl-acpi-gpu") then
    match device.parentAdev with
    | none => .error ENODEV
    | some adev => .ok (acpiDmaConfigureId env device.toDevice adev.dmaAttr none outcome.2)
  else .ok outcome

/-- Configuration of the audio consumer. -/
def configureAudio (outcome : Option Errno × Dma) : Option Errno × Dma :=
  if device.fwnode matches .software && device.carries "tcl-q6asm-dai" "qcom,tcl-acpi-audio" then
    acpiDmaConfigureId env device.toDevice .nonCoherent none outcome.2
  else outcome

/-- The checks of the display engine's IOMMU domain. -/
def checkDisplayDomain : Option Errno :=
  if device.isDisplay then
    match env.iommuDomain with
    | none => some EPROBE_DEFER
    | some paging => if paging then none else some EINVAL
  else none

def platformDmaConfigure (dma : Dma) : Option Errno × Dma :=
  match configureFwnode env device dma with
  | .error errno => (some errno, dma)
  | .ok outcome =>
    match configureGpu env device outcome with
    | .error errno => (some errno, outcome.2)
    | .ok outcome =>
      let outcome := configureAudio env device outcome
      if outcome.1 ≠ none ∨ device.managesDma ≠ some false then outcome
      else
        match checkDisplayDomain env device with
        | some errno => (some errno, outcome.2)
        | none => (env.useDefaultDomain, outcome.2)

end

/-! ## Masters with one stream -/

/-- What the IORT map of a master with one stream comes to, on a device without fwspec: the checks of
the table and then one translation, whose failure leaves no fwspec. -/
def singleStream (env : Environment) (check : Except Errno Unit) (parent stream : ℕ) (dma : Dma) :
    Option Errno × Option (List ℕ) :=
  match check with
  | .error errno => (some errno, none)
  | .ok () =>
    match env.xlate dma.xlates parent stream none with
    | (none, fwspec) => (none, fwspec)
    | (some errno, _) => (some errno, none)

/-- A configuration that defers, or that leaves exactly the stream. -/
def Secures (outcome : Option Errno × Option (List ℕ)) (stream : ℕ) : Prop :=
  outcome.1 = some EPROBE_DEFER ∨ outcome.2 = some [stream]

/-- The first of the outcomes that is not a lasting failure, or else the last, secures the stream. -/
def FirstSecures (iort : Option Errno × Option (List ℕ))
    (rimt viot : Option (List ℕ) → Option Errno × Option (List ℕ)) (stream : ℕ) : Prop :=
  let afterRimt := if failsForGood iort.1 then rimt iort.2 else iort
  Secures (if failsForGood afterRimt.1 then viot afterRimt.2 else afterRimt) stream

/-- A master has its stream already, or has none and gets it or is deferred by the firmware tables. -/
def MasterSecured (env : DmaEnvironment) (device : Device) (check : Except Errno Unit)
    (parent stream : ℕ) (dma : Dma) : Prop :=
  dma.fwspec = some [stream] ∨ dma.fwspec = none ∧
    FirstSecures (singleStream env.toEnvironment check parent stream dma)
      (env.rimtConfigure device none) (env.viotConfigure device) stream

section

variable (env : DmaEnvironment)

theorem translateChecked_singleton (check : Except Errno Unit) (busy : Errno) (parent stream : ℕ)
    (dma : Dma) (hfwspec : dma.fwspec = none) :
    ((translateChecked env.toEnvironment check busy parent [stream] dma).1,
        (translateChecked env.toEnvironment check busy parent [stream] dma).2.fwspec) =
      singleStream env.toEnvironment check parent stream dma := by
  cases check with
  | error errno => simp [translateChecked, singleStream, hfwspec]
  | ok =>
    simp only [translateChecked, xlateOrFree, singleStream, Environment.iortIommuXlate, hfwspec,
      Option.isSome_none, Bool.false_eq_true, if_false]
    rcases env.xlate dma.xlates parent stream none with ⟨_ | errno, fwspec⟩
    · rfl
    · rfl

variable (device : Device) (hdpu : device.isDpu = false)

include hdpu

variable (idIn : Option ℕ)

theorem acpiIommuConfigureId_of_fwspec (dma : Dma) (hfwspec : dma.fwspec.isSome = true) :
    acpiIommuConfigureId env device idIn dma = (none, dma) := by
  simp [acpiIommuConfigureId, validateDpu, acpiTclDpuStrictDma, hdpu, hfwspec]

/-- Without a fwspec, the firmware tables are asked in turn. -/
theorem acpiIommuConfigureId_of_not_fwspec (dma : Dma) (hfwspec : dma.fwspec = none) :
    acpiIommuConfigureId env device idIn dma = tryViot env device (tryRimt env device idIn
      (iortIommuConfigureId env.toEnvironment device idIn dma)) := by
  simp [acpiIommuConfigureId, validateDpu, acpiTclDpuStrictDma, hdpu, hfwspec]

theorem tryRimt_eq (outcome : Option Errno × Dma) :
    ((tryRimt env device idIn outcome).1, (tryRimt env device idIn outcome).2.fwspec) =
      if failsForGood outcome.1 then env.rimtConfigure device idIn outcome.2.fwspec
      else (outcome.1, outcome.2.fwspec) := by
  simp only [tryRimt, acpiTclDpuStrictDma, hdpu, Bool.not_false, Bool.true_and]
  split
  · rfl
  · rfl

theorem tryViot_eq (outcome : Option Errno × Dma) :
    ((tryViot env device outcome).1, (tryViot env device outcome).2.fwspec) =
      if failsForGood outcome.1 then env.viotConfigure device outcome.2.fwspec
      else (outcome.1, outcome.2.fwspec) := by
  simp only [tryViot, acpiTclDpuStrictDma, hdpu, Bool.not_false, Bool.true_and]
  split
  · rfl
  · rfl

theorem acpiIommuConfigureId_secures_iff (dma : Dma) (hfwspec : dma.fwspec = none)
    (iort : Option Errno × Option (List ℕ)) (stream : ℕ)
    (hiort : ((iortIommuConfigureId env.toEnvironment device none dma).1,
      (iortIommuConfigureId env.toEnvironment device none dma).2.fwspec) = iort) :
    Secures ((acpiIommuConfigureId env device none dma).1,
        (acpiIommuConfigureId env device none dma).2.fwspec) stream ↔
      FirstSecures iort (env.rimtConfigure device none) (env.viotConfigure device) stream := by
  have hrimt := tryRimt_eq env device hdpu none
    (iortIommuConfigureId env.toEnvironment device none dma)
  have hviot := tryViot_eq env device hdpu (tryRimt env device none
    (iortIommuConfigureId env.toEnvironment device none dma))
  rw [← acpiIommuConfigureId_of_not_fwspec env device hdpu none dma hfwspec] at hviot
  subst hiort
  rw [hviot, FirstSecures, ← hrimt]

/-- A device that may do DMA is configured with success only with its stream, exactly if the IOMMU
configuration secures the stream. -/
theorem acpiDmaConfigureId_secures_iff (attr : DmaAttr) (hattr : attr ≠ .notSupported) (dma : Dma)
    (stream : ℕ) :
    ((acpiDmaConfigureId env device attr none dma).1 = none →
        (acpiDmaConfigureId env device attr none dma).2.fwspec = some [stream]) ↔
      Secures ((acpiIommuConfigureId env device none dma).1,
        (acpiIommuConfigureId env device none dma).2.fwspec) stream := by
  simp only [acpiDmaConfigureId, if_neg hattr, acpiTclDpuStrictDma, hdpu, Bool.false_eq_true,
    and_false, or_false, Secures]
  by_cases hdefers : (acpiIommuConfigureId env device none dma).1 = some EPROBE_DEFER
  · simp [hdefers]
  · simp [hdefers]

theorem acpiDmaConfigureId_master_iff (attr : DmaAttr) (hattr : attr ≠ .notSupported) (dma : Dma)
    (check : Except Errno Unit) (parent stream : ℕ)
    (hiort : dma.fwspec = none → ((iortIommuConfigureId env.toEnvironment device none dma).1,
      (iortIommuConfigureId env.toEnvironment device none dma).2.fwspec) =
        singleStream env.toEnvironment check parent stream dma) :
    ((acpiDmaConfigureId env device attr none dma).1 = none →
        (acpiDmaConfigureId env device attr none dma).2.fwspec = some [stream]) ↔
      MasterSecured env device check parent stream dma := by
  rw [acpiDmaConfigureId_secures_iff env device hdpu attr hattr, MasterSecured]
  cases hfwspec : dma.fwspec with
  | none =>
    rw [acpiIommuConfigureId_secures_iff env device hdpu dma hfwspec _ stream (hiort hfwspec)]
    simp
  | some ids =>
    rw [acpiIommuConfigureId_of_fwspec env device hdpu none dma (by rw [hfwspec]; rfl)]
    simp [Secures, hfwspec]

end

/-- The video master of the board. -/
def IsVenusMaster (device : Device) : Prop := device.isPci = false ∧ device.isVenus = true

/-- The GPU of the board. -/
def IsAdrenoMaster (device : PlatformDevice) : Prop :=
  device.isPci = false ∧ device.isSupplemental = true ∧
    device.isNamed "tcl-sc7180-adreno" "qcom,tcl-acpi-gpu" = true

/-- The checks of the GPU map on the node of the device. -/
def adrenoCheck (env : DmaEnvironment) (device : PlatformDevice) : Except Errno Unit :=
  match env.scanNode (matcher env.toEnvironment device.toDevice) with
  | none => .error ENODEV
  | some node => (gpuMap false).check env.toEnvironment node

/-- Something other than the IOMMU stops the GPU, or it has its stream already, or it may do DMA and
gets its stream or is deferred. -/
def AdrenoSecured (env : DmaEnvironment) (device : PlatformDevice) (dma : Dma) : Prop :=
  device.parentAdev = none ∨ device.managesDma = some false ∧ env.useDefaultDomain ≠ none ∨
    dma.fwspec = some [0] ∨ ∃ adev, device.parentAdev = some adev ∧
      adev.dmaAttr ≠ .notSupported ∧
      MasterSecured env device.toDevice (adrenoCheck env device) 0x32c 0 dma

section

variable (env : DmaEnvironment)

theorem Device.name_of_isNamed {device : Device} {name property : String}
    (hnamed : device.isNamed name property = true) : device.name = some name := by
  simp only [Device.isNamed, decide_eq_true_eq] at hnamed
  exact hnamed.2.1

theorem Device.isNamed_of_name {device : Device} {name other : String} (property : String)
    (hname : device.name = some name) (hne : name ≠ other) :
    device.isNamed other property = false := by
  simp [Device.isNamed, hname, hne]

theorem iortIommuConfigureId_venus (device : Device) (hvenus : IsVenusMaster device) (dma : Dma)
    (hfwspec : dma.fwspec = none) :
    ((iortIommuConfigureId env.toEnvironment device none dma).1,
        (iortIommuConfigureId env.toEnvironment device none dma).2.fwspec) =
      singleStream env.toEnvironment (venusCheck env.toEnvironment) 48 venusStream dma := by
  have hconfigure : iortIommuConfigureId env.toEnvironment device none dma =
      iortTclVenusMap env.toEnvironment dma := by
    simp [iortIommuConfigureId, hvenus.1, hvenus.2, withoutId]
  rw [hconfigure, iortTclVenusMap_eq]
  exact translateChecked_singleton env _ _ 48 venusStream dma hfwspec

variable (device : PlatformDevice)

theorem iortIommuConfigureId_adreno (hadreno : IsAdrenoMaster device) (dma : Dma)
    (hfwspec : dma.fwspec = none) :
    ((iortIommuConfigureId env.toEnvironment device.toDevice none dma).1,
        (iortIommuConfigureId env.toEnvironment device.toDevice none dma).2.fwspec) =
      singleStream env.toEnvironment (adrenoCheck env device) 0x32c 0 dma := by
  obtain ⟨hpci, -, hnamed⟩ := hadreno
  have hname := Device.name_of_isNamed hnamed
  have hvenus : device.isVenus = false := Device.isNamed_of_name _ hname (by decide)
  have haudio : device.isAudio = false := Device.isNamed_of_name _ hname (by decide)
  have hdpu : device.isDpu = false := Device.isNamed_of_name _ hname (by decide)
  have hgpu : device.isGpu = true := by rw [Device.isGpu, hnamed, Bool.true_or]
  have hgmu : decide (device.name = some "tcl-sc7180-gmu") = false := by
    rw [hname]
    decide
  simp only [iortIommuConfigureId, hpci, hvenus, haudio, hdpu, hgpu, withoutId, adrenoCheck,
    Option.isSome_none, Bool.false_eq_true, if_false, if_true]
  cases env.scanNode (matcher env.toEnvironment device.toDevice) with
  | none => simp [singleStream, hfwspec]
  | some node =>
    simp only [iortTclGpuMap, hgmu, BoardMap.configure_eq]
    exact translateChecked_singleton env _ _ 0x32c 0 dma hfwspec

/-- What is left of `platform_dma_configure` for the GPU. -/
theorem platformDmaConfigure_adreno (hadreno : IsAdrenoMaster device) (dma : Dma) :
    platformDmaConfigure env device dma =
      match device.parentAdev with
      | none => (some ENODEV, dma)
      | some adev =>
        let outcome := acpiDmaConfigureId env device.toDevice adev.dmaAttr none dma
        if outcome.1 ≠ none ∨ device.managesDma ≠ some false then outcome
        else (env.useDefaultDomain, outcome.2) := by
  obtain ⟨-, hsupplemental, hnamed⟩ := hadreno
  have hname := Device.name_of_isNamed hnamed
  have hcarries : device.carries "tcl-sc7180-adreno" "qcom,tcl-acpi-gpu" = true := by
    simp only [Device.isNamed, decide_eq_true_eq] at hnamed
    simp [PlatformDevice.carries, hname, hnamed.2.2]
  have hdisplay : device.isDisplay = false := by
    simp [PlatformDevice.isDisplay, PlatformDevice.carries, hname]
  have haudio : device.carries "tcl-q6asm-dai" "qcom,tcl-acpi-audio" = false := by
    simp [PlatformDevice.carries, hname]
  have hfwnode : configureFwnode env device dma = .ok (none, dma) := by
    unfold configureFwnode
    unfold PlatformDevice.isSupplemental at hsupplemental
    cases hkind : device.fwnode with
    | ofNode => simp [hkind] at hsupplemental
    | acpi adev => simp [hkind] at hsupplemental
    | software => simp [hdisplay]
    | absent => simp [hdisplay]
  simp only [platformDmaConfigure, hfwnode, configureGpu, hsupplemental, hcarries, configureAudio,
    haudio, checkDisplayDomain, hdisplay, Bool.true_or, Bool.and_self, Bool.and_false,
    Bool.false_eq_true, if_true, if_false]
  cases device.parentAdev with
  | none => rfl
  | some adev => rfl

theorem platformDmaConfigure_adreno_iff (hadreno : IsAdrenoMaster device) (dma : Dma) :
    ((platformDmaConfigure env device dma).1 = none →
        (platformDmaConfigure env device dma).2.fwspec = some [0]) ↔
      AdrenoSecured env device dma := by
  have hdpu : device.isDpu = false :=
    Device.isNamed_of_name _ (Device.name_of_isNamed hadreno.2.2) (by decide)
  rw [platformDmaConfigure_adreno env device hadreno, AdrenoSecured]
  cases hparent : device.parentAdev with
  | none => simp
  | some adev =>
    have hconfigure : ((acpiDmaConfigureId env device.toDevice adev.dmaAttr none dma).1 = none →
        (acpiDmaConfigureId env device.toDevice adev.dmaAttr none dma).2.fwspec = some [0]) ↔
        dma.fwspec = some [0] ∨ adev.dmaAttr ≠ .notSupported ∧
          MasterSecured env device.toDevice (adrenoCheck env device) 0x32c 0 dma := by
      by_cases hattr : adev.dmaAttr = .notSupported
      · simp [acpiDmaConfigureId, hattr, acpiTclDpuStrictDma, hdpu, Dma.detour]
      · rw [acpiDmaConfigureId_master_iff env device.toDevice hdpu adev.dmaAttr hattr dma _ _ _
          (iortIommuConfigureId_adreno env device hadreno dma)]
        constructor
        · exact fun h ↦ .inr ⟨hattr, h⟩
        · exact fun h ↦ h.elim .inl fun h ↦ h.2
    dsimp only
    generalize acpiDmaConfigureId env device.toDevice adev.dmaAttr none dma = outcome
      at hconfigure ⊢
    obtain ⟨status, after⟩ := outcome
    dsimp only at hconfigure ⊢
    simp only [Option.some.injEq, exists_eq_left', reduceCtorEq, false_or, ← hconfigure]
    by_cases hmanages : device.managesDma = some false
    · cases status with
      | none =>
        simp only [hmanages, ne_eq, not_true, or_self, if_false, true_and, true_implies]
        exact Decidable.imp_iff_not_or
      | some errno => simp
    · simp [hmanages]

/-- The GPU and the video master are reported as configured only with their one stream, exactly if
they are secured. -/
theorem masters_configured_iff (dma : Dma) :
    (∀ device, IsAdrenoMaster device →
      (((platformDmaConfigure env device dma).1 = none →
          (platformDmaConfigure env device dma).2.fwspec = some [0]) ↔
        AdrenoSecured env device dma)) ∧
    ∀ device, IsVenusMaster device →
      (((acpiDmaConfigureId env device .nonCoherent none dma).1 = none →
          (acpiDmaConfigureId env device .nonCoherent none dma).2.fwspec =
            some [0xc00 ||| (0x60 <<< 16)]) ↔
        MasterSecured env device (venusCheck env.toEnvironment) 48 venusStream dma) := by
  constructor
  · intro device hadreno
    exact platformDmaConfigure_adreno_iff env device hadreno dma
  · intro device hvenus
    have hdpu : device.isDpu = false :=
      Device.isNamed_of_name _ (Device.name_of_isNamed hvenus.2) (by decide)
    exact acpiDmaConfigureId_master_iff env device hdpu .nonCoherent (by decide) dma _ _ _
      (iortIommuConfigureId_venus env device hvenus dma)

end

/-- The GPU of the board, with a driver that leaves DMA to the core. -/
def adrenoDevice : PlatformDevice where
  toDevice := boardDevice "tcl-sc7180-adreno" "qcom,tcl-acpi-gpu"
  fwnode := .software
  parentAdev := some ⟨"QCOM0899", 3, .nonCoherent⟩
  grandparentAdev := none
  managesDma := some false

theorem isAdrenoMaster_adrenoDevice : IsAdrenoMaster adrenoDevice :=
  ⟨rfl, rfl, by decide⟩

theorem isVenusMaster_boardDevice :
    IsVenusMaster (boardDevice "tcl-sc7180-venus" "qcom,tcl-acpi-video") :=
  ⟨rfl, by decide⟩

/-- With a table that has no graphics mappings for it, the GPU is configured without a fwspec. -/
theorem platformDmaConfigure_adrenoDevice :
    platformDmaConfigure (boardEnvironment displayTable) adrenoDevice unconfigured =
      (none, ⟨none, 0, some false, [.viot, .rimt]⟩) := by
  decide +kernel

/-- The GPU map rejects the table, and the GPU is reported as configured without its stream. -/
theorem platformDmaConfigure_adreno_rejected :
    IsAdrenoMaster adrenoDevice ∧ adrenoCheck (boardEnvironment displayTable) adrenoDevice =
        .error EINVAL ∧
      ¬((platformDmaConfigure (boardEnvironment displayTable) adrenoDevice unconfigured).1 = none →
        (platformDmaConfigure (boardEnvironment displayTable) adrenoDevice unconfigured).2.fwspec =
          some [0]) := by
  refine ⟨isAdrenoMaster_adrenoDevice, by decide +kernel, ?_⟩
  rw [platformDmaConfigure_adrenoDevice]
  simp

theorem masters_configured_iff_adrenoDevice :
    ¬AdrenoSecured (boardEnvironment displayTable) adrenoDevice unconfigured ∧
      MasterSecured (boardEnvironment displayTable)
        (boardDevice "tcl-sc7180-venus" "qcom,tcl-acpi-video")
        (venusCheck (boardEnvironment displayTable).toEnvironment) 48 venusStream unconfigured := by
  have hmasters := masters_configured_iff (boardEnvironment displayTable) unconfigured
  constructor
  · rw [← hmasters.1 adrenoDevice isAdrenoMaster_adrenoDevice, platformDmaConfigure_adrenoDevice]
    simp
  · rw [← hmasters.2 _ isVenusMaster_boardDevice]
    intro _
    decide +kernel

end TclB220G.Acpi
