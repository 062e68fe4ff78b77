import TclB220G.Display.Containment
import TclB220G.Display.Handoff

/-!
# Bringing up the GPU and the video codec

`tcl_gpu_init` and `tcl_acpi_venus_init` stage their devices behind the clock controllers and power
domains that the display coordinator has prepared.  Neither of them unwinds.  What was set up is retained
for the boot, and the result of the bring-up is left in a module parameter.

Every call may fail.  The resources that the firmware lists for the GPU are a parameter, and so is the
time at which devices are probed behind the back of a coordinator.
-/

namespace TclB220G.Display.BringUp

open Kernel Lib

inductive DmiField where
  | sysVendor | productName
  deriving DecidableEq, Repr

/-- A device that another one depends on. -/
inductive Provider (Id : Type) where
  | named (name : String)
  | stage (stage : Id)
  deriving DecidableEq, Repr

/-- The calls of the two coordinators besides those of their stages. -/
inductive BringUpCall (Id : Type) where
  | acpiDisabled
  | dmiMatch (field : DmiField) (value : String)
  | acpiGetHandle (path : String)
  | acpiGetAcpiDev (path : String)
  | acpiMatchAcpiDevice (id : String)
  | acpiDevGetResources
  | acpiDevFreeResourceList
  | regionIsDisjoint (start size : ℕ)
  | acpiRegisterGsi (gsi : ℕ)
  | busFindDeviceByName (name : String)
  | driverOf (name : String)
  | putDevice (name : String)
  | platformDriverRegister (name : String)
  | deviceLinkAdd (consumer : Id) (provider : Provider Id)
  | getDrvdata (provider : Provider Id)
  | numDomains (provider : Provider Id)
  | domains (provider : Provider Id)
  | domain (provider : Provider Id) (index : ℕ)
  | pmRuntimeEnable (stage : Id)
  | pmRuntimeResumeAndGet (stage : Id)
  | clkPrepareEnable (clk : ℤ)
  | busFindSmmu
  | smmuPut
  | devPmOppAddDynamic (stage : Id) (freq : ℕ)
  | iccGet (stage : Id) (source destination : String)
  | iccSetTag (path : ℤ)
  | iccSetBw (path : ℤ) (average peak : ℕ)
  | acpiDmaConfigureId (stage : Id)
  deriving DecidableEq, Repr

section

variable {Id : Type}

def BringUpCall.verdict : BringUpCall Id → Verdict
  | acpiDisabled | acpiGetHandle _ => .nonzeroIs .ENODEV
  | dmiMatch .. | acpiGetAcpiDev _ | acpiMatchAcpiDevice _ => .null .ENODEV
  | acpiDevGetResources | acpiRegisterGsi _ | pmRuntimeResumeAndGet _ => .negative
  | regionIsDisjoint .. | getDrvdata _ | domains _ | domain .. => .null .EINVAL
  | busFindDeviceByName _ | driverOf _ | busFindSmmu => .null .EPROBE_DEFER
  | deviceLinkAdd .. => .null .ENOMEM
  | iccGet .. => .positive .ENODEV
  | platformDriverRegister _ | clkPrepareEnable _ | devPmOppAddDynamic .. | iccSetBw .. |
    acpiDmaConfigureId _ => .nonzero
  | _ => .succeeds

abbrev StageCall (Id : Type) := Call Id (BringUpCall Id)

/-- The coordinator of the stages in `Id`. -/
def coordinator (Id : Type) : Coordinator (BringUpCall Id) := ⟨BringUpCall.verdict⟩

def ask (call : BringUpCall Id) : Script (StageCall Id) ℤ := Script.invoke (.other call)

variable [DecidableEq Id]

def request (call : BringUpCall Id) : Script (StageCall Id) ℤ :=
  Script.step (coordinator Id).interface (.other call)

def require (call : BringUpCall Id) : Script (StageCall Id) Unit :=
  (coordinator Id).perform (.other call)

def refuse {α : Type} (errno : Errno) : Script (StageCall Id) α := (coordinator Id).refuse errno

def create (stage : Id) (name : String) (resources : List Resource) : Script (StageCall Id) Unit :=
  (coordinator Id).tclDisplayStageCreate stage name resources

def clock (stage : Id) (provider source consumer : String) : Script (StageCall Id) Unit :=
  (coordinator Id).tclDisplayStageClock stage provider source consumer

def domain (stage : Id) (domain : ℤ) : Script (StageCall Id) Unit :=
  (coordinator Id).tclDisplayStageDomain stage domain

def activate (stage : Id) : Script (StageCall Id) Unit := (coordinator Id).tclDisplayStageActivate stage

/-! ## What both coordinators do -/

/-- A supplier that has no driver yet is put again. -/
def supplier (name : String) : Script (StageCall Id) Unit := do
  require (.busFindDeviceByName name)
  (require (.driverOf name)).onFailure [.other (.putDevice name)]

/-- `keep_supplier` of the GPU and `link_supplier` of the video codec. -/
def linkSupplier (consumer : Id) (provider : Provider Id) : Script (StageCall Id) Unit :=
  require (.deviceLinkAdd consumer provider)

/-- Both coordinators run on this board only. -/
def boardCheck : Script (StageCall Id) Unit := .inOrder [
  require .acpiDisabled,
  require (.dmiMatch .sysVendor "TCL Communication Ltd."),
  require (.dmiMatch .productName "B220G"),
  require (.acpiGetHandle "\\_SB.GPU0")]

def clocks (stage : Id) (sources : List (String × String × String)) : Script (StageCall Id) Unit :=
  .inOrder (sources.map fun source ↦ clock stage source.1 source.2.1 source.2.2)

end

/-! ## The GPU -/

inductive GpuStage where
  | cc | cx | gx | gmu | adreno
  deriving DecidableEq, Repr

/-- A resource that the firmware lists for the GPU.  An interrupt comes with its number at the interrupt
controller and whether it is triggered by a high level, if the kernel knows it. -/
inductive FirmwareResource where
  | disabled
  | mem (start size : ℕ)
  | irq (start stop : ℤ) (data : Option (ℕ × Bool))
  | other
  deriving DecidableEq, Repr

/-- What the walk over the resources has found so far. -/
structure Findings where
  gpuWindow : Bool
  ccWindow : Bool
  gmuWindow : Bool
  irq : ℤ
  deriving DecidableEq, Repr

/-- `resource_contains` for memory. -/
def holds (start size start' size' : ℕ) : Bool := start ≤ start' ∧ start' + size' ≤ start + size

def Findings.note (found : Findings) : FirmwareResource → Findings
  | .mem start size =>
    { found with
      gpuWindow := found.gpuWindow || (start = 0x5000000 ∧ size = 0x3f010)
      ccWindow := found.ccWindow || holds start size 0x5090000 0x9000
      gmuWindow := found.gmuWindow || holds start size 0x506a000 0x31000 }
  | .irq start stop data =>
    if start = stop ∧ data = some (332, true) then { found with irq := start } else found
  | .disabled | .other => found

structure GpuIrqs where
  gpu : ℤ
  hfi : ℤ
  gmu : ℤ

def gpuFirmwareCheck (resources : List FirmwareResource) : Script (StageCall GpuStage) GpuIrqs := do
  boardCheck
  require (.acpiGetAcpiDev "\\_SB.GPU0")
  require (.acpiMatchAcpiDevice "QCOM083A")
  require .acpiDevGetResources
  let found := resources.foldl Findings.note ⟨false, false, false, 0⟩
  let _ ← ask .acpiDevFreeResourceList
  if found.gpuWindow = false ∨ found.ccWindow = false ∨ found.gmuWindow = false ∨ found.irq ≤ 0 then
    refuse .EINVAL
  else do
    require (.regionIsDisjoint 0x80840000 0x2000)
    let hfi ← request (.acpiRegisterGsi 336)
    let gmu ← request (.acpiRegisterGsi 337)
    pure ⟨found.irq, hfi, gmu⟩

def gpuccName : String := "tcl-sc7180-gpucc"

def gmuRes (irqs : GpuIrqs) : List Resource :=
  [.mem 0x506a000 0x31000 "gmu", .mem 0xb290000 0x10000 "gmu_pdc", .mem 0xb490000 0x10000 "gmu_pdc_seq",
    .irq irqs.hfi "hfi", .irq irqs.gmu "gmu"]

def gpuRes (irqs : GpuIrqs) : List Resource :=
  [.mem 0x5000000 0x40000 "kgsl_3d0_reg_memory", .mem 0x509e000 0x1000 "cx_mem",
    .mem 0x5061000 0x800 "cx_dbgc", .mem 0x80840000 0x2000 "zap-shader", .irq irqs.gpu "kgsl_3d0_irq"]

def prepareClockController : Script (StageCall GpuStage) Unit := .inOrder [
  supplier gccName,
  supplier rpmhccName,
  create .cc gpuccName [.mem 0x5090000 0x9000 ""],
  linkSupplier .cc (.named gccName),
  linkSupplier .cc (.named rpmhccName),
  clock .cc rpmhccName "bi_tcxo" "bi_tcxo",
  clocks .cc [
    (gccName, "gcc_gpu_gpll0_clk_src", "gcc_gpu_gpll0_clk_src"),
    (gccName, "gcc_gpu_gpll0_div_clk_src", "gcc_gpu_gpll0_div_clk_src"),
    (gccName, "gcc_gpu_cfg_ahb_clk", "iface")],
  activate .cc]

/-- The SMMU must have a driver by now.  Its power domain is left as it is. -/
def verifyAdrenoSmmu : Script (StageCall GpuStage) Unit := .inOrder [
  require .busFindSmmu,
  require .smmuPut]

/-- The indices `CX_GDSC` and `GX_GDSC` of the domains of the GPU clock controller. -/
def cxGdsc : ℕ := 0
def gxGdsc : ℕ := 1

/-- The two domains that the GPU clock controller provides. -/
def gpuDomains : Script (StageCall GpuStage) (ℤ × ℤ) := do
  require (.getDrvdata (.stage .cc))
  let count ← ask (.numDomains (.stage .cc))
  if count ≠ 2 then refuse .EINVAL
  else do
    require (.domains (.stage .cc))
    let cx ← request (.domain (.stage .cc) cxGdsc)
    let gx ← request (.domain (.stage .cc) gxGdsc)
    pure (cx, gx)

/-- Holds the clock of the SMMU's bus for good. -/
def enableSmmuBus : Script (StageCall GpuStage) Unit := do
  let clk ← Script.step (coordinator GpuStage).interface (.clkGetSys gccName "gcc_gpu_memnoc_gfx_clk")
  require (.clkPrepareEnable clk)

def prepareGpuDomains : Script (StageCall GpuStage) Unit := do
  let (cx, gx) ← gpuDomains
  .inOrder [
    create .cx "tcl-gpu-cx-domain" [],
    domain .cx cx,
    create .gx "tcl-gpu-gx-domain" [],
    domain .gx gx,
    require (.pmRuntimeEnable .cx),
    require (.pmRuntimeEnable .gx),
    require (.pmRuntimeResumeAndGet .cx),
    enableSmmuBus,
    verifyAdrenoSmmu]

def prepareGmu (irqs : GpuIrqs) : Script (StageCall GpuStage) Unit := .inOrder [
  create .gmu "tcl-sc7180-gmu" (gmuRes irqs),
  linkSupplier .gmu (.stage .cc),
  clocks .gmu [
    (gpuccName, "gpu_cc_cx_gmu_clk", "gmu"), (gpuccName, "gpu_cc_cxo_clk", "cxo"),
    (gccName, "gcc_ddrss_gpu_axi_clk", "axi"), (gccName, "gcc_gpu_memnoc_gfx_clk", "memnoc")],
  require (.devPmOppAddDynamic .gmu 200000000),
  activate .gmu]

/-- The vote for the memory bandwidth that goes with the only clock rate. -/
def voteBandwidth : Script (StageCall GpuStage) Unit := do
  let path ← request (.iccGet .adreno "qxm_gpu@tcl-sc7180-gnoc" "ebi@tcl-sc7180-mc")
  require (.iccSetTag path)
  require (.iccSetBw path 0 1804000)

def prepareAdreno (irqs : GpuIrqs) : Script (StageCall GpuStage) Unit := .inOrder [
  create .adreno "tcl-sc7180-adreno" (gpuRes irqs),
  linkSupplier .adreno (.stage .gmu),
  require (.devPmOppAddDynamic .adreno 180000000),
  voteBandwidth,
  activate .adreno]

def prepareGpu (resources : List FirmwareResource) : Script (StageCall GpuStage) Unit := do
  let irqs ← gpuFirmwareCheck resources
  .inOrder [
    require (.platformDriverRegister "tcl-sc7180-gmu"),
    prepareClockController,
    prepareGpuDomains,
    prepareGmu irqs,
    prepareAdreno irqs]

/-- A failure blocks the GMU and the GPU again, but not the clock controller. -/
def tclGpuInit (probing : Probing GpuStage) (resources : List FirmwareResource) :
    Script (StageCall GpuStage) InitOutcome := do
  match ← (prepareGpu resources).attempt with
  | .ok () => pure ⟨0, 0, true⟩
  | .error result =>
    blockUnbound (coordinator GpuStage) probing .gmu
    blockUnbound (coordinator GpuStage) probing .adreno
    pure ⟨0, result, false⟩

/-! ## The video codec -/

inductive VenusStage where
  | videocc | venusPd | vcodec0Pd | cxPd | venus
  deriving DecidableEq, Repr

/-- Yields the interrupt of the codec. -/
def venusFirmwareCheck : Script (StageCall VenusStage) ℤ := do
  boardCheck
  require (.regionIsDisjoint 0x0aa00000 0xff000)
  require (.regionIsDisjoint 0x0ab00000 0x10000)
  require (.regionIsDisjoint 0x85b00000 0x500000)
  request (.acpiRegisterGsi 174)

def videoccName : String := "tcl-sc7180-videocc"

def venusRes (irq : ℤ) : List Resource :=
  [.mem 0x0aa00000 0xff000 "venus", .irq irq "venus", .mem 0x85b00000 0x500000 "firmware"]

def prepareVideocc : Script (StageCall VenusStage) Unit := .inOrder [
  create .videocc videoccName [.mem 0x0ab00000 0x10000 ""],
  linkSupplier .videocc (.named rpmhccName),
  clock .videocc rpmhccName "bi_tcxo" "bi_tcxo",
  activate .videocc]

def prepareVenusDomain (stage : VenusStage) (name : String) (provided : ℤ) :
    Script (StageCall VenusStage) Unit := .inOrder [
  create stage name [],
  domain stage provided,
  require (.pmRuntimeEnable stage)]

/-- The indices `VENUS_GDSC` and `VCODEC0_GDSC` of the domains of the video clock controller, and
`SC7180_CX` of those of the power controller. -/
def venusGdsc : ℕ := 0
def vcodec0Gdsc : ℕ := 1
def sc7180Cx : ℕ := 0

def venusDomains : Script (StageCall VenusStage) (ℤ × ℤ × ℤ) := do
  require (.getDrvdata (.stage .videocc))
  require (.domains (.stage .videocc))
  let count ← ask (.numDomains (.stage .videocc))
  if count ≠ 2 then refuse .EINVAL
  else do
    let venus ← request (.domain (.stage .videocc) venusGdsc)
    let vcodec0 ← request (.domain (.stage .videocc) vcodec0Gdsc)
    require (.getDrvdata (.named rpmhpdName))
    require (.domains (.named rpmhpdName))
    let count ← ask (.numDomains (.named rpmhpdName))
    if count ≤ sc7180Cx then refuse .EINVAL
    else do
      let cx ← request (.domain (.named rpmhpdName) sc7180Cx)
      pure (venus, vcodec0, cx)

def prepareVenusDomains : Script (StageCall VenusStage) Unit := do
  let (venus, vcodec0, cx) ← venusDomains
  .inOrder [
    prepareVenusDomain .venusPd "tcl-venus-domain" venus,
    prepareVenusDomain .vcodec0Pd "tcl-vcodec0-domain" vcodec0,
    prepareVenusDomain .cxPd "tcl-venus-cx-domain" cx]

def prepareVenus (irq : ℤ) : Script (StageCall VenusStage) Unit := .inOrder [
  create .venus "tcl-sc7180-venus" (venusRes irq),
  linkSupplier .venus (.stage .videocc),
  clocks .venus [
    (videoccName, "video_cc_venus_ctl_core_clk", "core"),
    (videoccName, "video_cc_venus_ahb_clk", "iface"),
    (videoccName, "video_cc_venus_ctl_axi_clk", "bus"),
    (videoccName, "video_cc_vcodec0_core_clk", "vcodec0_core"),
    (videoccName, "video_cc_vcodec0_axi_clk", "vcodec0_bus")],
  require (.acpiDmaConfigureId .venus),
  activate .venus]

/-- What fails here is returned to the caller; no stage exists yet. -/
def findVenusSuppliers : Script (StageCall VenusStage) ℤ := do
  let irq ← venusFirmwareCheck
  supplier rpmhccName
  (supplier rpmhpdName).onFailure [.other (.putDevice rpmhccName)]
  pure irq

/-- A failure leaves every stage as it is. -/
def tclAcpiVenusInit : Script (StageCall VenusStage) InitOutcome := do
  match ← findVenusSuppliers.attempt with
  | .error ret => pure ⟨ret, 0, false⟩
  | .ok irq =>
    match ← (Script.inOrder [prepareVideocc, prepareVenusDomains, prepareVenus irq]).attempt with
    | .ok () => pure ⟨0, 0, true⟩
    | .error result => pure ⟨0, result, false⟩

end TclB220G.Display.BringUp
