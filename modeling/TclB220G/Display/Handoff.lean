import TclB220G.Display.Stage

/-!
# The display handoff

`tcl_display_init` builds the devices of the display pipeline in the order of their supplies.  The
firmware still scans out of memory at that time.  Creating the display engine's device attaches its
stream to a new IOMMU domain, so the firmware's scanout has to be stopped before.

Every call may fail and every register may read as anything.  How often the status register is polled
before the time is up is a parameter.  Firmware validation and the search for a supplier are single
calls here.
-/

namespace TclB220G.Display

open Kernel Lib

inductive Stage where
  | bcm
  | noc (index : Fin 5)
  | gcc | dispcc | phyReg | phy | mdss | dpu | dsiReg | refgen | dsi
  deriving DecidableEq, Repr

inductive Supplier where
  | rpmhcc | rpmhpd | rpmhParent
  | stage (stage : Stage)
  deriving DecidableEq, Repr

/-- The calls of the display coordinator besides those of its stages. -/
inductive BoardCall where
  | checkFirmware
  | getSupplier (name : String)
  | commonParent
  | cxDomain
  | putDevice (name : String)
  | deviceLinkAdd (consumer : Stage) (supplier : Supplier)
  | iccGet (source destination : String)
  | iccSetTag (source : String)
  | platformGetDrvdata (stage : Stage)
  | tryModuleGet (stage : Stage)
  | irqFindMatchingFwnode (stage : Stage)
  | irqCreateMapping (hwirq : ℕ)
  | irqDisposeMapping (irq : ℤ)
  | toSoftwareNode (stage : Stage)
  | softwareNodeRegisterNodeGroup
  | acpiGetHandle (path : String)
  | acpiGetAcpiDev (path : String)
  | acpiDevPut (path : String)
  | busFindDeviceByFwnode
  | controllerIsBound
  | controllerHasProperty
  | controllerCreateSoftwareNode
  | controllerAttach
  | i2cGetAdapterByFwnode
  | adapterParent
  | i2cFindDeviceByFwnode
  | clientAdapter
  | clientAddr
  | clientFlags
  | clientIsBound
  | clientAddSoftwareNode
  | clientLinkAdd
  | clientAttach
  | pmRuntimeResumeAndGet (stage : Stage)
  | pmRuntimePutSync (stage : Stage)
  | ioremap (start size : ℕ)
  | iounmap
  | readl (offset : ℕ)
  | writel (value offset : ℕ)
  | setPerformanceState (stage : Stage) (state : ℕ)
  | clkPrepareEnable (clk : ℤ)
  | clkDisableUnprepare (clk : ℤ)
  | clkSetRate (clk : ℤ) (rate : ℕ)
  | clkGetRate (clk : ℤ)
  | clkSetParent (clk parent : ℤ)
  | clkIsMatch (clk parent : ℤ)
  deriving DecidableEq, Repr

namespace BoardCall

def verdict : BoardCall → Verdict
  | getSupplier _ | pmRuntimeResumeAndGet _ => .negative
  | commonParent | cxDomain | tryModuleGet _ | acpiGetAcpiDev _ => .null .ENODEV
  | deviceLinkAdd .. | clientLinkAdd | irqCreateMapping _ | ioremap .. => .null .ENOMEM
  | irqFindMatchingFwnode _ | i2cGetAdapterByFwnode => .null .EPROBE_DEFER
  | toSoftwareNode _ | clkIsMatch .. => .null .EINVAL
  | iccGet .. => .positive .ENODEV
  | controllerAttach | clientAttach => .positive .EPROBE_DEFER
  | acpiGetHandle _ => .nonzeroIs .ENODEV
  | checkFirmware | softwareNodeRegisterNodeGroup | controllerCreateSoftwareNode |
    clientAddSoftwareNode | setPerformanceState .. | clkPrepareEnable _ | clkSetRate .. |
    clkSetParent .. => .nonzero
  | _ => .succeeds

/-- The calls that only give back what the coordinator holds for itself. -/
def cleanup : BoardCall → Bool
  | putDevice _ | irqDisposeMapping _ | pmRuntimePutSync _ | iounmap => true
  | _ => false

end BoardCall

abbrev DisplayCall := Call Stage BoardCall

def display : Coordinator BoardCall := ⟨BoardCall.verdict⟩

def ask (call : BoardCall) : Script DisplayCall ℤ := Script.invoke (.other call)

def request (call : BoardCall) : Script DisplayCall ℤ :=
  Script.step display.interface (.other call)

def require (call : BoardCall) : Script DisplayCall Unit := display.perform (.other call)

def linkSupplier (consumer : Stage) (supplier : Supplier) : Script DisplayCall Unit :=
  require (.deviceLinkAdd consumer supplier)

/-! ## Names and resources -/

def gccRes : List Resource := [.mem 0x100000 0x1f0000 ""]
def dispccRes : List Resource := [.mem 0xaf00000 0x20000 ""]
def mdssMem : Resource := .mem 0xae00000 0x1000 "mdss"
def dsiMem : Resource := .mem 0xae94000 0x400 "dsi_ctrl"
def dpuMem : List Resource := [.mem 0xae01000 0x8f000 "mdp", .mem 0xaeb0000 0x3000 "vbif"]
def refgenRes : List Resource := [.mem 0xff1000 0x60 ""]

def phyRes : List Resource :=
  [.mem 0xae94400 0x200 "dsi_phy", .mem 0xae94600 0x280 "dsi_phy_lane",
    .mem 0xae94a00 0x1e0 "dsi_pll"]

def rpmhccName : String := "qcom-sc7180-rpmhcc"
def rpmhpdName : String := "qcom-sc7180-rpmhpd"
def gccName : String := "tcl-display-gcc"
def dispccName : String := "tcl-sc7180-dispcc"
def phyName : String := "tcl-sc7180-dsi-phy"

def nocNames : List (Fin 5 × String) :=
  [(0, "tcl-sc7180-mc"), (1, "tcl-sc7180-cnoc"), (2, "tcl-sc7180-snoc"), (3, "tcl-sc7180-gnoc"),
    (4, "tcl-sc7180-mnoc")]

/-! ## Preparation -/

/-- The validation before the first stage.  It yields the CX domain. -/
def findSuppliers : Script DisplayCall ℤ := do
  require .checkFirmware
  Script.onFailure (do
    let _ ← request (.getSupplier rpmhccName)
    Script.onFailure (do
      let _ ← request (.getSupplier rpmhpdName)
      Script.onFailure (do
        require .commonParent
        request .cxDomain) [.other (.putDevice rpmhpdName)]) [.other (.putDevice rpmhccName)])
    [.other (.putDevice "gpu")]

def prepareNoc (noc : Fin 5 × String) : Script DisplayCall Unit := .inOrder [
  display.tclDisplayStageCreate (.noc noc.1) noc.2 [],
  linkSupplier (.noc noc.1) (.stage .bcm),
  display.tclDisplayStageActivate (.noc noc.1)]

def prepareInterconnects : Script DisplayCall Unit := .inOrder <|
  [display.tclDisplayStageCreate .bcm "tcl-bcm-voter" [],
    linkSupplier .bcm .rpmhParent,
    display.tclDisplayStageActivate .bcm] ++
  nocNames.map prepareNoc ++
  [require (.iccGet "qxm_mdp0@tcl-sc7180-mnoc" "ebi@tcl-sc7180-mc"),
    require (.iccGet "acm_apps0@tcl-sc7180-gnoc" "qhs_display_cfg@tcl-sc7180-cnoc"),
    require (.iccSetTag "qxm_mdp0@tcl-sc7180-mnoc"),
    require (.iccSetTag "acm_apps0@tcl-sc7180-gnoc")]

def prepareGcc (cx : ℤ) : Script DisplayCall Unit := .inOrder [
  display.tclDisplayStageCreate .gcc gccName gccRes,
  linkSupplier .gcc .rpmhcc,
  linkSupplier .gcc .rpmhpd,
  display.tclDisplayStageClock .gcc rpmhccName "bi_tcxo" "bi_tcxo",
  display.tclDisplayStageDomain .gcc cx,
  display.tclDisplayStageActivate .gcc]

/-- Attaches a stage to the domain that the display clock controller provides. -/
def attachMdssDomain (stage : Stage) : Script DisplayCall Unit := do
  let domain ← ask (.platformGetDrvdata .dispcc)
  display.tclDisplayStageDomain stage domain

/-- The display clock controller has to provide a domain once it is bound. -/
def requireMdssDomain : Script DisplayCall Unit := do
  let domain ← ask (.platformGetDrvdata .dispcc)
  if domain = 0 then display.refuse .ENODEV else pure ()

def prepareDispcc : Script DisplayCall Unit := .inOrder [
  display.tclDisplayStageCreate .dispcc dispccName dispccRes,
  linkSupplier .dispcc .rpmhcc,
  linkSupplier .dispcc (.stage .gcc),
  display.tclDisplayStageClock .dispcc rpmhccName "bi_tcxo" "bi_tcxo",
  display.tclDisplayStageClock .dispcc gccName "gcc_disp_gpll0_clk_src" "gcc_disp_gpll0_clk_src",
  display.tclDisplayStageClock .dispcc gccName "gcc_disp_ahb_clk" "iface",
  display.tclDisplayStageActivate .dispcc,
  requireMdssDomain]

def preparePhyRegulator : Script DisplayCall Unit := .inOrder [
  display.tclDisplayStageCreateFull .phyReg "tcl-pm6150-reg" 1 [],
  linkSupplier .phyReg .rpmhParent,
  display.tclDisplayStageActivate .phyReg]

def preparePhy : Script DisplayCall Unit := .inOrder [
  display.tclDisplayStageCreate .phy phyName phyRes,
  linkSupplier .phy (.stage .phyReg),
  linkSupplier .phy (.stage .dispcc),
  linkSupplier .phy .rpmhcc,
  display.tclDisplayStageClock .phy dispccName "disp_cc_mdss_ahb_clk" "iface",
  display.tclDisplayStageClock .phy rpmhccName "bi_tcxo" "ref",
  attachMdssDomain .phy,
  display.tclDisplayStageActivate .phy,
  require (.tryModuleGet .phy)]

def linkNocs (consumer : Stage) : Script DisplayCall Unit :=
  .inOrder (nocNames.map fun noc ↦ linkSupplier consumer (.stage (.noc noc.1)))

/-- The interrupt of the display subsystem is found by the firmware validation. -/
def prepareMdss (mdssIrq : ℤ) : Script DisplayCall Unit := .inOrder [
  display.tclDisplayStageCreate .mdss "tcl-sc7180-mdss" [mdssMem, .irq mdssIrq "mdss"],
  linkSupplier .mdss (.stage .gcc),
  linkSupplier .mdss (.stage .dispcc),
  linkNocs .mdss,
  display.tclDisplayStageClock .mdss gccName "gcc_disp_ahb_clk" "iface",
  display.tclDisplayStageClock .mdss dispccName "disp_cc_mdss_ahb_clk" "ahb",
  display.tclDisplayStageClock .mdss dispccName "disp_cc_mdss_mdp_clk" "core",
  attachMdssDomain .mdss,
  display.tclDisplayStageActivate .mdss]

/-- Creates a stage below the display subsystem with an interrupt of its own, which is given back
if the creation fails. -/
def createBelowMdss (stage : Stage) (name : String) (hwirq : ℕ) (resources : ℤ → List Resource) :
    Script DisplayCall Unit := do
  require (.irqFindMatchingFwnode .mdss)
  let irq ← request (.irqCreateMapping hwirq)
  (display.tclDisplayStageCreate stage name (resources irq)).onFailure
    [.other (.irqDisposeMapping irq)]

def stageClocks (stage : Stage) (clocks : List (String × String × String)) :
    Script DisplayCall Unit :=
  .inOrder (clocks.map fun clock ↦
    display.tclDisplayStageClock stage clock.1 clock.2.1 clock.2.2)

/-- The display engine stays blocked until the component graph is complete. -/
def prepareDpu (cx : ℤ) : Script DisplayCall Unit := .inOrder [
  createBelowMdss .dpu "tcl-sc7180-dpu" 0 fun irq ↦ dpuMem ++ [.irq irq "dpu"],
  linkSupplier .dpu .rpmhpd,
  linkSupplier .dpu (.stage .gcc),
  linkSupplier .dpu (.stage .dispcc),
  linkNocs .dpu,
  stageClocks .dpu [
    (gccName, "gcc_disp_hf_axi_clk", "bus"), (dispccName, "disp_cc_mdss_ahb_clk", "iface"),
    (dispccName, "disp_cc_mdss_rot_clk", "rot"), (dispccName, "disp_cc_mdss_mdp_lut_clk", "lut"),
    (dispccName, "disp_cc_mdss_mdp_clk", "core"), (dispccName, "disp_cc_mdss_vsync_clk", "vsync")],
  display.tclDisplayStageDomain .dpu cx]

def prepareDsiSupplies : Script DisplayCall Unit := .inOrder [
  display.tclDisplayStageCreateFull .dsiReg "tcl-pm6150l-reg" 2 [],
  linkSupplier .dsiReg .rpmhParent,
  display.tclDisplayStageActivate .dsiReg,
  display.tclDisplayStageCreateFull .refgen "tcl-sc7180-refgen" (-1) refgenRes,
  display.tclDisplayStageActivate .refgen]

def prepareDisplayGraph : Script DisplayCall Unit := .inOrder [
  require (.toSoftwareNode .dpu),
  require (.toSoftwareNode .dsi),
  require .softwareNodeRegisterNodeGroup]

def prepareDsi (cx : ℤ) : Script DisplayCall Unit := .inOrder [
  createBelowMdss .dsi "tcl-sc7180-dsi" 4 fun irq ↦ [dsiMem, .irq irq "dsi"],
  linkSupplier .dsi .rpmhpd,
  linkSupplier .dsi (.stage .dispcc),
  linkSupplier .dsi (.stage .gcc),
  linkSupplier .dsi (.stage .phy),
  linkSupplier .dsi (.stage .dsiReg),
  linkSupplier .dsi (.stage .refgen),
  stageClocks .dsi [
    (dispccName, "disp_cc_mdss_byte0_clk", "byte"),
    (dispccName, "disp_cc_mdss_byte0_intf_clk", "byte_intf"),
    (dispccName, "disp_cc_mdss_pclk0_clk", "pixel"), (dispccName, "disp_cc_mdss_esc0_clk", "core"),
    (dispccName, "disp_cc_mdss_ahb_clk", "iface"), (gccName, "gcc_disp_hf_axi_clk", "bus")],
  display.tclDisplayStageDomain .dsi cx,
  prepareDisplayGraph]

/-- The device of an ACPI path, looked up by the given call.  The reference on the ACPI device is
given back before the result is looked at. -/
def findByPath (path : String) (find : BoardCall) : Script DisplayCall ℤ := do
  require (.acpiGetHandle path)
  require (.acpiGetAcpiDev path)
  let found ← ask find
  let _ ← ask (.acpiDevPut path)
  if found = 0 then display.refuse .EPROBE_DEFER else pure found

def describeController : Script DisplayCall Unit := do
  let bound ← ask .controllerIsBound
  let described ← ask .controllerHasProperty
  if bound ≠ 0 then
    if described = 0 then display.refuse .EBUSY else pure ()
  else if described = 0 then require .controllerCreateSoftwareNode
  else pure ()

def checkClient (adapter : ℤ) : Script DisplayCall Unit := do
  let owner ← ask .clientAdapter
  let addr ← ask .clientAddr
  let flags ← ask .clientFlags
  if owner ≠ adapter ∨ addr ≠ 0x29 ∨ BitVec.ofInt 16 flags &&& 0x10 ≠ 0 then
    display.refuse .EINVAL
  else pure ()

def describeClient : Script DisplayCall Unit := do
  let bound ← ask .clientIsBound
  if bound ≠ 0 then display.refuse .EBUSY else require .clientAddSoftwareNode

def checkAdapter (controller : ℤ) : Script DisplayCall Unit := do
  let parent ← ask .adapterParent
  if parent ≠ controller then display.refuse .EINVAL else pure ()

def prepareBridgeClient : Script DisplayCall Unit := do
  let controller ← findByPath "\\_SB.IC11" .busFindDeviceByFwnode
  describeController
  require .controllerAttach
  let adapter ← request .i2cGetAdapterByFwnode
  checkAdapter controller
  let _ ← findByPath "\\_SB.EDP1" .i2cFindDeviceByFwnode
  checkClient adapter
  describeClient
  require .clientLinkAdd

/-! ## Stopping the firmware's scanout -/

def intfBase : ℕ := 0x6a800
def timingEnable : ℕ := intfBase
def intfStatus : ℕ := intfBase + 0x26c

def dpuRevision : BitVec 32 := 0x60020000

/-- The interface has stopped when bit 0 of its status is clear. -/
def stopped (status : ℤ) : Bool := BitVec.ofInt 32 status &&& 1 = 0

/-- The loop of `readl_poll_timeout`.  When the time is up the register is read once more. -/
def pollStatus : ℕ → Script DisplayCall ℤ
  | 0 => do
    let status ← ask (.readl intfStatus)
    if stopped status then pure status else ask (.readl intfStatus)
  | polls + 1 => do
    let status ← ask (.readl intfStatus)
    if stopped status then pure status else pollStatus polls

def stopTiming (polls : ℕ) : Script DisplayCall Unit := do
  let revision ← ask (.readl 0)
  if BitVec.ofInt 32 revision ≠ dpuRevision then display.refuse .ENODEV
  else do
    let enable ← ask (.readl timingEnable)
    let _ ← ask (.readl intfStatus)
    if BitVec.ofInt 32 enable &&& ~~~1 ≠ 0 then display.refuse .EINVAL
    else do
      let _ ← ask (.writel 0 timingEnable)
      let status ← pollStatus polls
      if stopped status then pure () else display.refuse .ETIMEDOUT

def quiesceFirmwareScanout (polls : ℕ) : Script DisplayCall Unit := do
  let stages ← Script.state display.interface
  if (stages .mdss).pdev.isNone then display.refuse .ENODEV
  else do
    require (.pmRuntimeResumeAndGet .mdss)
    Script.ensuring (do
      require (.ioremap 0xae01000 0x8f000)
      (stopTiming polls).ensuring [.other .iounmap]) [.other (.pmRuntimePutSync .mdss)]

/-! ## Activation -/

/-- Runs the body with the clocks of the given providers and puts them afterwards, the last one
first.  If a clock is missing, those before it are put. -/
def withClocks (body : List ℤ → Script DisplayCall Unit) :
    List (String × String) → List ℤ → Script DisplayCall Unit
  | [], clks => body clks
  | clock :: clocks, clks => do
    let clk ← Script.step display.interface (.clkGetSys clock.1 clock.2)
    (withClocks body clocks (clks ++ [clk])).ensuring [.clkPut clk]

/-- Takes over a clock that the firmware left running. -/
def adoptClock (clk : ℤ) : Script DisplayCall Unit := .inOrder [
  require (.clkPrepareEnable clk),
  require (.clkDisableUnprepare clk)]

def setRate (clk : ℤ) (rate : ℕ) : Script DisplayCall Unit := do
  require (.clkSetRate clk rate)
  let actual ← ask (.clkGetRate clk)
  if actual ≠ rate then display.refuse .EINVAL else pure ()

def setParent (clk parent : ℤ) : Script DisplayCall Unit := .inOrder [
  require (.clkSetParent clk parent),
  require (.clkIsMatch clk parent)]

def displayClocks : List (String × String) :=
  [(dispccName, "disp_cc_mdss_ahb_clk"), (dispccName, "disp_cc_mdss_vsync_clk"),
    (dispccName, "disp_cc_mdss_rot_clk"), (dispccName, "disp_cc_mdss_mdp_clk"),
    (dispccName, "disp_cc_mdss_byte0_clk_src"), (dispccName, "disp_cc_mdss_pclk0_clk_src"),
    (phyName, "dsi0_phy_pll_out_byteclk"), (phyName, "dsi0_phy_pll_out_dsiclk"),
    (dispccName, "disp_cc_mdss_byte0_clk"), (dispccName, "disp_cc_mdss_byte0_intf_clk"),
    (dispccName, "disp_cc_mdss_pclk0_clk")]

def configureClocks (clks : List ℤ) : Script DisplayCall Unit :=
  let clk (index : ℕ) : ℤ := clks.getD index 0
  .inOrder [
    adoptClock (clk 8), adoptClock (clk 9), adoptClock (clk 10),
    setRate (clk 0) 19200000, setRate (clk 1) 19200000, setRate (clk 2) 19200000,
    setRate (clk 3) 200000000,
    setParent (clk 4) (clk 6), setParent (clk 5) (clk 7)]

def prepareClockDefaults : Script DisplayCall Unit :=
  withClocks (fun clks ↦ do
    require (.setPerformanceState .gcc 256)
    require (.pmRuntimeResumeAndGet .phy)
    (configureClocks clks).ensuring [.other (.pmRuntimePutSync .phy)]) displayClocks []

def activateDisplay : Script DisplayCall Unit := .inOrder [
  prepareClockDefaults,
  display.tclDisplayStageActivate .dsi,
  require .clientAttach,
  display.tclDisplayStageActivate .dpu]

/-- The stages in the order in which they are blocked. -/
def pendingStages : List Stage :=
  [.dpu, .dsi, .refgen, .dsiReg, .mdss, .phy, .phyReg, .dispcc, .gcc,
    .noc 4, .noc 3, .noc 2, .noc 1, .noc 0, .bcm]

/-- An override that cannot be set does not keep the later stages from being blocked. -/
def blockPendingProbes : List Stage → Script DisplayCall Unit
  | [] => pure ()
  | stage :: stages => do
    let current ← Script.state display.interface
    if (current stage).pdev.isSome then
      let _ ← Script.invoke (.deviceSetDriverOverride stage .block)
    blockPendingProbes stages

/-- Everything from the first stage on, for a board with the given interrupt and CX domain. -/
def prepareDisplay (scanout : Bool) (polls : ℕ) (mdssIrq cx : ℤ) : Script DisplayCall Unit :=
  .inOrder [
    prepareInterconnects,
    prepareGcc cx,
    prepareDispcc,
    preparePhyRegulator,
    preparePhy,
    prepareMdss mdssIrq,
    if scanout then quiesceFirmwareScanout polls else pure (),
    prepareDpu cx,
    prepareDsiSupplies,
    prepareDsi cx,
    prepareBridgeClient,
    if scanout then activateDisplay else pure ()]

/-- What `tcl_display_init` returns, and the module parameters that it sets. -/
structure InitOutcome where
  ret : ℤ
  result : ℤ
  ready : Bool
  deriving DecidableEq, Repr

def tclDisplayInit (scanout : Bool) (polls : ℕ) (mdssIrq : ℤ) : Script DisplayCall InitOutcome := do
  match ← findSuppliers.attempt with
  | .error ret => pure ⟨ret, 0, false⟩
  | .ok cx =>
    match ← (prepareDisplay scanout polls mdssIrq cx).attempt with
    | .ok () => pure ⟨0, 0, true⟩
    | .error result =>
      blockPendingProbes pendingStages
      pure ⟨0, result, false⟩

end TclB220G.Display
