import Mathlib.Logic.Function.Iterate
import TclB220G.Display.Stage

/-!
# The Wi-Fi coordinator

`wifi_work` registers the devices that the modem and the WLAN need, in four stages.  Each stage waits
until the devices of the one before are bound to their drivers.  The work queues itself again while
it waits and after every stage.  It gives up when a stage fails or has been tried 90 times.

Every call may fail and every observation may come out either way.  An answer to `acpi_irq_get` is
the interrupt number, or an error if it is negative.  The memory resources of the WLAN node are a
parameter.
-/

namespace TclB220G.Wifi

open Kernel Lib
open Display (Verdict Resource)

/-- The ACPI devices that `tcl_acpi_wifi_init` finds. -/
inductive Adev where
  | pep | glnk | amss | qwln
  deriving DecidableEq, Repr

/-- The devices that the coordinator registers.  `mpssCx` and `mpssMss` are consumers of power domains
on behalf of the modem and have no driver. -/
inductive Device where
  | cmd | apcs | rmtfs
  | rsc | qmp | smp2p
  | cc | pd | rega | regc
  | mpssCx | mpssMss | mpss | wlan
  deriving DecidableEq, Repr

inductive Parent where
  | acpi (adev : Adev)
  | rsc
  | root
  deriving DecidableEq, Repr

/-- What is used of `struct platform_device_info`, with the interrupt in the platform data of the
modem. -/
structure DeviceInfo where
  name : String
  parent : Parent
  fwnode : Option String
  res : List Resource
  glinkIrq : Option ℤ
  deriving DecidableEq, Repr

inductive WifiCall where
  | busFindSmem
  | smemIsBound
  | deviceIsBound (device : Device)
  | platformDeviceRegister (device : Device) (info : DeviceInfo)
  | platformDeviceUnregister (device : Device)
  | acpiIrqGet (adev : Adev) (index : ℕ)
  | irqGetIrqData (irq : ℤ)
  | clkHwRegisterFixedRate (name : String) (rate : ℕ)
  | powerDomain (index : ℕ)
  | pmGenpdAddDevice (device : Device)
  | pmRuntimeEnable (device : Device)
  | clkGetSys (device : Device) (con : String)
  | clkRegisterClkdev (con dev : String)
  | irqCreateFwspecMapping (bit : ℕ)
  | readMsaFixedPerm
  | acpiDevGetResources
  | acpiDevFreeResourceList
  | refusal
  deriving DecidableEq, Repr

namespace WifiCall

def verdict : WifiCall → Verdict
  | platformDeviceRegister .. | acpiIrqGet .. | clkHwRegisterFixedRate .. | clkGetSys .. |
    acpiDevGetResources | refusal => .negative
  | pmGenpdAddDevice _ | clkRegisterClkdev .. => .nonzero
  | powerDomain _ | readMsaFixedPerm => .null .EINVAL
  | irqCreateFwspecMapping _ => .positive .ENODEV
  | _ => .succeeds

/-- The slot of a device holds it from its registration on. -/
def effect (call : WifiCall) (answer : ℤ) (slots : Device → Bool) : Device → Bool :=
  match call with
  | platformDeviceRegister device _ => Function.update slots device (0 ≤ answer)
  | platformDeviceUnregister device => Function.update slots device false
  | _ => slots

end WifiCall

def wifi : Interface WifiCall (Device → Bool) where
  initial := fun _ ↦ false
  effect := WifiCall.effect
  failed := fun call ↦ call.verdict.failed
  errno := fun call ↦ call.verdict.errno
  errno_ne_zero := fun call ↦ call.verdict.errno_ne_zero

def ask (call : WifiCall) : Script WifiCall ℤ := Script.invoke call

def request (call : WifiCall) : Script WifiCall ℤ := Script.step wifi call

def require (call : WifiCall) : Script WifiCall Unit := Script.perform wifi call

def refuse {α : Type} (errno : Errno) : Script WifiCall α := Script.refuse wifi .refusal errno.ret

/-! ## Devices -/

def firmwareIrq (adev : Adev) (index gsi : ℕ) (name : String) : Script WifiCall Resource := do
  let irq ← request (.acpiIrqGet adev index)
  let hwirq ← ask (.irqGetIrqData irq)
  if hwirq ≠ gsi then refuse .EINVAL else return .irq irq name

def addDevice (device : Device) (info : DeviceInfo) : Script WifiCall Unit :=
  require (.platformDeviceRegister device info)

/-- A device whose slot is empty is not bound. -/
def bound (device : Device) : Script WifiCall Bool := do
  let slots ← Script.state wifi
  if slots device then return (← ask (.deviceIsBound device)) ≠ 0 else return false

/-- Whether all devices are bound, up to the first one that is not. -/
def allBound : List Device → Script WifiCall Bool
  | [] => return true
  | device :: devices => do
    if ← bound device then allBound devices else return false

def basicDevices : Script WifiCall Unit := do
  addDevice .cmd ⟨"cmd-db", .acpi .pep, none, [.mem 0x80820000 0x20000 ""], none⟩
  addDevice .apcs ⟨"qcom-apss-shared", .acpi .pep, some "tcl-apss", [.mem 0x17c00000 0x10000 ""], none⟩
  addDevice .rmtfs ⟨"qcom_rmtfs_mem", .acpi .amss, none, [.mem 0x80600000 0x200000 ""], none⟩

def transportDevices : Script WifiCall Unit := do
  let rscIrq ← firmwareIrq .pep 4 37 "drv-2"
  let qmpIrq ← firmwareIrq .pep 5 421 "aoss"
  let smpIrq ← firmwareIrq .glnk 0 483 "smp2p"
  addDevice .rsc ⟨"rpmh", .acpi .pep, none, [.mem 0x18220000 0x10000 "drv-2", rscIrq], none⟩
  addDevice .qmp
    ⟨"qcom_aoss_qmp", .acpi .pep, some "tcl-aoss", [.mem 0xc300000 0x400 "", qmpIrq], none⟩
  addDevice .smp2p ⟨"qcom_smp2p", .acpi .glnk, some "tcl-modem-smp2p", [smpIrq], none⟩

def powerDevices : Script WifiCall Unit := do
  require (.clkHwRegisterFixedRate "xo_board" 38400000)
  addDevice .cc ⟨"qcom-sc7180-rpmhcc", .rsc, none, [], none⟩
  addDevice .pd ⟨"qcom-sc7180-rpmhpd", .rsc, none, [], none⟩
  addDevice .rega ⟨"tcl-pm6150-reg", .rsc, none, [], none⟩
  addDevice .regc ⟨"tcl-pm6150l-reg", .rsc, none, [], none⟩

/-- The indices `SC7180_CX` and `SC7180_MSS` of the power domains. -/
def sc7180Cx : ℕ := 0
def sc7180Mss : ℕ := 7

def proxyDomain (device : Device) (name : String) (index : ℕ) : Script WifiCall Unit := do
  require (.powerDomain index)
  require (.platformDeviceRegister device ⟨name, .root, none, [], none⟩)
  Script.onFailure (require (.pmGenpdAddDevice device)) [.platformDeviceUnregister device]
  let _ ← ask (.pmRuntimeEnable device)

/-- The interrupts of the modem, by the bits in which it signals them. -/
def modemIrqs : List (ℕ × String) :=
  [(0, "fatal"), (1, "ready"), (2, "handover"), (3, "stop-ack"), (7, "shutdown-ack")]

def createMappings : List (ℕ × String) → Script WifiCall (List Resource)
  | [] => return []
  | (bit, name) :: rest => do
    let irq ← request (.irqCreateFwspecMapping bit)
    return .irq irq name :: (← createMappings rest)

def modemDevice : Script WifiCall Unit := do
  proxyDomain .mpssCx "tcl-mpss-cx" sc7180Cx
  proxyDomain .mpssMss "tcl-mpss-mss" sc7180Mss
  let _ ← request (.clkGetSys .cc "bi_tcxo")
  require (.clkRegisterClkdev "xo" "tcl-sc7180-mpss")
  let wdogIrq ← firmwareIrq .amss 0 298 "wdog"
  let irqs ← createMappings modemIrqs
  let edgeIrq ← firmwareIrq .glnk 3 481 "glink"
  let glinkIrq := match edgeIrq with
    | .irq number _ => some number
    | .mem .. => none
  addDevice .mpss ⟨"tcl-sc7180-mpss", .acpi .amss, some "tcl-mpss",
    [.mem 0x86000000 0x2000000 "firmware", wdogIrq] ++ irqs, glinkIrq⟩

/-- A resource of an ACPI device. -/
structure AcpiResource where
  isMem : Bool
  start : ℕ
  size : ℕ
  deriving DecidableEq, Repr

/-- The memory resources that the firmware has to describe, in order. -/
def wlanWindows : List (ℕ × ℕ) :=
  [(0x18800000, 0x800000), (0xc250000, 0x10), (0x93900000, 0x200000)]

/-- The loop over the resources of the WLAN node, with the value of `nmem` so far. -/
def checkWindows (nmem : ℕ) : List AcpiResource → Bool
  | [] => nmem = 3
  | entry :: rest =>
    if !entry.isMem then checkWindows nmem rest
    else if wlanWindows[nmem]? = some (entry.start, entry.size) then checkWindows (nmem + 1) rest
    else false

def wlanIrqs : List ℕ → Script WifiCall (List Resource)
  | [] => return []
  | index :: rest => do
    let irq ← firmwareIrq .qwln index (446 + index) ""
    return irq :: (← wlanIrqs rest)

variable (resources : List AcpiResource)

def wlanDevice : Script WifiCall Unit := do
  require .readMsaFixedPerm
  let _ ← request .acpiDevGetResources
  let _ ← ask .acpiDevFreeResourceList
  if checkWindows 0 resources then
    let irqs ← wlanIrqs (List.range 12)
    addDevice .wlan ⟨"tcl-wcn3990", .acpi .amss, some "\\_SB.AMSS.QWLN",
      [.mem 0x18800000 0x800000 "membase", .mem 0x93900000 0x200000 "msa"] ++ irqs, none⟩
  else refuse .EINVAL

/-! ## The work -/

/-- How a run of the work leaves the switch without an error. -/
inductive Outcome where
  | retry | registered | ready
  deriving DecidableEq, Repr

/-- The part of a stage that comes after its check. -/
def whenBound (devices : List Device) (body : Script WifiCall Unit) (outcome : Outcome) :
    Script WifiCall Outcome := do
  if ← allBound devices then
    body
    return outcome
  else return .retry

/-- The switch over the stage. -/
def tryStage : ℕ → Script WifiCall Outcome
  | 0 => do
    if (← ask .busFindSmem) = 0 then return .retry
    else if (← ask .smemIsBound) = 0 then return .retry
    else
      basicDevices
      return .registered
  | 1 => whenBound [.cmd, .apcs, .rmtfs] transportDevices .registered
  | 2 => whenBound [.rsc, .qmp, .smp2p] powerDevices .registered
  | 3 => whenBound [.cc, .pd, .rega, .regc] (do modemDevice; wlanDevice resources) .registered
  | 4 => whenBound [.mpss, .wlan] (pure ()) .ready
  | _ => return .registered

/-- The static variables of the coordinator, whether the work is queued, and the calls made so far. -/
structure WifiState where
  stage : ℕ
  attempts : ℕ
  ready : Bool
  queued : Bool
  trace : List (WifiCall × ℤ)

def maxAttempts : ℕ := 90

def wifiWork (oracle : ℕ → WifiCall → ℤ) (state : WifiState) :
    WifiState :=
  let state := { state with attempts := state.attempts + 1, queued := false }
  if state.attempts > maxAttempts then state
  else
    match tryStage resources state.stage oracle state.trace with
    | (.error _, trace) => { state with trace }
    | (.ok .retry, trace) => { state with trace, queued := true }
    | (.ok .registered, trace) =>
      { state with trace, stage := state.stage + 1, attempts := 0, queued := true }
    | (.ok .ready, trace) => { state with trace, ready := true }

/-- The work runs when it is queued. -/
def step (oracle : ℕ → WifiCall → ℤ) (state : WifiState) :
    WifiState :=
  if state.queued then wifiWork resources oracle state else state

/-- The state in which `tcl_acpi_wifi_init` leaves the coordinator, the module parameters `stage` and
`ready` being left at their defaults. -/
def initial : WifiState := ⟨0, 0, false, true, []⟩

/-- The state after a number of turns of the work queue. -/
def run (oracle : ℕ → WifiCall → ℤ) (turns : ℕ) : WifiState :=
  (step resources oracle)^[turns] initial

end TclB220G.Wifi
