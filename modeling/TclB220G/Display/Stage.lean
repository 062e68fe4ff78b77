import Mathlib.Logic.Function.Basic
import TclB220G.Kernel.Errno
import TclB220G.Lib.Script

/-!
# Staged platform devices

The coordinators of the display, the GPU and the video codec create the platform devices that the
firmware does not describe.  Each device is a stage: it is created with a driver override that no
driver matches, gets its clocks and its power domain, and is then released to its driver.

A coordinator names its stages by a type of its own and makes further calls besides those of the
stages.  Both are parameters here.
-/

namespace TclB220G.Display

open Kernel Lib

/-- The two values that the driver override of a stage is set to. -/
inductive Override where
  | block
  | clear
  deriving DecidableEq, Repr

inductive Resource where
  | mem (start size : ℕ) (name : String)
  | irq (number : ℤ) (name : String)
  deriving DecidableEq, Repr

/-- The calls that stages make, with those of the coordinator as `other`.  A call between the
allocation of a device and its addition is about the device that is not yet in the stage. -/
inductive Call (Id Other : Type) where
  | platformDeviceAlloc (stage : Id) (name : String) (id : ℤ)
  | overrideAllocated (stage : Id)
  | platformDeviceAddResources (stage : Id) (resources : List Resource)
  | deviceCreateManagedSoftwareNode (stage : Id)
  | platformDeviceAddData (stage : Id)
  | platformDeviceAdd (stage : Id)
  | platformDevicePut (stage : Id)
  | clkGetSys (provider source : String)
  | qcomTclClkdevLookup (stage : Id) (clk : ℤ) (consumer : String)
  | clkPut (clk : ℤ)
  | foreignDomain (stage : Id)
  | pmGenpdAddDevice (stage : Id) (domain : ℤ)
  | deviceSetDriverOverride (stage : Id) (override : Override)
  | deviceAttach (stage : Id)
  | deviceReleaseDriver (stage : Id)
  | pmGenpdRemoveDevice (stage : Id)
  | clkdevDrop (stage : Id) (lookup : ℤ)
  | platformDeviceUnregister (stage : Id)
  | refusal
  | other (call : Other)
  deriving DecidableEq, Repr

structure PlatformDevice where
  blocked : Bool
  bound : Bool
  deriving DecidableEq, Repr

/-- A device as it is allocated. -/
def PlatformDevice.fresh : PlatformDevice := ⟨false, false⟩

/-- A stage with the clocks and lookups it holds, the last one first, and the device that its
creation has allocated but not yet added. -/
structure DisplayStage where
  allocated : Option PlatformDevice
  pdev : Option PlatformDevice
  clocks : List (ℤ × ℤ)
  domainAttached : Bool
  deriving DecidableEq, Repr

namespace DisplayStage

def empty : DisplayStage := ⟨none, none, [], false⟩

def maxClocks : ℕ := 8

def setOverride (stage : DisplayStage) (override : Override) : DisplayStage :=
  { stage with pdev := stage.pdev.map fun device ↦ { device with blocked := override = .block } }

def setBound (stage : DisplayStage) (bound : Bool) : DisplayStage :=
  { stage with pdev := stage.pdev.map fun device ↦ { device with bound } }

end DisplayStage

/-- How a caller tells from the answer of a call that it failed, and which error it makes of it. -/
inductive Verdict where
  | succeeds
  | nonzero
  | nonzeroIs (errno : Errno)
  | negative
  | null (errno : Errno)
  | positive (errno : Errno)

namespace Verdict

def failed : Verdict → ℤ → Bool
  | succeeds, _ => false
  | nonzero, answer => answer ≠ 0
  | nonzeroIs _, answer => answer ≠ 0
  | negative, answer => answer < 0
  | null _, answer => answer = 0
  | positive _, answer => answer ≤ 0

def errno : Verdict → ℤ → ℤ
  | nonzeroIs errno, _ => errno.ret
  | null errno, _ => errno.ret
  | positive errno, answer => if answer = 0 then errno.ret else answer
  | _, answer => answer

theorem errno_ne_zero (verdict : Verdict) (answer : ℤ) (hfailed : verdict.failed answer = true) :
    verdict.errno answer ≠ 0 := by
  cases verdict <;> simp only [failed, errno, decide_eq_true_eq, Bool.false_eq_true] at hfailed ⊢
  case nonzero => exact hfailed
  case nonzeroIs errno => exact errno.ret_ne_zero
  case negative => exact ne_of_lt hfailed
  case null errno => exact errno.ret_ne_zero
  case positive errno =>
    split_ifs with hzero
    · exact errno.ret_ne_zero
    · exact hzero

end Verdict

/-- How the calls of a coordinator fail. -/
structure Coordinator (Other : Type) where
  verdict : Other → Verdict

section

variable {Id Other : Type}

/-- What a call does to the stage it is about. -/
def Call.effect [DecidableEq Id] (call : Call Id Other) (answer : ℤ)
    (stages : Id → DisplayStage) : Id → DisplayStage :=
  let change (stage : Id) (f : DisplayStage → DisplayStage) :=
    Function.update stages stage (f (stages stage))
  match call with
  | .platformDeviceAlloc stage _ _ =>
    if answer = 0 then stages
    else change stage fun s ↦ { s with allocated := some .fresh }
  | .overrideAllocated stage =>
    if answer = 0 then
      change stage fun s ↦
        { s with allocated := s.allocated.map fun device ↦ { device with blocked := true } }
    else stages
  | .platformDeviceAdd stage =>
    if answer = 0 then
      change stage fun s ↦ { s with allocated := none, pdev := some (s.allocated.getD .fresh) }
    else stages
  | .platformDevicePut stage => change stage fun s ↦ { s with allocated := none }
  | .qcomTclClkdevLookup stage clk _ =>
    if answer < 0 then stages
    else change stage fun s ↦ { s with clocks := (clk, answer) :: s.clocks }
  | .pmGenpdAddDevice stage _ =>
    if answer = 0 then change stage fun s ↦ { s with domainAttached := true } else stages
  | .deviceSetDriverOverride stage override =>
    if answer = 0 then change stage fun s ↦ s.setOverride override else stages
  | .deviceAttach stage =>
    if 0 < answer then change stage fun s ↦ s.setBound true else stages
  | .deviceReleaseDriver stage => change stage fun s ↦ s.setBound false
  | .pmGenpdRemoveDevice stage =>
    if answer = 0 then change stage fun s ↦ { s with domainAttached := false } else stages
  | .clkdevDrop stage _ => change stage fun s ↦ { s with clocks := s.clocks.tail }
  | .platformDeviceUnregister stage => change stage fun s ↦ { s with pdev := none }
  | _ => stages

namespace Coordinator

variable (coordinator : Coordinator Other)

/-- A clock or a lookup is an error pointer when it fails, and attaching a driver fails unless it
reports a bound device. -/
def callVerdict : Call Id Other → Verdict
  | .platformDeviceAlloc .. => .null .ENOMEM
  | .clkGetSys .. | .qcomTclClkdevLookup .. => .negative
  | .deviceAttach _ => .positive .EPROBE_DEFER
  | .foreignDomain _ => .nonzeroIs .EBUSY
  | .platformDevicePut _ | .clkPut _ | .deviceReleaseDriver _ | .clkdevDrop .. |
    .platformDeviceUnregister _ => .succeeds
  | .other call => coordinator.verdict call
  | _ => .nonzero

def interface [DecidableEq Id] : Interface (Call Id Other) (Id → DisplayStage) where
  initial := fun _ ↦ .empty
  effect := Call.effect
  failed call := (coordinator.callVerdict call).failed
  errno call := (coordinator.callVerdict call).errno
  errno_ne_zero call := (coordinator.callVerdict call).errno_ne_zero

/-! ## The functions of a stage -/

variable [DecidableEq Id]

/-- A check of a stage function that is not met. -/
def refuse {α : Type} (errno : Errno) : Script (Call Id Other) α :=
  Script.refuse coordinator.interface .refusal errno.ret

def perform (call : Call Id Other) : Script (Call Id Other) Unit :=
  Script.perform coordinator.interface call

variable (stage : Id)

/-- The device is blocked before it is added, and dropped again if a step before or in the addition
fails; only an added device is stored in the stage. -/
def tclDisplayStageCreateFull (name : String) (id : ℤ) (resources : List Resource) :
    Script (Call Id Other) Unit := do
  let stages ← Script.state coordinator.interface
  if (stages stage).pdev.isSome then coordinator.refuse .EBUSY
  else do
    coordinator.perform (.platformDeviceAlloc stage name id)
    (Script.inOrder [
      coordinator.perform (.overrideAllocated stage),
      coordinator.perform (.platformDeviceAddResources stage resources),
      coordinator.perform (.deviceCreateManagedSoftwareNode stage),
      coordinator.perform (.platformDeviceAddData stage),
      coordinator.perform (.platformDeviceAdd stage)]).onFailure [.platformDevicePut stage]

/-- Creation under a bare name, `PLATFORM_DEVID_NONE`. -/
def tclDisplayStageCreate (name : String) (resources : List Resource) :
    Script (Call Id Other) Unit :=
  coordinator.tclDisplayStageCreateFull stage name (-1) resources

def tclDisplayStageClock (provider source consumer : String) :
    Script (Call Id Other) Unit := do
  let stages ← Script.state coordinator.interface
  match (stages stage).pdev with
  | none => coordinator.refuse .EINVAL
  | some device =>
    if (stages stage).clocks.length = DisplayStage.maxClocks then coordinator.refuse .EINVAL
    else if device.blocked = false then coordinator.refuse .EBUSY
    else do
      let clk ← Script.step coordinator.interface (.clkGetSys provider source)
      (coordinator.perform (.qcomTclClkdevLookup stage clk consumer)).onFailure [.clkPut clk]

def tclDisplayStageDomain (domain : ℤ) : Script (Call Id Other) Unit := do
  let stages ← Script.state coordinator.interface
  match (stages stage).pdev with
  | none => coordinator.refuse .EINVAL
  | some device =>
    if domain = 0 then coordinator.refuse .EINVAL
    else if (stages stage).domainAttached then coordinator.refuse .EBUSY
    else do
      coordinator.perform (.foreignDomain stage)
      if device.blocked = false then coordinator.refuse .EBUSY
      else coordinator.perform (.pmGenpdAddDevice stage domain)

def tclDisplayStageActivate : Script (Call Id Other) Unit := do
  let stages ← Script.state coordinator.interface
  if (stages stage).pdev.isNone then coordinator.refuse .EINVAL
  else do
    coordinator.perform (.deviceSetDriverOverride stage .clear)
    coordinator.perform (.deviceAttach stage)

def tclDisplayStageQuiesce : Script (Call Id Other) Unit := do
  let stages ← Script.state coordinator.interface
  if (stages stage).pdev.isNone then pure ()
  else do
    coordinator.perform (.deviceSetDriverOverride stage .block)
    coordinator.perform (.deviceReleaseDriver stage)

/-- Drops the aliases and clocks of a stage, the last one first. -/
def dropClocks (stage : Id) : List (ℤ × ℤ) → Script (Call Id Other) Unit
  | [] => pure ()
  | (clk, lookup) :: clocks => do
    coordinator.perform (.clkdevDrop stage lookup)
    coordinator.perform (.clkPut clk)
    dropClocks stage clocks

def tclDisplayStageDestroy : Script (Call Id Other) Unit := do
  let stages ← Script.state coordinator.interface
  if (stages stage).pdev.isNone then pure ()
  else do
    coordinator.tclDisplayStageQuiesce stage
    if (stages stage).domainAttached then coordinator.perform (.pmGenpdRemoveDevice stage)
    coordinator.perform (.foreignDomain stage)
    coordinator.dropClocks stage (stages stage).clocks
    coordinator.perform (.platformDeviceUnregister stage)

end Coordinator

/-! ## Retaining what was set up -/

/-- The calls that take something back from a stage. -/
def Call.releases : Call Id Other → Bool
  | .deviceReleaseDriver _ | .pmGenpdRemoveDevice _ | .clkdevDrop .. |
    .platformDeviceUnregister _ => true
  | _ => false

/-- The stage whose device a call brings into being. -/
def Call.creates : Call Id Other → Option Id
  | .platformDeviceAlloc stage _ _ | .platformDeviceAdd stage => some stage
  | _ => none

/-- The later stage still has what the earlier one had. -/
structure DisplayStage.Within (earlier later : DisplayStage) : Prop where
  pdev : earlier.pdev.isSome = true → later.pdev.isSome = true
  clocks : earlier.clocks ⊆ later.clocks
  domain : earlier.domainAttached = true → later.domainAttached = true

theorem DisplayStage.Within.refl (stage : DisplayStage) : stage.Within stage :=
  ⟨id, List.Subset.refl _, id⟩

theorem DisplayStage.within_update [DecidableEq Id] {stages : Id → DisplayStage} {changed : Id}
    {after : DisplayStage} (hafter : (stages changed).Within after) (stage : Id) :
    (stages stage).Within (Function.update stages changed after stage) := by
  by_cases hstage : stage = changed
  · rw [hstage, Function.update_self]
    exact hafter
  · rw [Function.update_of_ne hstage]
    exact .refl _

/-- A call that does not release leaves every stage with what it had. -/
theorem Call.within_effect [DecidableEq Id] {call : Call Id Other}
    (hkeeps : call.releases = false) (answer : ℤ) (stages : Id → DisplayStage) (stage : Id) :
    (stages stage).Within (call.effect answer stages stage) := by
  cases call <;> simp only [Call.releases, Bool.true_eq_false] at hkeeps <;>
    simp only [Call.effect] <;> (try split_ifs) <;> (try exact .refl _) <;>
    apply DisplayStage.within_update <;>
    constructor <;> simp [DisplayStage.setOverride, DisplayStage.setBound]

/-- What the calls of a trace have set up is still there. -/
structure Retains (trace : List (Call Id Other × ℤ)) (stages : Id → DisplayStage) : Prop where
  devices : ∀ stage, (.platformDeviceAdd stage, 0) ∈ trace → (stages stage).pdev.isSome = true
  aliases : ∀ stage clk consumer lookup, 0 ≤ lookup →
    (.qcomTclClkdevLookup stage clk consumer, lookup) ∈ trace →
      (clk, lookup) ∈ (stages stage).clocks
  domains : ∀ stage domain, (.pmGenpdAddDevice stage domain, 0) ∈ trace →
    (stages stage).domainAttached = true

namespace Coordinator

variable [DecidableEq Id] {coordinator : Coordinator Other}

/-- A run without a releasing call retains everything. -/
theorem retains_replay {trace : List (Call Id Other × ℤ)}
    (hkeeps : ∀ event ∈ trace, event.1.releases = false) :
    Retains trace (coordinator.interface.replay trace) := by
  induction trace with
  | nil => constructor <;> simp
  | cons event trace ih =>
    rw [List.forall_mem_cons] at hkeeps
    have hwithin := fun stage ↦
      Call.within_effect hkeeps.1 event.2 (coordinator.interface.replay trace) stage
    have ih := ih hkeeps.2
    constructor
    · intro stage hadd
      rcases List.mem_cons.1 hadd with rfl | hadd
      · simp [Interface.replay, interface, Call.effect]
      · exact (hwithin stage).pdev (ih.devices stage hadd)
    · intro stage clk consumer lookup hlookup hadd
      rcases List.mem_cons.1 hadd with rfl | hadd
      · simp [Interface.replay, interface, Call.effect, Int.not_lt.2 hlookup]
      · exact (hwithin stage).clocks (ih.aliases stage clk consumer lookup hlookup hadd)
    · intro stage domain hadd
      rcases List.mem_cons.1 hadd with rfl | hadd
      · simp [Interface.replay, interface, Call.effect]
      · exact (hwithin stage).domain (ih.domains stage domain hadd)

/-- The discipline of a coordinator that keeps its stages: nothing is released, and a device is
created only on the evidence that its stage asks for. -/
def retaining (cleanup : Other → Bool) (evidence : Id → List (Call Id Other × ℤ) → Prop) :
    Discipline (Call Id Other) where
  cleanup call := match call with
    | .platformDevicePut _ | .clkPut _ | .deviceSetDriverOverride _ .block => true
    | .other call => cleanup call
    | _ => false
  allowed call trace :=
    call.releases = false ∧ ∀ stage, call.creates = some stage → evidence stage trace

variable {cleanup : Other → Bool} {evidence : Id → List (Call Id Other × ℤ) → Prop}
  {fact : List (Call Id Other × ℤ) → Prop}

omit [DecidableEq Id] in
/-- A call that neither creates nor releases is always allowed. -/
theorem retaining_allowed {call : Call Id Other} (hkeeps : call.releases = false)
    (hcreates : call.creates = none) (trace : List (Call Id Other × ℤ)) :
    (retaining cleanup evidence).allowed call trace :=
  ⟨hkeeps, by simp [hcreates]⟩

theorem harmless_put (stage : Id) : coordinator.interface.Harmless
    (retaining cleanup evidence) (.platformDevicePut stage) :=
  ⟨rfl, fun _ ↦ rfl, retaining_allowed rfl rfl⟩

theorem harmless_clkPut (clk : ℤ) : coordinator.interface.Harmless
    (retaining cleanup evidence) (.clkPut clk) :=
  ⟨rfl, fun _ ↦ rfl, retaining_allowed rfl rfl⟩

theorem keeps_perform (hlasting : Lasting fact) {call : Call Id Other}
    (hkeeps : call.releases = false) (hcreates : call.creates = none) :
    (coordinator.perform call).Keeps coordinator.interface (retaining cleanup evidence) fact :=
  Script.keeps_perform hlasting fun trace _ ↦ retaining_allowed hkeeps hcreates trace

/-- A call that creates needs the evidence for its stage. -/
theorem keeps_perform_creates (hlasting : Lasting fact) {call : Call Id Other} {stage : Id}
    (hkeeps : call.releases = false) (hcreates : call.creates = some stage)
    (hevidence : ∀ trace, fact trace → evidence stage trace) :
    (coordinator.perform call).Keeps coordinator.interface (retaining cleanup evidence) fact := by
  apply Script.keeps_perform hlasting
  intro trace hfact
  refine ⟨hkeeps, fun other hother ↦ ?_⟩
  rw [hcreates, Option.some.injEq] at hother
  exact hother ▸ hevidence trace hfact

theorem follows_refuse {α : Type} (errno : Errno)
    {after : α → List (Call Id Other × ℤ) → Prop} :
    (coordinator.refuse errno).Follows coordinator.interface (retaining cleanup evidence) fact
      after :=
  Script.follows_refuse (by simp [interface, callVerdict, Verdict.failed, errno.ret_ne_zero])
    fun trace _ ↦ retaining_allowed rfl rfl trace

theorem keeps_tclDisplayStageCreateFull (hlasting : Lasting fact) {stage : Id}
    (hevidence : ∀ trace, fact trace → evidence stage trace) (name : String) (id : ℤ)
    (resources : List Resource) :
    (coordinator.tclDisplayStageCreateFull stage name id resources).Keeps coordinator.interface
      (retaining cleanup evidence) fact := by
  apply Script.follows_bind Script.follows_state
  intro stages
  split_ifs
  · exact follows_refuse _
  · apply Script.follows_bind (keeps_perform_creates hlasting rfl rfl hevidence)
    intro _
    apply Script.follows_onFailure
    · apply Script.keeps_inOrder
      simp only [List.forall_mem_cons, List.not_mem_nil, false_imp_iff, implies_true, and_true]
      exact ⟨keeps_perform hlasting rfl rfl, keeps_perform hlasting rfl rfl,
        keeps_perform hlasting rfl rfl, keeps_perform hlasting rfl rfl,
        keeps_perform_creates hlasting rfl rfl hevidence⟩
    · simpa using harmless_put stage

theorem keeps_tclDisplayStageCreate (hlasting : Lasting fact) {stage : Id}
    (hevidence : ∀ trace, fact trace → evidence stage trace) (name : String)
    (resources : List Resource) :
    (coordinator.tclDisplayStageCreate stage name resources).Keeps coordinator.interface
      (retaining cleanup evidence) fact :=
  keeps_tclDisplayStageCreateFull hlasting hevidence name (-1) resources

theorem keeps_tclDisplayStageClock (hlasting : Lasting fact) (stage : Id)
    (provider source consumer : String) :
    (coordinator.tclDisplayStageClock stage provider source consumer).Keeps coordinator.interface
      (retaining cleanup evidence) fact := by
  apply Script.follows_bind Script.follows_state
  intro stages
  split
  · exact follows_refuse _
  · split_ifs
    · exact follows_refuse _
    · exact follows_refuse _
    · apply Script.follows_bind
        (Script.keeps_step hlasting fun trace _ ↦ retaining_allowed rfl rfl trace)
      intro clk
      apply Script.follows_onFailure (keeps_perform hlasting rfl rfl)
      simpa using harmless_clkPut clk

theorem keeps_tclDisplayStageDomain (hlasting : Lasting fact) (stage : Id) (domain : ℤ) :
    (coordinator.tclDisplayStageDomain stage domain).Keeps coordinator.interface
      (retaining cleanup evidence) fact := by
  apply Script.follows_bind Script.follows_state
  intro stages
  split
  · exact follows_refuse _
  · split_ifs
    · exact follows_refuse _
    · exact follows_refuse _
    · apply Script.follows_bind (keeps_perform hlasting rfl rfl)
      exact fun _ ↦ follows_refuse _
    · apply Script.follows_bind (keeps_perform hlasting rfl rfl)
      exact fun _ ↦ keeps_perform hlasting rfl rfl

theorem keeps_tclDisplayStageActivate (hlasting : Lasting fact) (stage : Id) :
    (coordinator.tclDisplayStageActivate stage).Keeps coordinator.interface
      (retaining cleanup evidence) fact := by
  apply Script.follows_bind Script.follows_state
  intro stages
  split_ifs
  · exact follows_refuse _
  · apply Script.follows_bind (keeps_perform hlasting rfl rfl)
    exact fun _ ↦ keeps_perform hlasting rfl rfl

end Coordinator

end

end TclB220G.Display
