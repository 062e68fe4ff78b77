import Mathlib.Data.Nat.Count
import TclB220G.Wifi.Coordinator

/-!
# The order of the Wi-Fi devices

The coordinator follows one discipline: a device is registered at most once, and only after the trace
shows the shared memory and all devices of the stage before as bound.  Nothing but cleanup follows a
failure.

What a stage finds when it is tried is known exactly: the devices of all stages before it are
registered, and those of all but the last of them were seen bound.  Each turn of the work makes a
measure of the remaining attempts smaller, so the work stops.
-/

namespace TclB220G.Wifi

open Kernel Lib

/-- The stage that registers a device. -/
def Device.stage : Device → ℕ
  | .cmd | .apcs | .rmtfs => 0
  | .rsc | .qmp | .smp2p => 1
  | .cc | .pd | .rega | .regc => 2
  | .mpssCx | .mpssMss | .mpss | .wlan => 3

/-- The device has a driver that the coordinator waits for. -/
def Device.hasDriver : Device → Bool
  | .mpssCx | .mpssMss => false
  | _ => true

namespace WifiCall

def registers : WifiCall → Bool
  | platformDeviceRegister .. => true
  | _ => false

end WifiCall

/-- The device that an answered call has registered. -/
def registration : WifiCall × ℤ → Option Device
  | (.platformDeviceRegister device _, answer) => if answer < 0 then none else some device
  | _ => none

/-- The registered devices, the last one first. -/
def registered (trace : List (WifiCall × ℤ)) : List Device := trace.filterMap registration

/-- The shared memory was seen bound. -/
def SmemSeen (trace : List (WifiCall × ℤ)) : Prop :=
  ∃ answer, answer ≠ 0 ∧ (.smemIsBound, answer) ∈ trace

/-- The device was seen bound. -/
def Seen (device : Device) (trace : List (WifiCall × ℤ)) : Prop :=
  ∃ answer, answer ≠ 0 ∧ (.deviceIsBound device, answer) ∈ trace

/-- All that has to be seen before a device is registered. -/
structure Cleared (device : Device) (trace : List (WifiCall × ℤ)) : Prop where
  smem : SmemSeen trace
  earlier : ∀ other, other.hasDriver = true → other.stage + 1 = device.stage → Seen other trace

def wiring : Discipline WifiCall where
  cleanup
    | .platformDeviceUnregister _ => true
    | _ => false
  allowed call trace :=
    match call with
    | .platformDeviceRegister device _ => device ∉ registered trace ∧ Cleared device trace
    | _ => True

/-- These devices are registered, in this order, and the evidence is there. -/
def At (devices : List Device) (evidence : List (WifiCall × ℤ) → Prop)
    (trace : List (WifiCall × ℤ)) : Prop :=
  registered trace = devices ∧ evidence trace

theorem lasting_seen (device : Device) : Lasting (Seen device) :=
  fun _ _ ⟨answer, hanswer, hmem⟩ ↦ ⟨answer, hanswer, List.mem_cons_of_mem _ hmem⟩

theorem lasting_smemSeen : Lasting SmemSeen :=
  fun _ _ ⟨answer, hanswer, hmem⟩ ↦ ⟨answer, hanswer, List.mem_cons_of_mem _ hmem⟩

/-! ## Single calls -/

theorem allowed_of_not_registers {call : WifiCall} (hcall : call.registers = false)
    (trace : List (WifiCall × ℤ)) : wiring.allowed call trace := by
  cases call <;> trivial

theorem registered_of_not_registers {call : WifiCall} (hcall : call.registers = false) (answer : ℤ)
    (trace : List (WifiCall × ℤ)) : registered ((call, answer) :: trace) = registered trace := by
  have hnone : registration (call, answer) = none := by
    cases call <;> first | rfl | cases hcall
  exact List.filterMap_cons_none hnone

theorem harmless_unregister (device : Device) :
    wifi.Harmless wiring (.platformDeviceUnregister device) :=
  ⟨rfl, fun _ ↦ rfl, fun _ ↦ trivial⟩

section

variable {devices : List Device} {evidence : List (WifiCall × ℤ) → Prop}

theorem follows_refuse {α : Type} (errno : Errno) {before : List (WifiCall × ℤ) → Prop}
    {after : α → List (WifiCall × ℤ) → Prop} :
    (refuse errno).Follows wifi wiring before after := by
  refine Script.follows_refuse ?_ fun _ _ ↦ trivial
  exact decide_eq_true errno.ret_neg

theorem keeps_pure {α : Type} (value : α) :
    (pure value : Script WifiCall α).Keeps wifi wiring (At devices evidence) :=
  Script.follows_pure fun _ h ↦ h

variable (hlasting : Lasting evidence)

include hlasting

variable {call : WifiCall}

theorem at_cons (hcall : call.registers = false) (answer : ℤ) (trace : List (WifiCall × ℤ))
    (hat : At devices evidence trace) :
    At devices evidence ((call, answer) :: trace) :=
  ⟨(registered_of_not_registers hcall answer trace).trans hat.1, hlasting _ _ hat.2⟩

theorem keeps_ask (hcall : call.registers = false) (hsucceeds : call.verdict = .succeeds) :
    (ask call).Keeps wifi wiring (At devices evidence) := by
  refine Script.follows_invoke (fun answer ↦ ?_) (fun trace _ ↦ allowed_of_not_registers hcall trace)
    (at_cons hlasting hcall)
  simp [wifi, hsucceeds, Display.Verdict.failed]

theorem keeps_request (hcall : call.registers = false) :
    (request call).Keeps wifi wiring (At devices evidence) :=
  Script.follows_step (fun trace _ ↦ allowed_of_not_registers hcall trace) (at_cons hlasting hcall)

theorem keeps_require (hcall : call.registers = false) :
    (require call).Keeps wifi wiring (At devices evidence) :=
  Script.follows_bind (keeps_request hlasting hcall) fun _ ↦ keeps_pure ()

theorem follows_addDevice {device : Device} (info : DeviceInfo) (hfresh : device ∉ devices)
    (hcleared : ∀ trace, evidence trace → Cleared device trace) :
    (addDevice device info).Follows wifi wiring (At devices evidence)
      fun _ ↦ At (device :: devices) evidence := by
  have hstep : (request (.platformDeviceRegister device info)).Follows wifi wiring
      (At devices evidence) fun _ ↦ At (device :: devices) evidence := by
    apply Script.follows_step_of_success
    · intro trace hat
      exact ⟨by rw [hat.1]; exact hfresh, hcleared trace hat.2⟩
    · intro answer trace hsucceeds hat
      refine ⟨?_, hlasting _ _ hat.2⟩
      have hdevice : registration (.platformDeviceRegister device info, answer) = some device :=
        if_neg (of_decide_eq_false hsucceeds)
      rw [registered, List.filterMap_cons_some hdevice, ← registered, hat.1]
  exact Script.follows_bind hstep fun _ ↦ keeps_pure ()

/-! ## Observations -/

theorem follows_bound (device : Device) :
    (bound device).Follows wifi wiring (At devices evidence) fun yes ↦
      At devices fun trace ↦ evidence trace ∧ (yes = true → Seen device trace) := by
  have hcall : (WifiCall.deviceIsBound device).registers = false := rfl
  have hask : (ask (.deviceIsBound device)).Follows wifi wiring (At devices evidence) fun answer ↦
      At devices fun trace ↦ evidence trace ∧ (answer ≠ 0 → Seen device trace) := by
    refine Script.follows_invoke (fun _ ↦ rfl) (fun _ _ ↦ trivial) fun answer trace hat ↦ ?_
    have hcons := at_cons hlasting hcall answer trace hat
    exact ⟨hcons.1, hcons.2, fun hbound ↦ ⟨answer, hbound, List.mem_cons_self⟩⟩
  refine Script.follows_bind Script.follows_state fun slots ↦ ?_
  split
  · refine Script.follows_bind hask fun answer ↦ Script.follows_pure fun trace hat ↦ ?_
    exact ⟨hat.1, hat.2.1, fun hyes ↦ hat.2.2 (of_decide_eq_true hyes)⟩
  · exact Script.follows_pure fun trace hat ↦ ⟨hat.1, hat.2, fun h ↦ Bool.noConfusion h⟩

end

/-- The evidence, and all these devices were seen bound. -/
def AndSeen (evidence : List (WifiCall × ℤ) → Prop) (awaited : List Device)
    (trace : List (WifiCall × ℤ)) : Prop :=
  evidence trace ∧ ∀ device ∈ awaited, Seen device trace

section

variable {devices after : List Device} {evidence : List (WifiCall × ℤ) → Prop}
  (hlasting : Lasting evidence)

include hlasting

theorem lasting_andSeen (awaited : List Device) : Lasting (AndSeen evidence awaited) :=
  fun event trace h ↦
    ⟨hlasting event trace h.1, fun device hmem ↦ lasting_seen device event trace (h.2 device hmem)⟩

theorem follows_allBound (awaited : List Device) :
    (allBound awaited).Follows wifi wiring (At devices evidence) fun yes ↦
      At devices fun trace ↦ evidence trace ∧ (yes = true → ∀ device ∈ awaited, Seen device trace) := by
  induction awaited generalizing evidence with
  | nil =>
    exact Script.follows_pure fun trace hat ↦
      ⟨hat.1, hat.2, fun _ _ hmem ↦ absurd hmem List.not_mem_nil⟩
  | cons device awaited ih =>
    refine Script.follows_bind (follows_bound hlasting device) fun yes ↦ ?_
    cases yes with
    | false =>
      exact Script.follows_pure fun trace hat ↦ ⟨hat.1, hat.2.1, fun h ↦ Bool.noConfusion h⟩
    | true =>
      have hseen : Lasting fun trace ↦ evidence trace ∧ (true = true → Seen device trace) :=
        fun event trace h ↦
          ⟨hlasting event trace h.1, fun hyes ↦ lasting_seen device event trace (h.2 hyes)⟩
      rw [if_pos rfl]
      refine Script.follows_mono (ih hseen) fun answer trace hat ↦ ?_
      obtain ⟨hregistered, ⟨hevidence, hdevice⟩, hothers⟩ := hat
      refine ⟨hregistered, hevidence, fun hyes other hmem ↦ ?_⟩
      rcases List.mem_cons.1 hmem with rfl | hmem
      · exact hdevice rfl
      · exact hothers hyes other hmem

/-- A stage whose devices are not all bound waits; otherwise it goes through its body. -/
theorem follows_whenBound {awaited : List Device} {body : Script WifiCall Unit}
    {outcome : Outcome} (hbody : body.Follows wifi wiring (At devices (AndSeen evidence awaited))
      fun _ ↦ At after (AndSeen evidence awaited)) :
    (whenBound awaited body outcome).Follows wifi wiring (At devices evidence) fun result trace ↦
      result = .retry ∧ At devices evidence trace ∨
        result = outcome ∧ At after (AndSeen evidence awaited) trace := by
  refine Script.follows_bind (follows_allBound hlasting awaited) fun yes ↦ ?_
  cases yes with
  | false => exact Script.follows_pure fun trace hat ↦ .inl ⟨rfl, hat.1, hat.2.1⟩
  | true =>
    refine Script.follows_bind (Script.follows_weaken (fun trace hat ↦ ?_) hbody) fun _ ↦ ?_
    · exact ⟨hat.1, hat.2.1, hat.2.2 rfl⟩
    · exact Script.follows_pure fun trace hat ↦ .inr ⟨rfl, hat⟩

/-! ## Devices -/

theorem keeps_firmwareIrq (adev : Adev) (index gsi : ℕ) (name : String) :
    (firmwareIrq adev index gsi name).Keeps wifi wiring (At devices evidence) := by
  refine Script.follows_bind (keeps_request hlasting rfl) fun irq ↦ ?_
  refine Script.follows_bind (keeps_ask hlasting rfl rfl) fun hwirq ↦ ?_
  split
  · exact follows_refuse _
  · exact keeps_pure _

theorem keeps_createMappings (irqs : List (ℕ × String)) :
    (createMappings irqs).Keeps wifi wiring (At devices evidence) := by
  induction irqs with
  | nil => exact keeps_pure []
  | cons irq irqs ih =>
    exact Script.follows_bind (keeps_request hlasting rfl) fun _ ↦
      Script.follows_bind ih fun _ ↦ keeps_pure _

theorem keeps_wlanIrqs (indices : List ℕ) :
    (wlanIrqs indices).Keeps wifi wiring (At devices evidence) := by
  induction indices with
  | nil => exact keeps_pure []
  | cons index indices ih =>
    exact Script.follows_bind (keeps_firmwareIrq hlasting .qwln index _ _) fun _ ↦
      Script.follows_bind ih fun _ ↦ keeps_pure _

theorem follows_proxyDomain {device : Device} (name : String) (index : ℕ)
    (hfresh : device ∉ devices) (hcleared : ∀ trace, evidence trace → Cleared device trace) :
    (proxyDomain device name index).Follows wifi wiring (At devices evidence)
      fun _ ↦ At (device :: devices) evidence := by
  refine Script.follows_bind (keeps_require hlasting rfl) fun _ ↦ ?_
  refine Script.follows_bind (follows_addDevice hlasting _ hfresh hcleared) fun _ ↦ ?_
  refine Script.follows_bind (Script.follows_onFailure (keeps_require hlasting rfl) ?_) fun _ ↦ ?_
  · intro call hcall
    rw [List.mem_singleton.1 hcall]
    exact harmless_unregister device
  · exact Script.follows_bind (keeps_ask hlasting rfl rfl) fun _ ↦ keeps_pure ()

end

/-- The devices that are registered when a stage is tried, the last one first. -/
def registeredBefore : ℕ → List Device
  | 0 => []
  | 1 => [.rmtfs, .apcs, .cmd]
  | 2 => [.smp2p, .qmp, .rsc, .rmtfs, .apcs, .cmd]
  | 3 => [.regc, .rega, .pd, .cc, .smp2p, .qmp, .rsc, .rmtfs, .apcs, .cmd]
  | _ => [.wlan, .mpss, .mpssMss, .mpssCx, .regc, .rega, .pd, .cc, .smp2p, .qmp, .rsc, .rmtfs, .apcs,
      .cmd]

/-- What has been seen when a stage is tried. -/
structure Evidence (stage : ℕ) (trace : List (WifiCall × ℤ)) : Prop where
  smem : 0 < stage → SmemSeen trace
  earlier : ∀ device, device.hasDriver = true → device.stage + 1 < stage → Seen device trace

theorem lasting_evidence (stage : ℕ) : Lasting (Evidence stage) :=
  fun event trace h ↦ ⟨fun hstage ↦ lasting_smemSeen event trace (h.smem hstage),
    fun device hdriver hstage ↦ lasting_seen device event trace (h.earlier device hdriver hstage)⟩

/-- The devices of a stage may be registered once those of the stage before were seen. -/
def StageCleared (stage : ℕ) (evidence : List (WifiCall × ℤ) → Prop) : Prop :=
  ∀ device, device.stage = stage → ∀ trace, evidence trace → Cleared device trace

section

variable {evidence : List (WifiCall × ℤ) → Prop} (hlasting : Lasting evidence)

include hlasting

theorem follows_basicDevices (hcleared : StageCleared 0 evidence) :
    basicDevices.Follows wifi wiring (At (registeredBefore 0) evidence)
      fun _ ↦ At (registeredBefore 1) evidence := by
  refine Script.follows_bind (follows_addDevice hlasting _ (by decide) (hcleared .cmd rfl)) fun _ ↦ ?_
  refine Script.follows_bind (follows_addDevice hlasting _ (by decide) (hcleared .apcs rfl)) fun _ ↦ ?_
  exact follows_addDevice hlasting _ (by decide) (hcleared .rmtfs rfl)

theorem follows_transportDevices (hcleared : StageCleared 1 evidence) :
    transportDevices.Follows wifi wiring (At (registeredBefore 1) evidence)
      fun _ ↦ At (registeredBefore 2) evidence := by
  refine Script.follows_bind (keeps_firmwareIrq hlasting _ _ _ _) fun _ ↦ ?_
  refine Script.follows_bind (keeps_firmwareIrq hlasting _ _ _ _) fun _ ↦ ?_
  refine Script.follows_bind (keeps_firmwareIrq hlasting _ _ _ _) fun _ ↦ ?_
  refine Script.follows_bind (follows_addDevice hlasting _ (by decide) (hcleared .rsc rfl)) fun _ ↦ ?_
  refine Script.follows_bind (follows_addDevice hlasting _ (by decide) (hcleared .qmp rfl)) fun _ ↦ ?_
  exact follows_addDevice hlasting _ (by decide) (hcleared .smp2p rfl)

theorem follows_powerDevices (hcleared : StageCleared 2 evidence) :
    powerDevices.Follows wifi wiring (At (registeredBefore 2) evidence)
      fun _ ↦ At (registeredBefore 3) evidence := by
  refine Script.follows_bind (keeps_require hlasting rfl) fun _ ↦ ?_
  refine Script.follows_bind (follows_addDevice hlasting _ (by decide) (hcleared .cc rfl)) fun _ ↦ ?_
  refine Script.follows_bind (follows_addDevice hlasting _ (by decide) (hcleared .pd rfl)) fun _ ↦ ?_
  refine Script.follows_bind (follows_addDevice hlasting _ (by decide) (hcleared .rega rfl)) fun _ ↦ ?_
  exact follows_addDevice hlasting _ (by decide) (hcleared .regc rfl)

theorem follows_modemDevice (hcleared : StageCleared 3 evidence) :
    modemDevice.Follows wifi wiring (At (registeredBefore 3) evidence)
      fun _ ↦ At ([.mpss, .mpssMss, .mpssCx] ++ registeredBefore 3) evidence := by
  refine Script.follows_bind
    (follows_proxyDomain hlasting _ _ (by decide) (hcleared .mpssCx rfl)) fun _ ↦ ?_
  refine Script.follows_bind
    (follows_proxyDomain hlasting _ _ (by decide) (hcleared .mpssMss rfl)) fun _ ↦ ?_
  refine Script.follows_bind (keeps_request hlasting rfl) fun _ ↦ ?_
  refine Script.follows_bind (keeps_require hlasting rfl) fun _ ↦ ?_
  refine Script.follows_bind (keeps_firmwareIrq hlasting _ _ _ _) fun _ ↦ ?_
  refine Script.follows_bind (keeps_createMappings hlasting _) fun _ ↦ ?_
  refine Script.follows_bind (keeps_firmwareIrq hlasting _ _ _ _) fun _ ↦ ?_
  exact follows_addDevice hlasting _ (by decide) (hcleared .mpss rfl)

theorem follows_wlanDevice (hcleared : StageCleared 3 evidence) (resources : List AcpiResource) :
    (wlanDevice resources).Follows wifi wiring
      (At ([.mpss, .mpssMss, .mpssCx] ++ registeredBefore 3) evidence)
      fun _ ↦ At (registeredBefore 4) evidence := by
  refine Script.follows_bind (keeps_require hlasting rfl) fun _ ↦ ?_
  refine Script.follows_bind (keeps_request hlasting rfl) fun _ ↦ ?_
  refine Script.follows_bind (keeps_ask hlasting rfl rfl) fun _ ↦ ?_
  split
  · refine Script.follows_bind (keeps_wlanIrqs hlasting _) fun _ ↦ ?_
    exact follows_addDevice hlasting _ (by decide) (hcleared .wlan rfl)
  · exact follows_refuse _

end

/-! ## Stages -/

/-- What a stage has established when it leaves the switch. -/
def Reached (stage : ℕ) (outcome : Outcome) (trace : List (WifiCall × ℤ)) : Prop :=
  match outcome with
  | .retry => At (registeredBefore stage) (Evidence stage) trace
  | .registered => stage < 4 ∧ At (registeredBefore (stage + 1)) (Evidence (stage + 1)) trace
  | .ready => Evidence 5 trace

/-- The devices that a stage waits for. -/
def Awaits (stage : ℕ) (awaited : List Device) : Prop :=
  ∀ device, device.hasDriver = true → device.stage + 1 = stage → device ∈ awaited

variable {stage : ℕ} {awaited : List Device}

theorem evidence_succ (hstage : 0 < stage) (hawaits : Awaits stage awaited)
    {trace : List (WifiCall × ℤ)} (hseen : AndSeen (Evidence stage) awaited trace) :
    Evidence (stage + 1) trace := by
  refine ⟨fun _ ↦ hseen.1.smem hstage, fun device hdriver hdevice ↦ ?_⟩
  rcases Nat.lt_succ_iff_lt_or_eq.1 hdevice with hearlier | hlast
  · exact hseen.1.earlier device hdriver hearlier
  · exact hseen.2 device (hawaits device hdriver hlast)

theorem stageCleared_of_awaits (hstage : 0 < stage) (hawaits : Awaits stage awaited) :
    StageCleared stage (AndSeen (Evidence stage) awaited) := by
  rintro device rfl trace hseen
  refine ⟨hseen.1.smem hstage, fun other hdriver hother ↦ ?_⟩
  exact hseen.2 other (hawaits other hdriver hother)

theorem stageCleared_zero : StageCleared 0 (Evidence 1) :=
  fun device hdevice trace hevidence ↦
    ⟨hevidence.smem Nat.one_pos, fun other _ hother ↦ by rw [hdevice] at hother; cases hother⟩

theorem follows_stage_whenBound {body : Script WifiCall Unit} (hstage : 0 < stage)
    (hfour : stage < 4) (hawaits : Awaits stage awaited)
    (hbody : body.Follows wifi wiring
      (At (registeredBefore stage) (AndSeen (Evidence stage) awaited))
        fun _ ↦ At (registeredBefore (stage + 1)) (AndSeen (Evidence stage) awaited)) :
    (whenBound awaited body .registered).Follows wifi wiring
      (At (registeredBefore stage) (Evidence stage)) (Reached stage) := by
  refine Script.follows_mono (follows_whenBound (lasting_evidence stage) hbody) ?_
  rintro outcome trace (⟨rfl, hat⟩ | ⟨rfl, hat⟩)
  · exact hat
  · exact ⟨hfour, hat.1, evidence_succ hstage hawaits hat.2⟩

theorem follows_tryStage_zero (resources : List AcpiResource) :
    (tryStage resources 0).Follows wifi wiring (At (registeredBefore 0) (Evidence 0))
      (Reached 0) := by
  have hask : (ask .smemIsBound).Follows wifi wiring (At (registeredBefore 0) (Evidence 0))
      fun answer trace ↦ At (registeredBefore 0) (Evidence 0) trace ∧
        (answer ≠ 0 → SmemSeen trace) := by
    refine Script.follows_invoke (fun _ ↦ rfl) (fun _ _ ↦ trivial) fun answer trace hat ↦ ?_
    exact ⟨at_cons (lasting_evidence 0) rfl answer trace hat,
      fun hbound ↦ ⟨answer, hbound, List.mem_cons_self⟩⟩
  refine Script.follows_bind (keeps_ask (lasting_evidence 0) rfl rfl) fun found ↦ ?_
  split
  · exact Script.follows_pure fun _ hat ↦ hat
  · refine Script.follows_bind hask fun answer ↦ ?_
    split
    · exact Script.follows_pure fun _ hat ↦ hat.1
    · next hbound =>
      refine Script.follows_bind (Script.follows_weaken (fun trace hat ↦ ?_)
        (follows_basicDevices (lasting_evidence 1) stageCleared_zero)) fun _ ↦ ?_
      · exact ⟨hat.1.1, fun _ ↦ hat.2 hbound, fun _ _ h ↦ absurd h (by omega)⟩
      · exact Script.follows_pure fun _ hat ↦ ⟨by decide, hat⟩

/-- Each stage, tried after what the stages before it leave, establishes what the next one needs. -/
theorem follows_tryStage (resources : List AcpiResource) (hstage : stage ≤ 4) :
    (tryStage resources stage).Follows wifi wiring (At (registeredBefore stage) (Evidence stage))
      (Reached stage) := by
  have hawaits (stage : ℕ) (awaited : List Device)
      (hall : ∀ device ∈ registeredBefore 4, device.hasDriver = true → device.stage + 1 = stage →
        device ∈ awaited) : Awaits stage awaited :=
    fun device ↦ hall device (by cases device <;> decide)
  match stage, hstage with
  | 0, _ => exact follows_tryStage_zero resources
  | 1, _ =>
    have hone : Awaits 1 [.cmd, .apcs, .rmtfs] := hawaits _ _ (by decide)
    exact follows_stage_whenBound (by decide) (by decide) hone
      (follows_transportDevices (lasting_andSeen (lasting_evidence 1) _)
        (stageCleared_of_awaits (by decide) hone))
  | 2, _ =>
    have htwo : Awaits 2 [.rsc, .qmp, .smp2p] := hawaits _ _ (by decide)
    exact follows_stage_whenBound (by decide) (by decide) htwo
      (follows_powerDevices (lasting_andSeen (lasting_evidence 2) _)
        (stageCleared_of_awaits (by decide) htwo))
  | 3, _ =>
    have hthree : Awaits 3 [.cc, .pd, .rega, .regc] := hawaits _ _ (by decide)
    have hlasting := lasting_andSeen (lasting_evidence 3) [.cc, .pd, .rega, .regc]
    have hcleared := stageCleared_of_awaits (by decide) hthree
    exact follows_stage_whenBound (by decide) (by decide) hthree
      (Script.follows_bind (follows_modemDevice hlasting hcleared) fun _ ↦
        follows_wlanDevice hlasting hcleared resources)
  | 4, _ =>
    have hfour : Awaits 4 [.mpss, .wlan] := hawaits _ _ (by decide)
    refine Script.follows_mono (follows_whenBound (lasting_evidence 4) (keeps_pure ())) ?_
    rintro outcome trace (⟨rfl, hat⟩ | ⟨rfl, hat⟩)
    · exact hat
    · exact evidence_succ (by decide) hfour hat.2

/-! ## Runs of the work -/

/-- What holds while the work is queued. -/
structure Waiting (state : WifiState) : Prop where
  clean : ¬wifi.Failed state.trace
  stage_le : state.stage ≤ 4
  attempts_le : state.attempts ≤ maxAttempts
  not_ready : state.ready = false
  reached : At (registeredBefore state.stage) (Evidence state.stage) state.trace

structure Sound (state : WifiState) : Prop where
  respects : wifi.Respects wiring state.trace
  waiting : state.queued = true → Waiting state
  evident : state.ready = true → Evidence 5 state.trace

theorem sound_initial : Sound initial where
  respects := trivial
  waiting _ := ⟨Interface.not_failed_nil, by decide, by decide, rfl, rfl, fun h ↦ absurd h (by decide),
    fun _ _ h ↦ absurd h (Nat.not_lt_zero _)⟩
  evident h := Bool.noConfusion h

section

variable (resources : List AcpiResource) (oracle : ℕ → WifiCall → ℤ) {state : WifiState}

theorem sound_wifiWork (hsound : Sound state) (hqueued : state.queued = true) :
    Sound (wifiWork resources oracle state) := by
  have hwaiting := hsound.waiting hqueued
  unfold wifiWork
  dsimp only
  split
  · exact ⟨hsound.respects, fun h ↦ Bool.noConfusion h, hsound.evident⟩
  · next hattempts =>
    have htry := follows_tryStage resources hwaiting.stage_le oracle state.trace hwaiting.clean
      hsound.respects hwaiting.reached
    revert htry
    rcases tryStage resources state.stage oracle state.trace with ⟨outcome, trace⟩
    rintro ⟨hrespects, hreached⟩
    have hnotReady : state.ready = true → Evidence 5 trace :=
      fun hready ↦ Bool.noConfusion (hwaiting.not_ready.symm.trans hready)
    match outcome, hreached with
    | .error _, _ => exact ⟨hrespects, fun h ↦ Bool.noConfusion h, hnotReady⟩
    | .ok .retry, ⟨hclean, hat⟩ =>
      exact ⟨hrespects, fun _ ↦ ⟨hclean, hwaiting.stage_le, Nat.le_of_not_lt hattempts,
        hwaiting.not_ready, hat⟩, hnotReady⟩
    | .ok .registered, ⟨hclean, hfour, hat⟩ =>
      exact ⟨hrespects, fun _ ↦ ⟨hclean, hfour, Nat.zero_le _, hwaiting.not_ready, hat⟩, hnotReady⟩
    | .ok .ready, ⟨_, hevidence⟩ =>
      exact ⟨hrespects, fun h ↦ Bool.noConfusion h, fun _ ↦ hevidence⟩

theorem sound_step (hsound : Sound state) : Sound (step resources oracle state) := by
  unfold step
  split
  · next hqueued => exact sound_wifiWork resources oracle hsound hqueued
  · exact hsound

theorem run_succ (turns : ℕ) :
    run resources oracle (turns + 1) = step resources oracle (run resources oracle turns) :=
  Function.iterate_succ_apply' _ _ _

theorem sound_run (turns : ℕ) : Sound (run resources oracle turns) := by
  induction turns with
  | zero => exact sound_initial
  | succ turns ih =>
    rw [run_succ]
    exact sound_step resources oracle ih

/-- A turn either leaves the stage with one more attempt made, or gets to the next stage. -/
theorem wifiWork_progress (hattempts : state.attempts < maxAttempts) :
    let next := wifiWork resources oracle state
    next.stage = state.stage ∧ next.attempts = state.attempts + 1 ∨
      next.stage = state.stage + 1 ∧ next.attempts = 0 := by
  intro next
  simp only [next, wifiWork, if_neg (Nat.not_lt.2 (Nat.succ_le_of_lt hattempts))]
  rcases tryStage resources state.stage oracle state.trace with ⟨outcome, trace⟩
  match outcome with
  | .error _ => exact .inl ⟨rfl, rfl⟩
  | .ok .retry => exact .inl ⟨rfl, rfl⟩
  | .ok .registered => exact .inr ⟨rfl, rfl⟩
  | .ok .ready => exact .inl ⟨rfl, rfl⟩

theorem wifiWork_timeout (hattempts : maxAttempts ≤ state.attempts) :
    wifiWork resources oracle state =
      { state with attempts := state.attempts + 1, queued := false } := by
  simp only [wifiWork, if_pos (Nat.lt_succ_of_le hattempts)]

/-! ## How long the work goes on -/

/-- The turns that may be left. -/
def remaining (state : WifiState) : ℕ :=
  if state.queued then (4 - state.stage) * maxAttempts + (maxAttempts + 1 - state.attempts) else 0

theorem remaining_step (hsound : Sound state) :
    remaining (step resources oracle state) ≤ remaining state - 1 := by
  unfold step
  split
  · next hqueued =>
    have hnext := sound_wifiWork resources oracle hsound hqueued
    rcases Nat.lt_or_ge state.attempts maxAttempts with hattempts | hattempts
    · have hprogress := wifiWork_progress resources oracle hattempts
      generalize wifiWork resources oracle state = next at hnext hprogress
      rw [remaining, remaining, if_pos hqueued]
      split
      · next hagain =>
        have hstage := (hnext.waiting hagain).stage_le
        simp only [maxAttempts] at hattempts hprogress ⊢
        omega
      · exact Nat.zero_le _
    · rw [wifiWork_timeout resources oracle hattempts]
      exact Nat.zero_le _
  · next hqueued => rw [remaining, if_neg hqueued]

theorem remaining_initial : remaining initial = 5 * maxAttempts + 1 := by decide

theorem remaining_run (turns : ℕ) :
    remaining (run resources oracle turns) ≤ 5 * maxAttempts + 1 - turns := by
  induction turns with
  | zero => exact Nat.le_of_eq remaining_initial
  | succ turns ih =>
    rw [run_succ]
    calc
      remaining (step resources oracle (run resources oracle turns)) ≤
          remaining (run resources oracle turns) - 1 :=
        remaining_step resources oracle (sound_run resources oracle turns)
      _ ≤ 5 * maxAttempts + 1 - turns - 1 := Nat.sub_le_sub_right ih 1

theorem Sound.remaining_pos (hsound : Sound state) (hqueued : state.queued = true) :
    0 < remaining state := by
  rw [remaining, if_pos hqueued]
  exact Nat.lt_add_left _ (Nat.sub_pos_of_lt (Nat.lt_succ_of_le (hsound.waiting hqueued).attempts_le))

theorem run_add_of_not_queued {turns : ℕ} (hqueued : (run resources oracle turns).queued = false)
    (more : ℕ) : run resources oracle (turns + more) = run resources oracle turns := by
  induction more with
  | zero => rfl
  | succ more ih =>
    rw [← Nat.add_assoc, run_succ, ih, step, hqueued]
    rfl

/-- A turn of the work from this state tries the stage. -/
def Tries (stage : ℕ) (state : WifiState) : Prop :=
  state.queued = true ∧ state.stage = stage ∧ state.attempts < maxAttempts

instance (stage : ℕ) : DecidablePred (Tries stage) :=
  fun _ ↦ inferInstanceAs (Decidable (_ ∧ _))

/-- A bound for how often a stage has been tried. -/
def quota (stage : ℕ) (state : WifiState) : ℕ :=
  if stage < state.stage then maxAttempts
  else if stage = state.stage then min state.attempts maxAttempts
  else 0

theorem quota_le (stage : ℕ) (state : WifiState) : quota stage state ≤ maxAttempts := by
  unfold quota
  split_ifs <;> omega

theorem quota_step (stage : ℕ) :
    quota stage state + (if Tries stage state then 1 else 0) ≤
      quota stage (step resources oracle state) := by
  by_cases hqueued : state.queued = true
  · rw [step, if_pos hqueued]
    rcases Nat.lt_or_ge state.attempts maxAttempts with hattempts | hattempts
    · have hprogress := wifiWork_progress resources oracle hattempts
      generalize wifiWork resources oracle state = next at hprogress
      by_cases hstage : state.stage = stage
      · rw [if_pos ⟨hqueued, hstage, hattempts⟩]
        unfold quota
        split_ifs <;> omega
      · rw [if_neg fun htries ↦ hstage htries.2.1]
        unfold quota
        split_ifs <;> omega
    · rw [wifiWork_timeout resources oracle hattempts,
        if_neg fun htries ↦ Nat.not_lt.2 hattempts htries.2.2]
      unfold quota
      dsimp only
      split_ifs <;> omega
  · rw [step, if_neg hqueued, if_neg fun htries ↦ hqueued htries.1, Nat.add_zero]

theorem count_tries_le (stage turns : ℕ) :
    Nat.count (fun turn ↦ Tries stage (run resources oracle turn)) turns ≤
      quota stage (run resources oracle turns) := by
  induction turns with
  | zero => exact Nat.zero_le _
  | succ turns ih =>
    rw [Nat.count_succ, run_succ]
    exact (Nat.add_le_add_right ih _).trans (quota_step resources oracle stage)

/-! ## Every run -/

theorem nodup_registered {trace : List (WifiCall × ℤ)} (hrespects : wifi.Respects wiring trace) :
    (registered trace).Nodup := by
  induction trace with
  | nil => exact List.nodup_nil
  | cons event earlier ih =>
    cases hdevice : registration event with
    | none =>
      rw [registered, List.filterMap_cons_none hdevice]
      exact ih hrespects.2
    | some device =>
      rw [registered, List.filterMap_cons_some hdevice]
      refine List.nodup_cons.2 ⟨?_, ih hrespects.2⟩
      have hallowed := hrespects.1.2
      match event, hdevice with
      | (.platformDeviceRegister other info, answer), hdevice =>
        rw [registration] at hdevice
        split at hdevice
        · cases hdevice
        · cases hdevice
          exact hallowed.1

/-- Every run registers each device at most once, and only when no call has failed and the shared
memory and all devices of the stage before were seen bound.  It is ready only if all devices were seen
bound.  After a failure or a timeout nothing happens any more.  No stage is tried more than 90 times,
and after 451 turns the work is not queued. -/
theorem wifi_run (turns : ℕ) :
    let state := run resources oracle turns
    (registered state.trace).Nodup ∧
      (∀ later device info answer earlier,
        state.trace = later ++ (.platformDeviceRegister device info, answer) :: earlier →
          ¬wifi.Failed earlier ∧ Cleared device earlier) ∧
      (state.ready = true →
        SmemSeen state.trace ∧ ∀ device, device.hasDriver = true → Seen device state.trace) ∧
      (wifi.Failed state.trace ∨ maxAttempts < state.attempts →
        state.queued = false ∧ ∀ more, run resources oracle (turns + more) = state) ∧
      (∀ stage, Nat.count (fun turn ↦ Tries stage (run resources oracle turn)) turns ≤ maxAttempts) ∧
      (5 * maxAttempts < turns → state.queued = false) := by
  intro state
  have hsound : Sound state := sound_run resources oracle turns
  refine ⟨nodup_registered hsound.respects, ?_, ?_, ?_, ?_, ?_⟩
  · intro later device info answer earlier htrace
    have hrespects := hsound.respects
    rw [htrace] at hrespects
    obtain ⟨hcleanup, _, hcleared⟩ := hrespects.allowed
    exact ⟨fun hfailed ↦ Bool.noConfusion (hcleanup hfailed), hcleared⟩
  · intro hready
    have hevidence := hsound.evident hready
    refine ⟨hevidence.smem (by decide), fun device hdriver ↦ hevidence.earlier device hdriver ?_⟩
    cases device <;> decide
  · intro hover
    have hstopped : state.queued = false := by
      refine Bool.eq_false_iff.2 fun hqueued ↦ ?_
      have hwaiting := hsound.waiting hqueued
      rcases hover with hfailed | htimeout
      · exact hwaiting.clean hfailed
      · exact Nat.not_lt.2 hwaiting.attempts_le htimeout
    exact ⟨hstopped, run_add_of_not_queued resources oracle hstopped⟩
  · exact fun stage ↦ (count_tries_le resources oracle stage turns).trans (quota_le stage state)
  · intro hturns
    refine Bool.eq_false_iff.2 fun hqueued ↦ ?_
    have hzero : remaining state ≤ 5 * maxAttempts + 1 - turns := remaining_run resources oracle turns
    have hpos := hsound.remaining_pos hqueued
    omega

end

/-- A board on which every call succeeds and every device is bound at once; an interrupt has the number
of its line. -/
def willing (_ : ℕ) : WifiCall → ℤ
  | .acpiIrqGet .pep index => if index = 4 then 37 else 421
  | .acpiIrqGet .glnk index => if index = 0 then 483 else 481
  | .acpiIrqGet .amss _ => 298
  | .acpiIrqGet .qwln index => 446 + index
  | .irqGetIrqData irq => irq
  | .pmGenpdAddDevice _ | .clkRegisterClkdev .. => 0
  | _ => 1

example : (run (wlanWindows.map fun window ↦ ⟨true, window.1, window.2⟩) willing 5).ready = true := by
  decide +kernel

example : (run [] willing 5).ready = false := by decide +kernel

end TclB220G.Wifi
