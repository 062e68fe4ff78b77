import TclB220G.Display.BringUp

/-!
# Which failures of a bring-up are contained

Whatever fails, the GPU's coordinator leaves at most its clock controller open to probing, and the video
codec's at most its clock controller and the codec itself.  These are the stages that are not blocked
again.  Each of them stays open if its driver could not be attached and has not come since.
-/

namespace TclB220G.Display.BringUp

open Kernel Lib

section

variable {Id : Type} [DecidableEq Id] {probing : Probing Id} {released : List Id}

@[simp] theorem contains_ask (call : BringUpCall Id) :
    Contains (coordinator Id) probing released (ask call) :=
  contains_invoke rfl

@[simp] theorem contains_request (call : BringUpCall Id) :
    Contains (coordinator Id) probing released (request call) :=
  contains_step rfl

@[simp] theorem contains_require (call : BringUpCall Id) :
    Contains (coordinator Id) probing released (require call) :=
  contains_perform rfl

@[simp] theorem contains_refusal {α : Type} (errno : Errno) :
    Contains (coordinator Id) probing released (refuse errno : Script (StageCall Id) α) :=
  contains_refuse errno

@[simp] theorem contains_create (stage : Id) (name : String) (resources : List Resource) :
    Contains (coordinator Id) probing released (create stage name resources) :=
  contains_tclDisplayStageCreate stage name resources

@[simp] theorem contains_clock (stage : Id) (provider source consumer : String) :
    Contains (coordinator Id) probing released (clock stage provider source consumer) :=
  contains_tclDisplayStageClock stage provider source consumer

@[simp] theorem contains_domain (stage : Id) (provided : ℤ) :
    Contains (coordinator Id) probing released (domain stage provided) :=
  contains_tclDisplayStageDomain stage provided

@[simp] theorem contains_activate {stage : Id} (hstage : stage ∈ released) :
    Contains (coordinator Id) probing released (activate stage) :=
  contains_tclDisplayStageActivate hstage

@[simp] theorem contains_linkSupplier (consumer : Id) (provider : Provider Id) :
    Contains (coordinator Id) probing released (linkSupplier consumer provider) :=
  contains_require _

@[simp] theorem contains_supplier (name : String) :
    Contains (coordinator Id) probing released (supplier name : Script (StageCall Id) Unit) :=
  (contains_require _).bind fun _ ↦ (contains_require _).onFailure rfl

@[simp] theorem contains_boardCheck :
    Contains (coordinator Id) probing released (boardCheck : Script (StageCall Id) Unit) := by
  apply contains_inOrder
  simp

@[simp] theorem contains_clocks (stage : Id) (sources : List (String × String × String)) :
    Contains (coordinator Id) probing released (clocks stage sources) := by
  apply contains_inOrder
  simp only [List.forall_mem_map]
  exact fun source _ ↦ contains_clock stage source.1 source.2.1 source.2.2

end

/-! ## The GPU -/

section

variable {probing : Probing GpuStage} {released : List GpuStage}

theorem contains_gpuFirmwareCheck (resources : List FirmwareResource) :
    Contains (coordinator GpuStage) probing released (gpuFirmwareCheck resources) := by
  refine contains_boardCheck.bind fun _ ↦ ?_
  refine (contains_require _).bind fun _ ↦ ?_
  refine (contains_require _).bind fun _ ↦ ?_
  refine (contains_require _).bind fun _ ↦ ?_
  refine (contains_ask _).bind fun _ ↦ ?_
  split
  · exact contains_refusal _
  · refine (contains_require _).bind fun _ ↦ ?_
    refine (contains_request _).bind fun hfi ↦ ?_
    refine (contains_request _).bind fun gmu ↦ ?_
    exact contains_pure _

theorem contains_prepareClockController (hcc : .cc ∈ released) :
    Contains (coordinator GpuStage) probing released prepareClockController := by
  apply contains_inOrder
  simp [hcc]

@[simp] theorem contains_verifyAdrenoSmmu :
    Contains (coordinator GpuStage) probing released verifyAdrenoSmmu := by
  apply contains_inOrder
  simp

theorem contains_gpuDomains : Contains (coordinator GpuStage) probing released gpuDomains := by
  refine (contains_require _).bind fun _ ↦ ?_
  refine (contains_ask _).bind fun count ↦ ?_
  split
  · exact contains_refusal _
  · refine (contains_require _).bind fun _ ↦ ?_
    refine (contains_request _).bind fun cx ↦ ?_
    refine (contains_request _).bind fun gx ↦ ?_
    exact contains_pure _

@[simp] theorem contains_enableSmmuBus :
    Contains (coordinator GpuStage) probing released enableSmmuBus :=
  (contains_step rfl).bind fun _ ↦ contains_require _

theorem contains_prepareGpuDomains :
    Contains (coordinator GpuStage) probing released prepareGpuDomains := by
  apply contains_gpuDomains.bind
  intro domains
  apply contains_inOrder
  simp

theorem contains_prepareGmu (hgmu : .gmu ∈ released) (irqs : GpuIrqs) :
    Contains (coordinator GpuStage) probing released (prepareGmu irqs) := by
  apply contains_inOrder
  simp [hgmu]

@[simp] theorem contains_voteBandwidth :
    Contains (coordinator GpuStage) probing released voteBandwidth := by
  refine (contains_request _).bind fun path ↦ ?_
  exact (contains_require _).bind fun _ ↦ contains_require _

theorem contains_prepareAdreno (hadreno : .adreno ∈ released) (irqs : GpuIrqs) :
    Contains (coordinator GpuStage) probing released (prepareAdreno irqs) := by
  apply contains_inOrder
  simp [hadreno]

theorem contains_prepareGpu (resources : List FirmwareResource) :
    Contains (coordinator GpuStage) probing [.gmu, .adreno, .cc] (prepareGpu resources) := by
  refine (contains_gpuFirmwareCheck resources).bind fun irqs ↦ ?_
  apply contains_inOrder
  simp [contains_prepareClockController, contains_prepareGpuDomains, contains_prepareGmu,
    contains_prepareAdreno]

end

/-! ## The video codec -/

section

variable {probing : Probing VenusStage} {released : List VenusStage}

theorem contains_venusFirmwareCheck :
    Contains (coordinator VenusStage) probing released venusFirmwareCheck := by
  refine contains_boardCheck.bind fun _ ↦ ?_
  refine (contains_require _).bind fun _ ↦ ?_
  refine (contains_require _).bind fun _ ↦ ?_
  exact (contains_require _).bind fun _ ↦ contains_request _

theorem contains_findVenusSuppliers :
    Contains (coordinator VenusStage) probing released findVenusSuppliers := by
  refine contains_venusFirmwareCheck.bind fun irq ↦ ?_
  refine (contains_supplier _).bind fun _ ↦ ?_
  exact ((contains_supplier _).onFailure rfl).bind fun _ ↦ contains_pure irq

theorem contains_prepareVideocc (hvideocc : .videocc ∈ released) :
    Contains (coordinator VenusStage) probing released prepareVideocc := by
  apply contains_inOrder
  simp [hvideocc]

@[simp] theorem contains_prepareVenusDomain (stage : VenusStage) (name : String) (provided : ℤ) :
    Contains (coordinator VenusStage) probing released (prepareVenusDomain stage name provided) := by
  apply contains_inOrder
  simp

theorem contains_venusDomains : Contains (coordinator VenusStage) probing released venusDomains := by
  refine (contains_require _).bind fun _ ↦ ?_
  refine (contains_require _).bind fun _ ↦ ?_
  refine (contains_ask _).bind fun count ↦ ?_
  split
  · exact contains_refusal _
  · refine (contains_request _).bind fun venus ↦ ?_
    refine (contains_request _).bind fun vcodec0 ↦ ?_
    refine (contains_require _).bind fun _ ↦ ?_
    refine (contains_require _).bind fun _ ↦ ?_
    refine (contains_ask _).bind fun count ↦ ?_
    split
    · exact contains_refusal _
    · exact (contains_request _).bind fun cx ↦ contains_pure _

theorem contains_prepareVenusDomains :
    Contains (coordinator VenusStage) probing released prepareVenusDomains := by
  refine contains_venusDomains.bind fun domains ↦ ?_
  apply contains_inOrder
  simp

theorem contains_prepareVenus (hvenus : .venus ∈ released) (irq : ℤ) :
    Contains (coordinator VenusStage) probing released (prepareVenus irq) := by
  apply contains_inOrder
  simp [hvenus]

end

/-! ## Both coordinators at their end -/

theorem allFine_nil {Id : Type} [DecidableEq Id] (probing : Probing Id) :
    AllFine (coordinator Id) probing [] :=
  fun _ ↦ ⟨fun _ ↦ rfl, by simp [AttachFailed]⟩

/-- The GMU and the GPU are contained again at the end. -/
theorem ended_tclGpuInit (probing : Probing GpuStage) (resources : List FirmwareResource)
    (oracle : ℕ → StageCall GpuStage → ℤ)
    (hblocks : BlocksSucceed (tclGpuInit probing resources oracle []).2) :
    Ended (coordinator GpuStage) probing [.cc] (tclGpuInit probing resources oracle []).2 := by
  have htriple : (tclGpuInit probing resources).Triple (AllFine (coordinator GpuStage) probing)
      (fun _ trace ↦ BlocksSucceed trace → Ended (coordinator GpuStage) probing [.cc] trace)
      (fun trace ↦ BlocksSucceed trace → Ended (coordinator GpuStage) probing [.cc] trace) := by
    apply Script.triple_attempt (contains_prepareGpu resources)
    · exact fun _ ↦ Script.triple_pure fun trace hfine _ ↦ hfine.ended
    · intro result
      have hgmu : (blockUnbound (coordinator GpuStage) probing .gmu).Triple
          (Ended (coordinator GpuStage) probing [.gmu, .adreno, .cc])
          (fun _ trace ↦ BlocksSucceed trace →
            Ended (coordinator GpuStage) probing [.adreno, .cc] trace)
          (fun trace ↦ BlocksSucceed trace → Ended (coordinator GpuStage) probing [.cc] trace) :=
        Script.triple_consequence (triple_blockUnbound (by decide)) (fun _ hended _ ↦ hended)
          (fun _ _ ↦ id) fun _ ↦ id
      refine Script.triple_bind hgmu fun _ ↦ ?_
      refine Script.triple_bind (triple_blockUnbound (by decide)) fun _ ↦ ?_
      exact Script.triple_pure fun trace hended ↦ hended
  exact htriple.at_end oracle (allFine_nil probing) hblocks

theorem ended_tclAcpiVenusInit (probing : Probing VenusStage) (oracle : ℕ → StageCall VenusStage → ℤ) :
    Ended (coordinator VenusStage) probing [.videocc, .venus] (tclAcpiVenusInit oracle []).2 := by
  have hprepare : ∀ irq, Contains (coordinator VenusStage) probing [.videocc, .venus]
      (Script.inOrder [prepareVideocc, prepareVenusDomains, prepareVenus irq]) := by
    intro irq
    apply contains_inOrder
    simp [contains_prepareVideocc, contains_prepareVenusDomains, contains_prepareVenus]
  have htriple : tclAcpiVenusInit.Triple (AllFine (coordinator VenusStage) probing)
      (fun _ ↦ Ended (coordinator VenusStage) probing [.videocc, .venus])
      (Ended (coordinator VenusStage) probing [.videocc, .venus]) := by
    apply Script.triple_attempt contains_findVenusSuppliers
    · intro irq
      apply Script.triple_attempt (hprepare irq)
      · exact fun _ ↦ Script.triple_pure fun trace hfine ↦ hfine.ended
      · exact fun result ↦ Script.triple_pure fun trace hended ↦ hended
    · exact fun ret ↦ Script.triple_pure fun trace hended ↦ hended
  exact htriple.at_end oracle (allFine_nil probing)

/-- **Containment.** However the bring-ups end, no device without a driver is probed later if and only if
no clock controller and no codec was left without the driver that it was released to. -/
theorem neverProbed_bringUps_iff (gpuProbing : Probing GpuStage) (resources : List FirmwareResource)
    (gpuOracle : ℕ → StageCall GpuStage → ℤ) (venusProbing : Probing VenusStage)
    (venusOracle : ℕ → StageCall VenusStage → ℤ)
    (hblocks : BlocksSucceed (tclGpuInit gpuProbing resources gpuOracle []).2) :
    (NeverProbed (coordinator GpuStage) gpuProbing (tclGpuInit gpuProbing resources gpuOracle []).2 ↔
      ¬Abandoned (coordinator GpuStage) gpuProbing .cc (tclGpuInit gpuProbing resources gpuOracle []).2) ∧
    (NeverProbed (coordinator VenusStage) venusProbing (tclAcpiVenusInit venusOracle []).2 ↔
      ∀ stage ∈ [VenusStage.videocc, .venus],
        ¬Abandoned (coordinator VenusStage) venusProbing stage (tclAcpiVenusInit venusOracle []).2) := by
  constructor
  · have hended := ended_tclGpuInit gpuProbing resources gpuOracle hblocks
    rw [neverProbed_iff, hended.contained_iff, List.forall_mem_singleton]
  · rw [neverProbed_iff, (ended_tclAcpiVenusInit venusProbing venusOracle).contained_iff]

/-- Answers with which every call succeeds but for the attachment of drivers. -/
def attaching {Id : Type} (attach : Id → ℤ) : ℕ → StageCall Id → ℤ
  | _, .deviceAttach stage => attach stage
  | _, .other (.numDomains _) => 2
  | _, call => match (coordinator Id).callVerdict call with
    | .null _ | .positive _ => 1
    | _ => 0

/-- The resources of a firmware that passes the check. -/
def boardResources : List FirmwareResource :=
  [.mem 0x5000000 0x3f010, .mem 0x5060000 0x40000, .irq 7 7 (some (332, true))]

/-- A bring-up of the GPU in which the driver of one stage does not come. -/
def gpuWithout (missing : GpuStage) : Except ℤ InitOutcome × List (StageCall GpuStage × ℤ) :=
  tclGpuInit (fun _ _ ↦ false) boardResources (attaching fun stage ↦ if stage = missing then 0 else 1) []

/-- A bring-up of the video codec in which the driver of one stage does not come. -/
def venusWithout (missing : VenusStage) : Except ℤ InitOutcome × List (StageCall VenusStage × ℤ) :=
  tclAcpiVenusInit (attaching fun stage ↦ if stage = missing then 0 else 1) []

/-- A GMU whose driver does not come is blocked again, while a codec whose driver does not come is not. -/
theorem neverProbed_bringUps_iff_missing :
    ((gpuWithout .gmu).1 = .ok ⟨0, -517, false⟩ ∧
      NeverProbed (coordinator GpuStage) (fun _ _ ↦ false) (gpuWithout .gmu).2) ∧
    (venusWithout .venus).1 = .ok ⟨0, -517, false⟩ ∧
      ¬NeverProbed (coordinator VenusStage) (fun _ _ ↦ false) (venusWithout .venus).2 := by
  have hblocks : BlocksSucceed (gpuWithout .gmu).2 := by decide +kernel
  have hbound : (coordinator GpuStage).bound (fun _ _ ↦ false) (gpuWithout .gmu).2 .cc = true := by
    decide +kernel
  have hiff := neverProbed_bringUps_iff (fun _ _ ↦ false) boardResources
    (attaching fun stage ↦ if stage = .gmu then 0 else 1) (fun _ _ ↦ false)
    (attaching fun stage ↦ if stage = .venus then 0 else 1) hblocks
  have habandoned : Abandoned (coordinator VenusStage) (fun _ _ ↦ false) .venus (venusWithout .venus).2 :=
    ⟨⟨0, le_rfl, by decide +kernel⟩, by decide +kernel⟩
  refine ⟨⟨by decide +kernel, hiff.1.2 fun hcc ↦ ?_⟩, by decide +kernel, fun hnever ↦ ?_⟩
  · exact Bool.false_ne_true (hcc.2.symm.trans hbound)
  · exact hiff.2.1 hnever .venus (by decide) habandoned

/-- A clock controller whose driver does not come stays open to probing. -/
theorem not_neverProbed_clockController :
    ((gpuWithout .cc).1 = .ok ⟨0, -517, false⟩ ∧ BlocksSucceed (gpuWithout .cc).2 ∧
      ¬NeverProbed (coordinator GpuStage) (fun _ _ ↦ false) (gpuWithout .cc).2) ∧
    (venusWithout .videocc).1 = .ok ⟨0, -517, false⟩ ∧
      ¬NeverProbed (coordinator VenusStage) (fun _ _ ↦ false) (venusWithout .videocc).2 := by
  refine ⟨⟨by decide +kernel, by decide +kernel, fun hnever ↦ ?_⟩, by decide +kernel, fun hnever ↦ ?_⟩
  · have hhidden := neverProbed_iff.1 hnever .cc (by decide +kernel)
    exact absurd hhidden (by decide +kernel)
  · have hhidden := neverProbed_iff.1 hnever .videocc (by decide +kernel)
    exact absurd hhidden (by decide +kernel)

end TclB220G.Display.BringUp
