import Mathlib.Data.List.Nodup
import TclB220G.Acpi.Dma
import TclB220G.Iort.Scan

/-!
# DMA configuration along the probe of the UFS host

The UFS host is configured more than once.  `platform_dma_configure` uses the DMA attribute that the
firmware declares, and `ufs_qcom_probe` and `ufshcd_pltfrm_init` then repeat the configuration as if
the attribute were coherent.  The stream ID is translated once, because a device that has a fwspec is
not translated again.  The coherence, however, is set each time, and only a deferral by the firmware
tables keeps it from being overwritten.
-/

namespace TclB220G.Acpi

open Kernel Kernel.Errno Iort

/-- The input ID by which the IORT table knows the UFS host. -/
def ufsInputId : ℕ := 0x81030000

/-- A function of the UFS driver that configures the host again. -/
inductive UfsStep
  | qcomProbe | pltfrmInit
  deriving DecidableEq, Repr

section

variable (env : DmaEnvironment) (device : PlatformDevice)

/-- The configuration that both functions repeat, with its result ignored. -/
def reconfigureUfs (dma : Dma) : Dma :=
  if device.companion.isSome then
    (acpiDmaConfigureId env device.toDevice .coherent (some 0x81030000) dma).2
  else dma

def ufsQcomProbe : Dma → Dma := reconfigureUfs env device

def ufshcdPltfrmInit : Dma → Dma := reconfigureUfs env device

def UfsStep.apply (dma : Dma) : UfsStep → Dma
  | .qcomProbe => ufsQcomProbe env device dma
  | .pltfrmInit => ufshcdPltfrmInit env device dma

/-- The probe of a host that was configured by the bus. -/
def probeUfs (steps : List UfsStep) (dma : Dma) : Dma := steps.foldl (UfsStep.apply env device) dma

end

/-- The UFS host as a platform device of the ACPI bus. -/
structure IsUfsHost (device : PlatformDevice) (adev : AcpiDevice) : Prop
    extends IsUfsDevice device.toDevice adev where
  fwnode : device.fwnode = .acpi adev

/-! ## What the firmware tables answer -/

/-- A configuration of a device without a fwspec succeeds with different stream IDs, or fails and
leaves the device without one. -/
def Configures (outcome : Option Errno × Option (List ℕ)) : Prop :=
  (outcome.1 = none → ∃ ids, outcome.2 = some ids ∧ ids.Nodup) ∧
    (outcome.1 ≠ none → outcome.2 = none)

theorem Configures.eq_none_of_fwspec {outcome : Option Errno × Option (List ℕ)}
    (hconfigures : Configures outcome) {ids : List ℕ} (hids : outcome.2 = some ids) :
    outcome.1 = none := by
  by_contra hfails
  cases hids.symm.trans (hconfigures.2 hfails)

/-- What the tables other than IORT do for a device without a fwspec. -/
structure OtherTablesConfigure (env : DmaEnvironment) (device : Device) : Prop where
  rimt : ∀ idIn, Configures (env.rimtConfigure device idIn none)
  viot : Configures (env.viotConfigure device none)

section

variable (env : DmaEnvironment) (device : Device)

/-- The SMMU and the stream that the IORT table has for the host. -/
def ufsTarget : Option (ℕ × ℕ) :=
  (env.scanNode (matcher env.toEnvironment device)).bind (env.nodeMapId · ufsInputId)

/-- What IORT answers for the host without a fwspec, as the translation of the given number. -/
def iortAnswer (count : ℕ) : Option Errno × Option (List ℕ) :=
  match ufsTarget env device with
  | none => (some ENODEV, none)
  | some (parent, stream) => env.xlate count parent stream none

/-- What IORT, RIMT and VIOT come to for the host without a fwspec. -/
def tablesAnswer (count : ℕ) : Option Errno × Option (List ℕ) :=
  let iort := iortAnswer env device count
  let rimt := if failsForGood iort.1 then env.rimtConfigure device (some ufsInputId) iort.2 else iort
  if failsForGood rimt.1 then env.viotConfigure device rimt.2 else rimt

variable {env device}

theorem configures_iortAnswer (hxlate : env.XlateAppends) (count : ℕ) :
    Configures (iortAnswer env device count) := by
  unfold iortAnswer
  cases ufsTarget env device with
  | none => exact ⟨fun h ↦ absurd h (Option.some_ne_none _), fun _ ↦ rfl⟩
  | some target =>
    obtain ⟨parent, stream⟩ := target
    refine ⟨fun hstatus ↦ ⟨[stream], hxlate.succeeds count parent stream none hstatus, ?_⟩,
      hxlate.fails count parent stream none⟩
    exact List.nodup_singleton stream

/-- A table that is asked after a lasting failure starts without a fwspec. -/
theorem Configures.fallback {first : Option Errno × Option (List ℕ)}
    {second : Option (List ℕ) → Option Errno × Option (List ℕ)} (hfirst : Configures first)
    (hsecond : Configures (second none)) :
    Configures (if failsForGood first.1 then second first.2 else first) := by
  split
  · next hfails =>
    simp only [failsForGood, decide_eq_true_eq] at hfails
    rw [hfirst.2 hfails.1]
    exact hsecond
  · exact hfirst

theorem configures_tablesAnswer (hxlate : env.XlateAppends)
    (htables : OtherTablesConfigure env device) (count : ℕ) :
    Configures (tablesAnswer env device count) :=
  ((configures_iortAnswer hxlate count).fallback (htables.rimt _)).fallback htables.viot

/-- Being asked once more, the tables give their next answer.  The number of translations does not
count where IORT has no translation to make. -/
theorem tablesAnswer_congr (hnone : ufsTarget env device = none) (first second : ℕ) :
    tablesAnswer env device first = tablesAnswer env device second := by
  simp only [tablesAnswer, iortAnswer, hnone]

end

/-! ## One configuration of the host -/

section

variable (env : DmaEnvironment) (device : Device) (idIn : Option ℕ) (outcome : Option Errno × Dma)

theorem tryRimt_coherent : (tryRimt env device idIn outcome).2.coherent = outcome.2.coherent := by
  unfold tryRimt
  split <;> rfl

theorem tryRimt_xlates : (tryRimt env device idIn outcome).2.xlates = outcome.2.xlates := by
  unfold tryRimt
  split <;> rfl

theorem tryViot_coherent : (tryViot env device outcome).2.coherent = outcome.2.coherent := by
  unfold tryViot
  split <;> rfl

theorem tryViot_xlates : (tryViot env device outcome).2.xlates = outcome.2.xlates := by
  unfold tryViot
  split <;> rfl

end

section

variable (env : DmaEnvironment) {device : PlatformDevice} {adev : AcpiDevice}
  (hhost : IsUfsHost device adev)

include hhost

theorem iortIommuConfigureId_ufs (dma : Dma) (hfwspec : dma.fwspec = none) :
    let result := iortIommuConfigureId env.toEnvironment device.toDevice (some ufsInputId) dma
    (result.1, result.2.fwspec) = iortAnswer env device.toDevice dma.xlates ∧
      (ufsTarget env device.toDevice ≠ none → result.2.xlates = dma.xlates + 1) := by
  intro result
  have hresult := iortIommuConfigureId_of_not_hasBoardMap env.toEnvironment device.toDevice
    (some ufsInputId) dma hhost.notPci hhost.hasBoardMap_eq_false
  have hnode (node : ℕ) : configureNamedComponent env.toEnvironment device.toDevice node
      (some ufsInputId) dma = iortNcIommuMapId env.toEnvironment node ufsInputId dma := rfl
  simp only [result, hresult, hnode, iortAnswer, ufsTarget]
  cases env.scanNode (matcher env.toEnvironment device.toDevice) with
  | none => simp [hfwspec]
  | some node =>
    simp only [iortNcIommuMapId, Option.bind_some]
    cases env.nodeMapId node ufsInputId with
    | none => simp [hfwspec]
    | some target => simp [Environment.iortIommuXlate, hfwspec]

/-- The tables are asked once, and their later answers move up. -/
theorem acpiIommuConfigureId_ufs (dma : Dma) (hfwspec : dma.fwspec = none) :
    let result := acpiIommuConfigureId env device.toDevice (some ufsInputId) dma
    (result.1, result.2.fwspec) = tablesAnswer env device.toDevice dma.xlates ∧
      result.2.coherent = dma.coherent ∧
      ∀ later, tablesAnswer env device.toDevice (result.2.xlates + later) =
        tablesAnswer env device.toDevice (dma.xlates + (later + 1)) := by
  intro result
  let iort := iortIommuConfigureId env.toEnvironment device.toDevice (some ufsInputId) dma
  obtain ⟨hanswer, hxlates⟩ := iortIommuConfigureId_ufs env hhost dma hfwspec
  have hdpu := hhost.isDpu_eq_false
  have hresult : result = tryViot env device.toDevice
      (tryRimt env device.toDevice (some ufsInputId) iort) :=
    acpiIommuConfigureId_of_not_fwspec env device.toDevice hdpu _ dma hfwspec
  have hrimt := tryRimt_eq env device.toDevice hdpu (some ufsInputId) iort
  have hviot := tryViot_eq env device.toDevice hdpu
    (tryRimt env device.toDevice (some ufsInputId) iort)
  have hkeeps : result.2.coherent = iort.2.coherent ∧ result.2.xlates = iort.2.xlates := by
    rw [hresult]
    constructor
    · rw [tryViot_coherent, tryRimt_coherent]
    · rw [tryViot_xlates, tryRimt_xlates]
  refine ⟨?_, ?_, fun later ↦ ?_⟩
  · rw [hresult, hviot, tablesAnswer, ← hanswer]
    dsimp only
    rw [← hrimt]
  · rw [hkeeps.1]
    exact (frames_iortIommuConfigureId env.toEnvironment device.toDevice _ dma).2
  · rw [hkeeps.2]
    by_cases htarget : ufsTarget env device.toDevice = none
    · exact tablesAnswer_congr htarget _ _
    · rw [hxlates htarget, Nat.add_assoc, Nat.add_comm 1]

theorem acpiDmaConfigureId_ufs (attr : DmaAttr) (hattr : attr ≠ .notSupported) (dma : Dma) :
    let outcome := acpiIommuConfigureId env device.toDevice (some ufsInputId) dma
    acpiDmaConfigureId env device.toDevice attr (some ufsInputId) dma =
      if outcome.1 = some EPROBE_DEFER then outcome
      else (none, { outcome.2 with coherent := some (attr = .coherent) }) := by
  simp [acpiDmaConfigureId, hattr, acpiTclDpuStrictDma, hhost.isDpu_eq_false]

/-- A host that has a fwspec is only given another coherence. -/
theorem acpiDmaConfigureId_ufs_of_fwspec (attr : DmaAttr) (hattr : attr ≠ .notSupported) (dma : Dma)
    (hfwspec : dma.fwspec.isSome = true) :
    acpiDmaConfigureId env device.toDevice attr (some ufsInputId) dma =
      (none, { dma with coherent := some (attr = .coherent) }) := by
  rw [acpiDmaConfigureId_ufs env hhost attr hattr,
    acpiIommuConfigureId_of_fwspec env device.toDevice hhost.isDpu_eq_false _ dma hfwspec]
  rfl

theorem acpiDmaConfigureId_ufs_of_not_fwspec (attr : DmaAttr) (hattr : attr ≠ .notSupported)
    (dma : Dma) (hfwspec : dma.fwspec = none) :
    let result := acpiDmaConfigureId env device.toDevice attr (some ufsInputId) dma
    let answer := tablesAnswer env device.toDevice dma.xlates
    (result.1 = none → answer.1 ≠ some EPROBE_DEFER) ∧ result.2.fwspec = answer.2 ∧
      result.2.coherent =
        (if answer.1 = some EPROBE_DEFER then dma.coherent else some (attr = .coherent)) ∧
      ∀ later, tablesAnswer env device.toDevice (result.2.xlates + later) =
        tablesAnswer env device.toDevice (dma.xlates + (later + 1)) := by
  intro result answer
  obtain ⟨hanswer, hcoherent, hlater⟩ := acpiIommuConfigureId_ufs env hhost dma hfwspec
  have hstatus : (acpiIommuConfigureId env device.toDevice (some ufsInputId) dma).1 = answer.1 :=
    congrArg Prod.fst hanswer
  have hresult := acpiDmaConfigureId_ufs env hhost attr hattr dma
  dsimp only at hresult
  rw [hstatus] at hresult
  by_cases hdefers : answer.1 = some EPROBE_DEFER
  · rw [if_pos hdefers] at hresult
    simp only [result, hresult, if_pos hdefers]
    refine ⟨fun hnone ↦ ?_, congrArg Prod.snd hanswer, hcoherent, hlater⟩
    rw [hstatus, hdefers] at hnone
    cases hnone
  · rw [if_neg hdefers] at hresult
    simp only [result, hresult, if_neg hdefers, true_and]
    exact ⟨fun _ ↦ hdefers, congrArg Prod.snd hanswer, hlater⟩

end

/-! ## The whole probe -/

/-- The fwspec that the tables leave when they are asked a number of times, from the given time on,
until a fwspec is there. -/
def firstFwspec (env : DmaEnvironment) (device : Device) (start number : ℕ) : Option (List ℕ) :=
  (List.range number).findSome? fun later ↦ (tablesAnswer env device (start + later)).2

/-- The coherence that a DMA attribute declares. -/
def declaredCoherence : DmaAttr → Option Bool
  | .notSupported => none
  | .nonCoherent => some false
  | .coherent => some true

/-- A coherence that is the declared one unless it is disturbed, and is true then. -/
theorem coherent_eq_declared_iff {attr : DmaAttr} (hattr : attr ≠ .notSupported)
    {coherent : Option Bool} {undisturbed : Prop}
    (hkept : undisturbed → coherent = some (decide (attr = .coherent)))
    (hset : ¬undisturbed → coherent = some true) :
    coherent = declaredCoherence attr ↔ attr = .coherent ∨ undisturbed := by
  cases attr with
  | notSupported => exact absurd rfl hattr
  | nonCoherent =>
    simp only [reduceCtorEq, false_or]
    refine ⟨fun hdeclared ↦ ?_, hkept⟩
    by_contra hdisturbed
    cases (hset hdisturbed).symm.trans hdeclared
  | coherent =>
    simp only [true_or, iff_true]
    by_cases h : undisturbed
    · exact hkept h
    · exact hset h

/-- How often `platform_dma_configure` asks the tables. -/
def busLookups (attr : DmaAttr) : ℕ := if attr = .notSupported then 0 else 1

/-- The tables defer each time. -/
def AllDefer (env : DmaEnvironment) (device : Device) (start number : ℕ) : Prop :=
  ∀ later < number, (tablesAnswer env device (start + later)).1 = some EPROBE_DEFER

theorem allDefer_of_eq_zero (env : DmaEnvironment) (device : Device) (start : ℕ) {number : ℕ}
    (hnumber : number = 0) : AllDefer env device start number := by
  rw [hnumber]
  exact fun later hlater ↦ absurd hlater (Nat.not_lt_zero later)

section

variable {env : DmaEnvironment} {device : Device} {start next : ℕ}
  (hlater : ∀ later,
    tablesAnswer env device (next + later) = tablesAnswer env device (start + (later + 1)))

include hlater

theorem firstFwspec_succ (number : ℕ) :
    firstFwspec env device start (number + 1) =
      (tablesAnswer env device start).2.or (firstFwspec env device next number) := by
  have hshift : (fun later ↦ (tablesAnswer env device (start + later)).2) ∘ Nat.succ =
      fun later ↦ (tablesAnswer env device (next + later)).2 := by
    funext later
    rw [hlater]
    rfl
  rw [firstFwspec, List.range_succ_eq_map, List.findSome?_cons, List.findSome?_map, hshift,
    Nat.add_zero]
  cases (tablesAnswer env device start).2 with
  | none => rfl
  | some ids => rfl

theorem allDefer_succ (number : ℕ) :
    AllDefer env device start (number + 1) ↔
      (tablesAnswer env device start).1 = some EPROBE_DEFER ∧ AllDefer env device next number := by
  simp only [AllDefer, Nat.forall_lt_succ_left, hlater]
  rfl

end

section

variable (env : DmaEnvironment) {device : PlatformDevice} {adev : AcpiDevice}
  (hhost : IsUfsHost device adev)

include hhost

theorem UfsStep.apply_eq (step : UfsStep) (dma : Dma) :
    step.apply env device dma =
      (acpiDmaConfigureId env device.toDevice .coherent (some ufsInputId) dma).2 := by
  have hcompanion : device.companion.isSome = true := by rw [hhost.companion]; rfl
  cases step with
  | qcomProbe => exact if_pos hcompanion
  | pltfrmInit => exact if_pos hcompanion

theorem probeUfs_of_fwspec (steps : List UfsStep) (dma : Dma) (hfwspec : dma.fwspec.isSome = true) :
    (probeUfs env device steps dma).fwspec = dma.fwspec ∧
      (probeUfs env device steps dma).coherent =
        if steps = [] then dma.coherent else some true := by
  induction steps generalizing dma with
  | nil => exact ⟨rfl, rfl⟩
  | cons step steps ih =>
    have hstep : step.apply env device dma = { dma with coherent := some true } := by
      rw [step.apply_eq env hhost,
        acpiDmaConfigureId_ufs_of_fwspec env hhost .coherent (by decide) dma hfwspec]
      rfl
    rw [probeUfs, List.foldl_cons, hstep]
    obtain ⟨hkept, hcoherent⟩ := ih { dma with coherent := some true } hfwspec
    refine ⟨hkept, hcoherent.trans ?_⟩
    simp

variable (hxlate : env.XlateAppends) (htables : OtherTablesConfigure env device.toDevice)

include hxlate htables

theorem probeUfs_of_not_fwspec (steps : List UfsStep) (dma : Dma) (hfwspec : dma.fwspec = none) :
    (probeUfs env device steps dma).fwspec =
        firstFwspec env device.toDevice dma.xlates steps.length ∧
      (AllDefer env device.toDevice dma.xlates steps.length →
        (probeUfs env device steps dma).coherent = dma.coherent) ∧
      (¬AllDefer env device.toDevice dma.xlates steps.length →
        (probeUfs env device steps dma).coherent = some true) := by
  induction steps generalizing dma with
  | nil => simp [probeUfs, firstFwspec, AllDefer, hfwspec]
  | cons step steps ih =>
    obtain ⟨-, hanswer, hcoherent, hlater⟩ :=
      acpiDmaConfigureId_ufs_of_not_fwspec env hhost .coherent (by decide) dma hfwspec
    have hconfigures := configures_tablesAnswer hxlate htables dma.xlates
    rw [List.length_cons, firstFwspec_succ hlater, allDefer_succ hlater, ← hanswer]
    rw [probeUfs, List.foldl_cons, step.apply_eq env hhost]
    generalize (acpiDmaConfigureId env device.toDevice .coherent (some ufsInputId) dma).2 = next
      at hanswer hcoherent
    cases hfound : next.fwspec with
    | some ids =>
      obtain ⟨hkept, hset⟩ := probeUfs_of_fwspec env hhost steps next (by rw [hfound]; rfl)
      have hsucceeds := hconfigures.eq_none_of_fwspec (hanswer.symm.trans hfound)
      rw [hsucceeds] at hcoherent ⊢
      refine ⟨hkept.trans hfound, fun h ↦ ?_, fun _ ↦ ?_⟩
      · cases h.1
      · rw [probeUfs] at hset
        rw [hset, hcoherent]
        simp
    | none =>
      obtain ⟨hkept, hdefer, hset⟩ := ih next hfound
      refine ⟨hkept, fun h ↦ ?_, fun h ↦ ?_⟩
      · rw [if_pos h.1] at hcoherent
        exact (hdefer h.2).trans hcoherent
      · by_cases hrest : AllDefer env device.toDevice next.xlates steps.length
        · rw [if_neg fun hfirst ↦ h ⟨hfirst, hrest⟩] at hcoherent
          exact (hdefer hrest).trans hcoherent
        · exact hset hrest

omit hhost in
theorem nodup_firstFwspec (start number : ℕ) :
    ((firstFwspec env device.toDevice start number).getD []).Nodup := by
  cases hfirst : firstFwspec env device.toDevice start number with
  | none => exact List.nodup_nil
  | some ids =>
    obtain ⟨later, -, hanswer⟩ := List.exists_of_findSome?_eq_some hfirst
    have hconfigures := configures_tablesAnswer hxlate htables (start + later)
    obtain ⟨found, hfound, hnodup⟩ := hconfigures.1 (hconfigures.eq_none_of_fwspec hanswer)
    cases hfound.symm.trans hanswer
    exact hnodup

end

/-- The host with this attribute keeps the declared coherence when it is configured again a number of
times: it is coherent, or is not configured again, or every later configuration is deferred. -/
def Undisturbed (env : DmaEnvironment) (device : Device) (attr : DmaAttr) (number : ℕ) : Prop :=
  attr = .coherent ∨ number = 0 ∨
    (attr = .notSupported ∨ (tablesAnswer env device 0).1 ≠ none) ∧
      AllDefer env device (busLookups attr) number

section

variable (env : DmaEnvironment) {device : PlatformDevice} {adev : AcpiDevice}
  (hhost : IsUfsHost device adev)

include hhost

/-- What is left of `platform_dma_configure` for the host. -/
theorem platformDmaConfigure_ufs (dma : Dma) :
    let outcome := acpiDmaConfigureId env device.toDevice adev.dmaAttr (some ufsInputId) dma
    (platformDmaConfigure env device dma).2 = outcome.2 ∧
      ((platformDmaConfigure env device dma).1 = none → outcome.1 = none) := by
  have hfwnode : configureFwnode env device dma =
      .ok (acpiDmaConfigureId env device.toDevice adev.dmaAttr (some ufsInputId) dma) := by
    simp [configureFwnode, hhost.fwnode, hhost.hid, ufsInputId]
  have hsupplemental : device.isSupplemental = false := by
    simp [PlatformDevice.isSupplemental, hhost.fwnode]
  simp only [platformDmaConfigure, hfwnode, configureGpu, hsupplemental, configureAudio,
    hhost.fwnode, Bool.false_and, Bool.false_eq_true, if_false]
  split
  · exact ⟨rfl, fun h ↦ h⟩
  · next hcontinues =>
    have hnone := not_not.1 (not_or.1 hcontinues).1
    split
    · exact ⟨rfl, fun _ ↦ hnone⟩
    · exact ⟨rfl, fun _ ↦ hnone⟩

variable (hxlate : env.XlateAppends) (htables : OtherTablesConfigure env device.toDevice)

include hxlate htables

/-- Where DMA is not supported, the driver is the first to ask the tables. -/
theorem probeUfs_notSupported (hattr : adev.dmaAttr = .notSupported) (steps : List UfsStep) :
    let final := probeUfs env device steps (platformDmaConfigure env device unconfigured).2
    final.fwspec = firstFwspec env device.toDevice 0 steps.length ∧
      (final.coherent = none ↔ AllDefer env device.toDevice 0 steps.length) := by
  intro final
  have hconfigured : (platformDmaConfigure env device unconfigured).2 =
      unconfigured.detour .dummyOps := by
    rw [(platformDmaConfigure_ufs env hhost unconfigured).1]
    simp [acpiDmaConfigureId, hattr, acpiTclDpuStrictDma, hhost.isDpu_eq_false]
  obtain ⟨hfwspec, hdefer, hset⟩ := probeUfs_of_not_fwspec env hhost hxlate htables steps
    (unconfigured.detour .dummyOps) rfl
  simp only [final, hconfigured]
  refine ⟨hfwspec, fun hkept ↦ ?_, hdefer⟩
  by_contra hasked
  cases (hset hasked).symm.trans hkept

/-- Where DMA is supported, the bus sets the coherence, and the driver overwrites it unless it is never
called or the tables have no fwspec and defer each time. -/
theorem probeUfs_supported (hattr : adev.dmaAttr ≠ .notSupported)
    (hconfigured : (platformDmaConfigure env device unconfigured).1 = none) (steps : List UfsStep) :
    let final := probeUfs env device steps (platformDmaConfigure env device unconfigured).2
    let undisturbed := steps.length = 0 ∨ (tablesAnswer env device.toDevice 0).1 ≠ none ∧
      AllDefer env device.toDevice 1 steps.length
    final.fwspec = firstFwspec env device.toDevice 0 (steps.length + 1) ∧
      (undisturbed → final.coherent = some (decide (adev.dmaAttr = .coherent))) ∧
      (¬undisturbed → final.coherent = some true) := by
  intro final undisturbed
  obtain ⟨hoverall, hstatus⟩ := platformDmaConfigure_ufs env hhost unconfigured
  obtain ⟨hdefers, hanswer, hcoherent, hlater⟩ :=
    acpiDmaConfigureId_ufs_of_not_fwspec env hhost adev.dmaAttr hattr unconfigured rfl
  rw [if_neg (hdefers (hstatus hconfigured))] at hcoherent
  rw [← hoverall] at hanswer hcoherent hlater
  change _ = (tablesAnswer env device.toDevice 0).2 at hanswer
  change ∀ later, _ = tablesAnswer env device.toDevice (0 + (later + 1)) at hlater
  have hconfigures := configures_tablesAnswer hxlate htables 0
  rw [firstFwspec_succ hlater, ← hanswer]
  have hnext : AllDefer env device.toDevice 1 steps.length ↔
      AllDefer env device.toDevice (platformDmaConfigure env device unconfigured).2.xlates
        steps.length := by
    simp only [AllDefer, hlater, Nat.zero_add, Nat.add_comm 1]
  cases hfound : (platformDmaConfigure env device unconfigured).2.fwspec with
  | some ids =>
    have hsucceeds := hconfigures.eq_none_of_fwspec (hanswer.symm.trans hfound)
    obtain ⟨hkept, hset⟩ := probeUfs_of_fwspec env hhost steps _ (Option.isSome_of_eq_some hfound)
    rw [hcoherent] at hset
    refine ⟨hkept.trans hfound, fun h ↦ ?_, fun h ↦ ?_⟩
    · rcases h with hnil | hfails
      · rw [if_pos (List.length_eq_zero_iff.1 hnil)] at hset
        exact hset
      · exact absurd hsucceeds hfails.1
    · rw [if_neg fun hnil ↦ h (.inl (List.length_eq_zero_iff.2 hnil))] at hset
      exact hset
  | none =>
    have hfails : (tablesAnswer env device.toDevice 0).1 ≠ none := by
      intro hsucceeds
      obtain ⟨ids, hids, -⟩ := hconfigures.1 hsucceeds
      rw [hids, hfound] at hanswer
      cases hanswer
    obtain ⟨hkept, hdefer, hset⟩ :=
      probeUfs_of_not_fwspec env hhost hxlate htables steps _ hfound
    rw [hcoherent, ← hnext] at hdefer
    rw [← hnext] at hset
    refine ⟨hkept, fun h ↦ hdefer ?_, fun h ↦ hset fun hall ↦ h (.inr ⟨hfails, hall⟩)⟩
    exact h.elim (allDefer_of_eq_zero env device.toDevice 1) And.right

/-- However often the driver configures the host again, the fwspec holds the stream IDs of the first
answer that had any.  The declared coherence stays in force exactly if it is not disturbed. -/
theorem probeUfs_declared_iff
    (hconfigured : (platformDmaConfigure env device unconfigured).1 = none) (steps : List UfsStep) :
    let final := probeUfs env device steps (platformDmaConfigure env device unconfigured).2
    (final.coherent = declaredCoherence adev.dmaAttr ∧
        final.fwspec = firstFwspec env device.toDevice 0
          (steps.length + busLookups adev.dmaAttr) ∧
        (final.fwspec.getD []).Nodup) ↔
      Undisturbed env device.toDevice adev.dmaAttr steps.length := by
  intro final
  by_cases hattr : adev.dmaAttr = .notSupported
  · obtain ⟨hfwspec, hcoherent⟩ := probeUfs_notSupported env hhost hxlate htables hattr steps
    have hnodup := nodup_firstFwspec env hxlate htables 0 steps.length
    rw [← hfwspec] at hnodup
    simp only [hattr, declaredCoherence, busLookups, Undisturbed, if_true, Nat.add_zero, true_or,
      true_and, reduceCtorEq, false_or]
    rw [or_iff_right_of_imp (allDefer_of_eq_zero env device.toDevice 0)]
    exact ⟨fun h ↦ hcoherent.1 h.1, fun h ↦ ⟨hcoherent.2 h, hfwspec, hnodup⟩⟩
  · obtain ⟨hfwspec, hkept, hset⟩ :=
      probeUfs_supported env hhost hxlate htables hattr hconfigured steps
    have hnodup := nodup_firstFwspec env hxlate htables 0 (steps.length + 1)
    rw [← hfwspec] at hnodup
    have hcoherent := coherent_eq_declared_iff hattr hkept hset
    rw [← false_or ((tablesAnswer env device.toDevice 0).1 ≠ none), ← eq_false hattr] at hcoherent
    simp only [busLookups, Undisturbed, if_neg hattr]
    exact ⟨fun h ↦ hcoherent.1 h.1, fun h ↦ ⟨hcoherent.2 h, hfwspec, hnodup⟩⟩

end

/-- The host on a board whose firmware declares the given DMA attribute. -/
def ufsHost (attr : DmaAttr) : PlatformDevice where
  toDevice := ufsDevice attr
  fwnode := .acpi ⟨"QCOM24A5", 4, attr⟩
  parentAdev := none
  grandparentAdev := none
  managesDma := some false

theorem isUfsHost_ufsHost (attr : DmaAttr) : IsUfsHost (ufsHost attr) ⟨"QCOM24A5", 4, attr⟩ :=
  ⟨isUfsDevice_ufsDevice attr, rfl⟩

/-- The board, with the mapping of the UFS host. -/
def ufsEnvironment : DmaEnvironment :=
  { boardEnvironment (ufsTable "\\_SB.UFS0") with
    scanNode := iortScanNode (ufsTable "\\_SB.UFS0").toMemory namedComponentType
    nodeMapId := fun node id ↦
      if node = 108 ∧ id = ufsInputId then some (48, 0xa0) else none }

theorem xlateAppends_ufsEnvironment : ufsEnvironment.XlateAppends :=
  ⟨fun _ _ _ _ _ ↦ rfl, fun _ _ _ _ h ↦ absurd rfl h⟩

theorem otherTablesConfigure_ufsEnvironment (device : Device) :
    OtherTablesConfigure ufsEnvironment device :=
  ⟨fun _ ↦ ⟨fun h ↦ absurd h (Option.some_ne_none _), fun _ ↦ rfl⟩,
    fun h ↦ absurd h (Option.some_ne_none _), fun _ ↦ rfl⟩

/-- A host that is declared not coherent is configured with its stream, and is coherent in the
end. -/
theorem probeUfs_nonCoherent :
    let configured := platformDmaConfigure ufsEnvironment (ufsHost .nonCoherent) unconfigured
    configured = (none, ⟨some [0xa0], 1, some false, []⟩) ∧
      (probeUfs ufsEnvironment (ufsHost .nonCoherent) [.qcomProbe, .pltfrmInit]
        configured.2).coherent = some true ∧
      some true ≠ declaredCoherence .nonCoherent := by
  decide +kernel

/-- A coherent host stays so, with the one stream. -/
theorem probeUfs_declared_iff_coherent :
    let final := probeUfs ufsEnvironment (ufsHost .coherent) [.qcomProbe, .pltfrmInit]
      (platformDmaConfigure ufsEnvironment (ufsHost .coherent) unconfigured).2
    final.coherent = some true ∧ final.fwspec = some [0xa0] := by
  intro final
  have hdeclared := (probeUfs_declared_iff ufsEnvironment (isUfsHost_ufsHost .coherent)
    xlateAppends_ufsEnvironment (otherTablesConfigure_ufsEnvironment _) (by decide +kernel)
    [.qcomProbe, .pltfrmInit]).2 (.inl rfl)
  exact ⟨hdeclared.1, hdeclared.2.1.trans (by decide +kernel)⟩

end TclB220G.Acpi
