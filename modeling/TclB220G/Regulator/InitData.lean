import Mathlib.Data.BitVec
import TclB220G.Kernel.Errno

/-!
# Regulator init data from firmware nodes

`regulator_fwnode_get_init_data` builds the constraints of a regulator from the properties of its node.
Errors come back as error pointers.  `regulator_register` calls it when the device tree gave nothing; the
code behind that call, which the patch leaves as it is, recognises only the error `EPROBE_DEFER` in the
pointer and falls back to the configuration only for a null pointer.

The mask of the allowed modes is always the union that it should be.  What fails on the way never fails
the registration: the errors that the function reports are passed on as if they were init data, and a
property that cannot be decoded counts as one that is absent.
-/

namespace TclB220G.Regulator

open Kernel Kernel.Errno

/-- A kernel pointer that may hold an error. -/
inductive ErrPtr (Value : Type) where
  | null
  | valid (value : Value)
  | err (errno : Errno)
  deriving DecidableEq, Repr

/-- An `unsigned int`. -/
abbrev Word := BitVec 32

def regulatorModeInvalid : Word := 0x0
def regulatorChangeVoltage : Word := 0x1
def regulatorChangeMode : Word := 0x4
def regulatorChangeStatus : Word := 0x8
def regulatorChangeDrms : Word := 0x10
def regulatorChangeBypass : Word := 0x20

/-- The outcome of reading a property. -/
inductive Property (Value : Type) where
  | absent
  | undecodable (errno : Errno)
  | value (value : Value)
  deriving DecidableEq, Repr

namespace Property

variable {Value : Type}

/-- What a caller sees that asks only whether the read succeeded. -/
def value? : Property Value → Option Value
  | value read => some read
  | _ => none

/-- What counts the elements of an array; the kernel gives `-EINVAL` where there is no property. -/
def count : Property ℕ → ℤ
  | value elements => elements
  | undecodable errno => errno.ret
  | absent => EINVAL.ret

def Decodes : Property Value → Prop
  | undecodable _ => False
  | _ => True

end Property

/-- The properties of a node. -/
structure RegulatorProperties where
  name : Property String
  minMicrovolt : Property Word
  maxMicrovolt : Property Word
  bootOn : Bool
  alwaysOn : Bool
  allowSetLoad : Bool
  allowBypass : Bool
  initialMode : Property Word
  /-- The number of allowed modes. -/
  allowedModes : Property ℕ
  readAllowedModes : (count : ℕ) → Except Errno (Vector Word count)

variable (properties : RegulatorProperties)

/-- Every property that is there can be decoded. -/
structure RegulatorProperties.Decode : Prop where
  name : properties.name.Decodes
  minMicrovolt : properties.minMicrovolt.Decodes
  maxMicrovolt : properties.maxMicrovolt.Decodes
  initialMode : properties.initialMode.Decodes
  allowedModes : properties.allowedModes.Decodes

/-- The firmware node of a regulator. -/
inductive RegulatorNode where
  | none
  | ofNode
  | fwnode (properties : RegulatorProperties)

/-- The fields of `struct regulation_constraints` that are set; the allocation has zeroed them. -/
structure RegulationConstraints where
  name : Option String := none
  minUV : ℤ := 0
  maxUV : ℤ := 0
  validOpsMask : Word := 0
  applyUV : Bool := false
  bootOn : Bool := false
  alwaysOn : Bool := false
  initialMode : Word := 0
  validModesMask : Word := 0
  deriving DecidableEq, Repr

/-- What is reported with `dev_err`. -/
inductive RegulatorReport where
  /-- `invalid regulator mode %u` -/
  | initialMode (value : Word)
  /-- `invalid allowed regulator mode %u` -/
  | allowedMode (value : Word)
  deriving DecidableEq, Repr

namespace RegulationConstraints

def allow (constraints : RegulationConstraints) (operation : Word) : RegulationConstraints :=
  { constraints with validOpsMask := constraints.validOpsMask ||| operation }

/-- Name and voltages. -/
def ofVoltages (properties : RegulatorProperties) : RegulationConstraints :=
  -- The voltages are read as `u32` and stored as `int`.
  let minUV := (properties.minMicrovolt.value?.getD 0).toInt
  let maxUV := (properties.maxMicrovolt.value?.getD 0).toInt
  let constraints : RegulationConstraints := { name := properties.name.value?, minUV, maxUV }
  let constraints := if minUV ≠ maxUV then constraints.allow regulatorChangeVoltage else constraints
  if minUV ≠ 0 ∧ maxUV ≠ 0 then { constraints with applyUV := true } else constraints

/-- The flags and what they allow. -/
def withFlags (properties : RegulatorProperties) (constraints : RegulationConstraints) :
    RegulationConstraints :=
  let constraints :=
    { constraints with bootOn := properties.bootOn, alwaysOn := properties.alwaysOn }
  let constraints := if properties.alwaysOn then constraints else constraints.allow regulatorChangeStatus
  let constraints := if properties.allowSetLoad then constraints.allow regulatorChangeDrms else constraints
  if properties.allowBypass then constraints.allow regulatorChangeBypass else constraints

/-- The initial mode, if it can be mapped. -/
def withInitialMode (mapMode : Option (Word → Word)) (properties : RegulatorProperties)
    (constraints : RegulationConstraints) : RegulationConstraints × List RegulatorReport :=
  match properties.initialMode.value?, mapMode with
  | some value, some mapMode =>
    if mapMode value ≠ regulatorModeInvalid then
      ({ constraints with initialMode := mapMode value }, [])
    else (constraints, [.initialMode value])
  | _, _ => (constraints, [])

/-- The loop over the allowed modes. -/
def allowModes (mapMode : Word → Word) :
    List Word → RegulationConstraints × List RegulatorReport →
      RegulationConstraints × List RegulatorReport
  | [], built => built
  | value :: values, (constraints, reports) =>
    if mapMode value ≠ regulatorModeInvalid then
      allowModes mapMode values
        ({ constraints with validModesMask := constraints.validModesMask ||| mapMode value }, reports)
    else allowModes mapMode values (constraints, reports ++ [.allowedMode value])

/-- Modes may be changed if there is one to change to. -/
def finish (built : RegulationConstraints × List RegulatorReport) :
    ErrPtr RegulationConstraints × List RegulatorReport :=
  (.valid (if built.1.validModesMask ≠ 0 then built.1.allow regulatorChangeMode else built.1), built.2)

end RegulationConstraints

/-- What `regulator_of_get_init_data` gives back. -/
inductive OfInitData where
  | null
  | found (constraints : RegulationConstraints)
  | deferred

def OfInitData.pointer : OfInitData → ErrPtr RegulationConstraints
  | null => .null
  | found constraints => .valid constraints
  | deferred => .err EPROBE_DEFER

/-- The arguments of a registration that matter here, with the outcomes of the two allocations. -/
structure RegisterCall where
  ofInitData : OfInitData
  node : RegulatorNode
  /-- The operation `of_map_mode` of the regulator's description. -/
  mapMode : Option (Word → Word)
  allocatesInitData : Bool
  allocatesModes : Bool
  /-- The init data of the configuration. -/
  configInitData : Option RegulationConstraints

variable (call : RegisterCall)

/-- The constraints before the allowed modes. -/
def RegisterCall.described (properties : RegulatorProperties) :
    RegulationConstraints × List RegulatorReport :=
  (RegulationConstraints.ofVoltages properties |>.withFlags properties).withInitialMode call.mapMode
    properties

/-- The array of allowed modes; without a mapping, or without any, it is not read. -/
def RegisterCall.readModes (properties : RegulatorProperties) :
    Except Errno (List Word) :=
  if call.mapMode.isSome ∧ 0 < properties.allowedModes.count then
    if call.allocatesModes then
      match properties.readAllowedModes properties.allowedModes.count.toNat with
      | .error _ => .error EINVAL
      | .ok modes => .ok modes.toList
    else .error ENOMEM
  else .ok []

/-- The init data of the node, and what was reported. -/
def regulatorFwnodeGetInitData :
    ErrPtr RegulationConstraints × List RegulatorReport :=
  match call.node with
  | .none => (.null, [])
  | .ofNode => (.null, [])
  | .fwnode properties =>
    if call.allocatesInitData then
      let built := call.described properties
      match call.readModes properties with
      | .error errno => (.err errno, built.2)
      | .ok modes =>
        RegulationConstraints.finish
          (call.mapMode.elim built fun mapMode ↦ RegulationConstraints.allowModes mapMode modes built)
    else (.err ENOMEM, [])

/-- The registration up to the point where its init data is settled: an error, or the pointer that the
rest of the registration uses. -/
def regulatorRegister : Except Errno (ErrPtr RegulationConstraints) :=
  let initData :=
    match call.ofInitData.pointer with
    | .null => (regulatorFwnodeGetInitData call).1
    | initData => initData
  match initData with
  | .err errno => if errno = EPROBE_DEFER then .error EPROBE_DEFER else .ok (.err errno)
  | .null => .ok (call.configInitData.elim .null .valid)
  | .valid constraints => .ok (.valid constraints)

/-! ## The mask of the allowed modes -/

/-- The modes that are listed. -/
def RegulatorProperties.listedModes : List Word :=
  if 0 < properties.allowedModes.count then
    match properties.readAllowedModes properties.allowedModes.count.toNat with
    | .error _ => []
    | .ok modes => modes.toList
  else []

/-- The bit is in the value of a listed mode that is valid. -/
def ModeBit (mapMode : Option (Word → Word)) (modes : List Word) (bit : ℕ) : Prop :=
  ∃ map ∈ mapMode, ∃ mode ∈ modes, map mode ≠ regulatorModeInvalid ∧ (map mode).getLsbD bit = true

theorem getLsbD_allowModes (mapMode : Word → Word) (modes : List Word)
    (built : RegulationConstraints × List RegulatorReport) (bit : ℕ) :
    (RegulationConstraints.allowModes mapMode modes built).1.validModesMask.getLsbD bit = true ↔
      built.1.validModesMask.getLsbD bit = true ∨ ModeBit (some mapMode) modes bit := by
  induction modes generalizing built with
  | nil => simp [RegulationConstraints.allowModes, ModeBit]
  | cons mode modes ih =>
    obtain ⟨constraints, reports⟩ := built
    rw [RegulationConstraints.allowModes]
    by_cases hvalid : mapMode mode ≠ regulatorModeInvalid
    · rw [if_pos hvalid, ih]
      simp [ModeBit, hvalid, or_assoc]
    · rw [if_neg hvalid, ih]
      simp [ModeBit, hvalid]

namespace RegulationConstraints

theorem validModesMask_ofVoltages (properties : RegulatorProperties) :
    (ofVoltages properties).validModesMask = 0 := by
  simp only [ofVoltages]
  split_ifs <;> rfl

theorem validModesMask_withFlags (properties : RegulatorProperties) (constraints : RegulationConstraints) :
    (constraints.withFlags properties).validModesMask = constraints.validModesMask := by
  simp only [withFlags]
  split_ifs <;> rfl

theorem validModesMask_withInitialMode (mapMode : Option (Word → Word)) (properties : RegulatorProperties)
    (constraints : RegulationConstraints) :
    (constraints.withInitialMode mapMode properties).1.validModesMask = constraints.validModesMask := by
  unfold withInitialMode
  split
  · split_ifs <;> rfl
  · rfl

end RegulationConstraints

theorem validModesMask_described (call : RegisterCall) (properties : RegulatorProperties) :
    (call.described properties).1.validModesMask = 0 := by
  rw [RegisterCall.described, RegulationConstraints.validModesMask_withInitialMode,
    RegulationConstraints.validModesMask_withFlags, RegulationConstraints.validModesMask_ofVoltages]

theorem validModesMask_finish {built : RegulationConstraints × List RegulatorReport}
    {constraints : RegulationConstraints}
    (h : (RegulationConstraints.finish built).1 = .valid constraints) :
    constraints.validModesMask = built.1.validModesMask := by
  cases h
  split <;> rfl

/-- What a read of the array gives is the list. -/
theorem readModes_eq_ok {call : RegisterCall} {properties : RegulatorProperties} {modes : List Word}
    (h : call.readModes properties = .ok modes) (hmap : call.mapMode.isSome) :
    modes = properties.listedModes := by
  unfold RegisterCall.readModes at h
  unfold RegulatorProperties.listedModes
  by_cases hcount : 0 < properties.allowedModes.count
  · rw [if_pos ⟨hmap, hcount⟩] at h
    rw [if_pos hcount]
    split_ifs at h
    cases hread : properties.readAllowedModes properties.allowedModes.count.toNat with
    | error errno =>
      rw [hread] at h
      cases h
    | ok read =>
      rw [hread] at h
      cases h
      rfl
  · rw [if_neg fun hboth ↦ hcount hboth.2] at h
    rw [if_neg hcount]
    cases h
    rfl

/-- The mask is the union of the values of the listed modes that are valid. -/
theorem getLsbD_validModesMask {call : RegisterCall} {properties : RegulatorProperties}
    {constraints : RegulationConstraints} (hnode : call.node = .fwnode properties)
    (h : (regulatorFwnodeGetInitData call).1 = .valid constraints) (bit : ℕ) :
    constraints.validModesMask.getLsbD bit = true ↔
      ModeBit call.mapMode properties.listedModes bit := by
  have hempty : (call.described properties).1.validModesMask.getLsbD bit = true ↔ False := by
    rw [validModesMask_described]
    simp
  simp only [regulatorFwnodeGetInitData, hnode] at h
  split_ifs at h
  cases hread : call.readModes properties with
  | error errno =>
    rw [hread] at h
    cases h
  | ok modes =>
    rw [hread] at h
    rw [validModesMask_finish h]
    cases hmap : call.mapMode with
    | none =>
      rw [Option.elim_none, hempty]
      simp [ModeBit]
    | some mapMode =>
      rw [Option.elim_some, getLsbD_allowModes, hempty, false_or,
        readModes_eq_ok hread (by rw [hmap]; rfl)]

/-! ## Errors -/

/-- The array of allowed modes is not read, or there is memory for it and the read succeeds. -/
def RegisterCall.ModesRead (properties : RegulatorProperties) : Prop :=
  call.mapMode.isSome → 0 < properties.allowedModes.count → call.allocatesModes = true ∧
    ∃ modes, properties.readAllowedModes properties.allowedModes.count.toNat = .ok modes

/-- No allocation and no decoding fails, unless the device tree has the init data. -/
def RegisterCall.NothingFails : Prop :=
  call.ofInitData = .null → ∀ properties, call.node = .fwnode properties →
    call.allocatesInitData = true ∧ properties.Decode ∧ call.ModesRead properties

/-- What is expected of a registration. -/
structure RegisterCall.Correct : Prop where
  mask : ∀ properties constraints, call.node = .fwnode properties →
    (regulatorFwnodeGetInitData call).1 = .valid constraints → ∀ bit,
      constraints.validModesMask.getLsbD bit = true ↔ ModeBit call.mapMode properties.listedModes bit
  fails : ¬call.NothingFails → ∃ reported, regulatorRegister call = .error reported
  pointer : ∀ errno, regulatorRegister call ≠ .ok (.err errno)

section

variable {call : RegisterCall} {properties : RegulatorProperties}

theorem readModes_eq_error {errno : Errno} (h : call.readModes properties = .error errno) :
    errno ≠ EPROBE_DEFER ∧ ¬call.ModesRead properties := by
  unfold RegisterCall.readModes at h
  split_ifs at h with hread hallocates
  · cases hmodes : properties.readAllowedModes properties.allowedModes.count.toNat with
    | error reported =>
      rw [hmodes] at h
      cases h
      refine ⟨by decide, fun hok ↦ ?_⟩
      obtain ⟨-, modes, heq⟩ := hok hread.1 hread.2
      cases hmodes.symm.trans heq
    | ok modes =>
      rw [hmodes] at h
      cases h
  · cases h
    exact ⟨by decide, fun hok ↦ hallocates (hok hread.1 hread.2).1⟩

/-- The errors of the function and where they come from. -/
theorem getInitData_eq_err {errno : Errno} (h : (regulatorFwnodeGetInitData call).1 = .err errno) :
    errno ≠ EPROBE_DEFER ∧ ∃ properties, call.node = .fwnode properties ∧
      ¬(call.allocatesInitData = true ∧ call.ModesRead properties) := by
  unfold regulatorFwnodeGetInitData at h
  split at h
  · cases h
  · cases h
  · rename_i properties hnode
    split_ifs at h with hallocates
    · cases hread : call.readModes properties with
      | error reported =>
        rw [hread] at h
        cases h
        obtain ⟨hdefer, hfails⟩ := readModes_eq_error hread
        exact ⟨hdefer, properties, hnode, fun hboth ↦ hfails hboth.2⟩
      | ok modes =>
        rw [hread] at h
        cases h
    · cases h
      exact ⟨by decide, properties, hnode, fun hboth ↦ hallocates hboth.1⟩

/-- Where the init data comes from the firmware node, the registration goes on with the pointer that the
function gave or with the configuration. -/
theorem regulatorRegister_of_null (hnull : call.ofInitData = .null) :
    regulatorRegister call = .ok (match (regulatorFwnodeGetInitData call).1 with
      | .null => call.configInitData.elim .null .valid
      | initData => initData) := by
  simp only [regulatorRegister, hnull, OfInitData.pointer]
  cases hget : (regulatorFwnodeGetInitData call).1 with
  | null => rfl
  | valid constraints => rfl
  | err errno => exact if_neg (getInitData_eq_err hget).1

/-- Only an error of the function becomes init data. -/
theorem regulatorRegister_eq_err {errno : Errno} (h : regulatorRegister call = .ok (.err errno)) :
    call.ofInitData = .null ∧ (regulatorFwnodeGetInitData call).1 = .err errno := by
  cases hof : call.ofInitData with
  | null =>
    rw [regulatorRegister_of_null hof, Except.ok.injEq] at h
    cases hget : (regulatorFwnodeGetInitData call).1 with
    | null =>
      rw [hget] at h
      cases hconfig : call.configInitData <;> rw [hconfig] at h <;> cases h
    | valid constraints =>
      rw [hget] at h
      cases h
    | err reported =>
      rw [hget] at h
      exact ⟨rfl, h⟩
  | found constraints =>
    rw [regulatorRegister, hof] at h
    cases h
  | deferred =>
    rw [regulatorRegister, hof] at h
    cases h

/-- A registration does what is expected of it if and only if nothing fails in it. -/
theorem correct_iff_nothingFails (call : RegisterCall) : call.Correct ↔ call.NothingFails := by
  constructor
  · intro hcorrect
    by_contra hfails
    obtain ⟨reported, hregister⟩ := hcorrect.fails hfails
    -- What fails does so on behalf of the firmware node, and then the registration goes on.
    have hnull : call.ofInitData = .null := by
      by_contra hne
      exact hfails fun hnull ↦ absurd hnull hne
    rw [regulatorRegister_of_null hnull] at hregister
    cases hregister
  · intro hnothing
    refine ⟨fun properties constraints hnode hvalid ↦ getLsbD_validModesMask hnode hvalid,
      fun hfails ↦ absurd hnothing hfails, fun errno hregister ↦ ?_⟩
    obtain ⟨hnull, herr⟩ := regulatorRegister_eq_err hregister
    obtain ⟨-, properties, hnode, hfails⟩ := getInitData_eq_err herr
    obtain ⟨hallocates, -, hread⟩ := hnothing hnull properties hnode
    exact hfails ⟨hallocates, hread⟩

end

/-- A regulator of which nothing is known but what is said of its allowed modes. -/
def withModes (allowedModes : Property ℕ) (read : (count : ℕ) → Except Errno (Vector Word count)) :
    RegulatorProperties where
  name := .absent
  minMicrovolt := .absent
  maxMicrovolt := .absent
  bootOn := false
  alwaysOn := false
  allowSetLoad := false
  allowBypass := false
  initialMode := .absent
  allowedModes := allowedModes
  readAllowedModes := read

def registering : RegisterCall where
  ofInitData := .null
  node := .fwnode properties
  mapMode := some id
  allocatesInitData := true
  allocatesModes := true
  configInitData := none

/-- One allowed mode is listed and cannot be read. -/
def unreadableCall : RegisterCall := registering (withModes (.value 1) fun _ ↦ .error EINVAL)

/-- The allowed modes cannot even be counted. -/
def uncountableCall : RegisterCall := registering (withModes (.undecodable EPROTO) fun _ ↦ .error EPROTO)

/-- The rest of the registration takes the error pointer for init data, and modes that cannot be counted
for none. -/
theorem regulatorRegister_unreadable :
    (regulatorRegister unreadableCall = .ok (.err EINVAL) ∧ ¬unreadableCall.Correct) ∧
      regulatorRegister uncountableCall =
        .ok (.valid { validOpsMask := regulatorChangeStatus, validModesMask := 0 }) ∧
      ¬uncountableCall.Correct := by
  have hregister : regulatorRegister unreadableCall = .ok (.err EINVAL) := rfl
  have hcount : regulatorRegister uncountableCall =
      .ok (.valid { validOpsMask := regulatorChangeStatus, validModesMask := 0 }) := rfl
  refine ⟨⟨hregister, fun hcorrect ↦ hcorrect.pointer EINVAL hregister⟩, hcount, fun hcorrect ↦ ?_⟩
  obtain ⟨reported, hfails⟩ := hcorrect.fails fun hnothing ↦ (hnothing rfl _ rfl).2.1.allowedModes
  cases hcount.symm.trans hfails

end TclB220G.Regulator
