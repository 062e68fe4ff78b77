import TclB220G.Display.Stage
import TclB220G.Lib.Custody

/-!
# The ACPI audio module

`tcl_audio_init` takes references to the devices and software nodes that the audio DSP needs, and with
`register_devices` also registers interrupts, nodes and devices.  Every failure ends in `cleanup`, which is
the exit function of the module as well and goes by the static variables.  The two software nodes that
`software_node_find_by_name` returns are in local variables only.
-/

namespace TclB220G.Audio

open Kernel Kernel.Errno Lib Lib.Script
open Display (Verdict)

/-- The devices, under the names of their variables. -/
inductive AudioDevice where
  | adsp | glnk | pd | cc | apcs | qmp
  | proxy (slot : Fin 2)
  | smp | pas
  deriving DecidableEq, Repr

/-- The software nodes that are looked up. -/
inductive AudioNode where
  | apcsNode | qmpNode
  deriving DecidableEq, Repr

/-- What the module acquires: `table` is the mapping of the ACPI table, `firmwareIrq` the mapping of an
interrupt that the firmware describes, `domain` and `runtimePm` are the power domain and the runtime power
management of a proxy device. -/
inductive AudioSlot where
  | table
  | device (device : AudioDevice)
  | firmwareIrq (index : Fin 3)
  | node (node : AudioNode)
  | swrIrq (index : Fin 2)
  | nodes
  | domain (slot : Fin 2)
  | runtimePm (slot : Fin 2)
  | xo | xoLookup
  | virq (index : Fin 4)
  deriving DecidableEq, Repr

/-- The calls of the module.  `store` sets a static variable, with whether it is null or zero then. -/
inductive AudioCall where
  | store (name : AudioSlot) (set : Bool)
  | efiBootWithAcpi
  | acpiGetTable
  | tableMatches
  | acpiPutTable
  | reservationCovers
  | acpiGetHandle (device : AudioDevice)
  | acpiGetAcpiDev (device : AudioDevice)
  | hidMatches (device : AudioDevice)
  | acpiDevPut (device : AudioDevice)
  | acpiIrqGet (index : Fin 3)
  | irqVerified (index : Fin 3)
  | busFindDeviceByName (device : AudioDevice)
  | deviceIsBound (device : AudioDevice)
  | putDevice (device : AudioDevice)
  | softwareNodeFindByName (node : AudioNode)
  | acpiRegisterGsi (index : Fin 2)
  | acpiUnregisterGsi (index : Fin 2)
  | softwareNodeRegisterNodeGroup
  | softwareNodeUnregisterNodeGroup
  | domainPresent (slot : Fin 2)
  | platformDeviceRegister (device : AudioDevice)
  | platformDeviceUnregister (device : AudioDevice)
  | pmGenpdAddDevice (slot : Fin 2)
  | pmGenpdRemoveDevice (slot : Fin 2)
  | pmRuntimeEnable (slot : Fin 2)
  | pmRuntimeDisable (slot : Fin 2)
  | clkGetSys
  | clkPut
  | clkdevCreate
  | clkdevDrop
  | irqCreateFwspecMapping (index : Fin 4)
  | irqDisposeMapping (index : Fin 4)
  deriving DecidableEq, Repr

namespace AudioCall

/-- How the module tells from an answer that a call failed. -/
def verdict : AudioCall → Verdict
  | efiBootWithAcpi => .null ENODEV
  | acpiGetTable => .nonzeroIs ENODEV
  | tableMatches | reservationCovers => .null EINVAL
  | acpiGetHandle _ => .nonzero
  | acpiGetAcpiDev _ | hidMatches _ | busFindDeviceByName _ | softwareNodeFindByName _ => .null ENODEV
  | acpiIrqGet _ => .negative
  | irqVerified _ | domainPresent _ => .null EINVAL
  | deviceIsBound _ => .null EPROBE_DEFER
  | acpiRegisterGsi _ | platformDeviceRegister _ | clkGetSys => .negative
  | softwareNodeRegisterNodeGroup | pmGenpdAddDevice _ => .nonzero
  | clkdevCreate => .null ENOMEM
  | irqCreateFwspecMapping _ => .null ENODEV
  | _ => .succeeds

/-- What a call acquires or releases if it succeeds. -/
def custody : AudioCall → Option (CustodyEvent AudioSlot)
  | acpiGetTable => some (.acquired .table)
  | acpiPutTable => some (.released .table)
  | acpiGetAcpiDev device | busFindDeviceByName device | platformDeviceRegister device =>
    some (.acquired (.device device))
  | acpiDevPut device | putDevice device | platformDeviceUnregister device =>
    some (.released (.device device))
  | acpiIrqGet index => some (.acquired (.firmwareIrq index))
  | softwareNodeFindByName node => some (.acquired (.node node))
  | acpiRegisterGsi index => some (.acquired (.swrIrq index))
  | acpiUnregisterGsi index => some (.released (.swrIrq index))
  | softwareNodeRegisterNodeGroup => some (.acquired .nodes)
  | softwareNodeUnregisterNodeGroup => some (.released .nodes)
  | pmGenpdAddDevice slot => some (.acquired (.domain slot))
  | pmGenpdRemoveDevice slot => some (.released (.domain slot))
  | pmRuntimeEnable slot => some (.acquired (.runtimePm slot))
  | pmRuntimeDisable slot => some (.released (.runtimePm slot))
  | clkGetSys => some (.acquired .xo)
  | clkPut => some (.released .xo)
  | clkdevCreate => some (.acquired .xoLookup)
  | clkdevDrop => some (.released .xoLookup)
  | irqCreateFwspecMapping index => some (.acquired (.virq index))
  | irqDisposeMapping index => some (.released (.virq index))
  | _ => none

/-- An interrupt without a new mapping: `acpi_irq_get` has found one, which its answer of zero does not
tell from a new one in the source. -/
def mapsNothing : AudioCall → ℤ → Bool
  | acpiIrqGet _, answer | acpiRegisterGsi _, answer => answer = 0
  | _, _ => false

end AudioCall

/-- The static variables, and what the calls do to them. -/
def audio : Custody AudioCall (AudioSlot → Bool) AudioSlot where
  initial := fun _ ↦ false
  effect call _ statics :=
    match call with
    | .store name set => Function.update statics name set
    | .acpiUnregisterGsi index => Function.update statics (.swrIrq index) false
    | _ => statics
  failed call := call.verdict.failed
  errno call := call.verdict.errno
  errno_ne_zero call := call.verdict.errno_ne_zero
  event call answer :=
    if call.verdict.failed answer || call.mapsNothing answer then none else call.custody
  restsOn _ _ := False
  permits _ _ := True

/-- Every call but those that store something leaves the variables as they are. -/
def AudioCall.plain : AudioCall → Bool
  | store .. | acpiUnregisterGsi _ => false
  | _ => true

variable {call : AudioCall}

theorem effect_plain (hplain : call.plain = true) (answer : ℤ) (statics : AudioSlot → Bool) :
    audio.effect call answer statics = statics := by
  cases call <;> first | rfl | exact absurd hplain Bool.false_ne_true

variable {answer : ℤ}

theorem event_of_failed (hfailed : audio.failed call answer = true) :
    audio.event call answer = none :=
  if_pos (Bool.or_eq_true_iff.2 (.inl hfailed))

theorem event_of_success (hmaps : call.mapsNothing answer = false)
    (hsucceeds : audio.failed call answer = false) : audio.event call answer = call.custody :=
  if_neg (by simpa using ⟨hsucceeds, hmaps⟩)

theorem event_of_quiet (hquiet : call.custody = none) :
    audio.event call answer = none := by
  simp [audio, hquiet]

theorem event_of_release (hverdict : call.verdict = .succeeds) :
    audio.failed call answer = false ∧ audio.event call answer = call.custody := by
  have hsucceeds : audio.failed call answer = false := by simp [audio, hverdict, Verdict.failed]
  refine ⟨hsucceeds, event_of_success ?_ hsucceeds⟩
  cases call <;> first | rfl | cases hverdict

/-! ## The source -/

abbrev AudioScript := Script AudioCall

/-- A reference that is dropped again if a check fails. -/
def checked (get check put : AudioCall) : AudioScript Bool := do
  if ← succeeds audio.toInterface get then
    if ← succeeds audio.toInterface check then pure true
    else
      perform audio.toInterface put
      pure false
  else pure false

def findAcpi (device : AudioDevice) : AudioScript Bool := do
  if ← succeeds audio.toInterface (.acpiGetHandle device) then
    checked (.acpiGetAcpiDev device) (.hidMatches device) (.acpiDevPut device)
  else pure false

def provider (device : AudioDevice) : AudioScript Bool :=
  checked (.busFindDeviceByName device) (.deviceIsBound device) (.putDevice device)

def firmwareIrq (index : Fin 3) : AudioScript Unit := do
  perform audio.toInterface (.acpiIrqGet index)
  perform audio.toInterface (.irqVerified index)

/-- Stores the result of a search in a static variable. -/
def assign (name : AudioSlot) (search : AudioScript Bool) : AudioScript Unit := do
  let found ← search
  perform audio.toInterface (.store name found)

/-- Stores what a call returns in a static variable, which stays null if the call fails. -/
def acquire (call : AudioCall) (name : AudioSlot) : AudioScript Unit := do
  perform audio.toInterface call
  perform audio.toInterface (.store name true)

def registerGsi (index : Fin 2) : AudioScript Unit := do
  let irq ← step audio.toInterface (.acpiRegisterGsi index)
  perform audio.toInterface (.store (.swrIrq index) (irq ≠ 0))

def proxyDomain (slot : Fin 2) : AudioScript Unit := do
  perform audio.toInterface (.domainPresent slot)
  acquire (.platformDeviceRegister (.proxy slot)) (.device (.proxy slot))
  let ret ← invoke (.pmGenpdAddDevice slot)
  if ret = 0 then perform audio.toInterface (.pmRuntimeEnable slot)
  else
    perform audio.toInterface (.platformDeviceUnregister (.proxy slot))
    perform audio.toInterface (.store (.device (.proxy slot)) false)
    abort ret

/-- The variable that stands for a slot. -/
def stands (statics : AudioSlot → Bool) : AudioSlot → Bool
  | .table => false
  | .domain slot | .runtimePm slot => statics (.device (.proxy slot))
  | slot => statics slot

/-- The variables that `cleanup` looks at one after another, with the calls that it makes for each of
them. -/
def cleanupGroups : List (AudioSlot × List (AudioSlot × AudioCall)) :=
  [(.device .pas, [(.device .pas, .platformDeviceUnregister .pas)]),
    (.virq 0, [(.virq 0, .irqDisposeMapping 0)]),
    (.virq 1, [(.virq 1, .irqDisposeMapping 1)]),
    (.virq 2, [(.virq 2, .irqDisposeMapping 2)]),
    (.virq 3, [(.virq 3, .irqDisposeMapping 3)]),
    (.device .smp, [(.device .smp, .platformDeviceUnregister .smp)]),
    (.xoLookup, [(.xoLookup, .clkdevDrop)]),
    (.xo, [(.xo, .clkPut)]),
    (.device (.proxy 1), [(.runtimePm 1, .pmRuntimeDisable 1), (.domain 1, .pmGenpdRemoveDevice 1),
      (.device (.proxy 1), .platformDeviceUnregister (.proxy 1))]),
    (.device (.proxy 0), [(.runtimePm 0, .pmRuntimeDisable 0), (.domain 0, .pmGenpdRemoveDevice 0),
      (.device (.proxy 0), .platformDeviceUnregister (.proxy 0))]),
    (.nodes, [(.nodes, .softwareNodeUnregisterNodeGroup)]),
    (.swrIrq 0, [(.swrIrq 0, .acpiUnregisterGsi 0)]),
    (.swrIrq 1, [(.swrIrq 1, .acpiUnregisterGsi 1)]),
    (.device .qmp, [(.device .qmp, .putDevice .qmp)]),
    (.device .apcs, [(.device .apcs, .putDevice .apcs)]),
    (.device .cc, [(.device .cc, .putDevice .cc)]),
    (.device .pd, [(.device .pd, .putDevice .pd)]),
    (.device .glnk, [(.device .glnk, .acpiDevPut .glnk)]),
    (.device .adsp, [(.device .adsp, .acpiDevPut .adsp)])]

def cleanup : AudioScript Unit :=
  inOrder (cleanupGroups.map fun group ↦ audio.releaseGroup stands group.1 group.2)

/-- The part of `tcl_audio_init` behind the test of `register_devices`. -/
def registerDevices : AudioScript Unit := do
  registerGsi 0
  registerGsi 1
  acquire .softwareNodeRegisterNodeGroup .nodes
  proxyDomain 0
  proxyDomain 1
  acquire .clkGetSys .xo
  acquire .clkdevCreate .xoLookup
  acquire (.platformDeviceRegister .smp) (.device .smp)
  perform audio.toInterface (.deviceIsBound .smp)
  acquire (.irqCreateFwspecMapping 0) (.virq 0)
  acquire (.irqCreateFwspecMapping 1) (.virq 1)
  acquire (.irqCreateFwspecMapping 2) (.virq 2)
  acquire (.irqCreateFwspecMapping 3) (.virq 3)
  acquire (.platformDeviceRegister .pas) (.device .pas)
  let _ ← succeeds audio.toInterface (.deviceIsBound .pas)

/-- The part of `tcl_audio_init` whose failures go to the label `fail`. -/
def prepare (register : Bool) : AudioScript Unit := do
  assign (.device .adsp) (findAcpi .adsp)
  assign (.device .glnk) (findAcpi .glnk)
  let statics ← state audio.toInterface
  if statics (.device .adsp) && statics (.device .glnk) then
    firmwareIrq 0
    firmwareIrq 1
    firmwareIrq 2
    assign (.device .pd) (provider .pd)
    assign (.device .cc) (provider .cc)
    assign (.device .apcs) (provider .apcs)
    assign (.device .qmp) (provider .qmp)
    let apcsNode ← succeeds audio.toInterface (.softwareNodeFindByName .apcsNode)
    let qmpNode ← succeeds audio.toInterface (.softwareNodeFindByName .qmpNode)
    let statics ← state audio.toInterface
    if statics (.device .pd) && statics (.device .cc) && statics (.device .apcs) &&
        statics (.device .qmp) && apcsNode && qmpNode then
      if register then registerDevices else pure ()
    else abort ENODEV.ret
  else abort ENODEV.ret

def tclAudioInit (register : Bool) : AudioScript Unit := do
  perform audio.toInterface .efiBootWithAcpi
  perform audio.toInterface .acpiGetTable
  let matches_ ← succeeds audio.toInterface .tableMatches
  perform audio.toInterface .acpiPutTable
  if matches_ then
    perform audio.toInterface .reservationCovers
    match ← attempt (prepare register) with
    | .ok _ => pure ()
    | .error error =>
      cleanup
      abort error
  else abort EINVAL.ret

/-- A load of the module, with the unload that follows if it succeeds. -/
def loadAndUnload (register : Bool) : AudioScript Unit := do
  tclAudioInit register
  cleanup

/-! ## What is held along the way -/

/-- The slots that a static variable stands for, and the mapping of the table, which is not kept. -/
def AudioSlot.tracked : AudioSlot → Bool
  | .firmwareIrq _ | .node _ => false
  | _ => true

/-- The order in which the slots are acquired. -/
def AudioSlot.rank : AudioSlot → ℕ
  | table => 0
  | device .adsp => 1
  | device .glnk => 2
  | firmwareIrq index => 3 + index
  | device .pd => 6
  | device .cc => 7
  | device .apcs => 8
  | device .qmp => 9
  | node .apcsNode => 10
  | node .qmpNode => 11
  | swrIrq index => 12 + index
  | nodes => 14
  | device (.proxy slot) => 15 + 3 * slot
  | domain slot => 16 + 3 * slot
  | runtimePm slot => 17 + 3 * slot
  | xo => 21
  | xoLookup => 22
  | device .smp => 23
  | virq index => 24 + index
  | device .pas => 28

/-- The variables tell what is held, but for some slots of which it is known otherwise, and nothing of a
later rank is held. -/
structure Stage (known : List (AudioSlot × Bool)) (rank : ℕ) (statics held : AudioSlot → Bool) : Prop where
  tracked : ∀ slot, slot.tracked = true → held slot = (known.lookup slot).getD (stands statics slot)
  fresh : ∀ slot, rank ≤ slot.rank → held slot = false

/-- The variables tell what is held. -/
def Told (statics held : AudioSlot → Bool) : Prop :=
  ∀ slot, slot.tracked = true → held slot = stands statics slot

section

variable {known : List (AudioSlot × Bool)} {rank : ℕ} {statics held : AudioSlot → Bool} {call : AudioCall}
  {answer : ℤ} {slot : AudioSlot} {set : Bool}

theorem Stage.told (h : Stage [] rank statics held) : Told statics held := h.tracked

theorem Stage.mono (h : Stage known rank statics held) {later : ℕ} (hle : rank ≤ later) :
    Stage known later statics held :=
  ⟨h.tracked, fun slot hslot ↦ h.fresh slot (Nat.le_trans hle hslot)⟩

/-- A call that changes nothing. -/
theorem turns_same {fact : (AudioSlot → Bool) → (AudioSlot → Bool) → Prop} (hplain : call.plain = true)
    (hevent : audio.event call answer = none) : audio.Turns call answer fact fact :=
  Custody.turns_of_none hevent fun statics _ h ↦ (effect_plain hplain answer statics).symm ▸ h

variable {other : AudioSlot}

/-- What is known of another slot. -/
theorem getD_lookup_cons {value : Bool} (hne : other ≠ slot) :
    (((slot, set) :: known).lookup other).getD value = (known.lookup other).getD value := by
  rw [List.lookup_cons, beq_false_of_ne hne]

theorem getD_lookup_self {value : Bool} : (((slot, set) :: known).lookup slot).getD value = set := by
  rw [List.lookup_cons, beq_self_eq_true]
  rfl

/-- The next slot is acquired. -/
theorem turns_acquired (hevent : audio.event call answer = some (.acquired slot))
    (hplain : call.plain = true) (hrank : slot.rank = rank) :
    audio.Turns call answer (Stage known rank) (Stage ((slot, true) :: known) (rank + 1)) := by
  refine Custody.turns_of_acquired hevent (fun _ _ h ↦ h.fresh slot (Nat.le_of_eq hrank.symm))
    (fun _ _ _ _ ↦ False.elim) ?_
  intro statics held h
  rw [effect_plain hplain]
  refine ⟨fun other htracked ↦ ?_, fun other hother ↦ ?_⟩
  · by_cases heq : other = slot
    · rw [heq, Function.update_self, getD_lookup_self]
    · rw [Function.update_of_ne heq, getD_lookup_cons heq, h.tracked other htracked]
  · have hne : other ≠ slot := by
      rintro rfl
      omega
    rw [Function.update_of_ne hne]
    exact h.fresh other (by omega)

/-- A slot that no variable stands for. -/
theorem turns_acquired_local (hevent : audio.event call answer = some (.acquired slot))
    (hplain : call.plain = true) (hrank : slot.rank = rank)
    (htracked : slot.tracked = false) :
    audio.Turns call answer (Stage known rank) (Stage known (rank + 1)) := by
  intro statics held h
  have hturn := turns_acquired hevent hplain hrank statics held h
  rw [hevent] at hturn ⊢
  refine ⟨hturn.1, fun other hother ↦ ?_, hturn.2.fresh⟩
  have hne : other ≠ slot := by
    rintro rfl
    simp [htracked] at hother
  rw [hturn.2.tracked other hother, getD_lookup_cons hne]

/-- A slot that is known to be held is released again. -/
theorem turns_released (hevent : audio.event call answer = some (.released slot))
    (hplain : call.plain = true) (htracked : slot.tracked = true) :
    audio.Turns call answer (Stage ((slot, true) :: known) rank) (Stage ((slot, false) :: known) rank) := by
  refine Custody.turns_of_released hevent (fun _ _ h ↦ ?_) (fun _ _ _ _ ↦ False.elim) ?_
  · rw [h.tracked slot htracked, getD_lookup_self]
  · intro statics held h
    rw [effect_plain hplain]
    refine ⟨fun other hother ↦ ?_, fun other hother ↦ ?_⟩
    · by_cases heq : other = slot
      · rw [heq, Function.update_self, getD_lookup_self]
      · rw [Function.update_of_ne heq, getD_lookup_cons heq, h.tracked other hother,
          getD_lookup_cons heq]
    · rw [Function.update_apply]
      split_ifs
      · rfl
      · exact h.fresh other hother

/-- A variable that stands for one slot only. -/
def AudioSlot.single : AudioSlot → Bool
  | .table | .device (.proxy _) | .domain _ | .runtimePm _ => false
  | _ => true

theorem stands_update (hsingle : slot.single = true) :
    stands (Function.update statics slot set) other = if other = slot then set else stands statics other := by
  have hproxy : ∀ index, AudioSlot.device (.proxy index) ≠ slot := by
    rintro index rfl
    exact Bool.false_ne_true hsingle
  split_ifs with heq
  · subst heq
    cases other <;> simp_all [stands, AudioSlot.single]
  · cases other <;> simp [stands, heq, hproxy]

/-- What is known of a slot is stored in its variable. -/
theorem turns_store (hsingle : slot.single = true) :
    audio.Turns (.store slot set) answer (Stage [(slot, set)] rank) (Stage [] rank) := by
  refine Custody.turns_of_none rfl fun statics held h ↦ ⟨fun other hother ↦ ?_, h.fresh⟩
  rw [h.tracked other hother]
  refine Eq.trans ?_ (stands_update hsingle).symm
  split_ifs with heq
  · rw [heq, getD_lookup_self]
  · rw [getD_lookup_cons heq]
    rfl

/-! ## The steps of the initialization -/

/-- A script that keeps what the variables tell if it fails. -/
def Proceeds (script : AudioScript Unit) (rank later : ℕ) : Prop :=
  script.Triple (audio.Accounts (Stage [] rank)) (fun _ ↦ audio.Accounts (Stage [] later))
    (audio.Accounts Told)

theorem proceeds_bind {first : AudioScript Unit} {second : Unit → AudioScript Unit} {middle later : ℕ}
    (hfirst : Proceeds first rank middle) (hsecond : ∀ value, Proceeds (second value) middle later) :
    Proceeds (first >>= second) rank later :=
  triple_bind hfirst hsecond

variable {failing : List (AudioCall × ℤ) → Prop}

theorem accounts_store (hsingle : slot.single = true) :
    (perform audio.toInterface (.store slot set)).Triple (audio.Accounts (Stage [(slot, set)] rank))
      (fun _ ↦ audio.Accounts (Stage [] rank)) failing :=
  Custody.accounts_perform_sure (fun _ ↦ trivial) (fun _ ↦ rfl) fun _ ↦ turns_store hsingle

/-- A call that only looks at something. -/
theorem accounts_look {fact : (AudioSlot → Bool) → (AudioSlot → Bool) → Prop}
    (hplain : call.plain = true) (hquiet : call.custody = none) :
    (succeeds audio.toInterface call).Triple (audio.Accounts fact) (fun _ ↦ audio.Accounts fact) failing :=
  triple_succeeds fun _ _ h ↦ h.turn trivial (turns_same hplain (event_of_quiet hquiet))

/-- A check. -/
theorem proceeds_check (hplain : call.plain = true) (hquiet : call.custody = none) :
    Proceeds (perform audio.toInterface call) rank rank :=
  Custody.accounts_check (fun _ ↦ trivial) (fun _ ↦ turns_same hplain (event_of_quiet hquiet)) fun _ _ ↦
    Stage.told

/-- A call that acquires a slot, and the variable of the slot. -/
theorem proceeds_acquire (hplain : call.plain = true) (hmaps : ∀ answer, call.mapsNothing answer = false)
    (hcustody : call.custody = some (.acquired slot)) (hsingle : slot.single = true) :
    Proceeds (acquire call slot) slot.rank (slot.rank + 1) := by
  refine triple_bind (Custody.accounts_perform (fun _ ↦ trivial) (fun answer hfailed ↦ ?_)
    fun answer hfailed ↦ ?_) fun _ ↦ accounts_store hsingle
  · exact turns_acquired ((event_of_success (hmaps answer) hfailed).trans hcustody) hplain rfl
  · exact (turns_same hplain (event_of_failed hfailed)).of_imp fun _ _ ↦ Stage.told

/-- The next slot is not acquired. -/
theorem Stage.absent (h : Stage [] slot.rank statics held) :
    Stage [(slot, false)] (slot.rank + 1) statics held := by
  refine ⟨fun other hother ↦ ?_, (h.mono (Nat.le_succ _)).fresh⟩
  by_cases heq : other = slot
  · rw [heq, getD_lookup_self, h.fresh slot (Nat.le_refl _)]
  · rw [getD_lookup_cons heq, h.tracked other hother]

/-- A call that releases a slot that is known to be held. -/
theorem accounts_put (hplain : call.plain = true) (hverdict : call.verdict = .succeeds)
    (hcustody : call.custody = some (.released slot)) (htracked : slot.tracked = true) :
    (perform audio.toInterface call).Triple (audio.Accounts (Stage ((slot, true) :: known) rank))
      (fun _ ↦ audio.Accounts (Stage ((slot, false) :: known) rank)) failing :=
  Custody.accounts_perform_sure (fun _ ↦ trivial) (fun _ ↦ (event_of_release hverdict).1) fun _ ↦
    turns_released ((event_of_release hverdict).2.trans hcustody) hplain htracked

theorem accounts_checked {get check put : AudioCall}
    {failing : (AudioSlot → Bool) → (AudioSlot → Bool) → Prop}
    (hplain : get.plain = true ∧ check.plain = true ∧ put.plain = true)
    (hmaps : ∀ answer, get.mapsNothing answer = false) (hget : get.custody = some (.acquired slot))
    (hcheck : check.custody = none) (hput : put.custody = some (.released slot))
    (hverdict : put.verdict = .succeeds) (htracked : slot.tracked = true) :
    (checked get check put).Triple (audio.Accounts (Stage [] slot.rank))
      (fun found ↦ audio.Accounts (Stage [(slot, found)] (slot.rank + 1))) (audio.Accounts failing) := by
  have hsearch : (succeeds audio.toInterface get).Triple (audio.Accounts (Stage [] slot.rank))
      (fun found ↦ audio.Accounts (Stage [(slot, found)] (slot.rank + 1))) (audio.Accounts failing) := by
    refine Custody.accounts_succeeds (fun _ ↦ trivial) (fun answer hfailed ↦ ?_) fun answer hfailed ↦ ?_
    · exact turns_acquired ((event_of_success (hmaps answer) hfailed).trans hget) hplain.1 rfl
    · exact (turns_same hplain.1 (event_of_failed hfailed)).of_imp fun _ _ ↦ Stage.absent
  refine triple_bind hsearch fun found ↦ ?_
  cases found with
  | false => exact triple_pure fun _ h ↦ h
  | true =>
    refine triple_bind (accounts_look hplain.2.1 hcheck) fun passed ↦ ?_
    cases passed with
    | true => exact triple_pure fun _ h ↦ h
    | false =>
      exact triple_bind (accounts_put hplain.2.2 hverdict hput htracked) fun _ ↦ triple_pure fun _ h ↦ h

theorem proceeds_assign {search : AudioScript Bool} (hsingle : slot.single = true)
    (hsearch : search.Triple (audio.Accounts (Stage [] rank))
      (fun found ↦ audio.Accounts (Stage [(slot, found)] (rank + 1))) (audio.Accounts Told)) :
    Proceeds (assign slot search) rank (rank + 1) :=
  triple_bind hsearch fun _ ↦ accounts_store hsingle

theorem proceeds_findAcpi {device : AudioDevice} (hsingle : (AudioSlot.device device).single = true) :
    Proceeds (assign (.device device) (findAcpi device)) (AudioSlot.device device).rank
      ((AudioSlot.device device).rank + 1) := by
  refine proceeds_assign hsingle (triple_bind (accounts_look rfl rfl) fun found ↦ ?_)
  cases found with
  | false => exact triple_pure fun _ h ↦ h.imp fun _ _ ↦ Stage.absent
  | true => exact accounts_checked ⟨rfl, rfl, rfl⟩ (fun _ ↦ rfl) rfl rfl rfl rfl rfl

theorem proceeds_provider {device : AudioDevice} (hsingle : (AudioSlot.device device).single = true) :
    Proceeds (assign (.device device) (provider device)) (AudioSlot.device device).rank
      ((AudioSlot.device device).rank + 1) :=
  proceeds_assign hsingle (accounts_checked ⟨rfl, rfl, rfl⟩ (fun _ ↦ rfl) rfl rfl rfl rfl rfl)

theorem proceeds_firmwareIrq (index : Fin 3) : Proceeds (firmwareIrq index) (3 + index) (4 + index) := by
  refine proceeds_bind (Custody.accounts_perform (fun _ ↦ trivial) (fun answer hfailed ↦ ?_)
    fun answer hfailed ↦ ?_) fun _ ↦ proceeds_check rfl rfl
  · cases hmaps : (AudioCall.acpiIrqGet index).mapsNothing answer with
    | true =>
      -- The interrupt had a mapping.
      exact (turns_same rfl (by simp [audio, hmaps])).of_imp fun _ _ h ↦ h.mono (by omega)
    | false =>
      rw [show 4 + (index : ℕ) = 3 + index + 1 by omega]
      exact turns_acquired_local (event_of_success hmaps hfailed) rfl rfl rfl
  · exact (turns_same rfl (event_of_failed hfailed)).of_imp fun _ _ ↦ Stage.told

theorem proceeds_registerGsi (index : Fin 2) : Proceeds (registerGsi index) (12 + index) (13 + index) := by
  have hregister : (step audio.toInterface (.acpiRegisterGsi index)).Triple
      (audio.Accounts (Stage [] (12 + index)))
      (fun irq ↦ audio.Accounts (Stage [(.swrIrq index, decide (irq ≠ 0))] (12 + index + 1)))
      (audio.Accounts Told) := by
    refine Custody.accounts_step (fun _ ↦ trivial) (fun answer hfailed ↦ ?_) fun answer hfailed ↦ ?_
    · by_cases hzero : answer = 0
      · subst hzero
        exact (turns_same rfl rfl).of_imp fun _ _ h ↦ Stage.absent h
      · rw [decide_eq_true hzero]
        exact turns_acquired (event_of_success (decide_eq_false hzero) hfailed) rfl rfl
    · exact (turns_same rfl (event_of_failed hfailed)).of_imp fun _ _ ↦ Stage.told
  rw [show 13 + (index : ℕ) = 12 + index + 1 by omega]
  exact triple_bind hregister fun _ ↦ accounts_store rfl

/-- A fact about the variables beside one that a call establishes. -/
theorem turns_and {fact next : (AudioSlot → Bool) → (AudioSlot → Bool) → Prop}
    {beside : (AudioSlot → Bool) → Prop} (hplain : call.plain = true)
    (hturns : audio.Turns call answer fact next) :
    audio.Turns call answer (fun statics held ↦ fact statics held ∧ beside statics)
      fun statics held ↦ next statics held ∧ beside statics := by
  rintro statics held ⟨hfact, hbeside⟩
  have hturn := hturns statics held hfact
  cases hevent : audio.event call answer with
  | none =>
    rw [hevent] at hturn
    exact ⟨hturn, by rwa [effect_plain hplain]⟩
  | some event =>
    rw [hevent] at hturn
    exact ⟨hturn.1, hturn.2, by rwa [effect_plain hplain]⟩

/-- What is known of a proxy device that has no power domain yet. -/
def bare (slot : Fin 2) (registered : Bool) : List (AudioSlot × Bool) :=
  [(.device (.proxy slot), registered), (.domain slot, false), (.runtimePm slot, false)]

variable {index : Fin 2}

theorem getD_lookup_bare {registered value : Bool} :
    ((bare index registered).lookup other).getD value =
      if other = .device (.proxy index) then registered
      else if other = .domain index ∨ other = .runtimePm index then false else value := by
  unfold bare
  split_ifs with hproxy hdomain
  · rw [hproxy, getD_lookup_self]
  · rw [getD_lookup_cons hproxy]
    rcases hdomain with rfl | rfl
    · rw [getD_lookup_self]
    · rw [getD_lookup_cons (by simp), getD_lookup_self]
  · rw [not_or] at hdomain
    rw [getD_lookup_cons hproxy, getD_lookup_cons hdomain.1, getD_lookup_cons hdomain.2]
    rfl

theorem stands_update_proxy :
    stands (Function.update statics (.device (.proxy index)) set) other =
      if other = .device (.proxy index) ∨ other = .domain index ∨ other = .runtimePm index then set
      else stands statics other := by
  cases other <;> simp [stands, Function.update_apply]

/-- The device is registered, and its variable is set. -/
theorem accounts_registerProxy (index : Fin 2) :
    (acquire (.platformDeviceRegister (.proxy index)) (.device (.proxy index))).Triple
      (audio.Accounts (Stage [] (15 + 3 * index)))
      (fun _ ↦ audio.Accounts fun statics held ↦
        Stage (bare index true) (16 + 3 * index) statics held ∧ statics (.device (.proxy index)) = true)
      (audio.Accounts Told) := by
  have hregister : (perform audio.toInterface (.platformDeviceRegister (.proxy index))).Triple
      (audio.Accounts (Stage [] (15 + 3 * index)))
      (fun _ ↦ audio.Accounts (Stage [(.device (.proxy index), true)] (15 + 3 * index + 1)))
      (audio.Accounts Told) := by
    refine Custody.accounts_perform (fun _ ↦ trivial) (fun answer hfailed ↦ ?_) fun answer hfailed ↦ ?_
    · exact turns_acquired (event_of_success rfl hfailed) rfl rfl
    · exact (turns_same rfl (event_of_failed hfailed)).of_imp fun _ _ ↦ Stage.told
  refine triple_bind hregister fun _ ↦
    Custody.accounts_perform_sure (fun _ ↦ trivial) (fun _ ↦ rfl) fun answer ↦ ?_
  refine Custody.turns_of_none rfl fun statics held h ↦ ⟨⟨fun other hother ↦ ?_, ?_⟩, ?_⟩
  · rw [getD_lookup_bare]
    split_ifs with hproxy hdomain
    · rw [h.tracked other hother, hproxy, getD_lookup_self]
    · -- The rest of the device comes later.
      rcases hdomain with rfl | rfl
      · exact h.fresh _ (by simp only [AudioSlot.rank]; omega)
      · exact h.fresh _ (by simp only [AudioSlot.rank]; omega)
    · rw [h.tracked other hother, getD_lookup_cons hproxy]
      exact (stands_update_proxy.trans (if_neg (not_or.2 ⟨hproxy, hdomain⟩))).symm
  · exact fun other hother ↦ h.fresh other (by omega)
  · exact Function.update_self ..

/-- A proxy device with everything is what its variable tells. -/
theorem Stage.attached
    (h : Stage ((.runtimePm index, true) :: (.domain index, true) :: bare index true) rank statics held)
    (hset : statics (.device (.proxy index)) = true) : Stage [] rank statics held := by
  refine ⟨fun other hother ↦ (h.tracked other hother).trans ?_, h.fresh⟩
  by_cases hpm : other = .runtimePm index
  · rw [hpm, getD_lookup_self]
    exact hset.symm
  by_cases hdomain : other = .domain index
  · rw [getD_lookup_cons hpm, hdomain, getD_lookup_self]
    exact hset.symm
  rw [getD_lookup_cons hpm, getD_lookup_cons hdomain, getD_lookup_bare]
  split_ifs with hproxy hother
  · rw [hproxy]
    exact hset.symm
  · exact absurd hother (not_or.2 ⟨hdomain, hpm⟩)
  · rfl

theorem turns_storeProxy :
    audio.Turns (.store (.device (.proxy index)) false) answer (Stage (bare index false) rank)
      (Stage [] rank) := by
  refine Custody.turns_of_none rfl fun statics held h ↦ ⟨fun other hother ↦ ?_, h.fresh⟩
  rw [h.tracked other hother, getD_lookup_bare]
  refine Eq.trans ?_ stands_update_proxy.symm
  split_ifs <;> simp_all

theorem proceeds_proxyDomain (index : Fin 2) :
    Proceeds (proxyDomain index) (15 + 3 * index) (18 + 3 * index) := by
  refine proceeds_bind (proceeds_check rfl rfl) fun _ ↦ triple_bind (accounts_registerProxy index) fun _ ↦ ?_
  have hadd : (invoke (.pmGenpdAddDevice index)).Triple
      (audio.Accounts fun statics held ↦
        Stage (bare index true) (16 + 3 * index) statics held ∧ statics (.device (.proxy index)) = true)
      (fun ret ↦ audio.Accounts fun statics held ↦
        (if ret = 0 then Stage ((.domain index, true) :: bare index true) (16 + 3 * index + 1) statics held
        else Stage (bare index true) (16 + 3 * index) statics held) ∧ statics (.device (.proxy index)) = true)
      (audio.Accounts Told) := by
    refine Custody.accounts_invoke (fun _ ↦ trivial) fun ret ↦ turns_and rfl ?_
    split_ifs with hret
    · subst hret
      exact turns_acquired rfl rfl rfl
    · exact turns_same rfl (event_of_failed (decide_eq_true hret))
  refine triple_bind hadd fun ret ↦ ?_
  split_ifs with hret
  · have henable : ∀ answer, audio.Turns (.pmRuntimeEnable index) answer
        (Stage ((.domain index, true) :: bare index true) (16 + 3 * index + 1))
        (Stage ((.runtimePm index, true) :: (.domain index, true) :: bare index true)
          (16 + 3 * index + 1 + 1)) :=
      fun answer ↦ turns_acquired rfl rfl (by simp only [AudioSlot.rank]; omega)
    refine triple_consequence (Custody.accounts_perform_sure (fun _ ↦ trivial) (fun _ ↦ rfl) fun answer ↦
      turns_and rfl (henable answer)) (fun _ h ↦ h) (fun _ _ h ↦ h.imp ?_) fun _ h ↦ h
    exact fun _ _ h ↦ (h.1.attached h.2).mono (by omega)
  · have hunregister : (perform audio.toInterface (.platformDeviceUnregister (.proxy index))).Triple
        (audio.Accounts (Stage (bare index true) (16 + 3 * index)))
        (fun _ ↦ audio.Accounts (Stage (bare index false) (16 + 3 * index))) (audio.Accounts Told) :=
      accounts_put rfl rfl rfl rfl
    refine triple_bind (triple_consequence hunregister ?_ (fun _ _ h ↦ h) fun _ h ↦ h) fun _ ↦ ?_
    · exact fun _ h ↦ h.imp fun _ _ h ↦ h.1
    · refine triple_bind (Custody.accounts_perform_sure (fun _ ↦ trivial) (fun _ ↦ rfl) fun _ ↦
        turns_storeProxy) fun _ ↦ ?_
      exact triple_abort fun _ h ↦ h.imp fun _ _ ↦ Stage.told

theorem proceeds_registerDevices : Proceeds registerDevices 12 29 := by
  refine proceeds_bind (proceeds_registerGsi 0) fun _ ↦ ?_
  refine proceeds_bind (proceeds_registerGsi 1) fun _ ↦ ?_
  refine proceeds_bind (proceeds_acquire rfl (fun _ ↦ rfl) rfl rfl) fun _ ↦ ?_
  refine proceeds_bind (proceeds_proxyDomain 0) fun _ ↦ ?_
  refine proceeds_bind (proceeds_proxyDomain 1) fun _ ↦ ?_
  refine proceeds_bind (proceeds_acquire rfl (fun _ ↦ rfl) rfl rfl) fun _ ↦ ?_
  refine proceeds_bind (proceeds_acquire rfl (fun _ ↦ rfl) rfl rfl) fun _ ↦ ?_
  refine proceeds_bind (proceeds_acquire rfl (fun _ ↦ rfl) rfl rfl) fun _ ↦ ?_
  refine proceeds_bind (proceeds_check rfl rfl) fun _ ↦ ?_
  refine proceeds_bind (proceeds_acquire rfl (fun _ ↦ rfl) rfl rfl) fun _ ↦ ?_
  refine proceeds_bind (proceeds_acquire rfl (fun _ ↦ rfl) rfl rfl) fun _ ↦ ?_
  refine proceeds_bind (proceeds_acquire rfl (fun _ ↦ rfl) rfl rfl) fun _ ↦ ?_
  refine proceeds_bind (proceeds_acquire rfl (fun _ ↦ rfl) rfl rfl) fun _ ↦ ?_
  refine proceeds_bind (proceeds_acquire rfl (fun _ ↦ rfl) rfl rfl) fun _ ↦ ?_
  exact triple_bind (accounts_look rfl rfl) fun _ ↦ triple_pure fun _ h ↦ h

/-! ## The release -/

/-- Nothing is held that a variable stands for. -/
def Cleaned (_ held : AudioSlot → Bool) : Prop :=
  ∀ slot : AudioSlot, slot.tracked = true → held slot = false

/-- The calls of `cleanup` release what their variables stand for. -/
theorem releases_cleanup : ∀ group ∈ cleanupGroups, ∀ part ∈ group.2,
    audio.Releases AudioSlot.tracked stands (fun _ _ ↦ True) part.2 part.1 := by
  have hcalls : ∀ group ∈ cleanupGroups, ∀ part ∈ group.2,
      (part.2.verdict = .succeeds ∧ part.2.custody = some (.released part.1)) ∧ part.1.tracked = true ∧
        (part.2.plain = true ∨ ∃ index, part.2 = .acpiUnregisterGsi index ∧ part.1 = .swrIrq index) := by
    simp only [cleanupGroups, List.forall_mem_cons]
    simp [AudioCall.verdict, AudioCall.custody, AudioSlot.tracked, AudioCall.plain]
  intro group hgroup part hpart
  obtain ⟨⟨hverdict, hcustody⟩, htracked, hplain⟩ := hcalls group hgroup part hpart
  refine ⟨fun _ ↦ trivial, htracked, fun _ ↦ (event_of_release hverdict).2.trans hcustody,
    fun _ ↦ (event_of_release hverdict).1, fun answer statics other hne ↦ ?_, fun _ _ _ h ↦ h⟩
  rcases hplain with hplain | ⟨index, hcall, hslot⟩
  · rw [effect_plain hplain]
  · rw [hcall]
    rw [hslot] at hne
    exact (stands_update rfl).trans (if_neg hne)

theorem mem_slotsOf_cleanup (htracked : slot.tracked = true) (hstands : stands statics slot = true) :
    slot ∈ Custody.slotsOf cleanupGroups := by
  cases slot with
  | table => exact absurd hstands Bool.false_ne_true
  | device device =>
    clear hstands htracked
    cases device with
    | proxy index => revert index; decide
    | _ => decide
  | firmwareIrq index => exact absurd htracked Bool.false_ne_true
  | node node => exact absurd htracked Bool.false_ne_true
  | swrIrq index => clear hstands htracked; revert index; decide
  | domain index => clear hstands htracked; revert index; decide
  | runtimePm index => clear hstands htracked; revert index; decide
  | virq index => clear hstands htracked; revert index; decide
  | _ => decide

theorem stands_cleanup : ∀ group ∈ cleanupGroups, ∀ part ∈ group.2, ∀ statics,
    stands statics part.1 = stands statics group.1 := by
  simp only [cleanupGroups, List.forall_mem_cons]
  simp [stands]

theorem accounts_cleanup : cleanup.Triple (audio.Accounts Told) (fun _ ↦ audio.Accounts Cleaned)
    (audio.Accounts Cleaned) := by
  have hdownward : Custody.Downward audio.restsOn AudioSlot.tracked (Custody.slotsOf cleanupGroups ++ []) :=
    Custody.downward_of_none (fun _ _ ↦ id) _
  refine triple_consequence (Custody.accounts_releaseGroups releases_cleanup stands_cleanup (by decide)
    hdownward) (fun _ h ↦ h.imp ?_) (fun _ _ h ↦ h.imp ?_) fun _ h ↦ h
  · refine fun statics held h ↦ ⟨fun slot htracked ↦ ?_, trivial⟩
    rw [h slot htracked]
    cases hstands : stands statics slot with
    | false => rfl
    | true => simp [mem_slotsOf_cleanup htracked hstands]
  · exact fun statics held h slot htracked ↦ (h.1 slot htracked).trans (by simp)

/-! ## Whole loads -/

theorem proceeds_node (node : AudioNode) {failing : (AudioSlot → Bool) → (AudioSlot → Bool) → Prop} :
    (succeeds audio.toInterface (.softwareNodeFindByName node)).Triple
      (audio.Accounts (Stage [] (AudioSlot.node node).rank))
      (fun _ ↦ audio.Accounts (Stage [] ((AudioSlot.node node).rank + 1))) (audio.Accounts failing) := by
  refine Custody.accounts_succeeds (fun _ ↦ trivial) (fun answer hfailed ↦ ?_) fun answer hfailed ↦ ?_
  · exact turns_acquired_local (event_of_success rfl hfailed) rfl rfl rfl
  · exact (turns_same rfl (event_of_failed hfailed)).of_imp fun _ _ h ↦ h.mono (Nat.le_succ _)

theorem proceeds_abort {error : ℤ} {later : ℕ} : Proceeds (abort error) rank later :=
  triple_abort fun _ h ↦ h.imp fun _ _ ↦ Stage.told

variable (register : Bool)

theorem proceeds_prepare : Proceeds (prepare register) 1 29 := by
  refine proceeds_bind (proceeds_findAcpi rfl) fun _ ↦ proceeds_bind (proceeds_findAcpi rfl) fun _ ↦ ?_
  refine triple_state_ite ?_ proceeds_abort
  refine proceeds_bind (proceeds_firmwareIrq 0) fun _ ↦ proceeds_bind (proceeds_firmwareIrq 1) fun _ ↦ ?_
  refine proceeds_bind (proceeds_firmwareIrq 2) fun _ ↦ proceeds_bind (proceeds_provider rfl) fun _ ↦ ?_
  refine proceeds_bind (proceeds_provider rfl) fun _ ↦ proceeds_bind (proceeds_provider rfl) fun _ ↦ ?_
  refine proceeds_bind (proceeds_provider rfl) fun _ ↦ triple_bind (proceeds_node .apcsNode) fun _ ↦ ?_
  refine triple_bind (proceeds_node .qmpNode) fun _ ↦ triple_state_ite ?_ proceeds_abort
  cases register with
  | true => exact proceeds_registerDevices
  | false => exact triple_pure fun _ h ↦ h.imp fun _ _ h ↦ h.mono (by decide)

/-- Nothing but the table has a rank below that of the first device. -/
theorem Stage.cleaned (h : Stage [] 1 statics held) : Cleaned statics held := by
  intro slot htracked
  by_cases htable : slot = .table
  · subst htable
    exact h.tracked _ rfl
  · refine h.fresh slot ?_
    cases slot with
    | table => exact absurd rfl htable
    | device device => cases device <;> simp [AudioSlot.rank]; omega
    | node node => cases node <;> simp [AudioSlot.rank]
    | _ => simp [AudioSlot.rank] <;> omega

/-- The table is mapped for the check of its header only. -/
theorem Stage.unmapped (h : Stage [(.table, false)] rank statics held) : Stage [] rank statics held := by
  refine ⟨fun slot htracked ↦ (h.tracked slot htracked).trans ?_, h.fresh⟩
  by_cases htable : slot = .table
  · subst htable
    rfl
  · rw [getD_lookup_cons htable]

/-- A check before anything is held. -/
theorem accounts_early (hplain : call.plain = true) (hquiet : call.custody = none) (hle : rank ≤ 1) :
    (perform audio.toInterface call).Triple (audio.Accounts (Stage [] rank))
      (fun _ ↦ audio.Accounts (Stage [] rank)) (audio.Accounts Cleaned) :=
  Custody.accounts_check (fun _ ↦ trivial) (fun _ ↦ turns_same hplain (event_of_quiet hquiet)) fun _ _ h ↦
    (h.mono hle).cleaned

theorem accounts_tclAudioInit : (tclAudioInit register).Triple
    (audio.Accounts (Stage [] 0)) (fun _ ↦ audio.Accounts Told) (audio.Accounts Cleaned) := by
  have hmap : (perform audio.toInterface .acpiGetTable).Triple (audio.Accounts (Stage [] 0))
      (fun _ ↦ audio.Accounts (Stage [(.table, true)] 1)) (audio.Accounts Cleaned) := by
    refine Custody.accounts_perform (fun _ ↦ trivial) (fun answer hfailed ↦ ?_) fun answer hfailed ↦ ?_
    · exact turns_acquired (event_of_success rfl hfailed) rfl rfl
    · exact (turns_same rfl (event_of_failed hfailed)).of_imp fun _ _ h ↦ (h.mono (Nat.le_succ 0)).cleaned
  have hunmap : (perform audio.toInterface .acpiPutTable).Triple
      (audio.Accounts (Stage [(.table, true)] 1)) (fun _ ↦ audio.Accounts (Stage [] 1))
      (audio.Accounts Cleaned) :=
    Custody.accounts_consequence (accounts_put rfl rfl rfl rfl) (fun _ _ h ↦ h) (fun _ _ _ ↦ Stage.unmapped)
      fun _ _ h ↦ h
  refine triple_bind (accounts_early rfl rfl (by decide)) fun _ ↦ triple_bind hmap fun _ ↦ ?_
  refine triple_bind (accounts_look rfl rfl) fun matched ↦ triple_bind hunmap fun _ ↦ ?_
  cases matched with
  | false => exact triple_abort fun _ h ↦ h.imp fun _ _ ↦ Stage.cleaned
  | true =>
    refine triple_bind (accounts_early rfl rfl (by decide)) fun _ ↦ ?_
    refine triple_attempt (proceeds_prepare register) (fun _ ↦ ?_) fun error ↦ ?_
    · exact triple_pure fun _ h ↦ h.imp fun _ _ ↦ Stage.told
    · exact triple_bind accounts_cleanup fun _ ↦ triple_abort fun _ h ↦ h

theorem accounts_loadAndUnload : (loadAndUnload register).Triple
    (audio.Accounts (Stage [] 0)) (fun _ ↦ audio.Accounts Cleaned) (audio.Accounts Cleaned) :=
  triple_bind (accounts_tclAudioInit register) fun _ ↦ accounts_cleanup

end

/-- What a load acquires and releases, up to the end of the failed initialization or of the unload. -/
def audioLog (register : Bool) (oracle : ℕ → AudioCall → ℤ) : List (CustodyEvent AudioSlot) :=
  audio.log (loadAndUnload register oracle []).2

/-- Nothing is acquired twice at a time or released without being held, and everything that is acquired is
released. -/
structure AudioBalanced (log : List (CustodyEvent AudioSlot)) : Prop where
  orderly : Orderly (fun _ _ ↦ False) log
  released : ∀ slot, log.count (.acquired slot) = log.count (.released slot)

section

variable {register : Bool} {oracle : ℕ → AudioCall → ℤ}

/-- Whatever fails, `cleanup` releases what the variables stand for, each of it once. -/
theorem audioLog_cleaned : Orderly (fun _ _ ↦ False) (audioLog register oracle) ∧
    ∀ slot : AudioSlot, slot.tracked = true → held (audioLog register oracle) slot = false := by
  have hstart : audio.Accounts (Stage [] 0) [] := by
    refine ⟨trivial, trivial, fun slot _ ↦ ?_, fun _ _ ↦ rfl⟩
    cases slot <;> rfl
  have hend := (accounts_loadAndUnload register).at_end oracle hstart
  exact ⟨hend.orderly, hend.fact⟩

/-- No call of the module releases anything else. -/
theorem released_not_mem {slot : AudioSlot} (htracked : slot.tracked = false) :
    .released slot ∉ audioLog register oracle := by
  rw [audioLog, Custody.log, List.mem_filterMap]
  rintro ⟨⟨call, answer⟩, -, hevent⟩
  have hcustody : call.custody = some (.released slot) := by
    simp only [audio] at hevent
    split_ifs at hevent
    exact hevent
  cases call <;> simp_all [AudioCall.custody] <;> subst_vars <;> simp [AudioSlot.tracked] at htracked

theorem held_audioLog_iff {slot : AudioSlot} : held (audioLog register oracle) slot = true ↔
    slot.tracked = false ∧ .acquired slot ∈ audioLog register oracle := by
  cases htracked : slot.tracked with
  | true => simp [audioLog_cleaned.2 slot htracked]
  | false => simp [held_iff_of_kept (released_not_mem htracked)]

/-- A load and unload of the module, or a load that fails, in either mode, is balanced exactly if no
software node was found and no mapping was made for an interrupt of the firmware: the references to the
nodes and these mappings are never released, and everything else is released once. -/
theorem tclAudio_balanced_iff (register : Bool) (oracle : ℕ → AudioCall → ℤ) :
    AudioBalanced (audioLog register oracle) ↔
      (∀ node, .acquired (.node node) ∉ audioLog register oracle) ∧
        ∀ index, .acquired (.firmwareIrq index) ∉ audioLog register oracle := by
  have horderly : Orderly (fun _ _ ↦ False) (audioLog register oracle) := audioLog_cleaned.1
  have hbalanced : AudioBalanced (audioLog register oracle) ↔
      ∀ slot, held (audioLog register oracle) slot = false :=
    ⟨fun h ↦ horderly.balanced_iff.1 h.released, fun h ↦ ⟨horderly, horderly.balanced_iff.2 h⟩⟩
  rw [hbalanced]
  constructor
  · intro h
    have hnot : ∀ slot : AudioSlot, slot.tracked = false → .acquired slot ∉ audioLog register oracle := by
      intro slot htracked hmem
      have hheld := held_audioLog_iff.2 ⟨htracked, hmem⟩
      rw [h slot] at hheld
      exact Bool.false_ne_true hheld
    exact ⟨fun node ↦ hnot (.node node) rfl, fun index ↦ hnot (.firmwareIrq index) rfl⟩
  · rintro ⟨hnode, hirq⟩ slot
    cases hheld : held (audioLog register oracle) slot with
    | false => rfl
    | true =>
      obtain ⟨htracked, hmem⟩ := held_audioLog_iff.1 hheld
      cases slot with
      | node node => exact absurd hmem (hnode node)
      | firmwareIrq index => exact absurd hmem (hirq index)
      | _ => exact Bool.noConfusion htracked

/-- Every call succeeds, and every interrupt of the firmware has a mapping already. -/
def goodSurroundings (_ : ℕ) (call : AudioCall) : ℤ :=
  match call.verdict with
  | .null _ => 1
  | _ => 0

/-- After a load that only validates and an unload, the reference to the node of the mailbox is left. -/
theorem tclAudio_keeps_node : ¬ AudioBalanced (audioLog false goodSurroundings) :=
  fun h ↦ absurd (h.released (.node .apcsNode)) (by decide)

end

end TclB220G.Audio
