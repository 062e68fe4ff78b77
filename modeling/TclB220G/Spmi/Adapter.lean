import TclB220G.Display.Stage
import TclB220G.Lib.Custody

/-!
# The ACPI adapter of the SPMI arbiter

A bind puts the interrupt of the arbiter into the domain of the PDC, creates the arbiter as a platform
device, and on its controller two PMICs, the PWM device and a consumer of it.  Every failure ends in
`owner_release_transport`, which is what an unbind does as well and goes by the fields of the state.  It
leaves the interrupt where it is if the interrupt is still active or the pin of the PDC has changed, and
the state then says so to the binds that follow.
-/

namespace TclB220G.Spmi

open Kernel Kernel.Errno Lib Lib.Script
open Display (Verdict)

/-- The two PMICs, by their `usid`. -/
inductive Usid where
  | sid4 | sid5
  deriving DecidableEq, Repr

/-- The place of a PMIC in the arrays. -/
def Usid.index : Usid → ℕ
  | sid4 => 0
  | sid5 => 1

/-- What the adapter acquires, under the names of the fields: `irq` is the place of the interrupt in the
domain of the PDC, which the field `pushed` stands for. -/
inductive OwnerSlot where
  | pdc | irq | fwnode | child | ctrl
  | pmicNode (usid : Usid)
  | pmic (usid : Usid)
  | lpgNode | lpg | pwmConsumerNode | pwmConsumer | pwm
  deriving DecidableEq, Repr

/-- What has to be there as long as a slot is held: the parent of a device and the node it uses, the node
that another one refers to, and the device behind a reference. -/
def OwnerSlot.bases : OwnerSlot → List OwnerSlot
  | child => [fwnode, irq]
  | ctrl => [child]
  | pmic usid => [ctrl, pmicNode usid]
  | lpg => [pmic .sid5, lpgNode]
  | pwmConsumerNode => [lpgNode]
  | pwmConsumer => [lpg, pwmConsumerNode]
  | pwm => [pwmConsumer]
  | _ => []

/-- The fields of `struct owner_test` that its functions go by: which of them are set, and the configuration
of the pin. -/
structure OwnerTest where
  set : OwnerSlot → Bool
  pinConfig : ℤ

inductive IrqchipState where
  | masked | active | pending
  deriving DecidableEq, Repr

/-- The calls of the adapter.  `pinState` and `pinStateNow` are the same function, whose result is kept in
the state by a bind only.  Their answer is an error if it is negative, and otherwise the configuration and,
in the lowest bit, whether the pin is enabled. -/
inductive OwnerCall where
  | componentBindAll
  | componentUnbindAll
  | busFindDeviceByName
  | putDevice
  | pdcDomain
  | irqAsLeftByFirmware
  | irqGetIrqchipState (which : IrqchipState)
  | pinState
  | irqDomainPushIrq
  | irqGetIrqData
  | pinStateNow
  | irqdIsActivated
  | irqDomainPopIrq
  | fwnodeCreateSoftwareNode (node : OwnerSlot)
  | fwnodeRemoveSoftwareNode (node : OwnerSlot)
  | platformDeviceRegister (device : OwnerSlot)
  | platformDeviceUnregister (device : OwnerSlot)
  | deviceIsBound (device : OwnerSlot)
  | requestModule (name : String)
  | spmiFindControllerByParent
  | spmiControllerPut
  | spmiDeviceAlloc (usid : Usid)
  | spmiDeviceAdd (usid : Usid)
  | spmiDevicePut (usid : Usid)
  | spmiDeviceRemove (usid : Usid)
  | qcomPmicGet
  | subtypeIsPm8150l
  | devGetRegmap (usid : Usid) (error : Errno)
  | regmapBulkRead
  | pwmGet
  | pwmPut
  | pwmGetStateHw
  deriving DecidableEq, Repr

namespace OwnerCall

/-- How the adapter tells from an answer that a call failed. -/
def verdict : OwnerCall → Verdict
  | componentBindAll | irqDomainPushIrq | irqDomainPopIrq => .nonzero
  | busFindDeviceByName | deviceIsBound _ | spmiFindControllerByParent => .null EPROBE_DEFER
  | pdcDomain | irqGetIrqchipState _ | pinState => .negative
  | irqAsLeftByFirmware => .null EBUSY
  | fwnodeCreateSoftwareNode _ | platformDeviceRegister _ | qcomPmicGet | pwmGet => .negative
  | requestModule _ | spmiDeviceAdd _ | regmapBulkRead | pwmGetStateHw => .nonzero
  | spmiDeviceAlloc _ => .null ENOMEM
  | subtypeIsPm8150l => .null ENODEV
  | devGetRegmap _ error => .null error
  | _ => .succeeds

/-- What a call acquires or releases if it succeeds. -/
def custody : OwnerCall → Option (CustodyEvent OwnerSlot)
  | busFindDeviceByName => some (.acquired .pdc)
  | putDevice => some (.released .pdc)
  | irqDomainPushIrq => some (.acquired .irq)
  | irqDomainPopIrq => some (.released .irq)
  | fwnodeCreateSoftwareNode slot | platformDeviceRegister slot => some (.acquired slot)
  | fwnodeRemoveSoftwareNode slot | platformDeviceUnregister slot => some (.released slot)
  | spmiFindControllerByParent => some (.acquired .ctrl)
  | spmiControllerPut => some (.released .ctrl)
  | spmiDeviceAlloc usid => some (.acquired (.pmic usid))
  | spmiDevicePut usid | spmiDeviceRemove usid => some (.released (.pmic usid))
  | pwmGet => some (.acquired .pwm)
  | pwmPut => some (.released .pwm)
  | _ => none

/-- The fields after a call.  A pointer is null if the call that it comes from failed, and is cleared when
what it points to is released.  An SPMI device is kept in a local variable until it has been added. -/
def effect (call : OwnerCall) (answer : ℤ) (owner : OwnerTest) : OwnerTest :=
  let succeeded := !call.verdict.failed answer
  let store (slot : OwnerSlot) (value : Bool) := { owner with set := Function.update owner.set slot value }
  match call with
  | pinState => { owner with pinConfig := answer / 2 }
  | busFindDeviceByName => store .pdc succeeded
  | putDevice => store .pdc false
  | irqDomainPushIrq => if succeeded then store .irq true else owner
  | irqDomainPopIrq => if succeeded then store .irq false else owner
  | fwnodeCreateSoftwareNode slot | platformDeviceRegister slot => store slot succeeded
  | fwnodeRemoveSoftwareNode slot | platformDeviceUnregister slot => store slot false
  | spmiFindControllerByParent => store .ctrl succeeded
  | spmiControllerPut => store .ctrl false
  | spmiDeviceAdd usid => if succeeded then store (.pmic usid) true else owner
  | spmiDeviceRemove usid => store (.pmic usid) false
  | pwmGet => store .pwm succeeded
  | pwmPut => store .pwm false
  | _ => owner

end OwnerCall

def ownerInterface : Interface OwnerCall OwnerTest where
  initial := ⟨fun _ ↦ false, 0⟩
  effect := OwnerCall.effect
  failed call := call.verdict.failed
  errno call := call.verdict.errno
  errno_ne_zero call := call.verdict.errno_ne_zero

/-- The pin is disabled and has a given configuration. -/
def pinIs (config pin : ℤ) : Bool := 0 ≤ pin && pin % 2 = 0 && pin / 2 = config

/-- The latest calls have found the interrupt, the pin disabled with the configuration that is kept, and
the interrupt deactivated. -/
def FoundQuiet (earlier : List (OwnerCall × ℤ)) : Prop :=
  ∃ data pin before, earlier = (.irqdIsActivated, 0) :: (.pinStateNow, pin) :: (.irqGetIrqData, data) :: before ∧
    data ≠ 0 ∧ pinIs (ownerInterface.replay before).pinConfig pin = true

def owner : Custody OwnerCall OwnerTest OwnerSlot where
  toInterface := ownerInterface
  event call answer := if call.verdict.failed answer then none else call.custody
  restsOn user base := base ∈ user.bases
  permits call earlier := call = .irqDomainPopIrq → FoundQuiet earlier

/-! ## The source -/

abbrev OwnerScript := Script OwnerCall

/-- The fields that `owner_release_pmic` and the start of `owner_release_transport` look at, with the calls
that they make for them. -/
def releaseGroups : List (OwnerSlot × List (OwnerSlot × OwnerCall)) :=
  [(.pwm, [(.pwm, .pwmPut)]),
    (.pwmConsumer, [(.pwmConsumer, .platformDeviceUnregister .pwmConsumer)]),
    (.pwmConsumerNode, [(.pwmConsumerNode, .fwnodeRemoveSoftwareNode .pwmConsumerNode)]),
    (.lpg, [(.lpg, .platformDeviceUnregister .lpg)]),
    (.lpgNode, [(.lpgNode, .fwnodeRemoveSoftwareNode .lpgNode)]),
    (.pmic .sid5, [(.pmic .sid5, .spmiDeviceRemove .sid5)]),
    (.pmicNode .sid5, [(.pmicNode .sid5, .fwnodeRemoveSoftwareNode (.pmicNode .sid5))]),
    (.pmic .sid4, [(.pmic .sid4, .spmiDeviceRemove .sid4)]),
    (.pmicNode .sid4, [(.pmicNode .sid4, .fwnodeRemoveSoftwareNode (.pmicNode .sid4))]),
    (.ctrl, [(.ctrl, .spmiControllerPut)]),
    (.child, [(.child, .platformDeviceUnregister .child)]),
    (.fwnode, [(.fwnode, .fwnodeRemoveSoftwareNode .fwnode)])]

/-- The part of `owner_release_transport` for an interrupt that is in the domain of the PDC. -/
def takeOut : OwnerScript Unit := do
  let current ← state ownerInterface
  if current.set .irq then
    let data ← invoke .irqGetIrqData
    let pin ← invoke .pinStateNow
    if data = 0 then pure ()
    else
      let activated ← invoke .irqdIsActivated
      if activated = 0 ∧ pinIs current.pinConfig pin = true then
        let _ ← invoke .irqDomainPopIrq
      else pure ()
  else pure ()

def ownerReleaseTransport : OwnerScript Unit := do
  inOrder (releaseGroups.map fun group ↦ owner.releaseGroup OwnerTest.set group.1 group.2)
  takeOut
  owner.releaseGroup OwnerTest.set .pdc [(.pdc, .putDevice)]

/-- One turn of the loop in `owner_register_pmic`. -/
def registerPmicDevice (usid : Usid) : OwnerScript Unit := do
  perform ownerInterface (.fwnodeCreateSoftwareNode (.pmicNode usid))
  perform ownerInterface (.spmiDeviceAlloc usid)
  let ret ← invoke (.spmiDeviceAdd usid)
  if ret = 0 then
    perform ownerInterface (.deviceIsBound (.pmic usid))
    perform ownerInterface (.devGetRegmap usid EPROBE_DEFER)
  else
    perform ownerInterface (.spmiDevicePut usid)
    abort ret

/-- The PMIC driver is loaded if it is a module. -/
def requestPmicModule (modular : Bool) : OwnerScript Unit :=
  if modular then perform ownerInterface (.requestModule "spmi:spmi-pmic") else pure ()

def ownerRegisterPmic (modular : Bool) : OwnerScript Unit := do
  requestPmicModule modular
  perform ownerInterface (.requestModule "platform:pm8150l-lpg")
  perform ownerInterface .spmiFindControllerByParent
  registerPmicDevice .sid4
  registerPmicDevice .sid5
  perform ownerInterface (.fwnodeCreateSoftwareNode .lpgNode)
  perform ownerInterface (.platformDeviceRegister .lpg)
  perform ownerInterface (.deviceIsBound .lpg)
  perform ownerInterface .qcomPmicGet
  perform ownerInterface .subtypeIsPm8150l
  perform ownerInterface (.devGetRegmap .sid5 ENXIO)
  perform ownerInterface .regmapBulkRead
  perform ownerInterface (.fwnodeCreateSoftwareNode .pwmConsumerNode)
  perform ownerInterface (.platformDeviceRegister .pwmConsumer)
  perform ownerInterface .pwmGet
  perform ownerInterface .pwmGetStateHw

/-- The part of `owner_register_transport` whose failures go to the label `release`.  An interrupt that is
in the domain of the PDC is not in the parent domain. -/
def prepareTransport (modular : Bool) : OwnerScript Unit := do
  perform ownerInterface .pdcDomain
  let current ← state ownerInterface
  if current.set .irq then abort EBUSY.ret
  else
    perform ownerInterface .irqAsLeftByFirmware
    let masked ← step ownerInterface (.irqGetIrqchipState .masked)
    let active ← step ownerInterface (.irqGetIrqchipState .active)
    let pending ← step ownerInterface (.irqGetIrqchipState .pending)
    if masked = 0 ∨ active ≠ 0 ∨ pending ≠ 0 then abort EBUSY.ret
    else
      let pin ← step ownerInterface .pinState
      if pinIs 4 pin then
        perform ownerInterface .irqDomainPushIrq
        perform ownerInterface (.fwnodeCreateSoftwareNode .fwnode)
        perform ownerInterface (.platformDeviceRegister .child)
        perform ownerInterface (.deviceIsBound .child)
        ownerRegisterPmic modular
      else abort EBUSY.ret

def ownerRegisterTransport (modular : Bool) : OwnerScript Unit := do
  perform ownerInterface .busFindDeviceByName
  match ← attempt (prepareTransport modular) with
  | .ok _ => pure ()
  | .error error =>
    ownerReleaseTransport
    abort error

def ownerMasterBind (modular : Bool) : OwnerScript Unit := do
  perform ownerInterface .componentBindAll
  match ← attempt (ownerRegisterTransport modular) with
  | .ok _ => pure ()
  | .error error =>
    perform ownerInterface .componentUnbindAll
    abort error

def ownerMasterUnbind : OwnerScript Unit := do
  ownerReleaseTransport
  perform ownerInterface .componentUnbindAll

inductive OwnerOp where
  | bind | unbind
  deriving DecidableEq, Repr

/-- The component framework binds what is not bound, and unbinds what is. -/
def ownerStep (modular bound : Bool) : OwnerOp → OwnerScript Bool
  | .bind =>
    if bound then pure true
    else do
      match ← attempt (ownerMasterBind modular) with
      | .ok _ => pure true
      | .error _ => pure false
  | .unbind =>
    if bound then do
      ownerMasterUnbind
      pure false
    else pure false

/-- A history of binds and unbinds, and whether the adapter is bound after it. -/
def ownerRun (modular : Bool) : Bool → List OwnerOp → OwnerScript Bool
  | bound, [] => pure bound
  | bound, op :: ops => do
    let bound ← ownerStep modular bound op
    ownerRun modular bound ops

/-! ## Facts -/

/-- The order in which the slots are acquired. -/
def OwnerSlot.rank : OwnerSlot → ℕ
  | pdc => 0
  | irq => 1
  | fwnode => 2
  | child => 3
  | ctrl => 4
  | pmicNode usid => 5 + 2 * usid.index
  | pmic usid => 6 + 2 * usid.index
  | lpgNode => 9
  | lpg => 10
  | pwmConsumerNode => 11
  | pwmConsumer => 12
  | pwm => 13

theorem Usid.index_lt (usid : Usid) : usid.index < 2 := by
  cases usid <;> decide

theorem Usid.index_injective : Function.Injective Usid.index := by
  intro usid other h
  cases usid <;> cases other <;> first | rfl | cases h

theorem OwnerSlot.rank_injective : Function.Injective OwnerSlot.rank := by
  intro slot other h
  cases slot <;> cases other <;> simp only [rank] at h ⊢ <;>
    first
    | omega
    | have hlt := Usid.index_lt ‹Usid›
      omega
    | congr 1
      exact Usid.index_injective (by omega)

theorem OwnerSlot.rank_base {slot base : OwnerSlot} (h : base ∈ slot.bases) : base.rank < slot.rank := by
  have hall : ∀ base ∈ slot.bases, base.rank < slot.rank := by
    cases slot <;> simp [bases, rank, Usid.index]
    omega
  exact hall base h

/-- The fields tell what is held. -/
def Told (current : OwnerTest) (held : OwnerSlot → Bool) : Prop := ∀ slot, held slot = current.set slot

/-- Of all slots but perhaps the interrupt, those below a rank are held. -/
structure Stage (irq : Bool) (rank : ℕ) (current : OwnerTest) (held : OwnerSlot → Bool) : Prop where
  told : Told current held
  upTo : ∀ slot, (slot = .irq → irq = true) → held slot = decide (slot.rank < rank)

section

variable {call : OwnerCall} {answer : ℤ} {slot : OwnerSlot} {irq : Bool} {rank : ℕ}

/-- A call that neither acquires nor releases anything, and stores nothing of the kind. -/
def OwnerCall.plain : OwnerCall → Bool
  | spmiDeviceAdd _ => false
  | call => call.custody.isNone

/-- The slot that a call acquires and whose field it sets. -/
def OwnerCall.fills : OwnerCall → Option OwnerSlot
  | spmiDeviceAlloc _ => none
  | call => match call.custody with
    | some (.acquired slot) => some slot
    | _ => none

theorem permits_of_ne (hne : call ≠ .irqDomainPopIrq) (trace : List (OwnerCall × ℤ)) :
    owner.permits call trace :=
  fun heq ↦ absurd heq hne

theorem event_of_failed (hfailed : owner.failed call answer = true) : owner.event call answer = none :=
  if_pos hfailed

theorem event_of_success (hsucceeds : owner.failed call answer = false) :
    owner.event call answer = call.custody :=
  if_neg (Bool.eq_false_iff.1 hsucceeds)

theorem permits_plain (hplain : call.plain = true) (trace : List (OwnerCall × ℤ)) :
    owner.permits call trace := by
  refine permits_of_ne ?_ trace
  rintro rfl
  exact Bool.false_ne_true hplain

theorem plain_spec (hplain : call.plain = true) : owner.event call answer = none ∧
    ∀ current, (owner.effect call answer current).set = current.set := by
  have hcustody : call.custody = none := by
    cases call <;> first | exact absurd hplain Bool.false_ne_true | rfl
  refine ⟨?_, fun current ↦ ?_⟩
  · change (if call.verdict.failed answer then none else call.custody) = none
    rw [hcustody, ite_self]
  · cases call <;> first | exact absurd hplain Bool.false_ne_true | rfl

theorem fills_spec (hfills : call.fills = some slot) :
    call ≠ .irqDomainPopIrq ∧ call.custody = some (.acquired slot) := by
  cases call <;> cases hfills <;> exact ⟨OwnerCall.noConfusion, rfl⟩

variable {current : OwnerTest}

theorem effect_fills (hfills : call.fills = some slot) :
    (owner.failed call answer = false →
      (owner.effect call answer current).set = Function.update current.set slot true) ∧
    (owner.failed call answer = true → current.set slot = false →
      (owner.effect call answer current).set = current.set) := by
  have hclear : current.set slot = false → Function.update current.set slot false = current.set := by
    intro hset
    rw [← hset, Function.update_eq_self]
  cases call <;> cases hfills <;> simp +contextual [owner, ownerInterface, OwnerCall.effect, hclear]

/-- A fact about the fields that stand for slots. -/
def OfFields (fact : OwnerTest → (OwnerSlot → Bool) → Prop) : Prop :=
  ∀ current next held, next.set = current.set → fact current held → fact next held

theorem ofFields_stage : OfFields (Stage irq rank) :=
  fun _ _ _ hset h ↦ ⟨fun slot ↦ (h.told slot).trans (congrFun hset slot).symm, h.upTo⟩

theorem turns_plain {fact : OwnerTest → (OwnerSlot → Bool) → Prop} (hplain : call.plain = true)
    (hfact : OfFields fact) : owner.Turns call answer fact fact :=
  Custody.turns_of_none (plain_spec hplain).1 fun current held ↦
    hfact current _ held ((plain_spec hplain).2 current)

variable {held : OwnerSlot → Bool}

theorem Stage.free (h : Stage irq slot.rank current held) (hirq : slot = .irq → irq = true) :
    held slot = false :=
  (h.upTo slot hirq).trans (decide_eq_false (Nat.lt_irrefl _))

theorem Stage.base {base : OwnerSlot} (h : Stage irq slot.rank current held)
    (hirq : base = .irq → irq = true) (hbase : base ∈ slot.bases) :
    held base = true :=
  (h.upTo base hirq).trans (decide_eq_true (OwnerSlot.rank_base hbase))

/-- Acquiring the next slot moves the rank up to which slots are held. -/
theorem Stage.update_upTo {other : OwnerSlot} (h : Stage irq slot.rank current held)
    (hirq : other = .irq → irq = true) :
    Function.update held slot true other = decide (other.rank < slot.rank + 1) := by
  rw [Function.update_apply]
  split_ifs with heq
  · rw [heq]
    exact (decide_eq_true (Nat.lt_succ_self _)).symm
  · have hrank : other.rank ≠ slot.rank := fun hrank ↦ heq (OwnerSlot.rank_injective hrank)
    rw [h.upTo other hirq]
    exact decide_eq_decide.2 (by omega)

/-- The next slot is acquired, and its field is set. -/
theorem turns_filled (hfills : call.fills = some slot)
    (hirq : ∀ other, other = slot ∨ other ∈ slot.bases → other = .irq → irq = true)
    (hsucceeds : owner.failed call answer = false) :
    owner.Turns call answer (Stage irq slot.rank) (Stage irq (slot.rank + 1)) := by
  refine Custody.turns_of_acquired ((event_of_success hsucceeds).trans (fills_spec hfills).2) ?_ ?_ ?_
  · exact fun current held h ↦ h.free (hirq slot (.inl rfl))
  · exact fun current held h base hbase ↦ h.base (hirq base (.inr hbase)) hbase
  · intro current held h
    refine ⟨fun other ↦ ?_, fun other ↦ h.update_upTo⟩
    rw [(effect_fills hfills).1 hsucceeds, Function.update_apply, Function.update_apply, h.told other]

/-- The next slot is not acquired, and its field is null as before. -/
theorem turns_unfilled (hfills : call.fills = some slot) (hirq : slot = .irq → irq = true)
    (hfailed : owner.failed call answer = true) :
    owner.Turns call answer (Stage irq slot.rank) (Stage irq slot.rank) := by
  refine Custody.turns_of_none (event_of_failed hfailed) fun current held h ↦ ?_
  exact ofFields_stage _ _ _ ((effect_fills hfills).2 hfailed ((h.told slot).symm.trans (h.free hirq))) h

/-! ## Binding -/

/-- A script whose failures leave fields that tell what is held. -/
def Proceeds (irq : Bool) (script : OwnerScript Unit) (rank later : ℕ) : Prop :=
  script.Triple (owner.Accounts (Stage irq rank)) (fun _ ↦ owner.Accounts (Stage irq later))
    (owner.Accounts Told)

theorem proceeds_bind {first : OwnerScript Unit} {second : Unit → OwnerScript Unit} {middle later : ℕ}
    (hfirst : Proceeds irq first rank middle) (hsecond : ∀ value, Proceeds irq (second value) middle later) :
    Proceeds irq (first >>= second) rank later :=
  triple_bind hfirst hsecond

theorem proceeds_check (hplain : call.plain = true) : Proceeds irq (perform ownerInterface call) rank rank :=
  Custody.accounts_check (permits_plain hplain) (fun _ ↦ turns_plain hplain ofFields_stage) fun _ _ ↦ Stage.told

theorem proceeds_acquire (hfills : call.fills = some slot) (hrank : slot.rank = rank) :
    Proceeds true (perform ownerInterface call) rank (rank + 1) := by
  subst hrank
  refine Custody.accounts_perform (permits_of_ne (fills_spec hfills).1) (fun _ hsucceeds ↦ ?_) fun _ hfailed ↦ ?_
  · exact turns_filled hfills (fun _ _ _ ↦ rfl) hsucceeds
  · exact (turns_unfilled hfills (fun _ ↦ rfl) hfailed).imp fun _ _ ↦ Stage.told

theorem proceeds_abort {error : ℤ} {later : ℕ} : Proceeds irq (abort error) rank later :=
  triple_abort fun _ h ↦ h.imp fun _ _ ↦ Stage.told

/-- An answer that is looked at later. -/
theorem accounts_look (hplain : call.plain = true) :
    (step ownerInterface call).Triple (owner.Accounts (Stage irq rank))
      (fun _ ↦ owner.Accounts (Stage irq rank)) (owner.Accounts Told) :=
  Custody.accounts_look (permits_plain hplain) (fun _ ↦ turns_plain hplain ofFields_stage) fun _ _ ↦ Stage.told

/-- A PMIC that has been allocated is not in its field yet. -/
structure Allocated (usid : Usid) (current : OwnerTest) (held : OwnerSlot → Bool) : Prop where
  told : ∀ slot, slot ≠ .pmic usid → held slot = current.set slot
  unset : current.set (.pmic usid) = false
  upTo : ∀ slot, held slot = decide (slot.rank < 7 + 2 * usid.index)

theorem turns_allocated {usid : Usid} (hsucceeds : owner.failed (.spmiDeviceAlloc usid) answer = false) :
    owner.Turns (.spmiDeviceAlloc usid) answer (Stage true (OwnerSlot.pmic usid).rank) (Allocated usid) := by
  refine Custody.turns_of_acquired (event_of_success hsucceeds) ?_ ?_ ?_
  · exact fun current held h ↦ h.free fun _ ↦ rfl
  · exact fun current held h base hbase ↦ h.base (fun _ ↦ rfl) hbase
  · intro current held h
    refine ⟨fun other hne ↦ ?_, (h.told _).symm.trans (h.free fun _ ↦ rfl), fun other ↦ ?_⟩
    · rw [Function.update_of_ne hne]
      exact h.told other
    · rw [h.update_upTo fun _ ↦ rfl]
      exact decide_eq_decide.2 (by simp only [OwnerSlot.rank]; omega)

theorem turns_added {usid : Usid} : owner.Turns (.spmiDeviceAdd usid) 0 (Allocated usid)
    (Stage true (7 + 2 * usid.index)) := by
  refine Custody.turns_of_none rfl fun current held h ↦ ⟨fun slot ↦ ?_, fun slot _ ↦ h.upTo slot⟩
  change held slot = Function.update current.set (.pmic usid) true slot
  rw [Function.update_apply]
  split_ifs with heq
  · rw [heq, h.upTo]
    exact decide_eq_true (by simp only [OwnerSlot.rank]; omega)
  · exact h.told slot heq

theorem turns_put {usid : Usid} : owner.Turns (.spmiDevicePut usid) answer (Allocated usid) Told := by
  refine Custody.turns_of_released rfl ?_ ?_ ?_
  · intro current held h
    rw [h.upTo]
    exact decide_eq_true (by simp only [OwnerSlot.rank]; omega)
  · intro current held h user huser
    have hlt := OwnerSlot.rank_base huser
    rw [h.upTo]
    exact decide_eq_false (by simp only [OwnerSlot.rank] at hlt ⊢; omega)
  · intro current held h slot
    rw [Function.update_apply]
    split_ifs with heq
    · rw [heq]
      exact h.unset.symm
    · exact h.told slot heq

theorem proceeds_registerPmicDevice (usid : Usid) :
    Proceeds true (registerPmicDevice usid) (5 + 2 * usid.index) (7 + 2 * usid.index) := by
  have hnode : Proceeds true (perform ownerInterface (.fwnodeCreateSoftwareNode (.pmicNode usid)))
      (5 + 2 * usid.index) (6 + 2 * usid.index) := by
    rw [show 6 + 2 * usid.index = 5 + 2 * usid.index + 1 by omega]
    exact proceeds_acquire rfl rfl
  have halloc : (perform ownerInterface (.spmiDeviceAlloc usid)).Triple
      (owner.Accounts (Stage true (6 + 2 * usid.index))) (fun _ ↦ owner.Accounts (Allocated usid))
      (owner.Accounts Told) := by
    refine Custody.accounts_perform (permits_of_ne (by simp)) (fun _ ↦ turns_allocated) fun _ hfailed ↦ ?_
    exact Custody.turns_of_none (event_of_failed hfailed) fun _ _ ↦ Stage.told
  have hadd : (invoke (.spmiDeviceAdd usid)).Triple (owner.Accounts (Allocated usid))
      (fun ret ↦ owner.Accounts fun current held ↦
        if ret = 0 then Stage true (7 + 2 * usid.index) current held else Allocated usid current held)
      (owner.Accounts Told) := by
    refine Custody.accounts_invoke (permits_of_ne (by simp)) fun ret ↦ ?_
    split_ifs with hret
    · subst hret
      exact turns_added
    · have hfailed : (OwnerCall.spmiDeviceAdd usid).verdict.failed ret = true := decide_eq_true hret
      refine Custody.turns_of_none (event_of_failed hfailed) fun current held h ↦ ?_
      simpa [owner, ownerInterface, OwnerCall.effect, hfailed] using h
  refine proceeds_bind hnode fun _ ↦ triple_bind halloc fun _ ↦ triple_bind hadd fun ret ↦ ?_
  split_ifs
  · exact proceeds_bind (proceeds_check rfl) fun _ ↦ proceeds_check rfl
  · have hput : (perform ownerInterface (.spmiDevicePut usid)).Triple (owner.Accounts (Allocated usid))
        (fun _ ↦ owner.Accounts Told) (owner.Accounts Told) :=
      Custody.accounts_perform_sure (permits_of_ne (by simp)) (fun _ ↦ rfl) fun _ ↦ turns_put
    exact triple_bind hput fun _ ↦ triple_abort fun _ h ↦ h

variable (modular : Bool)

theorem proceeds_ownerRegisterPmic : Proceeds true (ownerRegisterPmic modular) 4 14 := by
  have hrequest : Proceeds true (requestPmicModule modular) 4 4 := by
    cases modular with
    | true => exact proceeds_check rfl
    | false => exact triple_pure fun _ h ↦ h
  refine proceeds_bind hrequest fun _ ↦ proceeds_bind (proceeds_check rfl) fun _ ↦ ?_
  refine proceeds_bind (proceeds_acquire rfl rfl) fun _ ↦ ?_
  refine proceeds_bind (proceeds_registerPmicDevice .sid4) fun _ ↦ ?_
  refine proceeds_bind (proceeds_registerPmicDevice .sid5) fun _ ↦ ?_
  refine proceeds_bind (proceeds_acquire rfl rfl) fun _ ↦ proceeds_bind (proceeds_acquire rfl rfl) fun _ ↦ ?_
  refine proceeds_bind (proceeds_check rfl) fun _ ↦ proceeds_bind (proceeds_check rfl) fun _ ↦ ?_
  refine proceeds_bind (proceeds_check rfl) fun _ ↦ proceeds_bind (proceeds_check rfl) fun _ ↦ ?_
  refine proceeds_bind (proceeds_check rfl) fun _ ↦ proceeds_bind (proceeds_acquire rfl rfl) fun _ ↦ ?_
  refine proceeds_bind (proceeds_acquire rfl rfl) fun _ ↦ proceeds_bind (proceeds_acquire rfl rfl) fun _ ↦ ?_
  exact proceeds_check rfl

/-- A field that is null says that the interrupt is not in the domain of the PDC. -/
theorem Stage.irq_known (h : Stage false 1 current held) (hset : current.set .irq = false) :
    Stage true 1 current held := by
  refine ⟨h.told, fun slot _ ↦ ?_⟩
  by_cases hirq : slot = .irq
  · rw [h.told, hirq, hset]
    rfl
  · exact h.upTo slot fun heq ↦ absurd heq hirq

theorem accounts_prepareTransport : (prepareTransport modular).Triple
    (owner.Accounts (Stage false 1)) (fun _ ↦ owner.Accounts (Stage true 14)) (owner.Accounts Told) := by
  refine triple_bind (proceeds_check rfl) fun _ ↦ triple_state fun current ↦ ?_
  cases hset : current.set .irq with
  | true => exact triple_abort fun _ h ↦ h.1.imp fun _ _ ↦ Stage.told
  | false =>
    refine triple_consequence ?_ (fun trace h ↦ (?_ : owner.Accounts (Stage true 1) trace)) (fun _ _ h ↦ h)
      fun _ h ↦ h
    · refine triple_bind (proceeds_check rfl) fun _ ↦ triple_bind (accounts_look rfl) fun masked ↦ ?_
      refine triple_bind (accounts_look rfl) fun active ↦ triple_bind (accounts_look rfl) fun pending ↦ ?_
      split_ifs
      · exact proceeds_abort
      · refine triple_bind (accounts_look rfl) fun pin ↦ ?_
        split_ifs
        · refine proceeds_bind (proceeds_acquire rfl rfl)
            fun _ ↦ proceeds_bind (proceeds_acquire rfl rfl) fun _ ↦ ?_
          refine proceeds_bind (proceeds_acquire rfl rfl) fun _ ↦ proceeds_bind (proceeds_check rfl) fun _ ↦ ?_
          exact proceeds_ownerRegisterPmic modular
        · exact proceeds_abort
    · obtain ⟨⟨horderly, hpermitted, hstage⟩, hcurrent⟩ := h
      rw [← hcurrent] at hset
      exact ⟨horderly, hpermitted, hstage.irq_known hset⟩

/-! ## Releasing -/

/-- The slots that `owner_release_transport` releases whatever it finds. -/
def OwnerSlot.tracked (slot : OwnerSlot) : Bool := slot ≠ .irq

/-- What is left to release, apart from the interrupt. -/
def Left (rest : List OwnerSlot) : OwnerTest → (OwnerSlot → Bool) → Prop :=
  Custody.Owed OwnerSlot.tracked OwnerTest.set Told [] rest

theorem Told.cleared {current next : OwnerTest} (h : Told current held)
    (hset : next.set = Function.update current.set slot false) :
    Told next (Function.update held slot false) := by
  intro other
  rw [hset, Function.update_apply, Function.update_apply, h other]

/-- A call that releases a slot and clears its field. -/
theorem releases_of_effect (hne : call ≠ .irqDomainPopIrq) (hverdict : call.verdict = .succeeds)
    (hcustody : call.custody = some (.released slot)) (htracked : slot.tracked = true)
    (heffect : ∀ answer current, (owner.effect call answer current).set =
      Function.update current.set slot false) :
    owner.Releases OwnerSlot.tracked OwnerTest.set Told call slot := by
  have hsucceeds : ∀ answer, owner.failed call answer = false := by
    intro answer
    simp [owner, ownerInterface, hverdict, Verdict.failed]
  refine ⟨permits_of_ne hne, htracked, fun answer ↦ (event_of_success (hsucceeds answer)).trans hcustody,
    hsucceeds, fun answer current other hother ↦ ?_, fun answer current held h ↦ ?_⟩
  · rw [heffect, Function.update_of_ne hother]
  · exact h.cleared (heffect answer current)

theorem releases_groups : ∀ group ∈ releaseGroups, ∀ part ∈ group.2,
    owner.Releases OwnerSlot.tracked OwnerTest.set Told part.2 part.1 := by
  have hcalls : ∀ group ∈ releaseGroups, ∀ part ∈ group.2,
      (part.2 ≠ .irqDomainPopIrq ∧ part.2.verdict = .succeeds ∧ part.2.custody = some (.released part.1)) ∧
        part.1.tracked = true ∧ ∀ answer current,
          (owner.effect part.2 answer current).set = Function.update current.set part.1 false := by
    simp only [releaseGroups, List.forall_mem_cons]
    simp [OwnerCall.verdict, OwnerCall.custody, OwnerSlot.tracked, owner, ownerInterface, OwnerCall.effect]
  intro group hgroup part hpart
  obtain ⟨⟨hne, hverdict, hcustody⟩, htracked, heffect⟩ := hcalls group hgroup part hpart
  exact releases_of_effect hne hverdict hcustody htracked heffect

/-- Nothing that rests on anything is the interrupt. -/
theorem tracked_of_base {base : OwnerSlot} (h : base ∈ slot.bases) : slot.tracked = true := by
  cases slot with
  | irq => exact absurd h List.not_mem_nil
  | _ => rfl

theorem downward_releaseGroups :
    Custody.Downward owner.restsOn OwnerSlot.tracked (Custody.slotsOf releaseGroups ++ [.pdc]) := by
  have hsorted : (Custody.slotsOf releaseGroups ++ [OwnerSlot.pdc]).Pairwise
      fun (slot later : OwnerSlot) ↦ later.rank < slot.rank := by
    decide
  exact Custody.downward_of_rank OwnerSlot.rank
    (fun _ _ h ↦ ⟨tracked_of_base h, OwnerSlot.rank_base h⟩) hsorted

/-- Every field but that of the interrupt is looked at. -/
theorem mem_releaseGroups (htracked : slot.tracked = true) :
    slot ∈ Custody.slotsOf releaseGroups ++ [.pdc] := by
  cases slot with
  | irq => exact absurd htracked Bool.false_ne_true
  | pmic usid => cases usid <;> decide
  | pmicNode usid => cases usid <;> decide
  | _ => decide

theorem ofFields_left {rest : List OwnerSlot} : OfFields (Left rest) := by
  rintro current next held hset ⟨howed, htold⟩
  refine ⟨fun slot htracked ↦ ?_, fun slot ↦ ?_⟩
  · rw [howed slot htracked, hset]
  · rw [htold slot, hset]

/-- The interrupt is taken out of its domain while nothing rests on it. -/
theorem turns_popped : owner.Turns .irqDomainPopIrq answer
    (fun current held ↦ Left [.pdc] current held ∧ current.set .irq = true) (Left [.pdc]) := by
  cases hfailed : owner.failed .irqDomainPopIrq answer with
  | true =>
    refine Custody.turns_of_none (event_of_failed hfailed) fun current held h ↦ ?_
    refine ofFields_left _ _ _ ?_ h.1
    have hverdict : OwnerCall.irqDomainPopIrq.verdict.failed answer = true := hfailed
    simp [owner, ownerInterface, OwnerCall.effect, hverdict]
  | false =>
    have hset : ∀ current, (owner.effect .irqDomainPopIrq answer current).set =
        Function.update current.set .irq false := by
      intro current
      have hverdict : OwnerCall.irqDomainPopIrq.verdict.failed answer = false := hfailed
      simp [owner, ownerInterface, OwnerCall.effect, hverdict]
    refine Custody.turns_of_released (event_of_success hfailed) ?_ ?_ ?_
    · exact fun current held h ↦ (h.1.2 .irq).trans h.2
    · intro current held h user huser
      have hpdc : user ≠ .pdc := by
        rintro rfl
        exact absurd huser List.not_mem_nil
      rw [h.1.1 user (tracked_of_base huser)]
      simp [hpdc]
    · rintro current held ⟨⟨howed, htold⟩, -⟩
      refine ⟨fun slot htracked ↦ ?_, htold.cleared (hset current)⟩
      have hne : slot ≠ .irq := of_decide_eq_true htracked
      rw [hset, Function.update_of_ne hne, Function.update_of_ne hne, howed slot htracked]

/-- The latest calls only looked at something, and the fields were as given before them. -/
def Looked (current : OwnerTest) (looks trace : List (OwnerCall × ℤ)) : Prop :=
  ∃ before, trace = looks ++ before ∧ owner.Accounts (Left [.pdc]) before ∧
    ownerInterface.replay before = current

theorem looked_invoke {looks : List (OwnerCall × ℤ)} {failing : List (OwnerCall × ℤ) → Prop} :
    (invoke call).Triple (Looked current looks) (fun answer ↦ Looked current ((call, answer) :: looks))
      failing := by
  refine triple_invoke fun answer trace h ↦ ?_
  obtain ⟨before, rfl, h⟩ := h
  exact ⟨before, rfl, h⟩

theorem Looked.left {looks trace : List (OwnerCall × ℤ)}
    (hplain : ∀ look ∈ looks, look.1.plain = true) (h : Looked current looks trace) :
    owner.Accounts (fun now held ↦ Left [.pdc] now held ∧ now.set = current.set) trace := by
  obtain ⟨before, rfl, hleft, hcurrent⟩ := h
  induction looks with
  | nil => exact ⟨hleft.orderly, hleft.permitted, hleft.fact, congrArg OwnerTest.set hcurrent⟩
  | cons look looks ih =>
    rw [List.forall_mem_cons] at hplain
    have hfields : OfFields fun now held ↦ Left [.pdc] now held ∧ now.set = current.set :=
      fun now next held hset h ↦ ⟨ofFields_left now next held hset h.1, hset.trans h.2⟩
    exact (ih hplain.2).turn (permits_plain hplain.1 _) (turns_plain hplain.1 hfields)

theorem Looked.kept {looks trace : List (OwnerCall × ℤ)}
    (hplain : ∀ look ∈ looks, look.1.plain = true) (h : Looked current looks trace) :
    owner.Accounts (Left [.pdc]) trace :=
  (h.left hplain).imp fun _ _ h ↦ h.1

theorem accounts_takeOut {failing : List (OwnerCall × ℤ) → Prop} :
    takeOut.Triple (owner.Accounts (Left [.pdc])) (fun _ ↦ owner.Accounts (Left [.pdc])) failing := by
  refine triple_state fun current ↦ ?_
  cases hset : current.set .irq with
  | false => exact triple_pure fun _ h ↦ h.1
  | true =>
    refine triple_consequence ?_ (fun trace h ↦ (⟨trace, rfl, h⟩ : Looked current [] trace)) (fun _ _ h ↦ h)
      fun _ h ↦ h
    refine triple_bind looked_invoke fun data ↦ triple_bind looked_invoke fun pin ↦ ?_
    split_ifs with hnull
    · exact triple_pure fun _ h ↦ h.kept (by simp [OwnerCall.plain, OwnerCall.custody])
    · refine triple_bind looked_invoke fun activated ↦ ?_
      split_ifs with hquiet
      · refine triple_bind (triple_invoke fun answer trace h ↦ ?_) fun _ ↦ triple_pure fun _ h ↦ h
        have hleft := h.left (by simp [OwnerCall.plain, OwnerCall.custody])
        obtain ⟨before, rfl, -, hcurrent⟩ := h
        refine (hleft.imp fun now held h ↦ (⟨h.1, ?_⟩ : _ ∧ now.set .irq = true)).turn (fun _ ↦ ?_) turns_popped
        · rw [h.2]
          exact hset
        · refine ⟨data, pin, before, ?_, hnull, ?_⟩
          · rw [hquiet.1]
            rfl
          · rw [hcurrent]
            exact hquiet.2
      · exact triple_pure fun _ h ↦ h.kept (by simp [OwnerCall.plain, OwnerCall.custody])

theorem left_of_told (h : Told current held) :
    Left (Custody.slotsOf releaseGroups ++ [.pdc]) current held := by
  refine ⟨fun slot htracked ↦ ?_, h⟩
  rw [h slot, decide_eq_true (mem_releaseGroups htracked), Bool.and_true]
  rfl

theorem stage_of_left (h : Left [] current held) :
    Stage false 0 current held := by
  refine ⟨h.2, fun slot hslot ↦ ?_⟩
  have htracked : slot.tracked = true := decide_eq_true fun heq ↦ Bool.false_ne_true (hslot heq)
  rw [h.1 slot htracked]
  simp

theorem accounts_ownerReleaseTransport {failing : OwnerTest → (OwnerSlot → Bool) → Prop} :
    ownerReleaseTransport.Triple (owner.Accounts Told) (fun _ ↦ owner.Accounts (Stage false 0))
      (owner.Accounts failing) := by
  have hname : ∀ group ∈ releaseGroups, ∀ part ∈ group.2, ∀ current : OwnerTest,
      current.set part.1 = current.set group.1 := by
    simp only [releaseGroups, List.forall_mem_cons]
    simp
  have hpdc : ∀ part ∈ [(OwnerSlot.pdc, OwnerCall.putDevice)],
      owner.Releases OwnerSlot.tracked OwnerTest.set Told part.2 part.1 := by
    rw [List.forall_mem_singleton]
    exact releases_of_effect (by simp) rfl rfl rfl fun _ _ ↦ rfl
  have hgroups : (inOrder (releaseGroups.map fun group ↦ owner.releaseGroup OwnerTest.set group.1 group.2)).Triple
      (owner.Accounts Told) (fun _ ↦ owner.Accounts (Left [.pdc])) (owner.Accounts failing) :=
    Custody.accounts_consequence
      (Custody.accounts_releaseGroups releases_groups hname (by decide) downward_releaseGroups)
      (fun _ _ ↦ left_of_told) (fun _ _ _ h ↦ h) fun _ _ h ↦ h
  have hlast : (owner.releaseGroup OwnerTest.set .pdc [(.pdc, .putDevice)]).Triple
      (owner.Accounts (Left [.pdc])) (fun _ ↦ owner.Accounts (Left [])) (owner.Accounts failing) :=
    Custody.accounts_releaseGroup hpdc (by simp) (by decide) downward_releaseGroups.of_append
  refine triple_bind hgroups fun _ ↦ triple_bind accounts_takeOut fun _ ↦ ?_
  exact Custody.accounts_consequence hlast (fun _ _ h ↦ h) (fun _ _ _ ↦ stage_of_left) fun _ _ h ↦ h

/-! ## Histories -/

/-- The fields of an adapter that is bound tell what is held.  One that is not bound holds nothing but
perhaps the interrupt. -/
def Kept (bound : Bool) (current : OwnerTest) (held : OwnerSlot → Bool) : Prop :=
  if bound then Told current held else Stage false 0 current held

theorem accounts_ownerRegisterTransport : (ownerRegisterTransport modular).Triple
    (owner.Accounts (Kept false)) (fun _ ↦ owner.Accounts (Kept true)) (owner.Accounts (Kept false)) := by
  have hfind : (perform ownerInterface .busFindDeviceByName).Triple (owner.Accounts (Kept false))
      (fun _ ↦ owner.Accounts (Stage false 1)) (owner.Accounts (Kept false)) := by
    refine Custody.accounts_perform (permits_of_ne (by simp)) (fun _ hsucceeds ↦ ?_) fun _ hfailed ↦ ?_
    · exact turns_filled rfl (by simp [OwnerSlot.bases]) hsucceeds
    · exact turns_unfilled rfl (by simp) hfailed
  refine triple_bind hfind fun _ ↦ triple_attempt (accounts_prepareTransport modular) (fun _ ↦ ?_) fun error ↦ ?_
  · exact triple_pure fun _ h ↦ h.imp fun _ _ ↦ Stage.told
  · exact triple_bind accounts_ownerReleaseTransport fun _ ↦ triple_abort fun _ h ↦ h

/-- The components come and go with the adapter. -/
theorem accounts_component (hplain : call.plain = true) :
    (perform ownerInterface call).Triple (owner.Accounts (Kept false)) (fun _ ↦ owner.Accounts (Kept false))
      (owner.Accounts (Kept false)) :=
  Custody.accounts_check (permits_plain hplain) (fun _ ↦ turns_plain hplain ofFields_stage) fun _ _ h ↦ h

theorem accounts_ownerMasterBind : (ownerMasterBind modular).Triple
    (owner.Accounts (Kept false)) (fun _ ↦ owner.Accounts (Kept true)) (owner.Accounts (Kept false)) := by
  refine triple_bind (accounts_component rfl) fun _ ↦
    triple_attempt (accounts_ownerRegisterTransport modular) (fun _ ↦ ?_) fun error ↦ ?_
  · exact triple_pure fun _ h ↦ h
  · exact triple_bind (accounts_component rfl) fun _ ↦ triple_abort fun _ h ↦ h

theorem accounts_ownerMasterUnbind {failing : OwnerTest → (OwnerSlot → Bool) → Prop} :
    ownerMasterUnbind.Triple (owner.Accounts (Kept true)) (fun _ ↦ owner.Accounts (Kept false))
      (owner.Accounts failing) :=
  triple_bind accounts_ownerReleaseTransport fun _ ↦
    Custody.accounts_perform_sure (permits_plain rfl) (fun _ ↦ rfl) fun _ ↦ turns_plain rfl ofFields_stage

/-- No history fails: the framework only remembers that a bind did. -/
def Never (_ : OwnerTest) (_ : OwnerSlot → Bool) : Prop := False

theorem accounts_ownerStep (modular bound : Bool) (op : OwnerOp) : (ownerStep modular bound op).Triple
    (owner.Accounts (Kept bound)) (fun bound ↦ owner.Accounts (Kept bound)) (owner.Accounts Never) := by
  cases op with
  | bind =>
    cases bound with
    | true => exact triple_pure fun _ h ↦ h
    | false =>
      refine triple_attempt (accounts_ownerMasterBind modular) (fun _ ↦ ?_) fun _ ↦ ?_
      · exact triple_pure fun _ h ↦ h
      · exact triple_pure fun _ h ↦ h
  | unbind =>
    cases bound with
    | true => exact triple_bind accounts_ownerMasterUnbind fun _ ↦ triple_pure fun _ h ↦ h
    | false => exact triple_pure fun _ h ↦ h

theorem accounts_ownerRun (modular bound : Bool) (ops : List OwnerOp) : (ownerRun modular bound ops).Triple
    (owner.Accounts (Kept bound)) (fun bound ↦ owner.Accounts (Kept bound)) (owner.Accounts Never) := by
  induction ops generalizing bound with
  | nil => exact triple_pure fun _ h ↦ h
  | cons op ops ih => exact triple_bind (accounts_ownerStep modular bound op) fun next ↦ ih next

theorem kept_nil : owner.Accounts (Kept false) [] :=
  ⟨trivial, trivial, fun _ ↦ rfl, fun _ _ ↦ rfl⟩

end

/-- What is asked of a history and of the calls that it made. -/
structure OwnerKept (outcome : Except ℤ Bool × List (OwnerCall × ℤ)) : Prop where
  /-- Whatever fails in a bind, the adapter is bound or unbound afterwards. -/
  settled : ∃ bound, outcome.1 = .ok bound
  /-- Nothing is acquired twice or released unless it is held, what a slot rests on is held when the slot
  is acquired, and nothing is released while something that rests on it is held. -/
  orderly : Orderly owner.restsOn (owner.log outcome.2)
  /-- An adapter that is not bound has released everything once for each time that it acquired it. -/
  released : outcome.1 = .ok false → ∀ slot, slot ≠ .irq →
    (owner.log outcome.2).count (.acquired slot) = (owner.log outcome.2).count (.released slot)
  /-- The interrupt is taken out of the domain of the PDC only where it was found quiet. -/
  guarded : Along (fun answered earlier ↦ answered.1 = .irqDomainPopIrq → FoundQuiet earlier) outcome.2

/-- However binds and unbinds follow each other, and wherever they fail. -/
theorem ownerRun_kept (modular : Bool) (ops : List OwnerOp) (oracle : ℕ → OwnerCall → ℤ) :
    OwnerKept (ownerRun modular false ops oracle []) := by
  have hrun := accounts_ownerRun modular false ops oracle [] kept_nil
  revert hrun
  rcases ownerRun modular false ops oracle [] with ⟨outcome, trace⟩
  cases outcome with
  | error error => exact fun hrun ↦ hrun.fact.elim
  | ok bound =>
    intro (haccounts : owner.Accounts (Kept bound) trace)
    refine ⟨⟨bound, rfl⟩, haccounts.orderly, fun hbound slot hslot ↦ ?_, haccounts.permitted⟩
    obtain rfl : bound = false := Except.ok.inj hbound
    have hheld : held (owner.log trace) slot = false := haccounts.fact.upTo slot fun h ↦ absurd h hslot
    calc (owner.log trace).count (.acquired slot)
        = (owner.log trace).count (.released slot) + if held (owner.log trace) slot then 1 else 0 :=
          haccounts.orderly.count slot
      _ = (owner.log trace).count (.released slot) := by rw [hheld]; rfl

/-- The answers of a board on which everything succeeds, and on which the pin is enabled at the end. -/
def pinLeftEnabled (_ : ℕ) : OwnerCall → ℤ
  | .irqGetIrqchipState .masked => 1
  | .pinState => 8
  | .pinStateNow => 9
  | .componentBindAll | .irqGetIrqchipState _ | .irqDomainPushIrq | .requestModule _ => 0
  | .irqdIsActivated | .spmiDeviceAdd _ | .regmapBulkRead | .pwmGetStateHw => 0
  | _ => 1

-- The interrupt stays in its domain, and the next bind leaves everything as it finds it.
example : (ownerRun true false [.bind] pinLeftEnabled []).1 = .ok true ∧
    (ownerRun true false [.bind, .unbind, .bind] pinLeftEnabled []).1 = .ok false ∧
    held (owner.log (ownerRun true false [.bind, .unbind, .bind] pinLeftEnabled []).2) .irq = true := by
  decide +kernel

end TclB220G.Spmi
