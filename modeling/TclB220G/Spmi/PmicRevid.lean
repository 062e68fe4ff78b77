import TclB220G.Lib.Interleaving
import TclB220G.Lib.Lifetime
import TclB220G.Spmi.PmicMatch

/-!
# The revision of a PMIC

A PMIC with two slave identifiers is two devices on the bus, and only the one with the base identifier has
the registers that say which PMIC it is.  The other one takes this from the context of the base device,
which may not have been probed yet, or be unbound at the same time.

The probes and removals of all devices interleave here.  Every move is a part of `pmic_spmi_probe` or of
the driver core that no other device can see half done; what happens under `pmic_spmi_revid_lock` is one
move.  Device-tree nodes are left out: for them the driver follows code that the series does not change.
-/

namespace TclB220G.Spmi.Revid

open Kernel Lib

/-! ## Model of the source -/

/-- `SPMI_MAX_SLAVE_ID` -/
def spmiMaxSlaveId : ℕ := 16

/-- `PMIC_TYPE_VALUE` -/
def pmicTypeValue : ℕ := 0x51

inductive Driver where
  | pmicSpmi
  | other (index : ℕ)
  deriving DecidableEq, Repr

/-- `struct qcom_spmi_pmic`, with the numbers that unchanged code reads after the name as a list. -/
structure Pmic where
  type : ℕ
  subtype : ℕ
  name : String
  revisions : List ℕ
  deriving DecidableEq, Repr

/-- `struct qcom_spmi_dev` -/
structure Context where
  numUsids : ℕ
  pmic : Pmic
  deriving DecidableEq, Repr

/-- What the driver data of a device points to. -/
inductive Drvdata where
  | context (context : Context)
  | foreign
  deriving DecidableEq, Repr

/-- The devices that there may be, with what does not change about them. -/
structure Board (Device Ctrl : Type) where
  table : List OfDeviceId
  ctrl : Device → Ctrl
  usid : Device → BitVec 8
  isSpmi : Device → Bool
  node : Device → Option SoftwareNode

/-- What a probe and the driver core leave behind. -/
inductive Happening (Device : Type) where
  | loaded (device : Device) (pmic : Pmic)
  | copied (device base : Device) (pmic : Pmic)
  /-- The context was taken from data of another driver. -/
  | misread (device base : Device)
  | bound (device : Device) (pmic : Pmic)
  | removed (device : Device)
  | failed (device : Device) (errno : Errno)
  deriving DecidableEq, Repr

/-- The bus, with the happenings so far, the latest first. -/
structure Bus (Device : Type) where
  children : List Device
  driver : Device → Option Driver
  drvdata : Device → Option Drvdata
  log : List (Happening Device)

/-- How far the probe of a device has come. -/
inductive Stage (Device : Type) where
  | idle
  /-- The context is allocated and has its number of identifiers. -/
  | allocated (id : OfDeviceId)
  /-- The base device has been looked up. -/
  | found (id : OfDeviceId) (base : Device)
  | ready (context : Context)
  | bound
  /-- The probe has failed, or the driver's removal has been called. -/
  | unbinding

/-- What the register reads of `pmic_spmi_load_revid` give. -/
structure Reads where
  type : Except Errno ℕ
  subtype : Except Errno ℕ
  revisions : Except Errno (List ℕ)

section

variable {Device Ctrl : Type} [DecidableEq Device]

namespace Board

variable (board : Board Device Ctrl)

/-- `pmic_spmi_match` -/
def idOf (device : Device) : Option OfDeviceId :=
  pmicSpmiMatch board.table ((board.node device).elim .acpi .software)

def childNodes (device : Device) : ℕ := (board.node device).elim 0 SoftwareNode.childNodes

/-- `spmi_find_device_by_usid` -/
def findDeviceByUsid [DecidableEq Ctrl] (children : List Device) (ctrl : Ctrl) (usid : BitVec 8) :
    Option Device :=
  if spmiMaxSlaveId ≤ usid.toNat then none
  else children.find? fun child ↦
    board.ctrl child = ctrl ∧ board.isSpmi child ∧ board.usid child = usid

/-- `pmic_spmi_probe` up to the allocation of the context. -/
def probeStart (device : Device) (regmap : Except Errno Unit) (allocates : Bool) :
    Except Errno OfDeviceId :=
  match board.idOf device with
  | none => .error .EINVAL
  | some id =>
    if id.data ≠ 1 ∧ id.data ≠ 2 then .error .EINVAL
    else if board.childNodes device ≠ 0 then .error .EOPNOTSUPP
    else
      match regmap with
      | .error errno => .error errno
      | .ok () => if allocates then .ok id else .error .ENOMEM

/-- `pmic_spmi_load_revid` -/
def loadRevid (device : Device) (reads : Reads) : Except Errno Pmic :=
  match board.idOf device with
  | none => .error .EINVAL
  | some id => do
    let type ← reads.type
    if type ≠ pmicTypeValue then throw .ENODEV
    let subtype ← reads.subtype
    let revisions ← reads.revisions
    return ⟨type, subtype, id.compatible, revisions⟩

/-- `qcom_pmic_get_base_usid` -/
def getBaseUsid [DecidableEq Ctrl] (children : List Device) (device : Device) (numUsids : ℕ) :
    Except Errno Device :=
  if (board.usid device).toNat % numUsids = 0 then .ok device
  else
    match board.findDeviceByUsid children (board.ctrl device)
        (board.usid device - BitVec.ofNat 8 (numUsids - 1)) with
    | none => .error .EPROBE_DEFER
    | some base => if board.idOf base ≠ board.idOf device then .error .EINVAL else .ok base

end Board

namespace Bus

def note (bus : Bus Device) (happening : Happening Device) : Bus Device :=
  { bus with log := happening :: bus.log }

def setDriver (bus : Bus Device) (device : Device) (driver : Option Driver) : Bus Device :=
  { bus with driver := Function.update bus.driver device driver }

def setDrvdata (bus : Bus Device) (device : Device) (drvdata : Option Drvdata) : Bus Device :=
  { bus with drvdata := Function.update bus.drvdata device drvdata }

/-- The part of `pmic_spmi_get_base_revid` under the lock, with the data that it copies from. -/
def getBaseRevid (bus : Bus Device) (device base : Device) : Except Errno Drvdata :=
  match bus.drvdata base with
  | none => .error .EPROBE_DEFER
  | some data => if bus.driver base ≠ bus.driver device then .error .EPROBE_DEFER else .ok data

end Bus

/-- The moves of the probe of a device, of its removal and of the driver core around it. -/
inductive ProbeMove [DecidableEq Ctrl] (board : Board Device Ctrl) (device : Device) (bus : Bus Device) :
    Stage Device → Bus Device → Stage Device → Prop
  | register : ProbeMove board device bus .idle { bus with children := bus.children ++ [device] } .idle
  | unregister (hdriver : bus.driver device = none) :
    ProbeMove board device bus .idle { bus with children := bus.children.erase device } .idle
  | bindOther (index : ℕ) (hdriver : bus.driver device = none) :
    ProbeMove board device bus .idle (bus.setDriver device (some (.other index))) .idle
  | storeOther (index : ℕ) (hdriver : bus.driver device = some (.other index)) :
    ProbeMove board device bus .idle (bus.setDrvdata device (some .foreign)) .idle
  | unbindOther (index : ℕ) (hdriver : bus.driver device = some (.other index)) :
    ProbeMove board device bus .idle ((bus.setDrvdata device none).setDriver device none) .idle
  -- The driver core sets the driver of a device before it calls the probe.
  | start (regmap : Except Errno Unit) (allocates : Bool) (hdriver : bus.driver device = none)
    {id : OfDeviceId} (hstart : board.probeStart device regmap allocates = .ok id) :
    ProbeMove board device bus .idle (bus.setDriver device (some .pmicSpmi)) (.allocated id)
  | startFails (regmap : Except Errno Unit) (allocates : Bool) (hdriver : bus.driver device = none)
    {errno : Errno} (hstart : board.probeStart device regmap allocates = .error errno) :
    ProbeMove board device bus .idle
      ((bus.setDriver device (some .pmicSpmi)).note (.failed device errno)) .unbinding
  | load {id : OfDeviceId} (hbase : (board.usid device).toNat % id.data = 0) (reads : Reads)
    {pmic : Pmic} (hload : board.loadRevid device reads = .ok pmic) :
    ProbeMove board device bus (.allocated id) (bus.note (.loaded device pmic)) (.ready ⟨id.data, pmic⟩)
  | loadFails {id : OfDeviceId} (hbase : (board.usid device).toNat % id.data = 0) (reads : Reads)
    {errno : Errno} (hload : board.loadRevid device reads = .error errno) :
    ProbeMove board device bus (.allocated id) (bus.note (.failed device errno)) .unbinding
  | lookup {id : OfDeviceId} (hbase : (board.usid device).toNat % id.data ≠ 0) {base : Device}
    (hlookup : board.getBaseUsid bus.children device id.data = .ok base) :
    ProbeMove board device bus (.allocated id) bus (.found id base)
  | lookupFails {id : OfDeviceId} (hbase : (board.usid device).toNat % id.data ≠ 0) {errno : Errno}
    (hlookup : board.getBaseUsid bus.children device id.data = .error errno) :
    ProbeMove board device bus (.allocated id) (bus.note (.failed device errno)) .unbinding
  | copy {id : OfDeviceId} {base : Device} {context : Context}
    (hcopy : bus.getBaseRevid device base = .ok (.context context)) :
    ProbeMove board device bus (.found id base) (bus.note (.copied device base context.pmic))
      (.ready ⟨id.data, context.pmic⟩)
  -- The octets of another driver's data can be anything.
  | copyForeign {id : OfDeviceId} {base : Device} (pmic : Pmic)
    (hcopy : bus.getBaseRevid device base = .ok .foreign) :
    ProbeMove board device bus (.found id base) (bus.note (.misread device base))
      (.ready ⟨id.data, pmic⟩)
  | copyFails {id : OfDeviceId} {base : Device} {errno : Errno}
    (hcopy : bus.getBaseRevid device base = .error errno) :
    ProbeMove board device bus (.found id base) (bus.note (.failed device errno)) .unbinding
  | publish {context : Context} :
    ProbeMove board device bus (.ready context)
      ((bus.setDrvdata device (some (.context context))).note (.bound device context.pmic)) .bound
  | remove :
    ProbeMove board device bus .bound ((bus.setDrvdata device none).note (.removed device)) .unbinding
  | cleanup :
    ProbeMove board device bus .unbinding ((bus.setDrvdata device none).setDriver device none) .idle

/-- Before any probe, with some devices on the bus. -/
def unprobed (children : List Device) : Interleaving.System Device (Bus Device) (Stage Device) :=
  ⟨⟨children, fun _ ↦ none, fun _ ↦ none, []⟩, fun _ ↦ .idle⟩

/-! ## What the happenings say -/

def Happening.device : Happening Device → Device
  | loaded device _ | copied device _ _ | misread device _ | bound device _ | removed device |
    failed device _ => device

/-- The latest happening of a device. -/
def last (device : Device) (log : List (Happening Device)) : Option (Happening Device) :=
  log.find? (·.device = device)

section

variable (board : Board Device Ctrl)

/-- The device with the base identifier of a PMIC, on the same controller and with the same match. -/
structure Home (device base : Device) : Prop where
  ctrl : board.ctrl base = board.ctrl device
  match_eq : board.idOf base = board.idOf device
  usid : ∃ id, board.idOf device = some id ∧
    (board.usid base).toNat = (board.usid device).toNat - (board.usid device).toNat % id.data

/-- The device has a match and the base identifier itself, or not. -/
def IsBase (device : Device) : Prop :=
  ∃ id, board.idOf device = some id ∧ (board.usid device).toNat % id.data = 0

/-- Where the latest happening of a device says that a revision is from. -/
def Sourced (log : List (Happening Device)) (device : Device) (pmic : Pmic) : Prop :=
  IsBase board device ∧ last device log = some (.loaded device pmic) ∨
    ¬IsBase board device ∧ ∃ base, Home board device base ∧
      last device log = some (.copied device base pmic)

/-- What a happening asks of those before it.  A device is bound with a revision that its probe has
loaded or copied, and the copy was made from the home of the device while that was bound. -/
def Sound : Happening Device → List (Happening Device) → Prop
  | .bound device pmic, earlier => Sourced board earlier device pmic
  | .copied device base pmic, earlier =>
    Home board device base ∧ last base earlier = some (.bound base pmic)
  | .misread _ _, _ => False
  | .loaded .., _ | .removed _, _ | .failed .., _ => True

end

@[simp] theorem last_cons_self (happening : Happening Device) (log : List (Happening Device)) :
    last happening.device (happening :: log) = some happening := by
  simp [last]

theorem last_cons_of_ne {device : Device} {happening : Happening Device}
    (hne : happening.device ≠ device) (log : List (Happening Device)) :
    last device (happening :: log) = last device log := by
  simp [last, hne]

/-! ## Base devices -/

variable {board : Board Device Ctrl}

omit [DecidableEq Device] in
theorem probeStart_eq_ok {device : Device} {regmap : Except Errno Unit} {allocates : Bool}
    {id : OfDeviceId} (hstart : board.probeStart device regmap allocates = .ok id) :
    board.idOf device = some id ∧ (id.data = 1 ∨ id.data = 2) := by
  unfold Board.probeStart at hstart
  split at hstart
  · cases hstart
  · rename_i found hfound
    cases regmap with
    | error errno => split_ifs at hstart
    | ok =>
      split_ifs at hstart with hdata
      cases hstart
      exact ⟨hfound, by omega⟩

omit [DecidableEq Device] in
theorem findDeviceByUsid_spec [DecidableEq Ctrl] {children : List Device} {ctrl : Ctrl}
    {usid : BitVec 8} {found : Device}
    (hfound : board.findDeviceByUsid children ctrl usid = some found) :
    board.ctrl found = ctrl ∧ board.usid found = usid := by
  unfold Board.findDeviceByUsid at hfound
  split_ifs at hfound
  have hmatch := List.find?_some hfound
  simp only [decide_eq_true_eq] at hmatch
  exact ⟨hmatch.1, hmatch.2.2⟩

/-- With one or two identifiers, the identifier that is looked up is the base identifier. -/
theorem toNat_base_usid (usid : BitVec 8) {numUsids : ℕ} (hnum : numUsids = 1 ∨ numUsids = 2)
    (hbase : usid.toNat % numUsids ≠ 0) :
    (usid - BitVec.ofNat 8 (numUsids - 1)).toNat = usid.toNat - usid.toNat % numUsids := by
  rcases hnum with rfl | rfl
  · omega
  · have hlt := usid.isLt
    simp only [Nat.add_one_sub_one, BitVec.toNat_sub, BitVec.toNat_ofNat]
    omega

variable {device base : Device}

omit [DecidableEq Device] in
theorem getBaseUsid_home [DecidableEq Ctrl] {children : List Device} {id : OfDeviceId}
    (hid : board.idOf device = some id) (hdata : id.data = 1 ∨ id.data = 2)
    (hbase : (board.usid device).toNat % id.data ≠ 0)
    (hlookup : board.getBaseUsid children device id.data = .ok base) : Home board device base := by
  unfold Board.getBaseUsid at hlookup
  rw [if_neg hbase] at hlookup
  split at hlookup
  · cases hlookup
  · rename_i found hfound
    split_ifs at hlookup with hmatch
    cases hlookup
    obtain ⟨hctrl, husid⟩ := findDeviceByUsid_spec hfound
    refine ⟨hctrl, not_not.1 hmatch, id, hid, ?_⟩
    rw [husid, toNat_base_usid _ hdata hbase]

variable {bus : Bus Device}

omit [DecidableEq Device] in
theorem getBaseRevid_eq_ok {data : Drvdata} (hcopy : bus.getBaseRevid device base = .ok data) :
    bus.drvdata base = some data ∧ bus.driver base = bus.driver device := by
  unfold Bus.getBaseRevid at hcopy
  split at hcopy
  · cases hcopy
  · rename_i found hfound
    split_ifs at hcopy with hdriver
    cases hcopy
    exact ⟨hfound, not_not.1 hdriver⟩

/-! ## The outline -/

/-- The device belongs to the driver and has no data yet, or no longer. -/
def Held (bus : Bus Device) (device : Device) : Prop :=
  bus.driver device = some .pmicSpmi ∧ bus.drvdata device = none

/-- What holds of the bus between moves. -/
structure Consistent (board : Board Device Ctrl) (bus : Bus Device) : Prop where
  /-- The contexts on the bus are those of bound devices. -/
  published : ∀ device context, bus.drvdata device = some (.context context) →
    last device bus.log = some (.bound device context.pmic)
  owned : ∀ device, bus.driver device = some .pmicSpmi → bus.drvdata device ≠ some .foreign
  sound : Along (Sound board) bus.log

/-- What holds at each stage of a device. -/
def Asserts (board : Board Device Ctrl) (device : Device) (bus : Bus Device) : Stage Device → Prop
  | .idle => bus.driver device ≠ some .pmicSpmi ∧
    (∀ context, bus.drvdata device ≠ some (.context context)) ∧
    (bus.driver device = none → bus.drvdata device = none)
  | .allocated id => Held bus device ∧ board.idOf device = some id ∧ (id.data = 1 ∨ id.data = 2)
  | .found _ base => Held bus device ∧ ¬IsBase board device ∧ Home board device base
  | .ready context => Held bus device ∧ Sourced board bus.log device context.pmic
  | .bound => bus.driver device = some .pmicSpmi
  | .unbinding => Held bus device

/-- What the moves of a device leave to the others. -/
structure Spares (device : Device) (bus bus' : Bus Device) : Prop where
  driver : ∀ other, other ≠ device → bus'.driver other = bus.driver other
  drvdata : ∀ other, other ≠ device → bus'.drvdata other = bus.drvdata other
  last : ∀ other, other ≠ device → last other bus'.log = last other bus.log

namespace Spares

variable {device : Device} {bus bus' bus'' : Bus Device}

theorem refl {children : List Device} : Spares device bus { bus with children } :=
  ⟨fun _ _ ↦ rfl, fun _ _ ↦ rfl, fun _ _ ↦ rfl⟩

theorem trans (hfirst : Spares device bus bus') (hsecond : Spares device bus' bus'') :
    Spares device bus bus'' :=
  ⟨fun other hother ↦ (hsecond.driver other hother).trans (hfirst.driver other hother),
    fun other hother ↦ (hsecond.drvdata other hother).trans (hfirst.drvdata other hother),
    fun other hother ↦ (hsecond.last other hother).trans (hfirst.last other hother)⟩

theorem note {happening : Happening Device} (hdevice : happening.device = device) :
    Spares device bus (bus.note happening) :=
  ⟨fun _ _ ↦ rfl, fun _ _ ↦ rfl, fun _ hother ↦ last_cons_of_ne (hdevice ▸ hother.symm) bus.log⟩

theorem setDriver (driver : Option Driver) : Spares device bus (bus.setDriver device driver) :=
  ⟨fun _ hother ↦ Function.update_of_ne hother _ _, fun _ _ ↦ rfl, fun _ _ ↦ rfl⟩

theorem setDrvdata (data : Option Drvdata) : Spares device bus (bus.setDrvdata device data) :=
  ⟨fun _ _ ↦ rfl, fun _ hother ↦ Function.update_of_ne hother _ _, fun _ _ ↦ rfl⟩

end Spares

theorem asserts_stable {device other : Device} {bus bus' : Bus Device} {stage : Stage Device}
    (hother : other ≠ device) (hasserts : Asserts board other bus stage)
    (hspares : Spares device bus bus') : Asserts board other bus' stage := by
  have hdriver := hspares.driver other hother
  have hdrvdata := hspares.drvdata other hother
  have hlast := hspares.last other hother
  cases stage <;> simpa only [Asserts, Held, Sourced, hdriver, hdrvdata, hlast] using hasserts

namespace Consistent

variable {bus : Bus Device} {device : Device}

/-- A happening of a device whose data is no context may be noted. -/
theorem note (hconsistent : Consistent board bus) {happening : Happening Device}
    (hdata : ∀ context, bus.drvdata happening.device ≠ some (.context context))
    (hsound : Sound board happening bus.log) : Consistent board (bus.note happening) := by
  refine ⟨?_, hconsistent.owned, hsound, hconsistent.sound⟩
  intro other context hcontext
  have hne : happening.device ≠ other := by
    rintro rfl
    exact hdata context hcontext
  exact (last_cons_of_ne hne bus.log).trans (hconsistent.published other context hcontext)

theorem setDrvdata (hconsistent : Consistent board bus) {data : Option Drvdata}
    (hbound : ∀ context, data = some (.context context) →
      last device bus.log = some (.bound device context.pmic))
    (howned : bus.driver device = some .pmicSpmi → data ≠ some .foreign) :
    Consistent board (bus.setDrvdata device data) := by
  refine ⟨?_, ?_, hconsistent.sound⟩
  · intro other context hcontext
    by_cases hother : other = device
    · subst hother
      exact hbound context (by simpa [Bus.setDrvdata] using hcontext)
    · exact hconsistent.published other context (by simpa [Bus.setDrvdata, hother] using hcontext)
  · intro other hdriver
    by_cases hother : other = device
    · subst hother
      simpa [Bus.setDrvdata] using howned hdriver
    · simpa [Bus.setDrvdata, hother] using hconsistent.owned other hdriver

theorem setDriver (hconsistent : Consistent board bus) {driver : Option Driver}
    (howned : driver = some .pmicSpmi → bus.drvdata device ≠ some .foreign) :
    Consistent board (bus.setDriver device driver) := by
  refine ⟨hconsistent.published, ?_, hconsistent.sound⟩
  intro other hdriver
  by_cases hother : other = device
  · subst hother
    exact howned (by simpa [Bus.setDriver] using hdriver)
  · exact hconsistent.owned other (by simpa [Bus.setDriver, hother] using hdriver)

/-- What the driver core does when a device loses its driver. -/
theorem unbind (hconsistent : Consistent board bus) :
    Consistent board ((bus.setDrvdata device none).setDriver device none) :=
  (hconsistent.setDrvdata (by simp) (by simp)).setDriver (by simp)

end Consistent

omit [DecidableEq Device] in
theorem Held.not_context {device : Device} (hheld : Held bus device) (context : Context) :
    bus.drvdata device ≠ some (.context context) := by
  rw [hheld.2]
  simp

omit [DecidableEq Device] in
/-- Data of the driver itself is a context, so nothing else is copied from. -/
theorem getBaseRevid_ne_foreign
    (howned : ∀ device, bus.driver device = some .pmicSpmi → bus.drvdata device ≠ some .foreign)
    (hheld : Held bus device) : bus.getBaseRevid device base ≠ .ok .foreign := by
  intro hcopy
  obtain ⟨hdata, hdriver⟩ := getBaseRevid_eq_ok hcopy
  exact howned base (hdriver.trans hheld.1) hdata

section

variable [DecidableEq Ctrl] {device : Device} {bus bus' : Bus Device} {stage stage' : Stage Device}

/-- Each move keeps the bus consistent. -/
theorem consistent_move (hconsistent : Consistent board bus)
    (hasserts : Asserts board device bus stage)
    (hmove : ProbeMove board device bus stage bus' stage') : Consistent board bus' := by
  cases hmove with
  | register | unregister => exact ⟨hconsistent.published, hconsistent.owned, hconsistent.sound⟩
  | bindOther => exact hconsistent.setDriver (by simp)
  | storeOther index hdriver => exact hconsistent.setDrvdata (by simp) (by simp [hdriver])
  | unbindOther | cleanup => exact hconsistent.unbind
  | start _ _ hdriver =>
    exact hconsistent.setDriver fun _ ↦ by simp [hasserts.2.2 hdriver]
  | startFails _ _ hdriver =>
    have hnone := hasserts.2.2 hdriver
    exact (hconsistent.setDriver fun _ ↦ by simp [hnone]).note
      (fun context hcontext ↦ hasserts.2.1 context hcontext) trivial
  | load | loadFails | lookupFails => exact hconsistent.note hasserts.1.not_context trivial
  | lookup => exact hconsistent
  | copyFails => exact hconsistent.note hasserts.1.not_context trivial
  | copy hcopy =>
    obtain ⟨hheld, -, hhome⟩ := hasserts
    have hdata := (getBaseRevid_eq_ok hcopy).1
    exact hconsistent.note hheld.not_context ⟨hhome, hconsistent.published _ _ hdata⟩
  | copyForeign _ hcopy =>
    exact absurd hcopy (getBaseRevid_ne_foreign hconsistent.owned hasserts.1)
  | @publish context =>
    have hnoted : Consistent board (bus.note (.bound device context.pmic)) :=
      hconsistent.note hasserts.1.not_context hasserts.2
    exact hnoted.setDrvdata (by rintro _ ⟨⟩; exact last_cons_self _ _) (by simp)
  | remove =>
    have hcleared : Consistent board (bus.setDrvdata device none) :=
      hconsistent.setDrvdata (by simp) (by simp)
    exact hcleared.note (by simp [Bus.setDrvdata, Happening.device]) trivial

/-- Each move leaves the device what its next stage asserts. -/
theorem asserts_move (hconsistent : Consistent board bus)
    (hasserts : Asserts board device bus stage)
    (hmove : ProbeMove board device bus stage bus' stage') : Asserts board device bus' stage' := by
  cases hmove with
  | register | unregister => exact hasserts
  | bindOther => simpa [Asserts, Bus.setDriver] using hasserts.2.1
  | storeOther index hdriver => simp [Asserts, Bus.setDrvdata, hdriver]
  | unbindOther | cleanup => simp [Asserts, Bus.setDrvdata, Bus.setDriver]
  | start _ _ hdriver hstart =>
    exact ⟨⟨by simp [Bus.setDriver], hasserts.2.2 hdriver⟩, probeStart_eq_ok hstart⟩
  | startFails _ _ hdriver =>
    exact ⟨by simp [Bus.note, Bus.setDriver], hasserts.2.2 hdriver⟩
  | @load id hbase =>
    obtain ⟨hheld, hid, -⟩ := hasserts
    exact ⟨hheld, .inl ⟨⟨id, hid, hbase⟩, last_cons_self _ _⟩⟩
  | loadFails | lookupFails | copyFails => exact hasserts.1
  | lookup hbase hlookup =>
    obtain ⟨hheld, hid, hdata⟩ := hasserts
    refine ⟨hheld, ?_, getBaseUsid_home hid hdata hbase hlookup⟩
    rintro ⟨other, hother, hzero⟩
    rw [hid, Option.some.injEq] at hother
    exact hbase (hother ▸ hzero)
  | copy =>
    obtain ⟨hheld, hnot, hhome⟩ := hasserts
    exact ⟨hheld, .inr ⟨hnot, _, hhome, last_cons_self _ _⟩⟩
  | copyForeign _ hcopy =>
    exact absurd hcopy (getBaseRevid_ne_foreign hconsistent.owned hasserts.1)
  | publish => exact hasserts.1.1
  | remove => exact ⟨hasserts, by simp [Bus.note, Bus.setDrvdata]⟩

theorem spares_move (hmove : ProbeMove board device bus stage bus' stage') :
    Spares device bus bus' := by
  cases hmove with
  | register | unregister | lookup => exact .refl
  | bindOther | start => exact .setDriver _
  | storeOther => exact .setDrvdata _
  | unbindOther | cleanup => exact (Spares.setDrvdata _).trans (.setDriver _)
  | startFails => exact (Spares.setDriver _).trans (.note rfl)
  | publish | remove => exact (Spares.setDrvdata _).trans (.note rfl)
  | _ => exact .note rfl

/-- The outline of the probes. -/
def outline (board : Board Device Ctrl) : Interleaving.Outline (ProbeMove board) where
  invariant := Consistent board
  asserts := Asserts board
  guarantee := Spares
  keeps hconsistent hasserts hmove :=
    ⟨consistent_move hconsistent hasserts hmove, asserts_move hconsistent hasserts hmove,
      spares_move hmove⟩
  stable hother hasserts hspares := asserts_stable hother hasserts hspares

theorem holds_unprobed (children : List Device) : (outline board).Holds (unprobed children) :=
  ⟨⟨by simp [unprobed], by simp [unprobed], trivial⟩, by simp [unprobed, outline, Asserts]⟩

end

/-! ## Where revisions come from -/

omit [DecidableEq Device] in
theorem IsBase.home {device : Device} (hbase : IsBase board device) : Home board device device := by
  obtain ⟨id, hid, hzero⟩ := hbase
  exact ⟨rfl, rfl, id, hid, by rw [hzero, Nat.sub_zero]⟩

omit [DecidableEq Device] in
/-- The home of a device has the base identifier. -/
theorem Home.isBase (hhome : Home board device base) : IsBase board base := by
  obtain ⟨id, hid, husid⟩ := hhome.usid
  refine ⟨id, hhome.match_eq.trans hid, ?_⟩
  rw [husid]
  exact Nat.sub_mod_eq_zero_of_mod_eq (Nat.mod_mod _ _).symm

variable {log : List (Happening Device)}

theorem mem_of_last {device : Device} {happening : Happening Device}
    (hlast : last device log = some happening) : happening ∈ log :=
  List.mem_of_find?_eq_some hlast

theorem sourced_of_bound (hsound : Along (Sound board) log) {device : Device} {pmic : Pmic}
    (hbound : .bound device pmic ∈ log) :
    ∃ earlier, earlier <:+ log ∧ Sourced board earlier device pmic := by
  obtain ⟨later, earlier, rfl⟩ := List.append_of_mem hbound
  refine ⟨earlier, ?_, hsound.of_append⟩
  exact (List.suffix_cons _ _).trans (List.suffix_append _ _)

/-- A bound device has a revision that its home loaded from its own registers. -/
theorem loaded_of_bound (hsound : Along (Sound board) log) {device : Device} {pmic : Pmic}
    (hbound : .bound device pmic ∈ log) :
    ∃ base, Home board device base ∧ .loaded base pmic ∈ log := by
  obtain ⟨earlier, hearlier, hsourced⟩ := sourced_of_bound hsound hbound
  rcases hsourced with ⟨hbase, hlast⟩ | ⟨-, base, hhome, hlast⟩
  · exact ⟨device, hbase.home, hearlier.subset (mem_of_last hlast)⟩
  · -- The copy was made while the home was bound, and the home has no home but itself.
    have hcopied := hearlier.subset (mem_of_last hlast)
    obtain ⟨later, before, rfl⟩ := List.append_of_mem hcopied
    have hcopy : Sound board (.copied device base pmic) before := hsound.of_append
    have hbefore : before <:+ later ++ .copied device base pmic :: before :=
      (List.suffix_cons _ _).trans (List.suffix_append _ _)
    have hbase := hbefore.subset (mem_of_last hcopy.2)
    obtain ⟨first, hfirst, hsourced⟩ := sourced_of_bound hsound hbase
    rcases hsourced with ⟨-, hloaded⟩ | ⟨hnot, -⟩
    · exact ⟨base, hhome, hfirst.subset (mem_of_last hloaded)⟩
    · exact absurd hhome.isBase hnot

/-- The match of a software node is the entry of the earliest of its strings that is in the table.  In
every interleaving of probes and removals, a device that is bound has the revision that its own probe
loaded, if it has the base identifier, or copied from its home while that was bound; and in both cases
its home has loaded it. -/
theorem revision_from_home [DecidableEq Ctrl] (board : Board Device Ctrl) :
    (∀ table node, pmicSpmiMatch table (.software node) =
      node.compatible.findSome? fun string ↦ (listed table).find? (·.compatible = string)) ∧
    ∀ children system, Interleaving.Run (ProbeMove board) (unprobed children) system →
      Along (Sound board) system.shared.log ∧
      ∀ device pmic, .bound device pmic ∈ system.shared.log →
        ∃ base, Home board device base ∧ .loaded base pmic ∈ system.shared.log := by
  refine ⟨pmicSpmiMatch_software, fun children system hrun ↦ ?_⟩
  have hholds := (outline board).holds_run (holds_unprobed children) hrun
  exact ⟨hholds.1.sound, fun device pmic hbound ↦ loaded_of_bound hholds.1.sound hbound⟩

end

/-! ## A device that is probed before its home -/

def pm6150 : OfDeviceId := ⟨0, "qcom,pm6150", 2⟩

/-- The PMIC with the identifiers 0 and 1, which are the devices `false` and `true`. -/
def twoUsids : Board Bool Unit where
  table := [pm6150, ⟨1, "qcom,spmi-pmic", 1⟩, ⟨2, "", 0⟩]
  ctrl := fun _ ↦ ()
  usid := fun device ↦ if device then 1 else 0
  isSpmi := fun _ ↦ true
  node := fun _ ↦ some ⟨["qcom,pm6150", "qcom,spmi-pmic"], 0, by decide⟩

/-- The first probe of the second device is deferred, and the next one copies the revision. -/
theorem run_twoUsids :
    ∃ system, Interleaving.Run (ProbeMove twoUsids) (unprobed [false, true]) system ∧
      .failed true .EPROBE_DEFER ∈ system.shared.log ∧
      .bound true ⟨0x51, 0x28, "qcom,pm6150", [1]⟩ ∈ system.shared.log := by
  have h₀ : Interleaving.Run (ProbeMove twoUsids) (unprobed [false, true])
      ⟨⟨[false, true], fun _ ↦ none, fun _ ↦ none, []⟩, fun _ ↦ .idle⟩ := .refl
  -- The second device finds its home without a context.
  have h₁ := h₀.move true (.start (.ok ()) true rfl rfl)
  have h₂ := h₁.move true (.lookup (by decide) rfl)
  have h₃ := h₂.move true (.copyFails rfl)
  have h₄ := h₃.move true .cleanup
  have h₅ := h₄.move false (.start (.ok ()) true rfl rfl)
  have h₆ := h₅.move false (.load (by decide) ⟨.ok 0x51, .ok 0x28, .ok [1]⟩ rfl)
  have h₇ := h₆.move false .publish
  have h₈ := h₇.move true (.start (.ok ()) true rfl rfl)
  have h₉ := h₈.move true (.lookup (by decide) rfl)
  have h₁₀ := h₉.move true (.copy rfl)
  have h₁₁ := h₁₀.move true .publish
  exact ⟨_, h₁₁, by simp [Bus.note, Bus.setDriver, Bus.setDrvdata],
    by simp [Bus.note, Bus.setDriver, Bus.setDrvdata, pm6150]⟩

theorem revision_from_home_deferred :
    ∃ system, Interleaving.Run (ProbeMove twoUsids) (unprobed [false, true]) system ∧
      .failed true .EPROBE_DEFER ∈ system.shared.log ∧
      ∃ base, Home twoUsids true base ∧
        .loaded base ⟨0x51, 0x28, "qcom,pm6150", [1]⟩ ∈ system.shared.log := by
  obtain ⟨system, hrun, hfailed, hbound⟩ := run_twoUsids
  exact ⟨system, hrun, hfailed, ((revision_from_home twoUsids).2 _ system hrun).2 true _ hbound⟩

end TclB220G.Spmi.Revid
