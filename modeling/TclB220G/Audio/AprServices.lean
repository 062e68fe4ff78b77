import Mathlib.Algebra.Group.Int.Defs
import Mathlib.Data.List.Basic
import TclB220G.Kernel.Idr
import TclB220G.Lib.Lifetime

/-!
# APR services from firmware nodes

`register_apr_devices` goes through the child nodes of the router and adds a device for each service.  An
addition allocates the device, takes a reference on the node, claims the service identifier and registers
the device; on every error the last reference on the device is put, and its release function puts the node.

The model numbers the devices in the order of their allocation and keeps a number when the device is freed,
so that no two of them are taken for each other.  Whatever fails, an addition that reports an error leaves
the table, the references and the other devices as they were: `aprAddDevice_cases` says what one addition
can do, and the loop follows from it.
-/

namespace TclB220G.Audio

open Kernel Kernel.Errno Lib

/-- The type of a packet router. -/
inductive RouterType where
  | apr | gpr | other
  deriving DecidableEq, Repr

/-- What is read of a child node.  The strings are those of the property `qcom,protection-domain`: a read
of at most so many gives an error or the strings that there are. -/
structure AprNode (Node : Type) where
  handle : Node
  name : Option String
  protectionDomainPresent : Bool
  protectionDomain : ℕ → Except Errno (List String)
  reg : Option ℕ

/-- The outcomes of the calls of one addition. -/
structure AddOutcomes where
  allocates : Bool
  setName : Option Errno
  idrAllocates : Bool
  deviceAdd : Option Errno

/-- The fields of `struct apr_device` that an addition sets, with the reference count of its device. -/
structure AprDevice (Node : Type) where
  node : Node
  svcId : ℕ
  domainId : ℕ
  name : String
  devName : Option String
  servicePath : Option String
  refs : ℕ
  added : Bool

/-- The packet router.  The table holds the numbers of devices, and a freed device leaves a hole. -/
structure AprRouter (Node : Type) where
  type : RouterType
  destDomainId : ℕ
  svcs : Idr ℕ
  devices : List (Option (AprDevice Node))
  nodeRefs : Node → ℤ

section

variable {Node : Type} [DecidableEq Node]

variable (node : AprNode Node)

def aprReadPdString (index : ℕ) : Except Errno String :=
  if 2 ≤ index then .error EINVAL
  else
    match node.protectionDomain (index + 1) with
    | .error errno => .error errno
    | .ok strings =>
      match strings[index]? with
      | none => .error EINVAL
      | some value => .ok value

namespace AprRouter

variable (router : AprRouter Node)

def fwnodeHandleGet (node : Node) : AprRouter Node :=
  { router with nodeRefs := Function.update router.nodeRefs node (router.nodeRefs node + 1) }

def fwnodeHandlePut (node : Node) : AprRouter Node :=
  { router with nodeRefs := Function.update router.nodeRefs node (router.nodeRefs node - 1) }

omit [DecidableEq Node] in
def setDevice (device : ℕ) (change : AprDevice Node → AprDevice Node) : AprRouter Node :=
  { router with devices := router.devices.modify device (Option.map change) }

/-- The last reference calls `apr_dev_release`, which puts the node and frees the device. -/
def putDevice (device : ℕ) : AprRouter Node :=
  match router.devices[device]? with
  | some (some adev) =>
    if adev.refs = 1 then
      { router.fwnodeHandlePut adev.node with devices := router.devices.set device none }
    else router.setDevice device fun adev ↦ { adev with refs := adev.refs - 1 }
  | _ => router

end AprRouter

/-- The size of `adev->name`. -/
def aprNameSize : ℕ := 32

/-- The result of `strscpy` into `adev->name`, which was zeroed. -/
def aprName (name : Option String) : String :=
  String.ofList ((name.getD "").toList.take (aprNameSize - 1))

/-- The name `%ssvc:%s:%x:%x` of a device. -/
def aprDevName (type : RouterType) (name : String) (domainId svcId : ℕ) : String :=
  (if type = .apr then "apr" else "gpr") ++ "svc:" ++ name ++ ":" ++
    String.ofList (Nat.toDigits 16 domainId) ++ ":" ++ String.ofList (Nat.toDigits 16 svcId)

/-- The optional second string of the protection domain. -/
def aprServicePath : Except Errno (Option String) :=
  if node.protectionDomainPresent then (aprReadPdString node 1).map some else .ok none

/-- The name of the device and the path of its service. -/
def aprDescribe (setName : Option Errno) (svcId domainId device : ℕ)
    (router : AprRouter Node) : Option Errno × AprRouter Node :=
  if router.type = .other then (some EINVAL, router)
  else
    match setName with
    | some errno => (some errno, router)
    | none =>
      let devName := aprDevName router.type (aprName node.name) domainId svcId
      let router := router.setDevice device fun adev ↦ { adev with devName := some devName }
      match aprServicePath node with
      | .error errno => (some errno, router)
      | .ok servicePath => (none, router.setDevice device fun adev ↦ { adev with servicePath })

/-- The identifier is claimed and the device registered. -/
def aprClaim (outcomes : AddOutcomes) (svcId device : ℕ) (router : AprRouter Node) :
    Option Errno × AprRouter Node :=
  match router.svcs.allocAt svcId device outcomes.idrAllocates with
  | .error errno => (some errno, router)
  | .ok svcs =>
    let router := { router with svcs }
    match outcomes.deviceAdd with
    | none => (none, router.setDevice device fun adev ↦ { adev with added := true })
    | some errno => (some errno, { router with svcs := router.svcs.remove svcId })

/-- The addition after the device is initialised, up to the label `put_device`. -/
def aprAddInitialized (outcomes : AddOutcomes) (svcId domainId device : ℕ)
    (router : AprRouter Node) : Option Errno × AprRouter Node :=
  match aprDescribe node outcomes.setName svcId domainId device router with
  | (some errno, router) => (some errno, router)
  | (none, router) => aprClaim outcomes svcId device router

def aprAddDevice (outcomes : AddOutcomes) (svcId domainId : ℕ)
    (router : AprRouter Node) : Option Errno × AprRouter Node :=
  if outcomes.allocates then
    let device := router.devices.length
    let adev : AprDevice Node :=
      ⟨node.handle, svcId, domainId, aprName node.name, none, none, 1, false⟩
    let router := router.fwnodeHandleGet node.handle
    let router := { router with devices := router.devices ++ [some adev] }
    match aprAddInitialized node outcomes svcId domainId device router with
    | (some errno, router) => (some errno, router.putDevice device)
    | (none, router) => (none, router)
  else (some ENOMEM, router)

/-- A child node with the outcomes of its addition. -/
abbrev AprChild (Node : Type) := AprNode Node × AddOutcomes

/-- What the loop makes of a child. -/
inductive Visit where
  | skipped
  | failed (errno : Errno)
  | added (device : ℕ)
  deriving DecidableEq, Repr

/-- Without a path the services that have none are wanted, and with a path those that have this one. -/
def wantedFor (svcPath : Option String) (node : AprNode Node) : Bool :=
  match svcPath, aprReadPdString node 1 with
  | some svcPath, .ok servicePath => servicePath = svcPath
  | some _, .error _ => false
  | none, .ok _ => false
  | none, .error _ => true

/-- The body of the loop. -/
def visitBody (svcPath : Option String) (child : AprChild Node) (router : AprRouter Node) :
    Visit × AprRouter Node :=
  if wantedFor svcPath child.1 then
    match child.1.reg with
    | none => (.skipped, router)
    | some svcId =>
      match aprAddDevice child.1 child.2 svcId router.destDomainId router with
      | (none, after) => (.added router.devices.length, after)
      | (some errno, after) => (.failed errno, after)
  else (.skipped, router)

/-- The loop holds a reference on the child that it is at. -/
def visitChild (svcPath : Option String) (child : AprChild Node) (router : AprRouter Node) :
    Visit × AprRouter Node :=
  let (visit, router) := visitBody svcPath child (router.fwnodeHandleGet child.1.handle)
  (visit, router.fwnodeHandlePut child.1.handle)

def registerAprDevices (svcPath : Option String) (children : List (AprChild Node))
    (router : AprRouter Node) : AprRouter Node :=
  children.foldl (fun router child ↦ (visitChild svcPath child router).2) router

/-! ## One addition -/

namespace AprRouter

/-- One more device number, of a device or of a freed one. -/
def last (base : AprRouter Node) (adev : Option (AprDevice Node)) : AprRouter Node :=
  { base with devices := base.devices ++ [adev] }

variable {base : AprRouter Node} {adev : AprDevice Node}

omit [DecidableEq Node] in
theorem setDevice_last (base : AprRouter Node) (adev : AprDevice Node)
    (change : AprDevice Node → AprDevice Node) :
    (base.last (some adev)).setDevice base.devices.length change = base.last (some (change adev)) := by
  have hmodify : (base.devices ++ [some adev]).modify base.devices.length (Option.map change) =
      base.devices ++ [some (change adev)] := by
    rw [List.modify_eq_take_cons_drop (by simp)]
    simp
  rw [setDevice, last, last, hmodify]

/-- The only reference is put: the device is freed and its node is put. -/
theorem putDevice_last (base : AprRouter Node) (hrefs : adev.refs = 1) :
    (base.last (some adev)).putDevice base.devices.length =
      (base.fwnodeHandlePut adev.node).last none := by
  have hget : (base.last (some adev)).devices[base.devices.length]? = some (some adev) :=
    List.getElem?_concat_length
  have hset : (base.devices ++ [some adev]).set base.devices.length none = base.devices ++ [none] := by
    rw [List.set_append_right _ _ (Nat.le_refl _), Nat.sub_self, List.set_cons_zero]
  rw [putDevice, hget]
  simp only [hrefs, if_true]
  simp only [last, fwnodeHandlePut, hset]

theorem put_get (node : Node) : (base.fwnodeHandleGet node).fwnodeHandlePut node = base := by
  have hrefs : Function.update (Function.update base.nodeRefs node (base.nodeRefs node + 1)) node
      (Function.update base.nodeRefs node (base.nodeRefs node + 1) node - 1) = base.nodeRefs := by
    rw [Function.update_self, Function.update_idem, Int.add_sub_cancel, Function.update_eq_self]
  rw [fwnodeHandlePut, fwnodeHandleGet, hrefs]

end AprRouter

/-- The device that an addition works on, as far as it is settled from the start. -/
structure AddedFor (adev : AprDevice Node) (node : AprNode Node) (svcId domainId : ℕ) : Prop where
  node : adev.node = node.handle
  svcId : adev.svcId = svcId
  domainId : adev.domainId = domainId
  refs : adev.refs = 1

section

variable {node : AprNode Node} {outcomes : AddOutcomes} {svcId domainId : ℕ} {base : AprRouter Node}
  {adev : AprDevice Node}

omit [DecidableEq Node] in
theorem aprDescribe_last (hadev : AddedFor adev node svcId domainId) (setName : Option Errno) :
    ∃ ret described, AddedFor described node svcId domainId ∧
      aprDescribe node setName svcId domainId base.devices.length (base.last (some adev)) =
        (ret, base.last (some described)) := by
  unfold aprDescribe
  split
  · exact ⟨_, adev, hadev, rfl⟩
  · split
    · exact ⟨_, adev, hadev, rfl⟩
    · simp only [AprRouter.setDevice_last]
      split
      · refine ⟨_, _, ?_, rfl⟩
        exact ⟨hadev.node, hadev.svcId, hadev.domainId, hadev.refs⟩
      · refine ⟨_, _, ?_, rfl⟩
        exact ⟨hadev.node, hadev.svcId, hadev.domainId, hadev.refs⟩

omit [DecidableEq Node] in
/-- A failed claim leaves the table as it was. -/
theorem aprClaim_last (hadev : AddedFor adev node svcId domainId) :
    (∃ errno, aprClaim outcomes svcId base.devices.length (base.last (some adev)) =
      (some errno, base.last (some adev))) ∨
    ∃ svcs added, base.svcs.allocAt svcId base.devices.length outcomes.idrAllocates = .ok svcs ∧
      AddedFor added node svcId domainId ∧ added.added = true ∧
      aprClaim outcomes svcId base.devices.length (base.last (some adev)) =
        (none, { base with svcs }.last (some added)) := by
  have hsvcs : (base.last (some adev)).svcs = base.svcs := rfl
  rw [aprClaim, hsvcs]
  cases halloc : base.svcs.allocAt svcId base.devices.length outcomes.idrAllocates with
  | error errno => exact .inl ⟨errno, rfl⟩
  | ok svcs =>
    cases outcomes.deviceAdd with
    | none =>
      refine .inr ⟨svcs, { adev with added := true }, rfl,
        ⟨hadev.node, hadev.svcId, hadev.domainId, hadev.refs⟩, rfl, ?_⟩
      exact congrArg (Prod.mk none)
        (AprRouter.setDevice_last { base with svcs } adev fun adev ↦ { adev with added := true })
    | some errno =>
      refine .inl ⟨errno, ?_⟩
      simp only [Idr.remove_allocAt halloc]
      rfl

omit [DecidableEq Node] in
theorem aprAddInitialized_last (outcomes : AddOutcomes) (base : AprRouter Node)
    (hadev : AddedFor adev node svcId domainId) :
    (∃ errno left, AddedFor left node svcId domainId ∧
      aprAddInitialized node outcomes svcId domainId base.devices.length (base.last (some adev)) =
        (some errno, base.last (some left))) ∨
    ∃ svcs added, base.svcs.allocAt svcId base.devices.length outcomes.idrAllocates = .ok svcs ∧
      AddedFor added node svcId domainId ∧ added.added = true ∧
      aprAddInitialized node outcomes svcId domainId base.devices.length (base.last (some adev)) =
        (none, { base with svcs }.last (some added)) := by
  obtain ⟨ret, described, hdescribed, hdescribe⟩ := aprDescribe_last hadev outcomes.setName
  rw [aprAddInitialized, hdescribe]
  cases ret with
  | some errno => exact .inl ⟨errno, described, hdescribed, rfl⟩
  | none =>
    rcases aprClaim_last hdescribed with ⟨errno, hclaim⟩ | hclaim
    · exact .inl ⟨errno, described, hdescribed, hclaim⟩
    · exact .inr hclaim

/-- An addition that reports an error has changed nothing but the number of the next device; one that
succeeds claims its identifier, which was free, for a device of its own. -/
theorem aprAddDevice_cases (node : AprNode Node) (outcomes : AddOutcomes) (svcId domainId : ℕ)
    (router : AprRouter Node) :
    (∃ errno after, aprAddDevice node outcomes svcId domainId router = (some errno, after) ∧
      (after = router ∨ after = router.last none)) ∨
    ∃ svcs added, router.svcs.allocAt svcId router.devices.length outcomes.idrAllocates = .ok svcs ∧
      AddedFor added node svcId domainId ∧ added.added = true ∧
      aprAddDevice node outcomes svcId domainId router =
        (none, { router.fwnodeHandleGet node.handle with svcs }.last (some added)) := by
  by_cases hallocates : outcomes.allocates = true
  · let base := router.fwnodeHandleGet node.handle
    have hadev : AddedFor ⟨node.handle, svcId, domainId, aprName node.name, none, none, 1, false⟩ node
        svcId domainId := ⟨rfl, rfl, rfl, rfl⟩
    have hadd : aprAddDevice node outcomes svcId domainId router =
        match aprAddInitialized node outcomes svcId domainId base.devices.length (base.last (some
          ⟨node.handle, svcId, domainId, aprName node.name, none, none, 1, false⟩)) with
        | (some errno, after) => (some errno, after.putDevice base.devices.length)
        | (none, after) => (none, after) := if_pos hallocates
    rcases aprAddInitialized_last outcomes base hadev with
      ⟨errno, left, hleft, hinitialized⟩ | ⟨svcs, added, halloc, hadded, hflag, hinitialized⟩
    · refine .inl ⟨errno, router.last none, ?_, .inr rfl⟩
      rw [hadd, hinitialized]
      dsimp only
      rw [base.putDevice_last hleft.refs, hleft.node, AprRouter.put_get]
    · refine .inr ⟨svcs, added, halloc, hadded, hflag, ?_⟩
      rw [hadd, hinitialized]
  · exact .inl ⟨ENOMEM, router, if_neg hallocates, .inl rfl⟩

end

/-! ## The loop -/

/-- Nothing has changed but that the number of a freed device may be gone. -/
structure Untouched (before after : AprRouter Node) : Prop where
  domain : after.destDomainId = before.destDomainId
  svcs : after.svcs = before.svcs
  nodeRefs : after.nodeRefs = before.nodeRefs
  devices : after.devices = before.devices ∨ after.devices = before.devices ++ [none]

/-- The child was added: its identifier, which was free, now belongs to its own device. -/
structure AddedAs (child : AprChild Node) (id : ℕ) (before after : AprRouter Node) : Prop where
  domain : after.destDomainId = before.destDomainId
  reg : child.1.reg = some id
  svcs : ∃ allocates, before.svcs.allocAt id before.devices.length allocates = .ok after.svcs
  nodeRefs : after.nodeRefs = (before.fwnodeHandleGet child.1.handle).nodeRefs
  devices : ∃ adev, AddedFor adev child.1 id before.destDomainId ∧ adev.added = true ∧
    after.devices = before.devices ++ [some adev]

variable (svcPath : Option String) (child : AprChild Node) (router : AprRouter Node)

theorem visitBody_cases :
    (∃ id, (visitBody svcPath child router).1 = .added router.devices.length ∧
      AddedAs child id router (visitBody svcPath child router).2) ∨
    ((∀ device, (visitBody svcPath child router).1 ≠ .added device) ∧
      Untouched router (visitBody svcPath child router).2) := by
  unfold visitBody
  split
  · cases hreg : child.1.reg with
    | none => exact .inr ⟨nofun, rfl, rfl, rfl, .inl rfl⟩
    | some svcId =>
      dsimp only
      rcases aprAddDevice_cases child.1 child.2 svcId router.destDomainId router with
        ⟨errno, after, hadd, hafter⟩ | ⟨svcs, added, halloc, hadded, hflag, hadd⟩
      · rw [hadd]
        refine .inr ⟨nofun, ?_⟩
        rcases hafter with rfl | rfl
        · exact ⟨rfl, rfl, rfl, .inl rfl⟩
        · exact ⟨rfl, rfl, rfl, .inr rfl⟩
      · rw [hadd]
        exact .inl ⟨svcId, rfl, rfl, hreg, ⟨_, halloc⟩, rfl, added, hadded, hflag, rfl⟩
  · exact .inr ⟨nofun, rfl, rfl, rfl, .inl rfl⟩

/-- The reference of the loop on the child comes and goes. -/
theorem visitChild_cases :
    (∃ id, (visitChild svcPath child router).1 = .added router.devices.length ∧
      AddedAs child id router (visitChild svcPath child router).2) ∨
    ((∀ device, (visitChild svcPath child router).1 ≠ .added device) ∧
      Untouched router (visitChild svcPath child router).2) := by
  have hput (after : AprRouter Node) (held : AprRouter Node)
      (hrefs : after.nodeRefs = (held.fwnodeHandleGet child.1.handle).nodeRefs) :
      (after.fwnodeHandlePut child.1.handle).nodeRefs = held.nodeRefs := by
    have hback := congrArg AprRouter.nodeRefs (held.put_get child.1.handle)
    rw [AprRouter.fwnodeHandlePut] at hback ⊢
    rw [hrefs]
    exact hback
  rcases visitBody_cases svcPath child (router.fwnodeHandleGet child.1.handle) with
    ⟨id, hvisit, hadded⟩ | ⟨hvisit, huntouched⟩
  · exact .inl ⟨id, hvisit, hadded.domain, hadded.reg, hadded.svcs, hput _ _ hadded.nodeRefs,
      hadded.devices⟩
  · exact .inr ⟨hvisit, huntouched.domain, huntouched.svcs, hput _ _ huntouched.nodeRefs, huntouched.devices⟩

theorem registerAprDevices_concat (children : List (AprChild Node)) (child : AprChild Node)
    (router : AprRouter Node) :
    registerAprDevices svcPath (children ++ [child]) router =
      (visitChild svcPath child (registerAprDevices svcPath children router)).2 :=
  List.foldl_concat ..

/-- A child that is wanted is added if its identifier is to be had and no call fails. -/
theorem visitChild_added {svcPath servicePath : Option String} {child : AprChild Node}
    {router : AprRouter Node} {id : ℕ} {svcs : Idr ℕ} (hwanted : wantedFor svcPath child.1 = true)
    (hreg : child.1.reg = some id) (htype : router.type ≠ .other)
    (hpath : aprServicePath child.1 = .ok servicePath)
    (halloc : router.svcs.allocAt id router.devices.length true = .ok svcs)
    (houtcomes : child.2 = ⟨true, none, true, none⟩) :
    (visitChild svcPath child router).1 = .added router.devices.length := by
  simp [visitChild, visitBody, hwanted, hreg, houtcomes, aprAddDevice, aprAddInitialized, aprDescribe,
    AprRouter.fwnodeHandleGet, AprRouter.setDevice, htype, hpath, aprClaim, halloc]

/-- The table after a child: what was in it, and the identifier of the child if that was added. -/
theorem svcs_visitChild_iff (id device : ℕ) :
    (visitChild svcPath child router).2.svcs id = some device ↔ router.svcs id = some device ∨
      child.1.reg = some id ∧ (visitChild svcPath child router).1 = .added device := by
  rcases visitChild_cases svcPath child router with ⟨own, hvisit, hadded⟩ | ⟨hvisit, huntouched⟩
  · obtain ⟨allocates, halloc⟩ := hadded.svcs
    obtain ⟨hfree, hsvcs⟩ := Idr.allocAt_eq_ok halloc
    rw [hsvcs, hvisit, hadded.reg]
    by_cases hid : id = own
    · rw [hid, Function.update_self, hfree]
      simp
    · rw [Function.update_of_ne hid]
      have hother : ¬(some own = some id ∧ Visit.added router.devices.length = Visit.added device) :=
        fun h ↦ hid (Option.some.inj h.1).symm
      rw [or_iff_left hother]
  · rw [huntouched.svcs, or_iff_left fun h ↦ hvisit device h.2]

theorem devices_visitChild :
    router.devices <+: (visitChild svcPath child router).2.devices := by
  rcases visitChild_cases svcPath child router with ⟨own, -, hadded⟩ | ⟨-, huntouched⟩
  · obtain ⟨adev, -, -, hdevices⟩ := hadded.devices
    rw [hdevices]
    exact List.prefix_append _ _
  · rcases huntouched.devices with hdevices | hdevices
    · exact hdevices.symm ▸ List.prefix_rfl
    · rw [hdevices]
      exact List.prefix_append _ _

/-- What a later part of the loop leaves alone. -/
structure Extends (before after : AprRouter Node) : Prop where
  domain : after.destDomainId = before.destDomainId
  svcs : ∀ id device, before.svcs id = some device → after.svcs id = some device
  devices : before.devices <+: after.devices

theorem registerAprDevices_extends (earlier later : List (AprChild Node)) (router : AprRouter Node) :
    Extends (registerAprDevices svcPath earlier router)
      (registerAprDevices svcPath (earlier ++ later) router) := by
  induction later using List.reverseRecOn with
  | nil =>
    rw [List.append_nil]
    exact ⟨rfl, fun _ _ h ↦ h, List.prefix_rfl⟩
  | append_singleton later child ih =>
    rw [← List.append_assoc, registerAprDevices_concat]
    refine ⟨?_, ?_, ?_⟩
    · rw [← ih.domain]
      rcases visitChild_cases svcPath child (registerAprDevices svcPath (earlier ++ later) router) with
        ⟨_, -, hadded⟩ | ⟨-, huntouched⟩
      · exact hadded.domain
      · exact huntouched.domain
    · intro id device h
      exact (svcs_visitChild_iff svcPath child _ id device).2 (.inl (ih.svcs id device h))
    · exact ih.devices.trans (devices_visitChild svcPath child _)

theorem svcs_registerAprDevices_iff (children : List (AprChild Node)) (router : AprRouter Node)
    (id : ℕ) (device : ℕ) :
    (registerAprDevices svcPath children router).svcs id = some device ↔
      router.svcs id = some device ∨ Sometime (fun earlier child ↦ child.1.reg = some id ∧
        (visitChild svcPath child (registerAprDevices svcPath earlier router)).1 = .added device)
        children := by
  induction children using List.reverseRecOn with
  | nil => exact (or_iff_left fun ⟨_, _, _, h, _⟩ ↦ absurd h (by simp)).symm
  | append_singleton children child ih =>
    rw [registerAprDevices_concat, svcs_visitChild_iff, ih, sometime_concat, or_assoc]

/-- The device of a child that was added is there at the end, as it was made for the child. -/
theorem devices_of_added {svcPath : Option String} {earlier : List (AprChild Node)}
    {child : AprChild Node} {router : AprRouter Node} {device : ℕ}
    (hvisit : (visitChild svcPath child (registerAprDevices svcPath earlier router)).1 = .added device)
    (later : List (AprChild Node)) :
    ∃ adev id, (registerAprDevices svcPath (earlier ++ child :: later) router).devices[device]? =
        some (some adev) ∧
      child.1.reg = some id ∧ AddedFor adev child.1 id router.destDomainId ∧ adev.added = true := by
  have hdomain : (registerAprDevices svcPath earlier router).destDomainId = router.destDomainId :=
    (registerAprDevices_extends svcPath [] earlier router).domain
  rcases visitChild_cases svcPath child (registerAprDevices svcPath earlier router) with
    ⟨id, hnumber, hadded⟩ | ⟨hnone, -⟩
  · obtain ⟨adev, hadev, hflag, hdevices⟩ := hadded.devices
    rw [hvisit] at hnumber
    cases hnumber
    rw [hdomain] at hadev
    refine ⟨adev, id, ?_, hadded.reg, hadev, hflag⟩
    have hlater := (registerAprDevices_extends svcPath (earlier ++ [child]) later router).devices
    rw [registerAprDevices_concat, List.append_assoc, List.singleton_append] at hlater
    obtain ⟨rest, hrest⟩ := hlater
    rw [← hrest, hdevices, List.append_assoc, List.getElem?_append_right (Nat.le_refl _), Nat.sub_self]
    rfl
  · exact absurd hvisit (hnone device)

/-- Whatever the children and whatever fails, the table afterwards holds what it held before and the
identifiers of the children that were added, each with the device of that child; nothing that is in the
table is replaced or removed by a later child; and a child that was not added has left the table and the
references as they were, with its device freed. -/
theorem registerAprDevices_table (svcPath : Option String) (children : List (AprChild Node))
    (router : AprRouter Node) :
    (∀ id device, (registerAprDevices svcPath children router).svcs id = some device ↔
      router.svcs id = some device ∨ Sometime (fun earlier child ↦ child.1.reg = some id ∧
        (visitChild svcPath child (registerAprDevices svcPath earlier router)).1 = .added device)
        children) ∧
    Throughout (fun earlier child ↦ ∀ device,
      (visitChild svcPath child (registerAprDevices svcPath earlier router)).1 = .added device →
        ∃ adev id, (registerAprDevices svcPath children router).devices[device]? = some (some adev) ∧
          child.1.reg = some id ∧ AddedFor adev child.1 id router.destDomainId ∧
          adev.added = true) children ∧
    (∀ earlier later, children = earlier ++ later →
      ∀ id device, (registerAprDevices svcPath earlier router).svcs id = some device →
        (registerAprDevices svcPath children router).svcs id = some device) ∧
    Throughout (fun earlier child ↦
      (∀ device, (visitChild svcPath child (registerAprDevices svcPath earlier router)).1 ≠
        .added device) →
      Untouched (registerAprDevices svcPath earlier router)
        (registerAprDevices svcPath (earlier ++ [child]) router)) children := by
  refine ⟨?_, ?_, ?_, ?_⟩
  · exact svcs_registerAprDevices_iff svcPath children router
  · rintro earlier child later rfl device hvisit
    exact devices_of_added hvisit later
  · rintro earlier later rfl
    exact (registerAprDevices_extends svcPath earlier later router).svcs
  · intro earlier child later _ hvisit
    rw [registerAprDevices_concat]
    rcases visitChild_cases svcPath child (registerAprDevices svcPath earlier router) with
      ⟨id, hadded, -⟩ | ⟨-, huntouched⟩
    · exact absurd hadded (hvisit _)
    · exact huntouched

end

end TclB220G.Audio
