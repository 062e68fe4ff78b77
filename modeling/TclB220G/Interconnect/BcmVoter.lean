import TclB220G.Kernel.Errno
import TclB220G.Lib.Interleaving

/-!
# Voters of bus clock managers

A voter is memory that its device manages, an element of the list `bcm_voters`, and usable while its
device is bound.  The three end at different times.  The probe adds the voter to the list before the
device is bound, and it may still fail after that; the removal takes the voter off the list, frees it,
and only then is the device no longer bound.

The devices and the lookups interleave here.  For each device there is one actor, which stands for
whoever holds the lock of the device, and for each caller of a lookup there is another.  A move is what
no other actor can see half done.  The list changes under `bcm_voter_lock` only, but the lookups test
whether a device is bound without its lock.  What the driver core does around the probe is taken from
`really_probe` and `__device_release_driver`.
-/

namespace TclB220G.Interconnect.Voter

open Kernel Kernel.Errno Lib

/-- The devices that there may be, with what does not change about them, and the machine. -/
structure Board (Device OfNode Fwnode : Type) where
  ofNode : Device → Option OfNode
  fwnode : Device → Option Fwnode
  ofFwnodeHandle : OfNode → Fwnode
  /-- The parent of the device and the name that it may have. -/
  parentName : Device → Option (Option String)
  tclAcpiDisplay : Device → Bool
  tcsWait : Device → Except Errno ℕ
  acpiDisabled : Bool
  sysVendor : Option String
  productName : Option String

/-- `QCOM_ICC_TAG_ACTIVE_ONLY` -/
def qcomIccTagActiveOnly : ℕ := 3

/-- What the probe sets of `struct bcm_voter`, as far as it is no lock and no empty list. -/
structure BcmVoter (Device OfNode : Type) where
  dev : Option Device
  np : Option OfNode
  tcsWait : ℕ
  deriving DecidableEq, Repr

/-- A voter in memory, with the device that manages the memory. -/
structure Block (Device OfNode : Type) where
  owner : Device
  voter : BcmVoter Device OfNode
  deriving DecidableEq, Repr

/-- What `devres_release_all` finds on a device: memory to free, or `qcom_bcm_voter_unlist` to call. -/
inductive Managed (Address : Type) where
  | memory (voter : Address)
  | unlist (voter : Address)
  deriving DecidableEq, Repr

/-- Who makes a move: the driver core on a device, or the caller of a lookup. -/
inductive Actor (Device Client : Type) where
  | core (device : Device)
  | client (client : Client)
  deriving DecidableEq, Repr

/-- What the actors share.  The resources of a device are listed with the latest first. -/
structure Registry (Device Client OfNode Address : Type) where
  voters : List Address
  lock : Option (Actor Device Client)
  memory : Address → Option (Block Device OfNode)
  devres : Device → List (Managed Address)
  bound : Device → Bool

/-- Why the resources of a device are released. -/
inductive Ending where
  | failure (errno : Errno)
  | removal
  deriving DecidableEq, Repr

/-- What a lookup compares the voters with. -/
inductive Wanted (OfNode Fwnode : Type) where
  | ofNode (node : Option OfNode)
  | fwnode (node : Fwnode)
  deriving DecidableEq, Repr

/-- How far an actor has come. -/
inductive Stage (OfNode Fwnode Address : Type) where
  | unbound
  | otherDriver
  | allocated (voter : Address)
  | filled (voter : Address)
  /-- In the probe with the lock, before and after `list_add_tail`. -/
  | adding (voter : Address)
  | added (voter : Address)
  | listed (voter : Address)
  | probed
  | bound
  /-- In `devres_release_all`. -/
  | releasing (ending : Ending)
  /-- In `qcom_bcm_voter_unlist`: without the lock, and with it before and after `list_del`. -/
  | unlisting (voter : Address) (ending : Ending)
  | deleting (voter : Address) (ending : Ending)
  | deleted (ending : Ending)
  | idle
  | waiting (wanted : Wanted OfNode Fwnode)
  /-- In the loop of a lookup, at a voter or at the end of the list. -/
  | scanning (wanted : Wanted OfNode Fwnode) (candidate : Option Address)
  /-- After the loop, still with the lock. -/
  | leaving (wanted : Wanted OfNode Fwnode) (result : Except Errno Address)

/-- A device that asks for a voter. -/
structure Consumer (OfNode Fwnode : Type) where
  ofNode : Option OfNode
  ofPropertyMatchString : String → Except Errno ℕ
  ofParsePhandle : ℕ → Option OfNode
  devicePropertyMatchString : String → Except Errno ℕ
  fwnodeFindReference : ℕ → Except Errno Fwnode

section

variable {Device Client OfNode Fwnode Address : Type}

namespace Board

variable (board : Board Device OfNode Fwnode)

/-- `dev_fwnode` -/
def devFwnode (device : Device) : Option Fwnode :=
  match board.ofNode device with
  | some node => some (board.ofFwnodeHandle node)
  | none => board.fwnode device

/-- The test at the start of `qcom_icc_bcm_voter_probe`.  A parent without a name is no `rpmh`. -/
def refuses (device : Device) : Bool :=
  (board.ofNode device).isNone &&
    (board.acpiDisabled || (board.parentName device).isNone ||
      board.sysVendor ≠ some "TCL Communication Ltd." || board.productName ≠ some "B220G" ||
      board.parentName device ≠ some (some "rpmh") || !board.tclAcpiDisplay device)

/-- The voter that the probe of a device sets up. -/
def voterOf (device : Device) : BcmVoter Device OfNode where
  dev := some device
  np := board.ofNode device
  tcsWait :=
    match board.tcsWait device with
    | .ok value => value
    | .error _ => qcomIccTagActiveOnly

end Board

/-- `of_bcm_voter_get` up to the lock. -/
def ofBcmVoterGet (dev : Option (Consumer OfNode Fwnode)) (name : Option String) :
    Except Errno (Wanted OfNode Fwnode) :=
  match dev with
  | none => .error ENODEV
  | some dev =>
    if dev.ofNode.isNone then .error ENODEV
    else do
      let index ← match name with
        | some name => dev.ofPropertyMatchString name
        | none => .ok 0
      return .ofNode (dev.ofParsePhandle index)

/-- `qcom_bcm_voter_get` up to the lock. -/
def qcomBcmVoterGet (dev : Option (Consumer OfNode Fwnode)) (name : Option String) :
    Except Errno (Wanted OfNode Fwnode) :=
  match dev with
  | none => .error EINVAL
  | some dev =>
    if dev.ofNode.isSome then ofBcmVoterGet (some dev) name
    else do
      let index ← match name with
        | some name => dev.devicePropertyMatchString name
        | none => .ok 0
      let node ← dev.fwnodeFindReference index
      return .fwnode node

/-- The condition in the loop of a lookup.  There is no answer if it would follow a null pointer. -/
def Wanted.accepts [DecidableEq OfNode] [DecidableEq Fwnode] (board : Board Device OfNode Fwnode)
    (bound : Device → Bool) (voter : BcmVoter Device OfNode) : Wanted OfNode Fwnode → Option Bool
  | .ofNode node => some (voter.np.isSome && voter.np = node)
  | .fwnode node => voter.dev.map fun dev ↦ board.devFwnode dev = some node && bound dev

/-- Memory that is cleared, as `devm_kzalloc` gives it. -/
def cleared : BcmVoter Device OfNode := ⟨none, none, 0⟩

namespace Registry

variable [DecidableEq Device] [DecidableEq Address] (registry : Registry Device Client OfNode Address)

def setLock (holder : Option (Actor Device Client)) : Registry Device Client OfNode Address :=
  { registry with lock := holder }

def setBound (device : Device) (value : Bool) : Registry Device Client OfNode Address :=
  { registry with bound := Function.update registry.bound device value }

def setDevres (device : Device) (managed : List (Managed Address)) :
    Registry Device Client OfNode Address :=
  { registry with devres := Function.update registry.devres device managed }

/-- `devm_kzalloc` -/
def devmKzalloc (device : Device) (voter : Address) : Registry Device Client OfNode Address :=
  { registry with
    memory := Function.update registry.memory voter (some ⟨device, cleared⟩)
    devres := Function.update registry.devres device (.memory voter :: registry.devres device) }

/-- The assignments to the fields of a voter. -/
def store (address : Address) (voter : BcmVoter Device OfNode) :
    Registry Device Client OfNode Address :=
  { registry with
    memory := Function.update registry.memory address
      ((registry.memory address).map fun block ↦ { block with voter }) }

def listAddTail (voter : Address) : Registry Device Client OfNode Address :=
  { registry with voters := registry.voters ++ [voter] }

def listDel (voter : Address) : Registry Device Client OfNode Address :=
  { registry with voters := registry.voters.erase voter }

/-- Memory of a device is freed, and the rest of its resources is left. -/
def release (device : Device) (voter : Address) (rest : List (Managed Address)) :
    Registry Device Client OfNode Address :=
  { registry with
    memory := Function.update registry.memory voter none
    devres := Function.update registry.devres device rest }

/-- The element of the list after this one. -/
def next (voter : Address) : Option Address :=
  ((registry.voters.dropWhile (· ≠ voter)).drop 1).head?

end Registry

variable [DecidableEq Device] [DecidableEq OfNode] [DecidableEq Fwnode] [DecidableEq Address]

/-- The moves of the driver core on the devices and of the lookups. -/
inductive VoterMove (board : Board Device OfNode Fwnode) :
    Actor Device Client → Registry Device Client OfNode Address → Stage OfNode Fwnode Address →
      Registry Device Client OfNode Address → Stage OfNode Fwnode Address → Prop
  | bindOther {device registry} :
    VoterMove board (.core device) registry .unbound (registry.setBound device true) .otherDriver
  | unbindOther {device registry} :
    VoterMove board (.core device) registry .otherDriver (registry.setBound device false) .unbound
  | refuse {device registry} (hrefuses : board.refuses device = true) :
    VoterMove board (.core device) registry .unbound registry (.releasing (.failure ENODEV))
  | noMemory {device registry} (haccepts : board.refuses device = false) :
    VoterMove board (.core device) registry .unbound registry (.releasing (.failure ENOMEM))
  -- An allocation gives any memory that is free.
  | allocate {device registry} (voter : Address) (haccepts : board.refuses device = false)
    (hfree : registry.memory voter = none) :
    VoterMove board (.core device) registry .unbound (registry.devmKzalloc device voter)
      (.allocated voter)
  | fill {device registry voter} :
    VoterMove board (.core device) registry (.allocated voter)
      (registry.store voter (board.voterOf device)) (.filled voter)
  | addLock {device registry voter} (hlock : registry.lock = none) :
    VoterMove board (.core device) registry (.filled voter)
      (registry.setLock (some (.core device))) (.adding voter)
  | add {device registry voter} :
    VoterMove board (.core device) registry (.adding voter) (registry.listAddTail voter)
      (.added voter)
  | addUnlock {device registry voter} :
    VoterMove board (.core device) registry (.added voter) (registry.setLock none) (.listed voter)
  | manage {device registry voter} :
    VoterMove board (.core device) registry (.listed voter)
      (registry.setDevres device (.unlist voter :: registry.devres device)) .probed
  -- An action that cannot be registered is called at once.
  | manageFails {device registry voter} :
    VoterMove board (.core device) registry (.listed voter) registry
      (.unlisting voter (.failure ENOMEM))
  | bind {device registry} :
    VoterMove board (.core device) registry .probed (registry.setBound device true) .bound
  -- What the driver core does after the probe may fail too.
  | bindFails {device registry} (errno : Errno) :
    VoterMove board (.core device) registry .probed registry (.releasing (.failure errno))
  | remove {device registry} :
    VoterMove board (.core device) registry .bound registry (.releasing .removal)
  | runAction {device registry ending voter rest} (hdevres : registry.devres device = .unlist voter :: rest) :
    VoterMove board (.core device) registry (.releasing ending) (registry.setDevres device rest)
      (.unlisting voter ending)
  | unlistLock {device registry ending voter} (hlock : registry.lock = none) :
    VoterMove board (.core device) registry (.unlisting voter ending)
      (registry.setLock (some (.core device))) (.deleting voter ending)
  | delete {device registry ending voter} :
    VoterMove board (.core device) registry (.deleting voter ending) (registry.listDel voter)
      (.deleted ending)
  | unlistUnlock {device registry ending} :
    VoterMove board (.core device) registry (.deleted ending) (registry.setLock none)
      (.releasing ending)
  | free {device registry ending voter rest} (hdevres : registry.devres device = .memory voter :: rest) :
    VoterMove board (.core device) registry (.releasing ending)
      (registry.release device voter rest) (.releasing ending)
  | failed {device registry errno} (hdevres : registry.devres device = []) :
    VoterMove board (.core device) registry (.releasing (.failure errno)) registry .unbound
  | detach {device registry} (hdevres : registry.devres device = []) :
    VoterMove board (.core device) registry (.releasing .removal) (registry.setBound device false)
      .unbound
  | lookUp {client registry} (dev : Option (Consumer OfNode Fwnode)) (name : Option String)
    {wanted} (hwanted : qcomBcmVoterGet dev name = .ok wanted) :
    VoterMove board (.client client) registry .idle registry (.waiting wanted)
  | lookUpOf {client registry} (dev : Option (Consumer OfNode Fwnode)) (name : Option String)
    {wanted} (hwanted : ofBcmVoterGet dev name = .ok wanted) :
    VoterMove board (.client client) registry .idle registry (.waiting wanted)
  | scanLock {client registry wanted} (hlock : registry.lock = none) :
    VoterMove board (.client client) registry (.waiting wanted)
      (registry.setLock (some (.client client))) (.scanning wanted registry.voters.head?)
  -- In memory that is not a voter, the condition can have any value.
  | accept {client registry wanted voter}
    (haccepts : ((registry.memory voter).bind fun block ↦
      wanted.accepts board registry.bound block.voter) ≠ some false) :
    VoterMove board (.client client) registry (.scanning wanted (some voter)) registry
      (.leaving wanted (.ok voter))
  | skip {client registry wanted voter}
    (haccepts : ((registry.memory voter).bind fun block ↦
      wanted.accepts board registry.bound block.voter) ≠ some true) :
    VoterMove board (.client client) registry (.scanning wanted (some voter)) registry
      (.scanning wanted (registry.next voter))
  | notFound {client registry wanted} :
    VoterMove board (.client client) registry (.scanning wanted none) registry
      (.leaving wanted (.error EPROBE_DEFER))
  | scanUnlock {client registry wanted result} :
    VoterMove board (.client client) registry (.leaving wanted result) (registry.setLock none) .idle

/-- Before any probe. -/
def unprobed : Interleaving.System (Actor Device Client) (Registry Device Client OfNode Address)
    (Stage OfNode Fwnode Address) where
  shared := ⟨[], none, fun _ ↦ none, fun _ ↦ [], fun _ ↦ false⟩
  pc
    | .core _ => .unbound
    | .client _ => .idle

end

end TclB220G.Interconnect.Voter
