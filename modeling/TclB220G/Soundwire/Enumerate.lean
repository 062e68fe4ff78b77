import Mathlib.Data.List.Basic
import Mathlib.Data.List.Nodup
import TclB220G.Kernel.Errno

/-!
# The codecs of a SoundWire bus

A bus master that is described by a software node finds its slaves among the children of that node.
`sdw_software_find_slaves` first goes through all children and adds no slave before all of them have been
found valid.  It holds a reference to each node that it has kept until it returns, and each slave holds
one to its own node.  If a slave cannot be added, the slaves before it are left to the error path of
`sdw_bus_master_add`.
-/

namespace TclB220G.Soundwire

open Kernel Kernel.Errno

/-- The value of `SDW_MAX_DEVICES`. -/
def sdwMaxDevices : ℕ := 11

variable (address : BitVec 64)

def sdwDiscoLinkId : BitVec 4 := address.extractLsb' 48 4
def sdwVersion : BitVec 4 := address.extractLsb' 44 4
def sdwUniqueId : BitVec 4 := address.extractLsb' 40 4
def sdwMfgId : BitVec 16 := address.extractLsb' 24 16
def sdwPartId : BitVec 16 := address.extractLsb' 8 16
def sdwClassId : BitVec 8 := address.extractLsb' 0 8

structure SdwSlaveId where
  sdwVersion : BitVec 4
  uniqueId : BitVec 4
  mfgId : BitVec 16
  partId : BitVec 16
  classId : BitVec 8
  deriving DecidableEq, Repr

def sdwExtractSlaveId : SdwSlaveId where
  sdwVersion := sdwVersion address
  uniqueId := sdwUniqueId address
  mfgId := sdwMfgId address
  partId := sdwPartId address
  classId := sdwClassId address

/-- What is read of a node.  The property `mipi-sdw-address` may be absent or not be readable. -/
structure SdwFirmware (Node : Type) where
  isSoftwareNode : Node → Bool
  mipiSdwAddress : Node → Option (Except Errno (BitVec 64))

structure SdwSlave (Node : Type) where
  id : SdwSlaveId
  node : Node
  deriving DecidableEq, Repr

/-- What the functions do to the nodes and to the slaves. -/
inductive SdwEvent (Node : Type) where
  | get (node : Node)
  | put (node : Node)
  | listAdd (slave : SdwSlave Node)
  | listDel (slave : SdwSlave Node)
  deriving DecidableEq, Repr

/-- The slaves of a bus and what was done so far, the latest first. -/
structure SdwBus (Node : Type) where
  slaves : List (SdwSlave Node)
  log : List (SdwEvent Node)

/-- What becomes of a slave that is added. -/
inductive SlaveOutcome where
  | noMemory
  | notRegistered (errno : Errno)
  | registered
  deriving DecidableEq, Repr

variable {Node : Type}

def SdwBus.record (bus : SdwBus Node) (event : SdwEvent Node) : SdwBus Node :=
  { bus with log := event :: bus.log }

def fwnodeHandleGet (node : Node) (bus : SdwBus Node) : SdwBus Node := bus.record (.get node)

def fwnodeHandlePut (node : Node) (bus : SdwBus Node) : SdwBus Node := bus.record (.put node)

def listAddTail (slave : SdwSlave Node) (bus : SdwBus Node) : SdwBus Node :=
  { bus with slaves := bus.slaves ++ [slave], log := .listAdd slave :: bus.log }

/-- Takes the last slave off the list. -/
def listDelLast (slave : SdwSlave Node) (bus : SdwBus Node) : SdwBus Node :=
  { bus with slaves := bus.slaves.dropLast, log := .listDel slave :: bus.log }

/-- The slave takes a reference to its node.  If its device cannot be registered, dropping the device
releases that. -/
def sdwSlaveAdd (outcome : SlaveOutcome) (id : SdwSlaveId) (node : Node) (bus : SdwBus Node) :
    Except Errno Unit × SdwBus Node :=
  match outcome with
  | .noMemory => (.error ENOMEM, bus)
  | .notRegistered errno =>
    (.error errno,
      fwnodeHandlePut node (listDelLast ⟨id, node⟩ (listAddTail ⟨id, node⟩ (fwnodeHandleGet node bus))))
  | .registered => (.ok (), listAddTail ⟨id, node⟩ (fwnodeHandleGet node bus))

variable {found : List (BitVec 64 × Node)}

section

variable (firmware : SdwFirmware Node) (linkId : BitVec 32)

/-- An address that no slave can have. -/
def malformed (address : BitVec 64) : Bool :=
  address >>> 52 != 0 || sdwVersion address == 0 || sdwMfgId address == 0 || sdwPartId address == 0

/-- The body of the first loop: the address of a child to be kept, after those found before. -/
def checkChild (found : List (BitVec 64 × Node)) (node : Node) : Except Errno (Option (BitVec 64)) :=
  if !firmware.isSoftwareNode node then .ok none
  else
    match firmware.mipiSdwAddress node with
    | none => .ok none
    | some (.error errno) => .error errno
    | some (.ok address) =>
      if malformed address then .error EINVAL
      else if (sdwDiscoLinkId address).toNat ≠ linkId.toNat then .ok none
      else if found.length = sdwMaxDevices then .error E2BIG
      else if found.any fun entry ↦ entry.1 == address then .error EEXIST
      else .ok (some address)

/-- The first loop.  It holds a reference to the child that it is at. -/
def validateChildren : List Node → List (BitVec 64 × Node) → SdwBus Node →
    Except Errno Unit × List (BitVec 64 × Node) × SdwBus Node
  | [], found, bus => (.ok (), found, bus)
  | node :: children, found, bus =>
    let bus := fwnodeHandleGet node bus
    match checkChild firmware linkId found node with
    | .error errno => (.error errno, found, fwnodeHandlePut node bus)
    | .ok none => validateChildren children found (fwnodeHandlePut node bus)
    | .ok (some address) =>
      validateChildren children (found ++ [(address, node)])
        (fwnodeHandlePut node (fwnodeHandleGet node bus))

/-- The second loop, with the outcomes from its position on. -/
def addSlaves (outcomes : ℕ → SlaveOutcome) :
    ℕ → List (BitVec 64 × Node) → SdwBus Node → Except Errno Unit × SdwBus Node
  | _, [], bus => (.ok (), bus)
  | i, (address, node) :: found, bus =>
    match sdwSlaveAdd (outcomes i) (sdwExtractSlaveId address) node bus with
    | (.error errno, bus) => (.error errno, bus)
    | (.ok _, bus) => addSlaves outcomes (i + 1) found bus

/-- The loop at the label `out`. -/
def putNodes (found : List (BitVec 64 × Node)) (bus : SdwBus Node) : SdwBus Node :=
  found.foldl (fun bus entry ↦ fwnodeHandlePut entry.2 bus) bus

variable (outcomes : ℕ → SlaveOutcome)

def sdwSoftwareFindSlaves (children : List Node) (bus : SdwBus Node) :
    Except Errno Unit × SdwBus Node :=
  match validateChildren firmware linkId children [] bus with
  | (.error errno, found, bus) => (.error errno, putNodes found bus)
  | (.ok _, found, bus) =>
    ((addSlaves outcomes 0 found bus).1, putNodes found (addSlaves outcomes 0 found bus).2)

/-- `sdw_delete_slave` for the first slave of the list.  Unregistering its device releases the node. -/
def sdwDeleteSlave (bus : SdwBus Node) (slave : SdwSlave Node) : SdwBus Node :=
  fwnodeHandlePut slave.node { bus with slaves := bus.slaves.tail, log := .listDel slave :: bus.log }

/-- The search on a bus that has no slaves yet. -/
def enumerated (children : List Node) : Except Errno Unit × SdwBus Node :=
  sdwSoftwareFindSlaves firmware linkId outcomes children ⟨[], []⟩

/-- The end of `sdw_bus_master_add` for a bus that is described by a software node. -/
def sdwBusMasterAdd (children : List Node) :
    Except Errno Unit × SdwBus Node :=
  match enumerated firmware linkId outcomes children with
  | (.error errno, bus) => (.error errno, bus.slaves.foldl sdwDeleteSlave bus)
  | (.ok _, bus) => (.ok (), bus)

/-! ## What the children declare -/

/-- The address that a child declares, if it is one of those that are looked at. -/
def declared (node : Node) : Option (Except Errno (BitVec 64)) :=
  if firmware.isSoftwareNode node then firmware.mipiSdwAddress node else none

/-- The child with its address if it declares one of this link. -/
def onLink (node : Node) : Option (BitVec 64 × Node) :=
  match declared firmware node with
  | some (.ok address) =>
    if (sdwDiscoLinkId address).toNat = linkId.toNat then some (address, node) else none
  | _ => none

/-- The children on this link with their addresses. -/
def matching (children : List Node) : List (BitVec 64 × Node) := children.filterMap (onLink firmware linkId)

/-- A declared address can be read and is well formed. -/
def WellDeclared (node : Node) : Prop :=
  ∀ answer, declared firmware node = some answer → ∃ address, answer = .ok address ∧ ¬malformed address

/-- Distinct addresses, and no more of them than a bus has room for. -/
def Fits (found : List (BitVec 64 × Node)) : Prop :=
  (found.map Prod.fst).Nodup ∧ found.length ≤ sdwMaxDevices

/-- What the first loop checks. -/
structure ValidChildren (children : List Node) : Prop where
  wellDeclared : ∀ node ∈ children, WellDeclared firmware node
  fits : Fits (matching firmware linkId children)

/-- The slave of a child. -/
def slaveOf (entry : BitVec 64 × Node) : SdwSlave Node := ⟨sdwExtractSlaveId entry.1, entry.2⟩

variable {firmware linkId} {found later : List (BitVec 64 × Node)} {node : Node} {children : List Node}

theorem Fits.of_append (hfits : Fits (found ++ later)) : Fits found := by
  obtain ⟨hnodup, hlength⟩ := hfits
  rw [List.map_append] at hnodup
  rw [List.length_append] at hlength
  exact ⟨hnodup.of_append_left, by omega⟩

theorem fits_concat_iff (hfits : Fits found) (address : BitVec 64) :
    Fits (found ++ [(address, node)]) ↔
      found.length ≠ sdwMaxDevices ∧ address ∉ found.map Prod.fst := by
  obtain ⟨hnodup, hlength⟩ := hfits
  rw [Fits, List.map_append, List.length_append, List.map_singleton, List.length_singleton,
    List.nodup_append_comm, List.singleton_append, List.nodup_cons]
  constructor
  · rintro ⟨⟨hfresh, -⟩, hle⟩
    exact ⟨by omega, hfresh⟩
  · rintro ⟨hne, hfresh⟩
    exact ⟨⟨hfresh, hnodup⟩, by omega⟩

theorem matching_cons : matching firmware linkId (node :: children) =
    (onLink firmware linkId node).toList ++ matching firmware linkId children := by
  rw [matching, List.filterMap_cons]
  cases onLink firmware linkId node with
  | none => rfl
  | some entry => rfl

theorem wellDeclared_iff {address : BitVec 64} (hdeclared : declared firmware node = some (.ok address)) :
    WellDeclared firmware node ↔ ¬malformed address := by
  constructor
  · intro hwell
    obtain ⟨address', hanswer, hformed⟩ := hwell _ hdeclared
    exact Except.ok.inj hanswer ▸ hformed
  · intro hformed answer hanswer
    exact ⟨address, Option.some.inj (hanswer.symm.trans hdeclared), hformed⟩

theorem onLink_eq {address : BitVec 64} (hdeclared : declared firmware node = some (.ok address)) :
    onLink firmware linkId node =
      if (sdwDiscoLinkId address).toNat = linkId.toNat then some (address, node) else none := by
  rw [onLink, hdeclared]

theorem checkChild_eq (found : List (BitVec 64 × Node)) (node : Node) :
    checkChild firmware linkId found node =
      match declared firmware node with
      | none => .ok none
      | some (.error errno) => .error errno
      | some (.ok address) =>
        if malformed address then .error EINVAL
        else if (sdwDiscoLinkId address).toNat ≠ linkId.toNat then .ok none
        else if found.length = sdwMaxDevices then .error E2BIG
        else if found.any fun entry ↦ entry.1 == address then .error EEXIST
        else .ok (some address) := by
  unfold checkChild declared
  cases firmware.isSoftwareNode node with
  | false => rfl
  | true => rfl

theorem any_fst_iff (found : List (BitVec 64 × Node)) (address : BitVec 64) :
    (found.any fun entry ↦ entry.1 == address) = true ↔ address ∈ found.map Prod.fst := by
  rw [List.any_eq_true, List.mem_map]
  simp only [beq_iff_eq]

variable (firmware linkId) in
/-- What the body of the first loop says of a child after valid ones. -/
theorem checkChild_cases (hfits : Fits found) (node : Node) :
    (checkChild firmware linkId found node = .ok none ∧ WellDeclared firmware node ∧
      onLink firmware linkId node = none) ∨
    (∃ address, checkChild firmware linkId found node = .ok (some address) ∧ WellDeclared firmware node ∧
      onLink firmware linkId node = some (address, node) ∧ Fits (found ++ [(address, node)])) ∨
    ∃ errno, checkChild firmware linkId found node = .error errno ∧
      ¬(WellDeclared firmware node ∧ Fits (found ++ (onLink firmware linkId node).toList)) := by
  rw [checkChild_eq]
  match hdeclared : declared firmware node with
  | none =>
    refine .inl ⟨rfl, fun answer hanswer ↦ ?_, by rw [onLink, hdeclared]⟩
    rw [hdeclared] at hanswer
    exact nomatch hanswer
  | some (.error errno) =>
    refine .inr (.inr ⟨errno, rfl, fun hvalid ↦ ?_⟩)
    obtain ⟨address, haddress, -⟩ := hvalid.1 _ hdeclared
    exact nomatch haddress
  | some (.ok address) =>
    rw [wellDeclared_iff hdeclared, onLink_eq hdeclared]
    dsimp only
    by_cases hmalformed : malformed address = true
    · rw [if_pos hmalformed]
      exact .inr (.inr ⟨EINVAL, rfl, fun hvalid ↦ hvalid.1 hmalformed⟩)
    rw [if_neg hmalformed]
    by_cases hlink : (sdwDiscoLinkId address).toNat = linkId.toNat
    · rw [if_neg (not_not.2 hlink), if_pos hlink, Option.toList_some, fits_concat_iff hfits]
      by_cases hfull : found.length = sdwMaxDevices
      · rw [if_pos hfull]
        exact .inr (.inr ⟨E2BIG, rfl, fun hvalid ↦ hvalid.2.1 hfull⟩)
      rw [if_neg hfull]
      by_cases hknown : address ∈ found.map Prod.fst
      · rw [if_pos ((any_fst_iff found address).2 hknown)]
        exact .inr (.inr ⟨EEXIST, rfl, fun hvalid ↦ hvalid.2.2 hknown⟩)
      · rw [if_neg (mt (any_fst_iff found address).1 hknown)]
        exact .inr (.inl ⟨address, rfl, hmalformed, rfl, (fits_concat_iff hfits address).2 ⟨hfull, hknown⟩⟩)
    · rw [if_pos hlink, if_neg hlink]
      exact .inl ⟨rfl, hmalformed, rfl⟩

/-! ## The first loop -/

variable (firmware linkId) in
/-- The loop succeeds exactly if all children are valid, and has then found those on the link. -/
theorem validateChildren_spec (hfits : Fits found) (children : List Node) (bus : SdwBus Node) :
    ((validateChildren firmware linkId children found bus).1 = .ok () ↔
      (∀ node ∈ children, WellDeclared firmware node) ∧
        Fits (found ++ matching firmware linkId children)) ∧
    ((validateChildren firmware linkId children found bus).1 = .ok () →
      (validateChildren firmware linkId children found bus).2.1 =
        found ++ matching firmware linkId children) := by
  induction children generalizing found bus with
  | nil =>
    rw [matching, List.filterMap_nil, List.append_nil]
    exact ⟨iff_of_true rfl ⟨fun _ hmem ↦ absurd hmem List.not_mem_nil, hfits⟩, fun _ ↦ rfl⟩
  | cons node children ih =>
    rw [List.forall_mem_cons, matching_cons, validateChildren]
    rcases checkChild_cases firmware linkId hfits node with
      ⟨hcheck, hwell, hlink⟩ | ⟨address, hcheck, hwell, hlink, hfits'⟩ | ⟨errno, hcheck, hinvalid⟩
    · rw [hlink, Option.toList_none, List.nil_append, hcheck]
      obtain ⟨hok, hfound⟩ := ih hfits (fwnodeHandlePut node (fwnodeHandleGet node bus))
      exact ⟨by rw [and_iff_right hwell, hok], hfound⟩
    · rw [hlink, Option.toList_some, ← List.append_assoc, hcheck]
      obtain ⟨hok, hfound⟩ := ih hfits'
        (fwnodeHandlePut node (fwnodeHandleGet node (fwnodeHandleGet node bus)))
      exact ⟨by rw [and_iff_right hwell, hok], hfound⟩
    · rw [hcheck, ← List.append_assoc]
      refine ⟨iff_of_false (fun hok ↦ nomatch hok) fun hvalid ↦ ?_, fun hok ↦ nomatch hok⟩
      exact hinvalid ⟨hvalid.1.1, hvalid.2.of_append⟩

/-! ## The second loop -/

/-- The loop succeeds exactly if every slave is registered, and has then added them in order. -/
theorem addSlaves_spec (outcomes : ℕ → SlaveOutcome) (i : ℕ) (found : List (BitVec 64 × Node))
    (bus : SdwBus Node) :
    ((addSlaves outcomes i found bus).1 = .ok () ↔ ∀ j < found.length, outcomes (i + j) = .registered) ∧
    ((addSlaves outcomes i found bus).1 = .ok () →
      (addSlaves outcomes i found bus).2.slaves = bus.slaves ++ found.map slaveOf) := by
  induction found generalizing i bus with
  | nil =>
    exact ⟨iff_of_true rfl fun _ hlt ↦ absurd hlt (Nat.not_lt_zero _), fun _ ↦ (List.append_nil _).symm⟩
  | cons entry found ih =>
    rw [List.length_cons, Nat.forall_lt_succ_left, Nat.add_zero, addSlaves]
    cases outcomes i with
    | noMemory => simp [sdwSlaveAdd]
    | notRegistered errno => simp [sdwSlaveAdd]
    | registered =>
      obtain ⟨hok, hslaves⟩ := ih (i + 1) (listAddTail (slaveOf entry) (fwnodeHandleGet entry.2 bus))
      have hshift : (∀ j < found.length, outcomes (i + (j + 1)) = .registered) ↔
          ∀ j < found.length, outcomes (i + 1 + j) = .registered := by
        simp only [Nat.add_assoc, Nat.add_comm 1]
      rw [hshift, eq_self, true_and]
      exact ⟨hok, fun hall ↦ (hslaves hall).trans (List.append_assoc ..)⟩

theorem putNodes_slaves (found : List (BitVec 64 × Node)) (bus : SdwBus Node) :
    (putNodes found bus).slaves = bus.slaves := by
  induction found generalizing bus with
  | nil => rfl
  | cons entry found ih => exact ih _

theorem listAdd_mem_putNodes {bus : SdwBus Node} {slave : SdwSlave Node}
    (hmem : .listAdd slave ∈ (putNodes found bus).log) : .listAdd slave ∈ bus.log := by
  induction found generalizing bus with
  | nil => exact hmem
  | cons entry found ih => simpa [fwnodeHandlePut, SdwBus.record] using ih hmem

/-! ## References to nodes -/

section

variable [DecidableEq Node]

/-- The references to a node that were taken and not dropped. -/
def held (log : List (SdwEvent Node)) (node : Node) : ℤ := log.count (.get node) - log.count (.put node)

variable (log : List (SdwEvent Node))

@[simp] theorem held_get (taken node : Node) :
    held (.get taken :: log) node = held log node + if taken = node then 1 else 0 := by
  simp only [held, List.count_cons, beq_iff_eq, SdwEvent.get.injEq, reduceCtorEq, if_false]
  split_ifs <;> omega

@[simp] theorem held_put (dropped node : Node) :
    held (.put dropped :: log) node = held log node - if dropped = node then 1 else 0 := by
  simp only [held, List.count_cons, beq_iff_eq, SdwEvent.put.injEq, reduceCtorEq, if_false]
  split_ifs <;> omega

@[simp] theorem held_listAdd (slave : SdwSlave Node) (node : Node) :
    held (.listAdd slave :: log) node = held log node := by
  simp [held]

@[simp] theorem held_listDel (slave : SdwSlave Node) (node : Node) :
    held (.listDel slave :: log) node = held log node := by
  simp [held]

/-- The references held are one for each node kept and one for each slave. -/
def Accounts (bus : SdwBus Node) (kept : List Node) : Prop :=
  ∀ node, held bus.log node = (kept.count node : ℤ) + (bus.slaves.map SdwSlave.node).count node

variable {bus : SdwBus Node} {kept : List Node}

theorem Accounts.get (haccounts : Accounts bus kept) (node : Node) :
    Accounts (fwnodeHandleGet node bus) (node :: kept) := by
  intro other
  have hother := haccounts other
  simp only [fwnodeHandleGet, SdwBus.record, held_get, List.count_cons, beq_iff_eq]
  split_ifs <;> omega

theorem Accounts.put {node : Node} (haccounts : Accounts bus (node :: kept)) :
    Accounts (fwnodeHandlePut node bus) kept := by
  intro other
  have hother := haccounts other
  rw [List.count_cons] at hother
  simp only [fwnodeHandlePut, SdwBus.record, held_put]
  simp only [beq_iff_eq] at hother
  split_ifs at hother ⊢ <;> omega

theorem Accounts.perm {kept' : List Node} (haccounts : Accounts bus kept) (hperm : kept.Perm kept') :
    Accounts bus kept' := by
  intro node
  rw [haccounts node, hperm.count_eq]

/-- A slave takes over the reference that was taken for it. -/
theorem Accounts.listAddTail {slave : SdwSlave Node} (haccounts : Accounts bus (slave.node :: kept)) :
    Accounts (listAddTail slave bus) kept := by
  intro other
  have hother := haccounts other
  rw [List.count_cons] at hother
  simp only [Soundwire.listAddTail, held_listAdd, List.map_append, List.count_append, List.map_singleton,
    List.count_singleton]
  omega

theorem Accounts.putNodes (haccounts : Accounts bus (found.map Prod.snd)) :
    Accounts (putNodes found bus) [] := by
  induction found generalizing bus with
  | nil => exact haccounts
  | cons entry found ih => exact ih haccounts.put

variable (firmware linkId) in
/-- The first loop keeps a reference to each node that it has found, and adds no slave. -/
theorem Accounts.validateChildren (haccounts : Accounts bus (found.map Prod.snd))
    (children : List Node) :
    Accounts (validateChildren firmware linkId children found bus).2.2
        ((validateChildren firmware linkId children found bus).2.1.map Prod.snd) ∧
      (validateChildren firmware linkId children found bus).2.2.slaves = bus.slaves ∧
      ∀ slave, .listAdd slave ∈ (validateChildren firmware linkId children found bus).2.2.log →
        .listAdd slave ∈ bus.log := by
  induction children generalizing found bus with
  | nil => exact ⟨haccounts, rfl, fun _ hmem ↦ hmem⟩
  | cons node children ih =>
    rw [Soundwire.validateChildren]
    cases checkChild firmware linkId found node with
    | error errno =>
      exact ⟨(haccounts.get node).put, rfl, by simp [fwnodeHandlePut, fwnodeHandleGet, SdwBus.record]⟩
    | ok result =>
      cases result with
      | none =>
        obtain ⟨hlater, hslaves, hlog⟩ := ih (haccounts.get node).put
        refine ⟨hlater, hslaves, fun slave hmem ↦ ?_⟩
        simpa [fwnodeHandlePut, fwnodeHandleGet, SdwBus.record] using hlog slave hmem
      | some address =>
        have hkept : Accounts (fwnodeHandlePut node (fwnodeHandleGet node (fwnodeHandleGet node bus)))
            ((found ++ [(address, node)]).map Prod.snd) := by
          rw [List.map_append]
          exact ((haccounts.get node).get node).put.perm (List.perm_append_singleton _ _).symm
        obtain ⟨hlater, hslaves, hlog⟩ := ih hkept
        refine ⟨hlater, hslaves, fun slave hmem ↦ ?_⟩
        simpa [fwnodeHandlePut, fwnodeHandleGet, SdwBus.record] using hlog slave hmem

theorem Accounts.sdwSlaveAdd (haccounts : Accounts bus kept) (outcome : SlaveOutcome) (id : SdwSlaveId)
    (node : Node) : Accounts (sdwSlaveAdd outcome id node bus).2 kept := by
  cases outcome with
  | noMemory => exact haccounts
  | registered => exact (haccounts.get node).listAddTail
  | notRegistered errno =>
    intro other
    simpa [Soundwire.sdwSlaveAdd, fwnodeHandlePut, fwnodeHandleGet, SdwBus.record, Soundwire.listAddTail,
      listDelLast] using haccounts other

theorem Accounts.addSlaves (haccounts : Accounts bus kept) (outcomes : ℕ → SlaveOutcome) (i : ℕ)
    (found : List (BitVec 64 × Node)) : Accounts (addSlaves outcomes i found bus).2 kept := by
  induction found generalizing i bus with
  | nil => exact haccounts
  | cons entry found ih =>
    have hadd := haccounts.sdwSlaveAdd (outcomes i) (sdwExtractSlaveId entry.1) entry.2
    rw [Soundwire.addSlaves]
    revert hadd
    rcases Soundwire.sdwSlaveAdd (outcomes i) (sdwExtractSlaveId entry.1) entry.2 bus with ⟨ret, after⟩
    cases ret with
    | error errno => exact id
    | ok _ => exact fun hadd ↦ ih hadd (i + 1)

/-- The error path of the master leaves neither slaves nor references. -/
theorem Accounts.deleteSlaves (haccounts : Accounts bus []) :
    (bus.slaves.foldl sdwDeleteSlave bus).slaves = [] ∧
      ∀ node, held (bus.slaves.foldl sdwDeleteSlave bus).log node = 0 := by
  generalize hslaves : bus.slaves = slaves
  induction slaves generalizing bus with
  | nil =>
    refine ⟨hslaves, fun node ↦ ?_⟩
    have hnode := haccounts node
    rwa [hslaves] at hnode
  | cons slave slaves ih =>
    refine ih ?_ (congrArg List.tail hslaves)
    intro node
    have hnode := haccounts node
    rw [hslaves, List.map_cons, List.count_cons] at hnode
    simp only [sdwDeleteSlave, fwnodeHandlePut, SdwBus.record, held_put, held_listDel, hslaves,
      List.tail_cons]
    simp only [beq_iff_eq] at hnode
    split_ifs at hnode ⊢ <;> omega

/-- What the search does, from the outcomes of its loops. -/
theorem enumerated_spec (firmware : SdwFirmware Node) (linkId : BitVec 32) (outcomes : ℕ → SlaveOutcome)
    (children : List Node) :
    Accounts (enumerated firmware linkId outcomes children).2 [] ∧
    (¬ValidChildren firmware linkId children →
      (∃ errno, (enumerated firmware linkId outcomes children).1 = .error errno) ∧
        ∀ slave, .listAdd slave ∉ (enumerated firmware linkId outcomes children).2.log) ∧
    ((enumerated firmware linkId outcomes children).1 = .ok () ↔
      ValidChildren firmware linkId children ∧
        ∀ i < (matching firmware linkId children).length, outcomes i = .registered) ∧
    ((enumerated firmware linkId outcomes children).1 = .ok () →
      (enumerated firmware linkId outcomes children).2.slaves =
        (matching firmware linkId children).map slaveOf) := by
  have hempty : Fits ([] : List (BitVec 64 × Node)) := ⟨List.nodup_nil, Nat.zero_le _⟩
  have hstart : Accounts (⟨[], []⟩ : SdwBus Node) (([] : List (BitVec 64 × Node)).map Prod.snd) :=
    fun _ ↦ rfl
  have hvalidate := validateChildren_spec firmware linkId hempty children ⟨[], []⟩
  have haccounts := hstart.validateChildren firmware linkId children
  have hvalid : ((∀ node ∈ children, WellDeclared firmware node) ∧ Fits (matching firmware linkId children)) ↔
      ValidChildren firmware linkId children := ⟨fun h ↦ ⟨h.1, h.2⟩, fun h ↦ ⟨h.wellDeclared, h.fits⟩⟩
  rw [List.nil_append, hvalid] at hvalidate
  unfold enumerated sdwSoftwareFindSlaves
  revert hvalidate haccounts
  rcases validateChildren firmware linkId children [] ⟨[], []⟩ with ⟨ret, found, bus⟩
  cases ret with
  | error errno =>
    rintro ⟨hok, -⟩ ⟨hkept, -, hlog⟩
    have hinvalid : ¬ValidChildren firmware linkId children := fun h ↦ nomatch hok.2 h
    refine ⟨hkept.putNodes, fun _ ↦ ⟨⟨errno, rfl⟩, fun slave hmem ↦ ?_⟩, ?_, fun h ↦ nomatch h⟩
    · exact List.not_mem_nil (hlog slave (listAdd_mem_putNodes hmem))
    · exact iff_of_false (fun h ↦ nomatch h) fun h ↦ hinvalid h.1
  | ok _ =>
    rintro ⟨hok, hfound⟩ ⟨hkept, hslaves, -⟩
    have heq : found = matching firmware linkId children := hfound rfl
    obtain ⟨hadded, hall⟩ := addSlaves_spec outcomes 0 found bus
    simp only [Nat.zero_add] at hadded
    refine ⟨(hkept.addSlaves outcomes 0 found).putNodes, fun h ↦ absurd (hok.1 rfl) h, ?_, fun h ↦ ?_⟩
    · rw [and_iff_right (hok.1 rfl), ← heq]
      exact hadded
    · rw [putNodes_slaves, hall h, hslaves, List.nil_append, heq]

/-- If a child is not valid, the search fails and no slave is ever added.  It succeeds exactly if all
children are valid and every slave is registered; the slaves are then those of the children on the link, in
order, with distinct addresses and no more than the bus has room for.  When the search returns, the
references still held are those of the slaves.  If it fails, the master removes the slaves, and no
reference is left. -/
theorem sdwSoftwareFindSlaves_spec (firmware : SdwFirmware Node) (linkId : BitVec 32)
    (outcomes : ℕ → SlaveOutcome) (children : List Node) :
    (¬ValidChildren firmware linkId children →
      (∃ errno, (enumerated firmware linkId outcomes children).1 = .error errno) ∧
        ∀ slave, .listAdd slave ∉ (enumerated firmware linkId outcomes children).2.log) ∧
    ((enumerated firmware linkId outcomes children).1 = .ok () ↔
      ValidChildren firmware linkId children ∧
        ∀ i < (matching firmware linkId children).length, outcomes i = .registered) ∧
    ((enumerated firmware linkId outcomes children).1 = .ok () →
      (enumerated firmware linkId outcomes children).2.slaves =
          (matching firmware linkId children).map slaveOf ∧
        ((matching firmware linkId children).map Prod.fst).Nodup ∧
        (matching firmware linkId children).length ≤ sdwMaxDevices) ∧
    (∀ node, held (enumerated firmware linkId outcomes children).2.log node =
      ((enumerated firmware linkId outcomes children).2.slaves.map SdwSlave.node).count node) ∧
    (sdwBusMasterAdd firmware linkId outcomes children).1 =
      (enumerated firmware linkId outcomes children).1 ∧
    ∀ errno, (sdwBusMasterAdd firmware linkId outcomes children).1 = .error errno →
      (sdwBusMasterAdd firmware linkId outcomes children).2.slaves = [] ∧
        ∀ node, held (sdwBusMasterAdd firmware linkId outcomes children).2.log node = 0 := by
  obtain ⟨haccounts, hinvalid, hok, hslaves⟩ := enumerated_spec firmware linkId outcomes children
  refine ⟨hinvalid, hok, fun h ↦ ⟨hslaves h, (hok.1 h).1.fits⟩, fun node ↦ ?_, ?_⟩
  · rw [haccounts node, List.count_nil, Int.natCast_zero, Int.zero_add]
  · unfold sdwBusMasterAdd
    revert haccounts
    rcases enumerated firmware linkId outcomes children with ⟨ret, bus⟩
    cases ret with
    | error errno => exact fun haccounts ↦ ⟨rfl, fun _ _ ↦ haccounts.deleteSlaves⟩
    | ok _ => exact fun _ ↦ ⟨rfl, fun errno h ↦ nomatch h⟩

end

end

end TclB220G.Soundwire
