import Mathlib.Data.List.Nodup
import Mathlib.Logic.Function.Basic
import TclB220G.Kernel.Errno

/-!
# Bus clock managers of the interconnect

`qcom_icc_bcm_init` looks a bus clock manager (BCM) up in the command DB and links it to its nodes.  A
node has room for a fixed number of BCMs, and it is shared between them.  All checks come before the
first change, and the address is set last.  A probe initialises its BCMs one after another and stops at
the first error; what it has linked by then stays.

The network stands for the list of BCMs that are initialised.  Every node is linked to those of the list
that have it, in the order of the list.
-/

namespace TclB220G.Interconnect

open Kernel Kernel.Errno

/-- The contents of `struct bcm_db`. -/
structure AuxData where
  unit : ℕ
  width : ℕ
  vcd : ℕ
  reserved : ℕ
  deriving DecidableEq, Repr

/-- The size of `struct bcm_db`. -/
def auxDataSize : ℕ := 8

/-- The nodes of each BCM, at least one and none twice, and the room that a node has for BCMs. -/
structure Topology (Bcm Node : Type) where
  nodes : Bcm → List Node
  maxBcms : ℕ
  nonempty : ∀ bcm, nodes bcm ≠ []
  nodup : ∀ bcm, (nodes bcm).Nodup

/-- What the initialisation writes of `struct qcom_icc_bcm`. -/
structure BcmState where
  addr : ℕ
  auxData : AuxData
  deriving DecidableEq, Repr

/-- The state of every BCM, and the BCMs in the first `num_bcms` entries of every node. -/
structure Network (Bcm Node : Type) where
  bcm : Bcm → BcmState
  bcms : Node → List Bcm

/-- The answers of the command DB.  The address is zero where there is none.  Auxiliary data comes with
its length. -/
structure CmdDb (Bcm : Type) where
  readAddr : Bcm → ℕ
  readAuxData : Bcm → Except Errno (AuxData × ℕ)

section

variable {Bcm Node : Type} [DecidableEq Bcm] [DecidableEq Node]

namespace Network

def setAuxData (network : Network Bcm Node) (bcm : Bcm) (auxData : AuxData) : Network Bcm Node :=
  { network with bcm := Function.update network.bcm bcm { network.bcm bcm with auxData } }

def setAddr (network : Network Bcm Node) (bcm : Bcm) (addr : ℕ) : Network Bcm Node :=
  { network with bcm := Function.update network.bcm bcm { network.bcm bcm with addr } }

def link (network : Network Bcm Node) (bcm : Bcm) (node : Node) : Network Bcm Node :=
  { network with bcms := Function.update network.bcms node (network.bcms node ++ [bcm]) }

def linkAll (network : Network Bcm Node) (bcm : Bcm) (nodes : List Node) : Network Bcm Node :=
  nodes.foldl (fun network node ↦ network.link bcm node) network

end Network

variable (topology : Topology Bcm Node)

/-- The changes that follow when all checks are passed. -/
def commit (addr : ℕ) (data : AuxData) (bcm : Bcm) (network : Network Bcm Node) : Network Bcm Node :=
  ((network.setAuxData bcm data).linkAll bcm (topology.nodes bcm)).setAddr bcm addr

def qcomIccBcmInit (db : CmdDb Bcm) (bcm : Bcm) (network : Network Bcm Node) :
    Option Errno × Network Bcm Node :=
  if (network.bcm bcm).addr ≠ 0 then (none, network)
  else if db.readAddr bcm = 0 then (some EINVAL, network)
  else
    match db.readAuxData bcm with
    | .error errno => (some errno, network)
    | .ok (data, count) =>
      if count < auxDataSize then (some EINVAL, network)
      else if ∃ node ∈ topology.nodes bcm, topology.maxBcms ≤ (network.bcms node).length then
        (some ENOSPC, network)
      else (none, commit topology (db.readAddr bcm) data bcm network)

/-- The loop of the probe over the BCMs of its provider. -/
def initAll (db : CmdDb Bcm) : List Bcm → Network Bcm Node → Option Errno × Network Bcm Node
  | [], network => (none, network)
  | bcm :: bcms, network =>
    match qcomIccBcmInit topology db bcm network with
    | (some errno, network) => (some errno, network)
    | (none, network) => initAll db bcms network

/-- A probe of a provider: whether it gets its voter, what the command DB answers, and its BCMs. -/
structure Attempt (Bcm : Type) where
  voter : Option Errno
  db : CmdDb Bcm
  bcms : List Bcm

/-- The probe up to where all BCMs are initialised. -/
def qcomIccRpmhProbe (attempt : Attempt Bcm) (network : Network Bcm Node) :
    Option Errno × Network Bcm Node :=
  match attempt.voter with
  | some errno => (some errno, network)
  | none => initAll topology attempt.db attempt.bcms network

/-- No BCM has an address and no node a link. -/
def Network.fresh (auxData : Bcm → AuxData) : Network Bcm Node where
  bcm := fun bcm ↦ ⟨0, auxData bcm⟩
  bcms := fun _ ↦ []

/-- The network after any number of probes, whatever became of them. -/
def run (auxData : Bcm → AuxData) (attempts : List (Attempt Bcm)) : Network Bcm Node :=
  attempts.foldl (fun network attempt ↦ (qcomIccRpmhProbe topology attempt network).2)
    (Network.fresh auxData)

/-! ## One initialisation -/

omit [DecidableEq Bcm] in
theorem linkAll_bcm (network : Network Bcm Node) (bcm : Bcm) (nodes : List Node) :
    (network.linkAll bcm nodes).bcm = network.bcm := by
  induction nodes generalizing network with
  | nil => rfl
  | cons node nodes ih => exact ih (network.link bcm node)

omit [DecidableEq Bcm] in
theorem linkAll_bcms {nodes : List Node} (hnodup : nodes.Nodup) (network : Network Bcm Node)
    (bcm : Bcm) (node : Node) :
    (network.linkAll bcm nodes).bcms node =
      if node ∈ nodes then network.bcms node ++ [bcm] else network.bcms node := by
  induction nodes generalizing network with
  | nil => rfl
  | cons first nodes ih =>
    obtain ⟨hfirst, hnodup⟩ := List.nodup_cons.1 hnodup
    calc (network.linkAll bcm (first :: nodes)).bcms node
        = ((network.link bcm first).linkAll bcm nodes).bcms node := rfl
      _ = if node ∈ nodes then (network.link bcm first).bcms node ++ [bcm]
          else (network.link bcm first).bcms node := ih hnodup _
      _ = if node ∈ first :: nodes then network.bcms node ++ [bcm] else network.bcms node := by
        by_cases hnode : node = first
        · subst hnode
          simp [hfirst, Network.link]
        · simp [hnode, Network.link]

/-- An initialisation fails and changes nothing, finds its BCM initialised, or has checked everything
and commits. -/
theorem qcomIccBcmInit_cases (db : CmdDb Bcm) (bcm : Bcm) (network : Network Bcm Node) :
    (∃ errno, qcomIccBcmInit topology db bcm network = (some errno, network)) ∨
    ((network.bcm bcm).addr ≠ 0 ∧ qcomIccBcmInit topology db bcm network = (none, network)) ∨
    ((network.bcm bcm).addr = 0 ∧
      (∀ node ∈ topology.nodes bcm, (network.bcms node).length < topology.maxBcms) ∧
      ∃ addr data, addr ≠ 0 ∧
        qcomIccBcmInit topology db bcm network = (none, commit topology addr data bcm network)) := by
  unfold qcomIccBcmInit
  split
  next haddr => exact .inr (.inl ⟨haddr, rfl⟩)
  next haddr =>
    split
    · exact .inl ⟨_, rfl⟩
    next hfound =>
      split
      · exact .inl ⟨_, rfl⟩
      · split
        · exact .inl ⟨_, rfl⟩
        split
        · exact .inl ⟨_, rfl⟩
        next hroom =>
          refine .inr (.inr ⟨not_not.1 haddr, fun node hnode ↦ ?_, _, _, hfound, rfl⟩)
          exact Nat.lt_of_not_le fun hfull ↦ hroom ⟨node, hnode, hfull⟩

/-! ## The initialised BCMs -/

/-- A network stands for the list of its initialised BCMs, in the order in which they were linked. -/
structure Represents (initialised : List Bcm) (network : Network Bcm Node) : Prop where
  nodup : initialised.Nodup
  addr : ∀ bcm, (network.bcm bcm).addr ≠ 0 ↔ bcm ∈ initialised
  bcms : ∀ node, network.bcms node = initialised.filter (node ∈ topology.nodes ·)
  room : ∀ node, (network.bcms node).length ≤ topology.maxBcms

omit [DecidableEq Bcm] in
theorem represents_fresh (auxData : Bcm → AuxData) :
    Represents topology [] (Network.fresh auxData) where
  nodup := List.nodup_nil
  addr := fun bcm ↦ by simp [Network.fresh]
  bcms := fun _ ↦ rfl
  room := fun _ ↦ Nat.zero_le _

variable {topology} {initialised : List Bcm} {network : Network Bcm Node}

theorem commit_addr (addr : ℕ) (data : AuxData) (bcm other : Bcm) (network : Network Bcm Node) :
    ((commit topology addr data bcm network).bcm other).addr =
      if other = bcm then addr else (network.bcm other).addr := by
  by_cases hother : other = bcm
  · subst hother
    simp [commit, Network.setAddr]
  · simp [commit, Network.setAddr, Network.setAuxData, linkAll_bcm, hother]

theorem commit_bcms (addr : ℕ) (data : AuxData) (bcm : Bcm) (network : Network Bcm Node)
    (node : Node) :
    (commit topology addr data bcm network).bcms node =
      if node ∈ topology.nodes bcm then network.bcms node ++ [bcm] else network.bcms node :=
  linkAll_bcms (topology.nodup bcm) _ bcm node

/-- A commit adds its BCM at the end of the list. -/
theorem Represents.commit (h : Represents topology initialised network) {bcm : Bcm}
    (hnew : (network.bcm bcm).addr = 0)
    (hroom : ∀ node ∈ topology.nodes bcm, (network.bcms node).length < topology.maxBcms)
    {addr : ℕ} (haddr : addr ≠ 0) (data : AuxData) :
    Represents topology (initialised ++ [bcm]) (commit topology addr data bcm network) where
  nodup := by
    have hfresh : bcm ∉ initialised := fun hmem ↦ (h.addr bcm).2 hmem hnew
    simpa using List.Nodup.concat hfresh h.nodup
  addr := fun other ↦ by
    rw [commit_addr]
    by_cases hother : other = bcm
    · simp [hother, haddr]
    · simp [hother, h.addr other]
  bcms := fun node ↦ by
    rw [commit_bcms, h.bcms node, List.filter_append]
    by_cases hnode : node ∈ topology.nodes bcm <;> simp [hnode]
  room := fun node ↦ by
    rw [commit_bcms]
    split
    next hnode =>
      rw [List.length_append]
      exact hroom node hnode
    · exact h.room node

/-- An initialisation extends the list, by nothing or by its BCM. -/
theorem Represents.init (h : Represents topology initialised network) (db : CmdDb Bcm) (bcm : Bcm) :
    ∃ initialised', Represents topology initialised' (qcomIccBcmInit topology db bcm network).2 := by
  obtain ⟨errno, hinit⟩ | ⟨-, hinit⟩ | ⟨hnew, hroom, addr, data, haddr, hinit⟩ :=
    qcomIccBcmInit_cases topology db bcm network
  · exact ⟨initialised, by rwa [hinit]⟩
  · exact ⟨initialised, by rwa [hinit]⟩
  · exact ⟨initialised ++ [bcm], by rw [hinit]; exact h.commit hnew hroom haddr data⟩

theorem Represents.initAll (h : Represents topology initialised network) (db : CmdDb Bcm)
    (bcms : List Bcm) :
    ∃ initialised', Represents topology initialised' (initAll topology db bcms network).2 := by
  induction bcms generalizing initialised network with
  | nil => exact ⟨initialised, h⟩
  | cons bcm bcms ih =>
    obtain ⟨initialised', h'⟩ := h.init db bcm
    unfold Interconnect.initAll
    -- Whatever the first one links stays linked when a later one fails.
    split
    next hinit => exact ⟨initialised', by rwa [hinit] at h'⟩
    next hinit => exact ih (by rwa [hinit] at h')

theorem Represents.probe (h : Represents topology initialised network) (attempt : Attempt Bcm) :
    ∃ initialised', Represents topology initialised' (qcomIccRpmhProbe topology attempt network).2 := by
  unfold qcomIccRpmhProbe
  split
  · exact ⟨initialised, h⟩
  · exact h.initAll attempt.db attempt.bcms

/-- The network stands for a list of initialised BCMs after any number of probes. -/
theorem represents_run (topology : Topology Bcm Node) (auxData : Bcm → AuxData)
    (attempts : List (Attempt Bcm)) :
    ∃ initialised, Represents topology initialised (run topology auxData attempts) := by
  suffices hrun : ∀ (network : Network Bcm Node) (initialised : List Bcm),
      Represents topology initialised network → ∃ initialised', Represents topology initialised'
        (attempts.foldl (fun network attempt ↦ (qcomIccRpmhProbe topology attempt network).2) network) from
    hrun _ [] (represents_fresh topology auxData)
  induction attempts with
  | nil => exact fun _ initialised h ↦ ⟨initialised, h⟩
  | cons attempt attempts ih =>
    intro network initialised h
    obtain ⟨initialised', h'⟩ := h.probe attempt
    exact ih _ initialised' h'

/-! ## Links -/

theorem Represents.count (h : Represents topology initialised network) (bcm : Bcm) (node : Node) :
    (network.bcms node).count bcm =
      if (network.bcm bcm).addr ≠ 0 ∧ node ∈ topology.nodes bcm then 1 else 0 := by
  calc (network.bcms node).count bcm
      = (initialised.filter (node ∈ topology.nodes ·)).count bcm := by rw [h.bcms node]
    _ = if bcm ∈ initialised.filter (node ∈ topology.nodes ·) then 1 else 0 :=
      List.Nodup.count (h.nodup.filter _)
    _ = if (network.bcm bcm).addr ≠ 0 ∧ node ∈ topology.nodes bcm then 1 else 0 := by
      simp [h.addr bcm]

/-- What the BCMs and the nodes say of each other. -/
structure SoundLinks (topology : Topology Bcm Node) (network : Network Bcm Node) : Prop where
  unchanged : ∀ db bcm errno, (qcomIccBcmInit topology db bcm network).1 = some errno →
    (qcomIccBcmInit topology db bcm network).2 = network
  initialised : ∀ db bcm, (qcomIccBcmInit topology db bcm network).1 = none →
    ((qcomIccBcmInit topology db bcm network).2.bcm bcm).addr ≠ 0 ∧
      ∀ node ∈ topology.nodes bcm, bcm ∈ (qcomIccBcmInit topology db bcm network).2.bcms node
  succeeds : ∀ db bcm data count, db.readAddr bcm ≠ 0 → db.readAuxData bcm = .ok (data, count) →
    auxDataSize ≤ count → (∀ node ∈ topology.nodes bcm, (network.bcms node).length < topology.maxBcms) →
    (qcomIccBcmInit topology db bcm network).1 = none
  linked : ∀ bcm, (network.bcm bcm).addr ≠ 0 ↔ ∀ node ∈ topology.nodes bcm, bcm ∈ network.bcms node
  once : ∀ bcm node, (network.bcms node).count bcm =
    if (network.bcm bcm).addr ≠ 0 ∧ node ∈ topology.nodes bcm then 1 else 0
  room : ∀ node, (network.bcms node).length ≤ topology.maxBcms

omit [DecidableEq Bcm] in
theorem Represents.linked (h : Represents topology initialised network) (bcm : Bcm) :
    (network.bcm bcm).addr ≠ 0 ↔ ∀ node ∈ topology.nodes bcm, bcm ∈ network.bcms node := by
  have hmem : ∀ node, bcm ∈ network.bcms node ↔ bcm ∈ initialised ∧ node ∈ topology.nodes bcm := by
    intro node
    simp [h.bcms node]
  constructor
  · intro haddr node hnode
    exact (hmem node).2 ⟨(h.addr bcm).1 haddr, hnode⟩
  · intro hlinked
    -- A BCM has a node, and that node knows whether the BCM is initialised.
    obtain ⟨node, hnode⟩ := List.exists_mem_of_ne_nil _ (topology.nonempty bcm)
    exact (h.addr bcm).2 ((hmem node).1 (hlinked node hnode)).1

theorem qcomIccBcmInit_unchanged (topology : Topology Bcm Node) (db : CmdDb Bcm) (bcm : Bcm)
    (network : Network Bcm Node) {errno : Errno}
    (hfails : (qcomIccBcmInit topology db bcm network).1 = some errno) :
    (qcomIccBcmInit topology db bcm network).2 = network := by
  obtain ⟨_, hinit⟩ | ⟨-, hinit⟩ | ⟨_, _, _, _, _, hinit⟩ := qcomIccBcmInit_cases topology db bcm network
  · rw [hinit]
  · rw [hinit]
  · rw [hinit] at hfails
    cases hfails

theorem qcomIccBcmInit_succeeds {db : CmdDb Bcm} {bcm : Bcm} (network : Network Bcm Node) {data : AuxData}
    {count : ℕ} (haddr : db.readAddr bcm ≠ 0) (hdata : db.readAuxData bcm = .ok (data, count))
    (hcount : auxDataSize ≤ count)
    (hroom : ∀ node ∈ topology.nodes bcm, (network.bcms node).length < topology.maxBcms) :
    (qcomIccBcmInit topology db bcm network).1 = none := by
  have hfits : ¬∃ node ∈ topology.nodes bcm, topology.maxBcms ≤ (network.bcms node).length := by
    rintro ⟨node, hnode, hfull⟩
    exact Nat.not_le_of_lt (hroom node hnode) hfull
  unfold qcomIccBcmInit
  split
  · rfl
  · simp only [hdata, if_neg (Nat.not_lt.2 hcount)]

/-- An initialisation that reports success leaves its BCM with an address. -/
theorem qcomIccBcmInit_addr (topology : Topology Bcm Node) (db : CmdDb Bcm) (bcm : Bcm)
    (network : Network Bcm Node) (hdone : (qcomIccBcmInit topology db bcm network).1 = none) :
    ((qcomIccBcmInit topology db bcm network).2.bcm bcm).addr ≠ 0 := by
  obtain ⟨_, hinit⟩ | ⟨hold, hinit⟩ | ⟨_, _, addr, data, haddr, hinit⟩ :=
    qcomIccBcmInit_cases topology db bcm network
  · rw [hinit] at hdone
    cases hdone
  · rwa [hinit]
  · rwa [hinit, commit_addr, if_pos rfl]

/-- After any number of probes that got as far as they could, the links are sound. -/
theorem soundLinks_run (topology : Topology Bcm Node) (auxData : Bcm → AuxData)
    (attempts : List (Attempt Bcm)) : SoundLinks topology (run topology auxData attempts) := by
  obtain ⟨initialised, h⟩ := represents_run topology auxData attempts
  exact
    { unchanged := fun db bcm _ hfails ↦ qcomIccBcmInit_unchanged topology db bcm _ hfails
      initialised := fun db bcm hdone ↦ by
        obtain ⟨initialised', h'⟩ := h.init db bcm
        have haddr := qcomIccBcmInit_addr topology db bcm _ hdone
        exact ⟨haddr, (h'.linked bcm).1 haddr⟩
      succeeds := fun db bcm data count haddr hdata hcount hroom ↦
        qcomIccBcmInit_succeeds _ haddr hdata hcount hroom
      linked := h.linked
      once := h.count
      room := h.room }

end

end TclB220G.Interconnect
