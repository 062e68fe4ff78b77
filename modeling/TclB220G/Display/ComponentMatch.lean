import Mathlib.Algebra.Group.Pi.Lemmas
import TclB220G.Kernel.Errno
import TclB220G.Lib.Ledger
import TclB220G.Lib.Triple

/-!
# Components of the display by firmware node

`msm_add_fwnode_interfaces` walks over the endpoints of the display controller and adds a match entry for
the device behind each of them.  An entry owns a reference on its node; everything else that is taken on
the way is given back: the endpoint that the walk is at, the remote endpoint, its port and the remote
device.

The match entries are in an object that is managed by the master.  If the array of the object cannot
grow, the pointer to it becomes an error, but the object and its entries stay with the master.
-/

namespace TclB220G.Display.Components

open Kernel Kernel.Errno Lib

/-! ## Model of the source -/

/-- The endpoints of the master in the order of the walk, and what the firmware says of nodes. -/
structure Graph (Node : Type) where
  endpoints : List Node
  remoteEndpoint : Node → Option Node
  parent : Node → Option Node
  portParent : Node → Option Node
  isAvailable : Node → Bool

/-- `struct component_match`: the size of the array, and the nodes of the entries in use. -/
structure Match (Node : Type) where
  alloc : ℕ
  compare : List Node
  deriving DecidableEq, Repr

/-- What `*matchptr` can be. -/
inductive MatchPtr (Node : Type) where
  | null
  | object (table : Match Node)
  | error (errno : Errno)
  deriving DecidableEq, Repr

/-- The match objects that the master manages: the one that the pointer points to and the others. -/
structure Matches (Node : Type) where
  ptr : MatchPtr Node
  others : List (Match Node)
  deriving DecidableEq, Repr

inductive WalkCall (Node : Type) where
  | fwnodeHandleGet (node : Node)
  | fwnodeHandlePut (node : Node)
  | devresAlloc
  | kmallocArray
  /-- An entry is written to the array. -/
  | store (node : Node)
  deriving DecidableEq, Repr

namespace MatchPtr

variable {Node : Type}

def compare : MatchPtr Node → List Node
  | object table => table.compare
  | _ => []

end MatchPtr

namespace Matches

variable {Node : Type}

variable (master : Matches Node)

/-- A new object, or an error in its place. -/
def allocate (succeeds : Bool) : Matches Node :=
  { master with ptr := if succeeds then .object ⟨0, []⟩ else .error ENOMEM }

/-- `component_match_realloc` with room for 16 more entries. -/
def grow (succeeds : Bool) : Matches Node :=
  match master.ptr with
  | .object table =>
    if succeeds then { master with ptr := .object { table with alloc := table.alloc + 16 } }
    else ⟨.error ENOMEM, table :: master.others⟩
  | _ => master

def store (node : Node) : Matches Node :=
  match master.ptr with
  | .object table =>
    { master with ptr := .object { table with compare := table.compare ++ [node] } }
  | _ => master

/-- The nodes of all entries. -/
def entries : List Node :=
  master.ptr.compare ++ master.others.flatMap Match.compare

end Matches

section

variable {Node : Type}

/-- The calls of the walk, from match objects as they were before.  An allocation fails with a null
pointer. -/
def calls (start : Matches Node) : Interface (WalkCall Node) (Matches Node) where
  initial := start
  effect
    | .devresAlloc, answer, master => master.allocate (answer ≠ 0)
    | .kmallocArray, answer, master => master.grow (answer ≠ 0)
    | .store node, _, master => master.store node
    | .fwnodeHandleGet _, _, master | .fwnodeHandlePut _, _, master => master
  failed
    | .devresAlloc, answer | .kmallocArray, answer => answer = 0
    | _, _ => false
  errno _ _ := ENOMEM.ret
  errno_ne_zero _ _ _ := ENOMEM.ret_ne_zero

/-- Nothing happens to a null pointer. -/
def fwnodeHandleGet : Option Node → Script (WalkCall Node) Unit
  | none => pure ()
  | some node => do
    let _ ← Script.invoke (.fwnodeHandleGet node)

def fwnodeHandlePut : Option Node → Script (WalkCall Node) Unit
  | none => pure ()
  | some node => do
    let _ ← Script.invoke (.fwnodeHandlePut node)

/-- `fwnode_graph_get_next_endpoint` gives back the endpoint before. -/
def fwnodeGraphGetNextEndpoint (prev next : Option Node) : Script (WalkCall Node) Unit := do
  fwnodeHandlePut prev
  fwnodeHandleGet next

def fwnodeGraphGetPortParent (graph : Graph Node) (endpoint : Option Node) :
    Script (WalkCall Node) (Option Node) := do
  let port := endpoint.bind graph.parent
  fwnodeHandleGet port
  let parent := port.bind graph.portParent
  fwnodeHandleGet parent
  fwnodeHandlePut port
  return parent

def fwnodeGraphGetRemotePortParent (graph : Graph Node) (ep : Node) :
    Script (WalkCall Node) (Option Node) := do
  let endpoint := graph.remoteEndpoint ep
  fwnodeHandleGet endpoint
  let parent ← fwnodeGraphGetPortParent graph endpoint
  fwnodeHandlePut endpoint
  return parent

/-- The part of `__component_match_add` from where there is an object. -/
def addEntry (start : Matches Node) (node : Node) : Script (WalkCall Node) Unit := do
  let master ← Script.state (calls start)
  match master.ptr with
  | .object table =>
    if table.compare.length = table.alloc then
      if ← Script.succeeds (calls start) .kmallocArray then
        let _ ← Script.invoke (.store node)
    else
      let _ ← Script.invoke (.store node)
  | _ => pure ()

def componentMatchAddRelease (start : Matches Node) (node : Node) : Script (WalkCall Node) Unit := do
  let master ← Script.state (calls start)
  match master.ptr with
  | .error _ => pure ()
  | .null =>
    if ← Script.succeeds (calls start) .devresAlloc then
      addEntry start node
  | .object _ => addEntry start node

def msmComponentReleaseFwnode (node : Node) : Script (WalkCall Node) Unit := fwnodeHandlePut (some node)

/-- The part of `msm_component_match_fwnode` after its first test. -/
def handOver (start : Matches Node) (node : Node) : Script (WalkCall Node) Unit := do
  fwnodeHandleGet (some node)
  componentMatchAddRelease start node
  let master ← Script.state (calls start)
  match master.ptr with
  | .error errno =>
    fwnodeHandlePut (some node)
    Script.abort errno.ret
  | _ => pure ()

def msmComponentMatchFwnode (start : Matches Node) (node : Node) : Script (WalkCall Node) Unit := do
  let master ← Script.state (calls start)
  match master.ptr with
  | .error errno => Script.abort errno.ret
  | _ => handOver start node

/-- The body of the loop. -/
def visit (start : Matches Node) (graph : Graph Node) (ep : Node) : Script (WalkCall Node) Unit := do
  match ← fwnodeGraphGetRemotePortParent graph ep with
  | none => pure ()
  | some remote =>
    let ret ← Script.attempt <|
      if graph.isAvailable remote then msmComponentMatchFwnode start remote else pure ()
    fwnodeHandlePut (some remote)
    match ret with
    | .error error =>
      fwnodeHandlePut (some ep)
      Script.abort error
    | .ok () => pure ()

/-- The loop from an endpoint on. -/
def visitAll (start : Matches Node) (graph : Graph Node) : List Node → Script (WalkCall Node) Unit
  | [] => pure ()
  | ep :: rest => do
    visit start graph ep
    fwnodeGraphGetNextEndpoint (some ep) rest.head?
    visitAll start graph rest

def msmAddFwnodeInterfaces (start : Matches Node) (graph : Graph Node) : Script (WalkCall Node) Unit := do
  fwnodeGraphGetNextEndpoint none graph.endpoints.head?
  visitAll start graph graph.endpoints

/-- `component_match_release` on all match objects, when the resources of the master are released. -/
def componentMatchRelease (start : Matches Node) : Script (WalkCall Node) Unit := do
  let master ← Script.state (calls start)
  Script.inOrder (master.entries.map msmComponentReleaseFwnode)

/-! ## Counts -/

variable [DecidableEq Node]

/-- What a call does to the reference counts. -/
def WalkCall.change : WalkCall Node → ℤ → Node → ℤ
  | fwnodeHandleGet node, _ => Pi.single node 1
  | fwnodeHandlePut node, _ => -Pi.single node 1
  | _, _ => 0

/-- How often each node is in a list. -/
def tally (nodes : List Node) : Node → ℤ := fun node ↦ nodes.count node

/-- The reference that a pointer stands for. -/
def reference : Option Node → Node → ℤ
  | none => 0
  | some node => Pi.single node 1

theorem tally_nonneg (nodes : List Node) : 0 ≤ tally nodes := fun _ ↦ Int.natCast_nonneg _

theorem tally_nil : tally ([] : List Node) = 0 := rfl

theorem reference_nonneg (node : Option Node) : 0 ≤ reference node := by
  cases node with
  | none => exact le_rfl
  | some node => exact Pi.single_nonneg.2 Int.one_nonneg

theorem tally_append (first second : List Node) : tally (first ++ second) = tally first + tally second := by
  funext node
  simp [tally]

theorem tally_singleton (node : Node) : tally [node] = Pi.single node 1 := by
  funext other
  by_cases hother : other = node
  · simp [tally, hother]
  · simp [tally, hother, Ne.symm hother]

namespace Matches

omit [DecidableEq Node] in
theorem entries_allocate {master : Matches Node} (hnull : master.ptr = .null) (succeeds : Bool) :
    (master.allocate succeeds).entries = master.entries := by
  cases succeeds <;> simp [allocate, entries, MatchPtr.compare, hnull]

omit [DecidableEq Node] in
/-- The entries of an object that cannot grow stay with the master. -/
theorem entries_grow (master : Matches Node) (succeeds : Bool) :
    (master.grow succeeds).entries = master.entries := by
  unfold grow
  split
  next table htable => cases succeeds <;> simp [entries, MatchPtr.compare, htable]
  next => rfl

theorem tally_store {master : Matches Node} {table : Match Node} (htable : master.ptr = .object table)
    (node : Node) : tally (master.store node).entries = tally master.entries + tally [node] := by
  calc
    tally (master.store node).entries =
        tally (table.compare ++ [node]) + tally (master.others.flatMap Match.compare) := by
      rw [store, htable, entries, tally_append]
      rfl
    _ = tally table.compare + tally (master.others.flatMap Match.compare) + tally [node] := by
      rw [tally_append, add_right_comm]
    _ = tally master.entries + tally [node] := by
      rw [entries, htable, tally_append]
      rfl

end Matches

/-! ## References that are held -/

/-- After the calls of a trace the master has the match objects `current`, with the entries `added` more
than at the start.  Each of these owns a reference, and the references in `held` were taken besides.
No reference was given back that had not been taken. -/
structure Sound (start current : Matches Node) (added : List Node) (held : Node → ℤ)
    (trace : List (WalkCall Node × ℤ)) : Prop where
  replay_eq : (calls start).replay trace = current
  covered : Covered WalkCall.change trace
  owned : tally current.entries = tally start.entries + tally added
  total_eq : total WalkCall.change trace = tally added + held

/-- The same for some match objects. -/
def Balanced (start : Matches Node) (added : List Node) (held : Node → ℤ)
    (trace : List (WalkCall Node × ℤ)) : Prop :=
  ∃ current, Sound start current added held trace

variable {start current next : Matches Node} {added added' : List Node} {held held' : Node → ℤ}
  {trace : List (WalkCall Node × ℤ)} {failing : List (WalkCall Node × ℤ) → Prop}

namespace Sound

theorem cons (h : Sound start current added held trace) {call : WalkCall Node} {answer : ℤ}
    (heffect : (calls start).effect call answer current = next)
    (howned : tally next.entries = tally start.entries + tally added') (hheld : 0 ≤ held')
    (hchange : tally added + held + call.change answer = tally added' + held') :
    Sound start next added' held' ((call, answer) :: trace) where
  replay_eq := by
    rw [Interface.replay_cons, h.replay_eq]
    exact heffect
  covered := by
    apply h.covered.cons
    rw [h.total_eq, hchange]
    exact add_nonneg (tally_nonneg added') hheld
  owned := howned
  total_eq := by
    rw [total_cons, h.total_eq]
    exact hchange

/-- A call that leaves the entries and the references as they are. -/
theorem idle (h : Sound start current added held trace) {call : WalkCall Node} {answer : ℤ}
    (heffect : (calls start).effect call answer current = next)
    (hentries : next.entries = current.entries) (hheld : 0 ≤ held)
    (hchange : call.change answer = 0) : Sound start next added held ((call, answer) :: trace) := by
  apply h.cons heffect (hentries ▸ h.owned) hheld
  rw [hchange, add_zero]

/-- An entry takes over a reference. -/
theorem store {node : Node} (h : Sound start current added (held + reference (some node)) trace)
    {table : Match Node} (htable : current.ptr = .object table) (hheld : 0 ≤ held) (answer : ℤ) :
    Sound start (current.store node) (added ++ [node]) held ((.store node, answer) :: trace) := by
  have howned : tally (current.store node).entries = tally start.entries + tally (added ++ [node]) := by
    rw [Matches.tally_store htable, h.owned, tally_append, add_assoc]
  have hchange : (WalkCall.store node).change answer = 0 := rfl
  refine h.cons rfl howned hheld ?_
  calc
    tally added + (held + reference (some node)) + (WalkCall.store node).change answer =
        tally added + reference (some node) + held := by
      rw [hchange, add_zero, add_comm held, add_assoc]
    _ = tally (added ++ [node]) + held := by
      rw [tally_append, tally_singleton, reference]

end Sound

theorem triple_get (hheld : 0 ≤ held) (node : Option Node) :
    (fwnodeHandleGet node).Triple (Sound start current added held)
      (fun _ ↦ Sound start current added (held + reference node)) failing := by
  cases node with
  | none =>
    apply Script.triple_pure
    intro trace h
    rwa [reference, add_zero]
  | some node =>
    refine Script.triple_bind (Script.triple_invoke fun answer trace h ↦ ?_) fun _ ↦
      Script.triple_pure fun _ h ↦ h
    exact h.cons rfl h.owned (add_nonneg hheld (reference_nonneg _)) (add_assoc _ _ _)

theorem triple_put (hheld : 0 ≤ held) (node : Option Node) :
    (fwnodeHandlePut node).Triple (Sound start current added (held + reference node))
      (fun _ ↦ Sound start current added held) failing := by
  cases node with
  | none =>
    apply Script.triple_pure
    intro trace h
    rwa [reference, add_zero] at h
  | some node =>
    refine Script.triple_bind (Script.triple_invoke fun answer trace h ↦ ?_) fun _ ↦
      Script.triple_pure fun _ h ↦ h
    refine h.cons rfl h.owned hheld ?_
    rw [WalkCall.change, reference, ← add_assoc, add_neg_cancel_right]

/-- A script that goes by the match objects as they are. -/
theorem triple_master {α : Type} {next : Matches Node → Script (WalkCall Node) α}
    {later : α → List (WalkCall Node × ℤ) → Prop}
    (hnext : (next current).Triple (Sound start current added held) later failing) :
    (Script.state (calls start) >>= next).Triple (Sound start current added held) later failing := by
  apply Script.triple_state
  intro master oracle trace h
  obtain ⟨hsound, hmaster⟩ := h
  rw [← hmaster, hsound.replay_eq]
  exact hnext oracle trace hsound

/-! ## The remote device -/

namespace Graph

variable (graph : Graph Node)

def remotePortParent (ep : Node) : Option Node :=
  ((graph.remoteEndpoint ep).bind graph.parent).bind graph.portParent

/-- The device that an endpoint asks for. -/
def component (ep : Node) : Option Node := (graph.remotePortParent ep).filter graph.isAvailable

/-- The devices that the endpoints ask for. -/
def components : List Node := graph.endpoints.filterMap graph.component

end Graph

variable (graph : Graph Node)

theorem triple_getPortParent (hheld : 0 ≤ held) (endpoint : Option Node) :
    (fwnodeGraphGetPortParent graph endpoint).Triple (Sound start current added held)
      (fun parent trace ↦ parent = (endpoint.bind graph.parent).bind graph.portParent ∧
        Sound start current added (held + reference parent) trace) failing := by
  have hport := add_nonneg hheld (reference_nonneg (endpoint.bind graph.parent))
  refine Script.triple_bind (triple_get hheld _) fun _ ↦ ?_
  refine Script.triple_bind (triple_get hport _) fun _ ↦ ?_
  -- The port is given back while the parent is still held.
  rw [add_right_comm]
  refine Script.triple_bind (triple_put (add_nonneg hheld (reference_nonneg _)) _) fun _ ↦ ?_
  exact Script.triple_pure fun _ h ↦ ⟨rfl, h⟩

theorem triple_getRemotePortParent (hheld : 0 ≤ held) (ep : Node) :
    (fwnodeGraphGetRemotePortParent graph ep).Triple (Sound start current added held)
      (fun parent trace ↦ parent = graph.remotePortParent ep ∧
        Sound start current added (held + reference parent) trace) failing := by
  have hendpoint := add_nonneg hheld (reference_nonneg (graph.remoteEndpoint ep))
  refine Script.triple_bind (triple_get hheld _) fun _ ↦ ?_
  refine Script.triple_bind (triple_getPortParent graph hendpoint _) fun parent ↦ ?_
  apply Script.triple_given
  intro hparent
  rw [add_right_comm]
  refine Script.triple_bind (triple_put (add_nonneg hheld (reference_nonneg _)) _) fun _ ↦ ?_
  exact Script.triple_pure fun _ h ↦ ⟨hparent, h⟩

/-! ## Match entries -/

/-- The reference on the node belongs to a new entry, or there is an error and no new entry. -/
def Handed (start : Matches Node) (added : List Node) (held : Node → ℤ) (node : Node)
    (trace : List (WalkCall Node × ℤ)) : Prop :=
  (∃ current table, current.ptr = .object table ∧ Sound start current (added ++ [node]) held trace) ∨
    ∃ current errno, current.ptr = .error errno ∧
      Sound start current added (held + reference (some node)) trace

theorem triple_store {table : Match Node} (htable : current.ptr = .object table) (hheld : 0 ≤ held)
    (node : Node) :
    (do let _ ← Script.invoke (.store node) : Script (WalkCall Node) Unit).Triple
      (Sound start current added (held + reference (some node)))
      (fun _ ↦ Handed start added held node) failing := by
  have hptr : (current.store node).ptr = .object { table with compare := table.compare ++ [node] } := by
    rw [Matches.store, htable]
  refine Script.triple_bind (Script.triple_invoke fun answer trace h ↦ ?_) fun _ ↦
    Script.triple_pure fun _ h ↦ h
  exact .inl ⟨_, _, hptr, h.store htable hheld answer⟩

theorem triple_addEntry {table : Match Node} (htable : current.ptr = .object table) (hheld : 0 ≤ held)
    (node : Node) :
    (addEntry start node).Triple (Sound start current added (held + reference (some node)))
      (fun _ ↦ Handed start added held node) failing := by
  have hboth := add_nonneg hheld (reference_nonneg (some node))
  have hgrow : (Script.succeeds (calls start) .kmallocArray).Triple
      (Sound start current added (held + reference (some node)))
      (fun succeeds ↦ Sound start (current.grow succeeds) added (held + reference (some node))) failing := by
    apply Script.triple_succeeds
    intro answer trace h
    refine h.idle ?_ (current.entries_grow _) hboth rfl
    simp [calls]
  apply triple_master
  rw [htable]
  dsimp only
  split
  · refine Script.triple_bind hgrow fun succeeds ↦ ?_
    cases succeeds with
    | true =>
      have hptr : (current.grow true).ptr = .object { table with alloc := table.alloc + 16 } := by
        rw [Matches.grow, htable]
        rfl
      exact triple_store hptr hheld node
    | false =>
      have hptr : (current.grow false).ptr = .error ENOMEM := by
        rw [Matches.grow, htable]
        rfl
      exact Script.triple_pure fun _ h ↦ .inr ⟨_, _, hptr, h⟩
  · exact triple_store htable hheld node

theorem triple_matchAddRelease (hptr : ∀ errno, current.ptr ≠ .error errno) (hheld : 0 ≤ held)
    (node : Node) :
    (componentMatchAddRelease start node).Triple
      (Sound start current added (held + reference (some node)))
      (fun _ ↦ Handed start added held node) failing := by
  have hboth := add_nonneg hheld (reference_nonneg (some node))
  apply triple_master
  cases hcurrent : current.ptr with
  | error errno => exact absurd hcurrent (hptr errno)
  | object table => exact triple_addEntry hcurrent hheld node
  | null =>
    have halloc : (Script.succeeds (calls start) .devresAlloc).Triple
        (Sound start current added (held + reference (some node)))
        (fun succeeds ↦ Sound start (current.allocate succeeds) added (held + reference (some node)))
        failing := by
      apply Script.triple_succeeds
      intro answer trace h
      refine h.idle ?_ (Matches.entries_allocate hcurrent _) hboth rfl
      simp [calls]
    refine Script.triple_bind halloc fun succeeds ↦ ?_
    cases succeeds with
    | true => exact triple_addEntry rfl hheld node
    | false => exact Script.triple_pure fun _ h ↦ .inr ⟨_, _, rfl, h⟩

theorem triple_handOver (hptr : ∀ errno, current.ptr ≠ .error errno) (hheld : 0 ≤ held) (node : Node) :
    (handOver start node).Triple (Sound start current added held)
      (fun _ ↦ Balanced start (added ++ [node]) held) (Balanced start added held) := by
  refine Script.triple_bind (triple_get hheld _) fun _ ↦ ?_
  refine Script.triple_bind (triple_matchAddRelease hptr hheld node) fun _ ↦ ?_
  apply Script.triple_or
  · -- The entry owns the reference.
    refine Script.triple_exists fun current ↦ Script.triple_exists fun table ↦ ?_
    apply Script.triple_given
    intro htable
    apply triple_master
    rw [htable]
    exact Script.triple_pure fun _ h ↦ ⟨current, h⟩
  · refine Script.triple_exists fun current ↦ Script.triple_exists fun errno ↦ ?_
    apply Script.triple_given
    intro herrno
    apply triple_master
    rw [herrno]
    refine Script.triple_bind (triple_put hheld _) fun _ ↦ ?_
    exact Script.triple_abort fun _ h ↦ ⟨current, h⟩

/-- An entry for the node is added, or nothing is left of the attempt. -/
theorem triple_matchFwnode (hheld : 0 ≤ held) (node : Node) :
    (msmComponentMatchFwnode start node).Triple (Sound start current added held)
      (fun _ ↦ Balanced start (added ++ [node]) held) (Balanced start added held) := by
  apply triple_master
  cases hcurrent : current.ptr with
  | error errno => exact Script.triple_abort fun _ h ↦ ⟨current, h⟩
  | null => exact triple_handOver (by simp [hcurrent]) hheld node
  | object table => exact triple_handOver (by simp [hcurrent]) hheld node

/-! ## The walk -/

/-- A script that does the same whatever the match objects are. -/
theorem triple_balanced {script : Script (WalkCall Node) Unit}
    (hscript : ∀ current, script.Triple (Sound start current added held)
      (fun _ ↦ Sound start current added' held') failing) :
    script.Triple (Balanced start added held) (fun _ ↦ Balanced start added' held') failing := by
  apply Script.triple_exists
  intro current
  exact Script.triple_consequence (hscript current) (fun _ h ↦ h) (fun _ _ h ↦ ⟨current, h⟩) fun _ h ↦ h

theorem triple_put_balanced (hheld : 0 ≤ held) (node : Option Node) :
    (fwnodeHandlePut node).Triple (Balanced start added (held + reference node))
      (fun _ ↦ Balanced start added held) failing :=
  triple_balanced fun _ ↦ triple_put hheld node

/-- The part of the body where there is a remote device. -/
theorem triple_remote (hheld : 0 ≤ held) (remote : Node) :
    (if graph.isAvailable remote then msmComponentMatchFwnode start remote else pure ()).Triple
      (Sound start current added held)
      (fun _ ↦ Balanced start (added ++ ((some remote).filter graph.isAvailable).toList) held)
      (Balanced start added held) := by
  rw [Option.filter_some]
  cases graph.isAvailable remote with
  | true => exact triple_matchFwnode hheld remote
  | false =>
    apply Script.triple_pure
    intro trace h
    exact ⟨current, by simpa using h⟩

/-- The body of the loop holds the endpoint, and gives it back if it fails. -/
theorem triple_visit (hheld : 0 ≤ held) (ep : Node) :
    (visit start graph ep).Triple (Balanced start added (held + reference (some ep)))
      (fun _ ↦ Balanced start (added ++ (graph.component ep).toList) (held + reference (some ep)))
      (Balanced start added held) := by
  have hep := add_nonneg hheld (reference_nonneg (some ep))
  apply Script.triple_exists
  intro current
  refine Script.triple_bind (triple_getRemotePortParent graph hep ep) fun parent ↦ ?_
  apply Script.triple_given
  rintro rfl
  rw [Graph.component]
  cases graph.remotePortParent ep with
  | none =>
    apply Script.triple_pure
    intro trace h
    exact ⟨current, by simpa [reference] using h⟩
  | some remote =>
    have hboth := add_nonneg hep (reference_nonneg (some remote))
    apply Script.triple_attempt (triple_remote graph hboth remote)
    · intro _
      refine Script.triple_bind (triple_put_balanced hep _) fun _ ↦ ?_
      exact Script.triple_pure fun _ h ↦ h
    · intro error
      refine Script.triple_bind (triple_put_balanced hep _) fun _ ↦ ?_
      refine Script.triple_bind (triple_put_balanced hheld _) fun _ ↦ ?_
      exact Script.triple_abort fun _ h ↦ h

theorem triple_getNextEndpoint (hheld : 0 ≤ held) (prev next : Option Node) :
    (fwnodeGraphGetNextEndpoint prev next).Triple (Balanced start added (held + reference prev))
      (fun _ ↦ Balanced start added (held + reference next)) failing :=
  Script.triple_bind (triple_put_balanced hheld prev) fun _ ↦
    triple_balanced fun _ ↦ triple_get hheld next

/-- The loop adds an entry for each device that its endpoints ask for, up to where it fails. -/
theorem triple_visitAll (hheld : 0 ≤ held) (eps : List Node) :
    (visitAll start graph eps).Triple (Balanced start added (held + reference eps.head?))
      (fun _ ↦ Balanced start (added ++ eps.filterMap graph.component) held)
      (fun trace ↦ ∃ more, more <+: eps.filterMap graph.component ∧
        Balanced start (added ++ more) held trace) := by
  induction eps generalizing added with
  | nil =>
    apply Script.triple_pure
    intro trace h
    simpa [reference] using h
  | cons ep rest ih =>
    have hcons : (ep :: rest).filterMap graph.component =
        (graph.component ep).toList ++ rest.filterMap graph.component := by
      cases hcomponent : graph.component ep with
      | none => exact List.filterMap_cons_none hcomponent
      | some node => exact List.filterMap_cons_some hcomponent
    rw [hcons, ← List.append_assoc]
    have hvisit : (visit start graph ep).Triple (Balanced start added (held + reference (some ep)))
        (fun _ ↦ Balanced start (added ++ (graph.component ep).toList) (held + reference (some ep)))
        (fun trace ↦ ∃ more, more <+: (graph.component ep).toList ++ rest.filterMap graph.component ∧
          Balanced start (added ++ more) held trace) :=
      Script.triple_consequence (triple_visit graph hheld ep) (fun _ h ↦ h) (fun _ _ h ↦ h)
        fun _ h ↦ ⟨[], List.nil_prefix, by simpa using h⟩
    refine Script.triple_bind hvisit fun _ ↦ ?_
    refine Script.triple_bind (triple_getNextEndpoint hheld _ _) fun _ ↦ ?_
    refine Script.triple_consequence ih (fun _ h ↦ h) (fun _ _ h ↦ h) ?_
    rintro trace ⟨more, hmore, hbalanced⟩
    refine ⟨(graph.component ep).toList ++ more, List.prefix_append_right_inj _ |>.2 hmore, ?_⟩
    rwa [← List.append_assoc]

theorem triple_addFwnodeInterfaces :
    (msmAddFwnodeInterfaces start graph).Triple (Balanced start [] 0)
      (fun _ ↦ Balanced start graph.components 0)
      (fun trace ↦ ∃ added, added <+: graph.components ∧ Balanced start added 0 trace) := by
  have hfirst : (fwnodeGraphGetNextEndpoint none graph.endpoints.head?).Triple
      (Balanced start [] (0 + reference none))
      (fun _ ↦ Balanced start [] (0 + reference graph.endpoints.head?))
      (fun trace ↦ ∃ added, added <+: graph.components ∧ Balanced start added 0 trace) :=
    triple_getNextEndpoint le_rfl none graph.endpoints.head?
  rw [reference, add_zero] at hfirst
  exact Script.triple_bind hfirst fun _ ↦ triple_visitAll graph le_rfl graph.endpoints

theorem balanced_nil (start : Matches Node) : Balanced start [] 0 [] := by
  refine ⟨start, rfl, trivial, ?_, ?_⟩
  · rw [tally_nil, add_zero]
  · rw [tally_nil, add_zero]
    rfl

/-- The entries that the walk has added when it ends. -/
theorem balanced_addFwnodeInterfaces (start : Matches Node) (graph : Graph Node)
    (oracle : ℕ → WalkCall Node → ℤ) :
    ∃ added, added <+: graph.components ∧
      ((msmAddFwnodeInterfaces start graph oracle []).1 = .ok () → added = graph.components) ∧
      Balanced start added 0 (msmAddFwnodeInterfaces start graph oracle []).2 := by
  have hend := triple_addFwnodeInterfaces graph oracle [] (balanced_nil start)
  revert hend
  cases (msmAddFwnodeInterfaces start graph oracle []).1 with
  | error error =>
    rintro ⟨added, hprefix, hbalanced⟩
    exact ⟨added, hprefix, nofun, hbalanced⟩
  | ok value => exact fun hbalanced ↦ ⟨_, List.prefix_rfl, fun _ ↦ rfl, hbalanced⟩

/-- Whatever the endpoints lead to and whichever allocation fails, the walk raises the reference count of
every node by as many as there are new entries for it, and on the way it gives back no reference that it
has not taken.  The new entries are for the devices that the endpoints ask for, in the order of the
endpoints; if the walk succeeds, for all of them. -/
theorem interfaces_balanced (start : Matches Node) (graph : Graph Node) (oracle : ℕ → WalkCall Node → ℤ) :
    (∀ node, total WalkCall.change (msmAddFwnodeInterfaces start graph oracle []).2 node =
      (((calls start).replay (msmAddFwnodeInterfaces start graph oracle []).2).entries.count node : ℤ) -
        start.entries.count node) ∧
    (∀ later earlier, (msmAddFwnodeInterfaces start graph oracle []).2 = later ++ earlier →
      0 ≤ total WalkCall.change earlier) ∧
    ∃ added, added <+: graph.components ∧
      ((msmAddFwnodeInterfaces start graph oracle []).1 = .ok () → added = graph.components) ∧
      ∀ node, ((calls start).replay (msmAddFwnodeInterfaces start graph oracle []).2).entries.count node =
        start.entries.count node + added.count node := by
  obtain ⟨added, hprefix, hall, current, hsound⟩ := balanced_addFwnodeInterfaces start graph oracle
  have howned (node : Node) : current.entries.count node = start.entries.count node + added.count node :=
    Int.ofNat_inj.1 (congrFun hsound.owned node)
  rw [hsound.replay_eq, hsound.total_eq]
  refine ⟨fun node ↦ ?_, fun later earlier htrace ↦ ?_, added, hprefix, hall, howned⟩
  · rw [howned node, add_zero, Nat.cast_add, add_sub_cancel_left]
    rfl
  · have hcovered := hsound.covered
    rw [htrace] at hcovered
    exact hcovered.of_append.total_nonneg

/-- Two endpoints of the master lead to the device `9`, and a third one leads nowhere. -/
def threeEndpoints : Graph ℕ where
  endpoints := [1, 2, 3]
  remoteEndpoint := fun ep ↦ if ep = 3 then none else some (ep + 10)
  parent := fun _ ↦ some 8
  portParent := fun _ ↦ some 9
  isAvailable := fun _ ↦ true

example : (total WalkCall.change
    (msmAddFwnodeInterfaces ⟨.null, []⟩ threeEndpoints (fun _ _ ↦ 1) []).2) 9 = 2 := rfl

/-! ## The release -/

/-- The entries give back what they own. -/
theorem triple_release (nodes : List Node) :
    (Script.inOrder (nodes.map msmComponentReleaseFwnode)).Triple
      (fun trace ↦ Covered WalkCall.change trace ∧ total WalkCall.change trace = tally nodes)
      (fun _ trace ↦ Covered WalkCall.change trace ∧ total WalkCall.change trace = 0) failing := by
  induction nodes with
  | nil => exact Script.triple_inOrder_nil fun _ h ↦ h
  | cons node nodes ih =>
    apply Script.triple_inOrder_cons _ ih
    refine Script.triple_bind (Script.triple_invoke fun answer trace h ↦ ?_) fun _ ↦
      Script.triple_pure fun _ h ↦ h
    have hrest : total WalkCall.change trace + (WalkCall.fwnodeHandlePut node).change answer =
        tally nodes := by
      calc
        total WalkCall.change trace + (WalkCall.fwnodeHandlePut node).change answer =
            tally ([node] ++ nodes) + -tally [node] := by
          rw [h.2, tally_singleton]
          rfl
        _ = tally nodes := by rw [tally_append, add_right_comm, add_neg_cancel, zero_add]
    refine ⟨h.1.cons ?_, ?_⟩
    · rw [hrest]
      exact tally_nonneg nodes
    · rw [total_cons, hrest]

theorem triple_matchRelease (hstart : start.entries = []) :
    (componentMatchRelease start).Triple (Balanced start added 0)
      (fun _ trace ↦ Covered WalkCall.change trace ∧ total WalkCall.change trace = 0) failing := by
  apply Script.triple_exists
  intro current
  apply triple_master
  apply Script.triple_consequence (triple_release current.entries) _ (fun _ _ h ↦ h) fun _ h ↦ h
  intro trace h
  refine ⟨h.covered, ?_⟩
  rw [h.total_eq, h.owned, hstart, tally_nil, zero_add, add_zero]

/-- The master starts without match objects, as in a probe.  Once it has released those of the walk,
every reference count is what it was before, and none was below that on the way. -/
theorem released_interfaces (walking releasing : ℕ → WalkCall Node → ℤ) :
    Covered WalkCall.change (componentMatchRelease ⟨.null, []⟩ releasing
      (msmAddFwnodeInterfaces ⟨.null, []⟩ graph walking []).2).2 ∧
    total WalkCall.change (componentMatchRelease ⟨.null, []⟩ releasing
      (msmAddFwnodeInterfaces ⟨.null, []⟩ graph walking []).2).2 = 0 := by
  obtain ⟨added, -, -, hbalanced⟩ := balanced_addFwnodeInterfaces ⟨.null, []⟩ graph walking
  exact Script.Triple.at_end (triple_matchRelease rfl) releasing hbalanced

end

end TclB220G.Display.Components
