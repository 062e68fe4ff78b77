import Mathlib.Data.Finset.Image
import Mathlib.Data.Finset.Union
import TclB220G.DeviceTree.Blob
import TclB220G.Lib.Saturation

/-!
# The audit of a device tree

Nodes of a device tree refer to their suppliers by handles.  The audit resolves the references of all
nodes, follows them and the parents of nodes from those nodes that are wanted, and reports what it meets
that is disabled and the references there that cannot be resolved.

A Python exception ends the audit without a report.
-/

namespace TclB220G.DeviceTree

open Lib Lib.Bytes Relation

/-- The octets of a literal. -/
def ascii (literal : String) : Name := literal.toList.map fun char ↦ UInt8.ofNat char.toNat

/-- The words of a value, whose length has to be a multiple of four. -/
def u32 (data : Bytes) : Option (List ℕ) :=
  if data.length % 4 = 0 then
    some ((List.range (data.length / 4)).map fun index ↦ bigEndian data 4 (4 * index))
  else none

/-! ## References -/

/-- The properties with lists of specifiers, and the property of a provider that has their length. -/
def arrays : List (Name × Name) :=
  [("qcom,smem-states", "#qcom,smem-state-cells"), ("clocks", "#clock-cells"),
    ("assigned-clocks", "#clock-cells"), ("assigned-clock-parents", "#clock-cells"),
    ("resets", "#reset-cells"), ("power-domains", "#power-domain-cells"),
    ("interconnects", "#interconnect-cells"), ("iommus", "#iommu-cells"), ("phys", "#phy-cells"),
    ("dmas", "#dma-cells"), ("mboxes", "#mbox-cells"), ("interrupts-extended", "#interrupt-cells"),
    ("io-channels", "#io-channel-cells"), ("thermal-sensors", "#thermal-sensor-cells"),
    ("cooling-device", "#cooling-cells")].map fun entry ↦ (ascii entry.1, ascii entry.2)

/-- The properties with lists of handles. -/
def single : List Name :=
  ["trip", "interrupt-parent", "operating-points-v2", "required-opps", "qcom,bcm-voters", "nvmem-cells",
    "memory-region", "qcom,remoteproc", "qcom,smem", "qcom,gmu", "qcom,ice"].map ascii

/-- Whether a property of a node refers to others. -/
def isReference (props : Props) (key : Name) : Bool :=
  ((Dict.get? arrays key).isSome || decide (key ∈ single) || decide (ascii "-supply" <:+ key) ||
      decide (ascii "pinctrl-" <+: key)) &&
    !(decide (key = ascii "pinctrl-names") ||
      decide (key = ascii "qcom,smem") &&
        decide (Dict.get? props (ascii "compatible") = some (ascii "qcom,smp2p" ++ [0])))

/-- Enters a node under its handle, if it has one. -/
def addHandle (table : List (ℕ × Path)) (node : Path × Props) : Option (List (ℕ × Path)) :=
  match Dict.get? node.2 (ascii "phandle") with
  | none => some table
  | some value => do
    let cells ← u32 value
    let handle ← cells.head?
    pure (Dict.set table handle node.1)

variable (nodes : Nodes)

/-- The nodes by their handles. -/
def handles : Option (List (ℕ × Path)) := nodes.foldlM addHandle []

/-- What is wrong with a reference. -/
inductive RefError where
  | missingPhandle (handle : ℕ)
  | missingCellCount (target : Path)
  | truncatedSpecifier
  deriving DecidableEq, Repr

/-- The nodes that a property refers to, and what is wrong with it. -/
structure Found where
  targets : List Path
  error : Option RefError
  deriving DecidableEq, Repr

def Found.cons (target : Path) (found : Found) : Found := ⟨target :: found.targets, found.error⟩

/-- The number of cells behind a handle of a provider, if the provider says so. -/
def cellCount (target : Path) (key : Name) : Option (Option ℕ) := do
  let props ← Dict.get? nodes target
  match Dict.get? props key with
  | none => pure none
  | some value => do
    let cells ← u32 value
    let count ← cells.head?
    pure (some count)

/-- The properties of all nodes that refer to others, in their order. -/
def referenceProps : List (Path × Name × Bytes) :=
  nodes.flatMap fun node ↦
    (node.2.filter fun prop ↦ isReference node.2 prop.1).map fun prop ↦ (node.1, prop)

section

variable (nodes : Nodes) (table : List (ℕ × Path))

/-- The loop over the cells of a property, with so many cells to be skipped first. -/
def scan (array : Option Name) : ℕ → List ℕ → Option Found
  | 0, [] => some ⟨[], none⟩
  | _ + 1, [] => some ⟨[], some .truncatedSpecifier⟩
  | skip + 1, _ :: cells => scan array skip cells
  | 0, handle :: cells =>
    if handle = 0 ∧ array.isSome then scan array 0 cells
    else
      match Dict.get? table handle with
      | none => some ⟨[], some (.missingPhandle handle)⟩
      | some target =>
        match array with
        | none => (scan none 0 cells).map (Found.cons target)
        | some key =>
          (cellCount nodes target key).bind fun count ↦
            match count with
            | none => some ⟨[target], some (.missingCellCount target)⟩
            | some count => (scan (some key) count cells).map (Found.cons target)

/-- The references of all nodes: the node, the property and what was found. -/
def references : Option (List (Path × Name × Found)) :=
  (referenceProps nodes).mapM fun prop ↦ do
    let cells ← u32 prop.2.2
    let found ← scan nodes table (Dict.get? arrays prop.2.1) 0 cells
    pure (prop.1, prop.2.1, found)

end

/-! ## What the wanted nodes rest on -/

/-- `p.rsplit('/', 1)[0]` -/
def parent (path : Path) : Path :=
  if slash ∈ path then ((path.reverse.dropWhile (· ≠ slash)).drop 1).reverse else path

def isDisabled (path : Path) : Bool :=
  decide ((Dict.get? nodes path).bind (Dict.get? · (ascii "status")) = some (ascii "disabled" ++ [0]))

/-- Whether neither the node at a path nor one above it is disabled.  They all have to be there.  Going up
ends below the root, whose status is not looked at. -/
def activePath (nodes : Nodes) : ℕ → Path → Option Bool
  | 0, _ => none
  | fuel + 1, path =>
    if path = [] then some true
    else if path ∉ Dict.keys nodes then none
    else if isDisabled nodes path then some false
    else activePath nodes fuel (parent path)

/-- Whether a node is at or below one of the wanted paths. -/
def isWanted (roots : List Path) (path : Path) : Bool :=
  roots.any fun root ↦ decide (path = root) || decide (root ++ [slash] <+: path)

/-- The wanted nodes that are active. -/
def startSet (roots : List Path) (nodes : Nodes) : Option (Finset Path) := do
  let flags ← (Dict.keys nodes).mapM fun path ↦
    if isWanted roots path then (activePath nodes (path.length + 1) path).map fun active ↦ (path, active)
    else some (path, false)
  pure ((flags.filter Prod.snd).map Prod.fst).toFinset

variable (edges : List (Path × Path))

/-- Adds the targets of the edges from what has been seen, one edge after another. -/
def followEdges (seen : Finset Path) : Finset Path :=
  edges.foldl (fun seen edge ↦ if edge.1 ∈ seen then insert edge.2 seen else seen) seen

/-- Adds the parents of what has been seen. -/
def addParents (seen : Finset Path) : Finset Path := seen ∪ (seen.image parent).filter (· ≠ [])

/-- One round of the loop. -/
def pass (seen : Finset Path) : Finset Path := addParents (followEdges edges seen)

/-- All beginnings of the paths that a set and some edges have. -/
def beginnings (start : Finset Path) : Finset Path :=
  (start ∪ (edges.map Prod.snd).toFinset).biUnion fun path ↦ path.inits.toFinset

/-- The loop, which cannot take more rounds than there are beginnings of paths. -/
def closure (start : Finset Path) : Option (Finset Path) :=
  saturate (pass edges) ((beginnings edges start).card + 1) start

structure Report where
  reachable : Finset Path
  disabledSuppliers : Finset Path
  referenceErrors : List (Path × Name × RefError)
  edges : List (Path × Name × Path)

/-- The edges of what was found. -/
def edgesOf (found : List (Path × Name × Found)) : List (Path × Name × Path) :=
  found.flatMap fun (path, key, found) ↦ found.targets.map fun target ↦ (path, key, target)

def errorsOf (found : List (Path × Name × Found)) : List (Path × Name × RefError) :=
  found.filterMap fun (path, key, found) ↦ found.error.map fun error ↦ (path, key, error)

def ends (edges : List (Path × Name × Path)) : List (Path × Path) := edges.map fun edge ↦ (edge.1, edge.2.2)

/-- The audit of the nodes that were read. -/
def audit (roots : List Path) (nodes : Nodes) : Option Report := do
  let table ← handles nodes
  let found ← references nodes table
  let edges := edgesOf found
  let start ← startSet roots nodes
  let seen ← closure (ends edges) start
  -- Looking up a path that is not there ends the audit.
  if seen ⊆ (Dict.keys nodes).toFinset then
    pure ⟨seen, seen.filter (isDisabled nodes ·), (errorsOf found).filter (·.1 ∈ seen),
      edges.filter (·.1 ∈ seen)⟩
  else none

/-! ## Properties that can be resolved -/

section

variable (nodes : Nodes) (table : List (ℕ × Path))

/-- The cells are handles with as many cells behind each as its provider wants, and the providers are these.
A list of specifiers may have zeros between them. -/
inductive Specifies : Option Name → List ℕ → List Path → Prop
  | nil {array : Option Name} : Specifies array [] []
  | unused {key : Name} {cells : List ℕ} {targets : List Path} (hrest : Specifies (some key) cells targets) :
    Specifies (some key) (0 :: cells) targets
  | handle {handle : ℕ} {target : Path} {cells : List ℕ} {targets : List Path}
    (htarget : Dict.get? table handle = some target) (hrest : Specifies none cells targets) :
    Specifies none (handle :: cells) (target :: targets)
  | specifier {key : Name} {handle : ℕ} {target : Path} {args cells : List ℕ} {targets : List Path}
    (hhandle : handle ≠ 0) (htarget : Dict.get? table handle = some target)
    (hcount : cellCount nodes target key = some (some args.length))
    (hrest : Specifies (some key) cells targets) :
    Specifies (some key) (handle :: (args ++ cells)) (target :: targets)

variable {nodes table}

theorem scan_skip (array : Option Name) (args cells : List ℕ) :
    scan nodes table array args.length (args ++ cells) = scan nodes table array 0 cells := by
  induction args with
  | nil => rfl
  | cons arg args ih =>
    rw [List.cons_append, List.length_cons, scan]
    exact ih

variable {array : Option Name} {cells : List ℕ} {targets : List Path}

theorem Specifies.scan (h : Specifies nodes table array cells targets) :
    DeviceTree.scan nodes table array 0 cells = some ⟨targets, none⟩ := by
  induction h with
  | nil => rfl
  | unused _ ih =>
    rw [DeviceTree.scan, if_pos ⟨rfl, rfl⟩]
    exact ih
  | handle htarget _ ih => simp [DeviceTree.scan, htarget, ih, Found.cons]
  | specifier hhandle htarget hcount _ ih =>
    simp [DeviceTree.scan, hhandle, htarget, hcount, scan_skip, ih, Found.cons]

theorem exists_of_map_cons {found : Option Found} {target : Path}
    (h : found.map (Found.cons target) = some ⟨targets, none⟩) :
    ∃ rest, found = some ⟨rest, none⟩ ∧ target :: rest = targets := by
  obtain ⟨⟨rest, error⟩, rfl, heq⟩ := Option.map_eq_some_iff.1 h
  obtain ⟨rfl, rfl⟩ := Found.mk.inj heq
  exact ⟨rest, rfl, rfl⟩

/-- A loop that ends without an error has skipped all it had to, and the rest can be resolved. -/
theorem specifies_of_scan {skip : ℕ} (h : scan nodes table array skip cells = some ⟨targets, none⟩) :
    skip ≤ cells.length ∧ Specifies nodes table array (cells.drop skip) targets := by
  induction cells generalizing skip targets with
  | nil =>
    cases skip with
    | zero =>
      obtain ⟨rfl⟩ : ([] : List Path) = targets := by simpa [scan] using h
      exact ⟨le_rfl, .nil⟩
    | succ skip => simp [scan] at h
  | cons handle cells ih =>
    cases skip with
    | succ skip =>
      rw [scan] at h
      obtain ⟨hskip, hrest⟩ := ih h
      exact ⟨Nat.succ_le_succ hskip, hrest⟩
    | zero =>
      refine ⟨Nat.zero_le _, ?_⟩
      rw [scan] at h
      split_ifs at h with hzero
      · obtain ⟨rfl, harray⟩ := hzero
        obtain ⟨key, rfl⟩ := Option.isSome_iff_exists.1 harray
        exact .unused (ih h).2
      · split at h
        case h_1 => simp at h
        case h_2 target htarget =>
          split at h
          case h_1 =>
            obtain ⟨rest, hrest, rfl⟩ := exists_of_map_cons h
            exact .handle htarget (ih hrest).2
          case h_2 key =>
            obtain ⟨count, hcount, h⟩ := Option.bind_eq_some_iff.1 h
            cases count with
            | none => simp at h
            | some count =>
              obtain ⟨rest, hrest, rfl⟩ := exists_of_map_cons h
              obtain ⟨hle, hspecifies⟩ := ih hrest
              have hlength : (cells.take count).length = count := List.length_take_of_le hle
              have hhandle : handle ≠ 0 := fun hhandle ↦ hzero ⟨hhandle, rfl⟩
              rw [← hlength] at hcount
              have h := Specifies.specifier hhandle htarget hcount hspecifies
              rwa [List.take_append_drop] at h

/-- The loop ends without an error exactly if the cells can be resolved, and has then found the providers. -/
theorem scan_eq_iff :
    scan nodes table array 0 cells = some ⟨targets, none⟩ ↔ Specifies nodes table array cells targets := by
  constructor
  · intro h
    exact (specifies_of_scan h).2
  · intro h
    exact h.scan

end

/-! ## What the loop over the edges reaches -/

/-- One node rests on another: an edge leads there, or it is the node above and not the root. -/
def Needs (path other : Path) : Prop :=
  (path, other) ∈ edges ∨ other = parent path ∧ other ≠ []

section

variable {edges : List (Path × Path)} {seen : Finset Path}

theorem subset_followEdges (edges : List (Path × Path)) (seen : Finset Path) :
    seen ⊆ followEdges edges seen := by
  induction edges generalizing seen with
  | nil => exact Finset.Subset.refl seen
  | cons edge edges ih =>
    rw [followEdges, List.foldl_cons]
    split_ifs
    · exact (Finset.subset_insert _ _).trans (ih _)
    · exact ih seen

theorem exists_of_mem_followEdges {path : Path} (h : path ∈ followEdges edges seen) :
    ∃ origin ∈ seen, ReflTransGen (Needs edges) origin path := by
  have hgrow (edge : Path × Path) (edges : List (Path × Path)) (origin path : Path)
      (hreach : ReflTransGen (Needs edges) origin path) : ReflTransGen (Needs (edge :: edges)) origin path :=
    ReflTransGen.mono (fun _ _ hneeds ↦ hneeds.imp_left (List.mem_cons_of_mem edge)) _ _ hreach
  induction edges generalizing seen with
  | nil => exact ⟨path, h, .refl⟩
  | cons edge edges ih =>
    rw [followEdges, List.foldl_cons] at h
    split_ifs at h with hedge
    · obtain ⟨origin, horigin, hreach⟩ := ih h
      obtain rfl | horigin := Finset.mem_insert.1 horigin
      · exact ⟨edge.1, hedge, .head (.inl List.mem_cons_self) (hgrow _ _ _ _ hreach)⟩
      · exact ⟨origin, horigin, hgrow _ _ _ _ hreach⟩
    · obtain ⟨origin, horigin, hreach⟩ := ih h
      exact ⟨origin, horigin, hgrow _ _ _ _ hreach⟩

theorem mem_followEdges_of_edge {path other : Path} (hedge : (path, other) ∈ edges) (hpath : path ∈ seen) :
    other ∈ followEdges edges seen := by
  induction edges generalizing seen with
  | nil => exact absurd hedge List.not_mem_nil
  | cons edge edges ih =>
    rw [followEdges, List.foldl_cons]
    obtain rfl | hedge := List.mem_cons.1 hedge
    · rw [if_pos hpath]
      exact subset_followEdges _ _ (Finset.mem_insert_self _ _)
    · split_ifs
      · exact ih hedge (Finset.mem_insert_of_mem hpath)
      · exact ih hedge hpath

theorem subset_pass (edges : List (Path × Path)) (seen : Finset Path) : seen ⊆ pass edges seen :=
  (subset_followEdges edges seen).trans Finset.subset_union_left

theorem saturates_pass (edges : List (Path × Path)) : Saturates (pass edges) (Needs edges) where
  subset := subset_pass edges
  sound seen path hpath := by
    obtain hpath | hpath := Finset.mem_union.1 hpath
    · exact exists_of_mem_followEdges hpath
    · obtain ⟨himage, hne⟩ := Finset.mem_filter.1 hpath
      obtain ⟨below, hbelow, rfl⟩ := Finset.mem_image.1 himage
      obtain ⟨origin, horigin, hreach⟩ := exists_of_mem_followEdges hbelow
      exact ⟨origin, horigin, hreach.tail (.inr ⟨rfl, hne⟩)⟩
  closed seen hstable path hpath other hneeds := by
    have hfollow : followEdges edges seen ⊆ seen := by
      conv_rhs => rw [← hstable]
      exact Finset.subset_union_left
    obtain hedge | ⟨rfl, hne⟩ := hneeds
    · exact hfollow (mem_followEdges_of_edge hedge hpath)
    · rw [← hstable]
      have himage : parent path ∈ (followEdges edges seen).image parent :=
        Finset.mem_image_of_mem parent (subset_followEdges edges seen hpath)
      exact Finset.mem_union_right _ (Finset.mem_filter.2 ⟨himage, hne⟩)

theorem parent_begins (path : Path) : parent path <+: path := by
  unfold parent
  split_ifs
  · rw [← List.reverse_suffix, List.reverse_reverse]
    exact (List.drop_suffix _ _).trans (List.dropWhile_suffix _)
  · exact List.prefix_refl path

theorem closedUnder_beginnings (edges : List (Path × Path)) (start : Finset Path) :
    ClosedUnder (Needs edges) (beginnings edges start) := by
  intro path hpath other hneeds
  obtain ⟨whole, hwhole, hpath⟩ := Finset.mem_biUnion.1 hpath
  rw [List.mem_toFinset, List.mem_inits] at hpath
  obtain hedge | ⟨rfl, -⟩ := hneeds
  · have hother : other ∈ (edges.map Prod.snd).toFinset := List.mem_toFinset.2 (List.mem_map_of_mem hedge)
    refine Finset.mem_biUnion.2 ⟨other, Finset.mem_union_right _ hother, ?_⟩
    exact List.mem_toFinset.2 ((List.mem_inits _ _).2 (List.prefix_refl other))
  · refine Finset.mem_biUnion.2 ⟨whole, hwhole, ?_⟩
    exact List.mem_toFinset.2 ((List.mem_inits _ _).2 ((parent_begins path).trans hpath))

/-- The loop comes to an end. -/
theorem isSome_closure (edges : List (Path × Path)) (start : Finset Path) :
    (closure edges start).isSome = true := by
  have hstart : start ⊆ beginnings edges start := by
    intro path hpath
    refine Finset.mem_biUnion.2 ⟨path, Finset.mem_union_left _ hpath, ?_⟩
    exact List.mem_toFinset.2 ((List.mem_inits _ _).2 (List.prefix_refl path))
  apply (saturates_pass edges).isSome_saturate (closedUnder_beginnings edges start) hstart
  omega

theorem mem_closure_iff {start : Finset Path} (h : closure edges start = some seen) (path : Path) :
    path ∈ seen ↔ ∃ origin ∈ start, ReflTransGen (Needs edges) origin path :=
  (saturates_pass edges).mem_saturate h path

end

/-! ## The report -/

theorem mem_mapM {α β : Type*} {f : α → Option β} {list : List α} {result : List β}
    (h : list.mapM f = some result) (value : β) : value ∈ result ↔ ∃ entry ∈ list, f entry = some value := by
  induction list generalizing result with
  | nil =>
    obtain rfl : [] = result := by simpa using h
    simp
  | cons entry list ih =>
    rw [List.mapM_cons] at h
    obtain ⟨first, hfirst, h⟩ := Option.bind_eq_some_iff.1 h
    obtain ⟨rest, hrest, h⟩ := Option.bind_eq_some_iff.1 h
    obtain rfl := Option.some.inj h
    simp [ih hrest, hfirst, eq_comm]

theorem exists_of_mapM {α β : Type*} {f : α → Option β} {list : List α} {result : List β}
    (h : list.mapM f = some result) {entry : α} (hentry : entry ∈ list) : ∃ value, f entry = some value := by
  induction list generalizing result with
  | nil => exact absurd hentry List.not_mem_nil
  | cons first list ih =>
    rw [List.mapM_cons] at h
    obtain ⟨value, hvalue, h⟩ := Option.bind_eq_some_iff.1 h
    obtain ⟨rest, hrest, -⟩ := Option.bind_eq_some_iff.1 h
    obtain rfl | hentry := List.mem_cons.1 hentry
    · exact ⟨value, hvalue⟩
    · exact ih hrest hentry

section

variable (nodes : Nodes) (table : List (ℕ × Path))

/-- A node has a property that refers to others, with these cells. -/
def HasCells (path : Path) (key : Name) (cells : List ℕ) : Prop :=
  ∃ props value, (path, props) ∈ nodes ∧ (key, value) ∈ props ∧ isReference props key = true ∧
    u32 value = some cells

/-- All references of a node can be resolved. -/
def Resolves (path : Path) : Prop :=
  ∀ key cells, HasCells nodes path key cells →
    ∃ targets, Specifies nodes table (Dict.get? arrays key) cells targets

/-- A node has a reference that can be resolved, to another node among others. -/
def Refers (path other : Path) : Prop :=
  ∃ key cells targets, HasCells nodes path key cells ∧
    Specifies nodes table (Dict.get? arrays key) cells targets ∧ other ∈ targets

/-- A node rests on those that it refers to and on the one above, unless that is the root. -/
def RestsOn (path other : Path) : Prop := Refers nodes table path other ∨ other = parent path ∧ other ≠ []

/-- Neither the node at a path nor one between it and the root is disabled. -/
inductive Active : Path → Prop
  | top : Active []
  | node {path : Path} (hne : path ≠ []) (hmem : path ∈ Dict.keys nodes) (hstatus : isDisabled nodes path = false)
    (hparent : Active (parent path)) : Active path

variable {nodes table}

theorem active_iff_of_activePath {fuel : ℕ} {path : Path} {active : Bool}
    (h : activePath nodes fuel path = some active) : Active nodes path ↔ active = true := by
  induction fuel generalizing path with
  | zero => exact absurd h (Option.some_ne_none active).symm
  | succ fuel ih =>
    rw [activePath] at h
    split_ifs at h with hempty hmem hstatus
    · obtain rfl := Option.some.inj h
      subst hempty
      exact iff_of_true .top rfl
    · obtain rfl := Option.some.inj h
      refine iff_of_false (fun hactive ↦ ?_) Bool.false_ne_true
      cases hactive with
      | top => exact hempty rfl
      | node _ _ henabled _ => exact absurd (hstatus.symm.trans henabled) (by decide)
    · rw [← ih h]
      constructor
      · intro hactive
        cases hactive with
        | top => exact absurd rfl hempty
        | node _ _ _ hparent => exact hparent
      · intro hparent
        exact .node hempty hmem (Bool.eq_false_of_not_eq_true hstatus) hparent

/-- The loop starts from the wanted nodes that are active. -/
theorem mem_startSet_iff {roots : List Path} {start : Finset Path} (h : startSet roots nodes = some start)
    (path : Path) :
    path ∈ start ↔ path ∈ Dict.keys nodes ∧ isWanted roots path = true ∧ Active nodes path := by
  obtain ⟨flags, hflags, h⟩ := Option.bind_eq_some_iff.1 h
  obtain rfl := Option.some.inj h
  have hflag : (path, true) ∈ flags ↔
      path ∈ Dict.keys nodes ∧ isWanted roots path = true ∧ Active nodes path := by
    rw [mem_mapM hflags]
    constructor
    · rintro ⟨other, hother, heq⟩
      split_ifs at heq with hwanted
      · obtain ⟨active, hactive, heq⟩ := Option.map_eq_some_iff.1 heq
        obtain ⟨rfl, rfl⟩ := Prod.mk.inj heq
        exact ⟨hother, hwanted, (active_iff_of_activePath hactive).2 rfl⟩
      · simp at heq
    · rintro ⟨hpath, hwanted, hactive⟩
      refine ⟨path, hpath, ?_⟩
      obtain ⟨value, hvalue⟩ := exists_of_mapM hflags hpath
      rw [if_pos hwanted] at hvalue ⊢
      obtain ⟨active, hpath, -⟩ := Option.map_eq_some_iff.1 hvalue
      obtain rfl := (active_iff_of_activePath hpath).1 hactive
      rw [hpath, Option.map_some]
  simp [hflag]

theorem mem_referenceProps_iff {path : Path} {key : Name} {value : Bytes} :
    (path, key, value) ∈ referenceProps nodes ↔
      ∃ props, (path, props) ∈ nodes ∧ (key, value) ∈ props ∧ isReference props key = true := by
  simp only [referenceProps, List.mem_flatMap, List.mem_map, List.mem_filter, Prod.exists, Prod.mk.injEq]
  constructor
  · rintro ⟨_, props, hnode, _, _, ⟨hprop, hreference⟩, rfl, rfl, rfl⟩
    exact ⟨props, hnode, hprop, hreference⟩
  · rintro ⟨props, hnode, hprop, hreference⟩
    exact ⟨path, props, hnode, key, value, ⟨hprop, hreference⟩, rfl, rfl, rfl⟩

variable {found : List (Path × Name × Found)}

theorem mem_references_iff (h : references nodes table = some found) (path : Path) (key : Name)
    (result : Found) :
    (path, key, result) ∈ found ↔
      ∃ cells, HasCells nodes path key cells ∧
        scan nodes table (Dict.get? arrays key) 0 cells = some result := by
  rw [mem_mapM h]
  constructor
  · rintro ⟨⟨other, name, value⟩, hentry, hresult⟩
    obtain ⟨cells, hcells, hresult⟩ := Option.bind_eq_some_iff.1 hresult
    obtain ⟨found, hscan, hresult⟩ := Option.bind_eq_some_iff.1 hresult
    obtain ⟨rfl, rfl, rfl⟩ : other = path ∧ name = key ∧ found = result := by simpa using hresult
    obtain ⟨props, hnode, hprop, hreference⟩ := mem_referenceProps_iff.1 hentry
    exact ⟨cells, ⟨props, value, hnode, hprop, hreference, hcells⟩, hscan⟩
  · rintro ⟨cells, ⟨props, value, hnode, hprop, hreference, hcells⟩, hscan⟩
    exact ⟨(path, key, value), mem_referenceProps_iff.2 ⟨props, hnode, hprop, hreference⟩,
      by simp [hcells, hscan]⟩

theorem mem_ends_edgesOf_iff {path other : Path} :
    (path, other) ∈ ends (edgesOf found) ↔
      ∃ key result, (path, key, result) ∈ found ∧ other ∈ result.targets := by
  simp only [ends, edgesOf, List.mem_map, List.mem_flatMap, Prod.exists, Prod.mk.injEq]
  constructor
  · rintro ⟨_, _, _, ⟨path, key, result, hresult, target, htarget, rfl, rfl, rfl⟩, rfl, rfl⟩
    exact ⟨key, result, hresult, htarget⟩
  · rintro ⟨key, result, hresult, htarget⟩
    exact ⟨path, key, other, ⟨path, key, result, hresult, other, htarget, rfl, rfl, rfl⟩, rfl, rfl⟩

section

variable {found : List (Path × Name × Found)} (hfound : references nodes table = some found)
include hfound

theorem exists_scan {path : Path} {key : Name} {cells : List ℕ} (h : HasCells nodes path key cells) :
    ∃ result, scan nodes table (Dict.get? arrays key) 0 cells = some result := by
  obtain ⟨props, value, hnode, hprop, hreference, hcells⟩ := h
  have hentry := mem_referenceProps_iff.2 ⟨props, hnode, hprop, hreference⟩
  obtain ⟨entry, hresult⟩ := exists_of_mapM hfound hentry
  rw [hcells, Option.bind_eq_bind, Option.bind_some] at hresult
  obtain ⟨result, hscan, -⟩ := Option.bind_eq_some_iff.1 hresult
  exact ⟨result, hscan⟩

/-- No error was found at a node exactly if its references can be resolved. -/
theorem resolves_iff {path : Path} :
    Resolves nodes table path ↔ ∀ key result, (path, key, result) ∈ found → result.error = none := by
  constructor
  · intro hresolves key result hresult
    obtain ⟨cells, hcells, hscan⟩ := (mem_references_iff hfound path key result).1 hresult
    obtain ⟨targets, hspecifies⟩ := hresolves key cells hcells
    obtain rfl := Option.some.inj (hscan.symm.trans hspecifies.scan)
    rfl
  · intro herror key cells hcells
    obtain ⟨⟨targets, error⟩, hscan⟩ := exists_scan hfound hcells
    obtain rfl : error = none :=
      herror key _ ((mem_references_iff hfound path key _).2 ⟨cells, hcells, hscan⟩)
    exact ⟨targets, scan_eq_iff.1 hscan⟩

theorem needs_of_restsOn {path other : Path} (h : RestsOn nodes table path other) :
    Needs (ends (edgesOf found)) path other := by
  refine h.imp_left ?_
  rintro ⟨key, cells, targets, hcells, hspecifies, hother⟩
  have hresult := (mem_references_iff hfound path key _).2 ⟨cells, hcells, hspecifies.scan⟩
  exact mem_ends_edgesOf_iff.2 ⟨key, _, hresult, hother⟩

theorem restsOn_of_needs {path other : Path} (hresolves : Resolves nodes table path)
    (h : Needs (ends (edgesOf found)) path other) : RestsOn nodes table path other := by
  refine h.imp_left ?_
  intro hedge
  obtain ⟨key, result, hresult, hother⟩ := mem_ends_edgesOf_iff.1 hedge
  obtain ⟨cells, hcells, hscan⟩ := (mem_references_iff hfound path key result).1 hresult
  obtain ⟨targets, hspecifies⟩ := hresolves key cells hcells
  obtain rfl := Option.some.inj (hscan.symm.trans hspecifies.scan)
  exact ⟨key, cells, targets, hcells, hspecifies, hother⟩

end

/-- A report comes from a table of handles, the references, a start and what the loop has seen. -/
theorem exists_of_audit {roots : List Path} {report : Report} (h : audit roots nodes = some report) :
    ∃ table found start seen, handles nodes = some table ∧ references nodes table = some found ∧
      startSet roots nodes = some start ∧ closure (ends (edgesOf found)) start = some seen ∧
      report = ⟨seen, seen.filter (isDisabled nodes ·), (errorsOf found).filter (·.1 ∈ seen),
        (edgesOf found).filter (·.1 ∈ seen)⟩ := by
  obtain ⟨table, htable, h⟩ := Option.bind_eq_some_iff.1 h
  obtain ⟨found, hfound, h⟩ := Option.bind_eq_some_iff.1 h
  obtain ⟨start, hstart, h⟩ := Option.bind_eq_some_iff.1 h
  obtain ⟨seen, hseen, h⟩ := Option.bind_eq_some_iff.1 h
  split_ifs at h
  exact ⟨table, found, start, seen, htable, hfound, hstart, hseen, (Option.some.inj h).symm⟩

/-- The report has no errors exactly if the references of all nodes that were reached can be resolved. -/
theorem errors_eq_nil_iff (hfound : references nodes table = some found) (seen : Finset Path) :
    (errorsOf found).filter (·.1 ∈ seen) = [] ↔ ∀ path ∈ seen, Resolves nodes table path := by
  simp only [List.filter_eq_nil_iff, errorsOf, List.mem_filterMap, decide_eq_true_eq]
  constructor
  · intro hnone path hpath
    rw [resolves_iff hfound]
    intro key result hresult
    rw [Option.eq_none_iff_forall_ne_some]
    intro error herror
    exact hnone (path, key, error) ⟨(path, key, result), hresult, by simp [herror]⟩ hpath
  · rintro hresolves _ ⟨⟨path, key, result⟩, hresult, herror⟩ hpath
    obtain ⟨error, hsome, rfl⟩ := Option.map_eq_some_iff.1 herror
    have hnone := (resolves_iff hfound).1 (hresolves path hpath) key result hresult
    exact Option.some_ne_none error (hsome.symm.trans hnone)

end

/-- A device with a clock of another one. -/
def clockForest : Forest :=
  .node (ascii "clk") [(ascii "phandle", [0, 0, 0, 1]), (ascii "#clock-cells", [0, 0, 0, 1])] .nil
    (.node (ascii "dev") [(ascii "clocks", [0, 0, 0, 1, 0, 0, 0, 7])] .nil .nil)

/-- A root that is disabled is not reported. -/
example : (audit [ascii "/dev"] (treeNodes [(ascii "status", ascii "disabled" ++ [0])] clockForest)).map
    Report.disabledSuppliers = some ∅ := by
  decide +kernel

/-! ## When there is a report -/

/-- A key that a handle or a number of cells is read from. -/
def IsCell (key : Name) : Prop := key = ascii "phandle" ∨ key ∈ arrays.map Prod.snd

/-- The values that are read as words are words, and there is one where one is wanted. -/
def WholeCells : Prop :=
  ∀ node ∈ nodes, ∀ prop ∈ node.2,
    (IsCell prop.1 → prop.2 ≠ []) ∧ (IsCell prop.1 ∨ isReference node.2 prop.1 = true → prop.2.length % 4 = 0)

instance (key : Name) : Decidable (IsCell key) := inferInstanceAs (Decidable (_ ∨ _))

instance (nodes : Nodes) : Decidable (WholeCells nodes) := inferInstanceAs (Decidable (∀ node ∈ nodes, _))

/-- All nodes have a path with a slash, and the node above each is there unless there is none. -/
def Rooted : Prop :=
  ∀ path ∈ Dict.keys nodes, slash ∈ path ∧ (parent path ≠ [] → parent path ∈ Dict.keys nodes)

theorem parent_child {name : Name} (hslash : slash ∉ name) (base : Path) :
    parent (base ++ slash :: name) = base := by
  have hname : ∀ octet ∈ name.reverse, octet ≠ slash := by
    intro octet hoctet heq
    exact hslash (List.mem_reverse.1 (heq ▸ hoctet))
  rw [parent, if_pos (List.mem_append_right base List.mem_cons_self), List.reverse_append, List.reverse_cons,
    List.append_assoc, List.dropWhile_append_of_pos (by simpa using hname)]
  simp

theorem parent_mem_nodes {forest : Forest} (hforest : forest.WellFormed) {path key : Path}
    (hkey : key ∈ Dict.keys (forest.nodes path)) :
    slash ∈ key ∧ (parent key = rstrip path ∨ parent key ∈ Dict.keys (forest.nodes path)) := by
  induction forest generalizing path with
  | nil => exact absurd hkey List.not_mem_nil
  | node name props children siblings ihchildren ihsiblings =>
    obtain ⟨⟨hne, hslash, -, -⟩, hchildren, hsiblings⟩ := hforest
    rw [Forest.nodes, Dict.keys, List.map_cons, List.map_append, List.mem_cons, List.mem_append] at hkey ⊢
    rcases hkey with rfl | hkey | hkey
    · exact ⟨List.mem_append_right _ List.mem_cons_self, .inl (parent_child hslash _)⟩
    · obtain ⟨hmem, hparent⟩ := ihchildren hchildren hkey
      rw [rstrip_child hne hslash] at hparent
      exact ⟨hmem, .inr (hparent.imp_right .inl)⟩
    · obtain ⟨hmem, hparent⟩ := ihsiblings hsiblings hkey
      exact ⟨hmem, hparent.imp_right fun h ↦ .inr (.inr h)⟩

theorem rooted_treeNodes (props : Props) {children : Forest} (hchildren : children.WellFormed) :
    Rooted (treeNodes props children) := by
  intro path hpath
  obtain rfl | hpath := List.mem_cons.1 hpath
  · have hparent : parent [slash] = [] := parent_child List.not_mem_nil []
    exact ⟨List.mem_cons_self, fun hne ↦ absurd hparent hne⟩
  · obtain ⟨hslash, hparent⟩ := parent_mem_nodes hchildren hpath
    refine ⟨hslash, fun hne ↦ ?_⟩
    obtain hroot | hparent := hparent
    · exact absurd hroot hne
    · exact List.mem_cons_of_mem _ hparent

section

variable {nodes : Nodes}

theorem exists_u32 {value : Bytes} (hlength : value.length % 4 = 0) :
    ∃ cells, u32 value = some cells ∧ (value ≠ [] → ∃ first, cells.head? = some first) := by
  refine ⟨_, if_pos hlength, fun hne ↦ ?_⟩
  have hpos : 0 < value.length / 4 := by
    have := List.length_pos_of_ne_nil hne
    omega
  obtain ⟨count, hcount⟩ := Nat.exists_eq_succ_of_ne_zero hpos.ne'
  rw [hcount, List.range_succ_eq_map]
  exact ⟨_, rfl⟩

/-- A handle or a number of cells can be read. -/
theorem WholeCells.exists_first (hcells : WholeCells nodes) {node : Path × Props} (hnode : node ∈ nodes)
    {key : Name} (hkey : IsCell key) {value : Bytes} (hvalue : Dict.get? node.2 key = some value) :
    ∃ cells first, u32 value = some cells ∧ cells.head? = some first := by
  obtain ⟨hne, hlength⟩ := hcells node hnode (key, value) (Dict.mem_of_get? hvalue)
  obtain ⟨cells, hu32, hfirst⟩ := exists_u32 (hlength (.inl hkey))
  obtain ⟨first, hfirst⟩ := hfirst (hne hkey)
  exact ⟨cells, first, hu32, hfirst⟩

theorem WholeCells.exists_addHandle (hcells : WholeCells nodes) {node : Path × Props} (hnode : node ∈ nodes)
    {table : List (ℕ × Path)} (htable : ∀ entry ∈ table, entry.2 ∈ Dict.keys nodes) :
    ∃ table', addHandle table node = some table' ∧ ∀ entry ∈ table', entry.2 ∈ Dict.keys nodes := by
  unfold addHandle
  split
  case h_1 => exact ⟨table, rfl, htable⟩
  case h_2 value hvalue =>
    obtain ⟨cells, handle, hu32, hhead⟩ := hcells.exists_first hnode (.inl rfl) hvalue
    refine ⟨Dict.set table handle node.1, by simp [hu32, hhead], ?_⟩
    intro entry hentry
    obtain rfl | hentry := Dict.mem_set hentry
    · exact List.mem_map_of_mem hnode
    · exact htable entry hentry

theorem WholeCells.exists_handles (hcells : WholeCells nodes) :
    ∃ table, handles nodes = some table ∧ ∀ entry ∈ table, entry.2 ∈ Dict.keys nodes := by
  have hloop (rest : Nodes) (hrest : ∀ node ∈ rest, node ∈ nodes) (table : List (ℕ × Path))
      (htable : ∀ entry ∈ table, entry.2 ∈ Dict.keys nodes) :
      ∃ final, rest.foldlM addHandle table = some final ∧ ∀ entry ∈ final, entry.2 ∈ Dict.keys nodes := by
    induction rest generalizing table with
    | nil => exact ⟨table, rfl, htable⟩
    | cons node rest ih =>
      obtain ⟨hnode, hrest⟩ := List.forall_mem_cons.1 hrest
      obtain ⟨next, hnext, hkeys⟩ := hcells.exists_addHandle hnode htable
      rw [List.foldlM_cons, hnext]
      exact ih hrest next hkeys
  exact hloop nodes (fun _ h ↦ h) [] (fun _ hentry ↦ absurd hentry List.not_mem_nil)

theorem exists_mapM {α β : Type*} {f : α → Option β} {list : List α}
    (h : ∀ entry ∈ list, ∃ value, f entry = some value) : ∃ result, list.mapM f = some result := by
  induction list with
  | nil => exact ⟨[], rfl⟩
  | cons entry list ih =>
    obtain ⟨hentry, hrest⟩ := List.forall_mem_cons.1 h
    obtain ⟨value, hvalue⟩ := hentry
    obtain ⟨rest, hrest⟩ := ih hrest
    exact ⟨value :: rest, by simp [List.mapM_cons, hvalue, hrest]⟩

section

variable (hcells : WholeCells nodes) {table : List (ℕ × Path)}
  (htable : ∀ entry ∈ table, entry.2 ∈ Dict.keys nodes)
include hcells

theorem WholeCells.exists_cellCount {target : Path} (htarget : target ∈ Dict.keys nodes) {array key : Name}
    (hkey : Dict.get? arrays array = some key) : ∃ count, cellCount nodes target key = some count := by
  have hcell : IsCell key := .inr (List.mem_map_of_mem (Dict.mem_of_get? hkey))
  obtain ⟨props, hprops⟩ := Dict.exists_get? htarget
  rw [cellCount, hprops, Option.bind_eq_bind, Option.bind_some]
  split
  case h_1 => exact ⟨none, rfl⟩
  case h_2 value hvalue =>
    obtain ⟨cells, first, hu32, hfirst⟩ := hcells.exists_first (Dict.mem_of_get? hprops) hcell hvalue
    exact ⟨some first, by simp [hu32, hfirst]⟩

include htable

/-- The loop over the cells ends, and what it finds are nodes. -/
theorem WholeCells.exists_scan (key : Name) (skip : ℕ) (cells : List ℕ) :
    ∃ found, scan nodes table (Dict.get? arrays key) skip cells = some found ∧
      ∀ target ∈ found.targets, target ∈ Dict.keys nodes := by
  have hcons {target : Path} (htarget : target ∈ Dict.keys nodes) {scanned : Option Found}
      (h : ∃ found, scanned = some found ∧ ∀ target ∈ found.targets, target ∈ Dict.keys nodes) :
      ∃ found, scanned.map (Found.cons target) = some found ∧
        ∀ target ∈ found.targets, target ∈ Dict.keys nodes := by
    obtain ⟨found, rfl, hfound⟩ := h
    exact ⟨found.cons target, rfl, List.forall_mem_cons.2 ⟨htarget, hfound⟩⟩
  have hnone (error : Option RefError) :
      ∃ found, some (Found.mk [] error) = some found ∧ ∀ target ∈ found.targets, target ∈ Dict.keys nodes :=
    ⟨_, rfl, List.forall_mem_nil _⟩
  induction cells generalizing skip with
  | nil => cases skip with
    | zero => exact hnone none
    | succ skip => exact hnone _
  | cons handle cells ih =>
    cases skip with
    | succ skip => exact ih skip
    | zero =>
      rw [scan]
      split_ifs
      · exact ih 0
      · split
        case h_1 => exact hnone _
        case h_2 target hget =>
          have htarget := htable _ (Dict.mem_of_get? hget)
          split
          case h_1 harray =>
            rw [harray] at ih
            exact hcons htarget (ih 0)
          case h_2 array harray =>
            obtain ⟨count, hcount⟩ := hcells.exists_cellCount htarget harray
            rw [hcount, Option.bind_some]
            rw [harray] at ih
            cases count with
            | none => exact ⟨_, rfl, List.forall_mem_singleton.2 htarget⟩
            | some count => exact hcons htarget (ih count)

theorem WholeCells.exists_references : ∃ found, references nodes table = some found := by
  apply exists_mapM
  rintro ⟨path, key, value⟩ hprop
  obtain ⟨props, hnode, hvalue, hreference⟩ := mem_referenceProps_iff.1 hprop
  obtain ⟨cells, hu32, -⟩ := exists_u32 ((hcells _ hnode _ hvalue).2 (.inr hreference))
  obtain ⟨found, hfound, -⟩ := hcells.exists_scan htable key 0 cells
  exact ⟨(path, key, found), by simp [hu32, hfound]⟩

end

theorem length_parent_lt {path : Path} (h : slash ∈ path) : (parent path).length < path.length := by
  obtain ⟨name, base, hpath, hslash⟩ := List.eq_append_cons_of_mem (List.mem_reverse.2 h)
  have hpath : path = base.reverse ++ slash :: name.reverse := by
    rw [← List.reverse_reverse path, hpath, List.reverse_append, List.reverse_cons, List.append_assoc]
    rfl
  rw [hpath, parent_child fun hmem ↦ hslash (List.mem_reverse.1 hmem), List.length_append, List.length_cons]
  omega

theorem Rooted.exists_activePath (hrooted : Rooted nodes) {path : Path}
    (hpath : path ≠ [] → path ∈ Dict.keys nodes) {fuel : ℕ} (hfuel : path.length < fuel) :
    ∃ active, activePath nodes fuel path = some active := by
  induction fuel generalizing path with
  | zero => exact absurd hfuel (Nat.not_lt_zero _)
  | succ fuel ih =>
    rw [activePath]
    split_ifs with hempty hmem
    · exact ⟨true, rfl⟩
    · exact ⟨false, rfl⟩
    · obtain ⟨hslash, hparent⟩ := hrooted path hmem
      have hlength := length_parent_lt hslash
      exact ih hparent (by omega)
    · exact absurd (hpath hempty) hmem

theorem Rooted.exists_startSet (hrooted : Rooted nodes) (roots : List Path) :
    ∃ start, startSet roots nodes = some start := by
  have hflags : ∃ flags, ((Dict.keys nodes).mapM fun path ↦
      if isWanted roots path then (activePath nodes (path.length + 1) path).map fun active ↦ (path, active)
      else some (path, false)) = some flags := by
    apply exists_mapM
    intro path hpath
    split_ifs
    · obtain ⟨active, hactive⟩ := hrooted.exists_activePath (fun _ ↦ hpath) (Nat.lt_succ_self path.length)
      exact ⟨(path, active), by rw [hactive, Option.map_some]⟩
    · exact ⟨_, rfl⟩
  obtain ⟨flags, hflags⟩ := hflags
  exact ⟨_, by rw [startSet, hflags]; rfl⟩

/-- What the loop reaches are nodes. -/
theorem Rooted.closure_subset (hrooted : Rooted nodes) {edges : List (Path × Path)}
    (hedges : ∀ edge ∈ edges, edge.2 ∈ Dict.keys nodes) {start seen : Finset Path}
    (hstart : start ⊆ (Dict.keys nodes).toFinset) (hseen : closure edges start = some seen) :
    seen ⊆ (Dict.keys nodes).toFinset := by
  have hclosed : ClosedUnder (Needs edges) (Dict.keys nodes).toFinset := by
    intro path hpath other hneeds
    rw [List.mem_toFinset] at hpath ⊢
    obtain hedge | ⟨rfl, hne⟩ := hneeds
    · exact hedges _ hedge
    · exact (hrooted path hpath).2 hne
  intro path hpath
  obtain ⟨origin, horigin, hreach⟩ := (mem_closure_iff hseen path).1 hpath
  exact hclosed.mem_of_reach (hstart horigin) hreach

/-- There is a report on every tree whose cells are whole: the audit does not look up a node that is not
there, and its loops come to an end. -/
theorem isSome_audit {props : Props} {children : Forest} (hchildren : children.WellFormed)
    (hcells : WholeCells (treeNodes props children)) (roots : List Path) :
    (audit roots (treeNodes props children)).isSome = true := by
  have hrooted := rooted_treeNodes props hchildren
  obtain ⟨table, htable, hkeys⟩ := hcells.exists_handles
  obtain ⟨found, hfound⟩ := hcells.exists_references hkeys
  obtain ⟨start, hstart⟩ := hrooted.exists_startSet roots
  obtain ⟨seen, hseen⟩ := Option.isSome_iff_exists.1 (isSome_closure (ends (edgesOf found)) start)
  have hedges : ∀ edge ∈ ends (edgesOf found), edge.2 ∈ Dict.keys (treeNodes props children) := by
    rintro ⟨path, other⟩ hedge
    obtain ⟨key, result, hresult, hother⟩ := mem_ends_edgesOf_iff.1 hedge
    obtain ⟨cells, -, hscan⟩ := (mem_references_iff hfound path key result).1 hresult
    obtain ⟨found, hfound, htargets⟩ := hcells.exists_scan hkeys key 0 cells
    obtain rfl := Option.some.inj (hscan.symm.trans hfound)
    exact htargets other hother
  have hsubset : seen ⊆ (Dict.keys (treeNodes props children)).toFinset := by
    refine hrooted.closure_subset hedges ?_ hseen
    intro path hpath
    exact List.mem_toFinset.2 ((mem_startSet_iff hstart path).1 hpath).1
  simp [audit, htable, hfound, hstart, hseen, hsubset]

theorem isSome_audit_clock : (audit [ascii "/dev"] (treeNodes [] clockForest)).isSome = true := by
  have hclk : (Forest.node (ascii "dev") [(ascii "clocks", [0, 0, 0, 1, 0, 0, 0, 7])] .nil .nil).WellFormed :=
    ⟨⟨by decide, by decide, by decide, by decide⟩, trivial, trivial⟩
  have hforest : clockForest.WellFormed := ⟨⟨by decide, by decide, by decide, by decide⟩, trivial, hclk⟩
  have hcells : WholeCells (treeNodes [] clockForest) := by decide
  exact isSome_audit hforest hcells [ascii "/dev"]

end

end TclB220G.DeviceTree
