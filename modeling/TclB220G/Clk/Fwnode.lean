import Mathlib.Algebra.Group.Int.Defs
import TclB220G.Kernel.Errno
import TclB220G.Kernel.Fwnode
import TclB220G.Lib.KeyedStack

/-!
# Clock providers of firmware nodes

Clock providers are kept in one list, the newest first.  A provider has a decoder, which takes a clock
specifier to a clock or to an error.  A lookup asks the providers of the node from the newest on until
a decoder succeeds, and a removal takes the newest provider of the node away.

Seen from outside, every node has a stack of providers.  The list refines this view, whatever the
history of additions and removals, and the references that the registry holds on a node are as many
as the node has providers.
-/

namespace TclB220G.Clk

open Kernel Kernel.Errno Lib

/-- The decoder of a provider.  An error stands for an error pointer. -/
abbrev Decoder (Node Data Hw : Type) := ReferenceArgs Node → Data → Except Errno Hw

/-- The operations `struct fwnode_clk_provider_ops`, in which the decoder may be missing. -/
structure ProviderOps (Node Data Hw : Type) where
  get : Option (Decoder Node Data Hw)

/-- An entry of the provider list, `struct fwnode_clk_provider`. -/
structure Provider (Node Data Hw : Type) where
  fwnode : Node
  get : Decoder Node Data Hw
  data : Data

/-- The provider list, with the references on firmware nodes and their `initialized` flags. -/
structure Registry (Node Data Hw : Type) where
  providers : List (Provider Node Data Hw)
  nodeRefs : Node → ℤ
  initialized : Node → Bool

section

variable {Node Data Hw : Type} [DecidableEq Node]

/-- What the provider makes of a specifier. -/
def Provider.decode (provider : Provider Node Data Hw) (clkspec : ReferenceArgs Node) : Except Errno Hw :=
  provider.get clkspec provider.data

def fwnodeClkHwSimpleGet : Decoder Node Hw Hw := fun clkspec data ↦
  if clkspec.args.length ≠ 0 then .error EINVAL else .ok data

namespace Registry

variable (registry : Registry Node Data Hw)

def fwnodeHandleGet (fwnode : Node) : Registry Node Data Hw :=
  { registry with nodeRefs := Function.update registry.nodeRefs fwnode (registry.nodeRefs fwnode + 1) }

def fwnodeHandlePut (fwnode : Node) : Registry Node Data Hw :=
  { registry with nodeRefs := Function.update registry.nodeRefs fwnode (registry.nodeRefs fwnode - 1) }

def fwnodeDevInitialized (fwnode : Node) (initialized : Bool) : Registry Node Data Hw :=
  { registry with initialized := Function.update registry.initialized fwnode initialized }

end Registry

/-- The registration of a provider, with the outcome of its allocation. -/
def fwnodeClkAddHwProvider (fwnode : Option Node) (ops : Option (ProviderOps Node Data Hw))
    (data : Data) (allocates : Bool) (registry : Registry Node Data Hw) :
    Option Errno × Registry Node Data Hw :=
  match fwnode, ops.bind ProviderOps.get with
  | some fwnode, some get =>
    if allocates then
      let registry := registry.fwnodeHandleGet fwnode
      let registry := { registry with providers := ⟨fwnode, get, data⟩ :: registry.providers }
      (none, registry.fwnodeDevInitialized fwnode true)
    else (some ENOMEM, registry)
  | _, _ => (some EINVAL, registry)

def fwnodeClkDelProvider (fwnode : Option Node) (registry : Registry Node Data Hw) :
    Registry Node Data Hw :=
  match fwnode with
  | none => registry
  | some fwnode =>
    match registry.providers.find? fun provider ↦ provider.fwnode = fwnode with
    | none => registry
    | some provider =>
      let registry :=
        { registry with providers := KeyedStack.erase Provider.fwnode registry.providers fwnode }
      (registry.fwnodeDevInitialized fwnode false).fwnodeHandlePut provider.fwnode

/-- The loop of the lookup, with the value of `hw` so far. -/
def lookupLoop (clkspec : ReferenceArgs Node) :
    List (Provider Node Data Hw) → Except Errno Hw → Except Errno Hw
  | [], hw => hw
  | provider :: providers, hw =>
    if provider.fwnode ≠ clkspec.fwnode then lookupLoop clkspec providers hw
    else
      match provider.decode clkspec with
      | .ok hw => .ok hw
      | .error errno => lookupLoop clkspec providers (.error errno)

def fwnodeClkGetHwFromFwspec (available : Node → Bool) (registry : Registry Node Data Hw)
    (clkspec : Option (ReferenceArgs Node)) : Except Errno Hw :=
  match clkspec with
  | none => .error EINVAL
  | some clkspec =>
    if !available clkspec.fwnode then .error ENOENT
    else lookupLoop clkspec registry.providers (.error EPROBE_DEFER)

/-! ## Lookup by name -/

/-- The properties of firmware nodes: the index of a name in `clock-names`, and the reference of an
index in `clocks`. -/
structure Properties (Node : Type) where
  matchString : Node → String → Except Errno ℕ
  referenceArgs : Node → ℕ → Except Errno (ReferenceArgs Node)

/-- Finds the specifier.  The reference on its node is the caller's. -/
def fwnodeParseClkspec (properties : Properties Node) (fwnode : Option Node) (index : ℕ)
    (name : Option String) (registry : Registry Node Data Hw) :
    Except Errno (ReferenceArgs Node) × Registry Node Data Hw :=
  match fwnode with
  | none => (.error ENOENT, registry)
  | some fwnode =>
    let found := do
      let index ← match name with
        | some name => properties.matchString fwnode name
        | none => .ok index
      properties.referenceArgs fwnode index
    match found with
    | .error errno => (.error errno, registry)
    | .ok clkspec => (.ok clkspec, registry.fwnodeHandleGet clkspec.fwnode)

def fwnodeClkGetHw (properties : Properties Node) (available : Node → Bool) (fwnode : Option Node)
    (index : ℕ) (conId : Option String) (registry : Registry Node Data Hw) :
    Except Errno Hw × Registry Node Data Hw :=
  match fwnodeParseClkspec properties fwnode index conId registry with
  | (.error errno, registry) => (.error errno, registry)
  | (.ok clkspec, registry) =>
    (fwnodeClkGetHwFromFwspec available registry (some clkspec),
      registry.fwnodeHandlePut clkspec.fwnode)

/-- The firmware node of a device: an OF node, or one of another kind. -/
inductive FirmwareNode (Node : Type)
  | ofNode
  | fwnode (node : Node)

/-- What is used of `struct device`. -/
structure ClkDevice (Node : Type) where
  firmware : Option (FirmwareNode Node)

/-- The call that `clk_get` ends with. -/
inductive ClkCall (Hw : Type)
  | clkHwCreateClk (hw : Except Errno Hw)
  | clkGetSys

def clkGet (properties : Properties Node) (available : Node → Bool)
    (ofClkGetHw : Except Errno Hw) (dev : Option (ClkDevice Node)) (conId : Option String)
    (registry : Registry Node Data Hw) : ClkCall Hw × Registry Node Data Hw :=
  match dev.bind ClkDevice.firmware with
  | none => (.clkGetSys, registry)
  | some firmware =>
    let found := match firmware with
      | .ofNode => (ofClkGetHw, registry)
      | .fwnode fwnode => fwnodeClkGetHw properties available (some fwnode) 0 conId registry
    match found with
    | (.ok hw, registry) => (.clkHwCreateClk (.ok hw), registry)
    | (.error errno, registry) =>
      if errno = EPROBE_DEFER then (.clkHwCreateClk (.error errno), registry)
      else (.clkGetSys, registry)

/-! ## The view from outside -/

/-- A call that changes the registry. -/
inductive Event (Node Data Hw : Type)
  | add (fwnode : Option Node) (ops : Option (ProviderOps Node Data Hw)) (data : Data)
    (allocates : Bool)
  | del (fwnode : Option Node)

def Event.apply (registry : Registry Node Data Hw) : Event Node Data Hw → Registry Node Data Hw
  | .add fwnode ops data allocates =>
    (fwnodeClkAddHwProvider fwnode ops data allocates registry).2
  | .del fwnode => fwnodeClkDelProvider fwnode registry

/-- The providers of every node, the newest first. -/
abbrev Stacks (Node Data Hw : Type) := Node → List (Provider Node Data Hw)

/-- What a call does to the stacks.  An addition with all that it needs puts a provider on the stack of
its node, and a removal takes one off. -/
def Event.applyStacks (view : Stacks Node Data Hw) : Event Node Data Hw → Stacks Node Data Hw
  | .add (some fwnode) (some ⟨some get⟩) data true =>
    KeyedStack.push Provider.fwnode view ⟨fwnode, get, data⟩
  | .add _ _ _ _ => view
  | .del (some fwnode) => KeyedStack.pop view fwnode
  | .del none => view

/-- The answer of a stack of providers: that of the newest one whose decoder succeeds, or else the
error of the oldest, or else the given one. -/
def answer (otherwise : Except Errno Hw) (clkspec : ReferenceArgs Node)
    (stack : List (Provider Node Data Hw)) : Except Errno Hw :=
  match stack.find? fun provider ↦ (provider.decode clkspec).isOk with
  | some provider => provider.decode clkspec
  | none =>
    match stack.getLast? with
    | some provider => provider.decode clkspec
    | none => otherwise

/-- The stacks of the list. -/
def Registry.view (registry : Registry Node Data Hw) : Stacks Node Data Hw :=
  KeyedStack.stack Provider.fwnode registry.providers

/-- A registry without providers. -/
def Registry.initial (nodeRefs : Node → ℤ) (initialized : Node → Bool) : Registry Node Data Hw :=
  ⟨[], nodeRefs, initialized⟩

omit [DecidableEq Node] in
theorem answer_cons (otherwise : Except Errno Hw) (clkspec : ReferenceArgs Node)
    (provider : Provider Node Data Hw) (stack : List (Provider Node Data Hw)) :
    answer otherwise clkspec (provider :: stack) =
      match provider.decode clkspec with
      | .ok hw => .ok hw
      | .error errno => answer (.error errno) clkspec stack := by
  rw [answer, List.find?_cons]
  cases hdecode : provider.decode clkspec with
  | ok hw => exact hdecode
  | error errno =>
    have hfails : (Except.error errno : Except Errno Hw).isOk = false := rfl
    rw [hfails]
    dsimp only [answer]
    cases stack.find? fun provider ↦ (provider.decode clkspec).isOk with
    | some found => rfl
    | none =>
      rw [List.getLast?_cons]
      cases stack.getLast? with
      | some oldest => rfl
      | none => exact hdecode

/-- The loop finds the answer of the stack of the node. -/
theorem lookupLoop_eq (clkspec : ReferenceArgs Node) (providers : List (Provider Node Data Hw))
    (hw : Except Errno Hw) :
    lookupLoop clkspec providers hw =
      answer hw clkspec (KeyedStack.stack Provider.fwnode providers clkspec.fwnode) := by
  induction providers generalizing hw with
  | nil => rfl
  | cons provider providers ih =>
    rw [lookupLoop, KeyedStack.stack_cons, KeyedStack.push]
    split
    · next hother => rw [ih, Function.update_of_ne fun h ↦ hother h.symm]
    · next hnode =>
      rw [not_not] at hnode
      rw [hnode, Function.update_self, answer_cons]
      cases provider.decode clkspec with
      | ok hw => rfl
      | error errno => exact ih (.error errno)

/-- The registry holds the providers of the stacks and one reference for each of them. -/
structure Refines (base : Node → ℤ) (registry : Registry Node Data Hw)
    (view : Stacks Node Data Hw) : Prop where
  view_eq : registry.view = view
  nodeRefs_eq : ∀ node, registry.nodeRefs node = base node + (view node).length

theorem fwnodeClkDelProvider_eq (node : Node) (registry : Registry Node Data Hw) :
    match registry.view node with
    | [] => fwnodeClkDelProvider (some node) registry = registry
    | _ :: older =>
      (fwnodeClkDelProvider (some node) registry).view =
          Function.update registry.view node older ∧
        (fwnodeClkDelProvider (some node) registry).nodeRefs =
          Function.update registry.nodeRefs node (registry.nodeRefs node - 1) := by
  have hfind := KeyedStack.find?_eq_head? Provider.fwnode registry.providers node
  have herase := KeyedStack.stack_erase Provider.fwnode registry.providers node
  change _ = (registry.view node).head? at hfind
  change _ = KeyedStack.pop registry.view node at herase
  cases hview : registry.view node with
  | nil =>
    rw [hview, List.head?_nil] at hfind
    simp only [fwnodeClkDelProvider, hfind]
  | cons newest older =>
    rw [hview, List.head?_cons] at hfind
    have hnode : newest.fwnode = node := by simpa using List.find?_some hfind
    rw [KeyedStack.pop, hview, List.tail_cons] at herase
    simp only [fwnodeClkDelProvider, hfind, hnode]
    exact ⟨herase, rfl⟩

/-- An addition lists one provider and marks its node, or it changes nothing. -/
theorem add_listing (fwnode : Option Node) (ops : Option (ProviderOps Node Data Hw)) (data : Data)
    (allocates : Bool) (registry : Registry Node Data Hw) :
    (fwnodeClkAddHwProvider fwnode ops data allocates registry).2 = registry ∨
    ∃ provider : Provider Node Data Hw,
      (fwnodeClkAddHwProvider fwnode ops data allocates registry).2.providers =
        provider :: registry.providers ∧
      (fwnodeClkAddHwProvider fwnode ops data allocates registry).2.initialized =
        Function.update registry.initialized provider.fwnode true := by
  unfold fwnodeClkAddHwProvider
  split
  · rename_i node get _
    split
    · exact .inr ⟨⟨node, get, data⟩, rfl, rfl⟩
    · exact .inl rfl
  · exact .inl rfl

/-- A removal that finds a provider takes it off the list and clears the mark of the node. -/
theorem del_listing (registry : Registry Node Data Hw) {fwnode : Node}
    (h : ∃ provider ∈ registry.providers, provider.fwnode = fwnode) :
    (fwnodeClkDelProvider (some fwnode) registry).providers =
        KeyedStack.erase Provider.fwnode registry.providers fwnode ∧
      (fwnodeClkDelProvider (some fwnode) registry).initialized =
        Function.update registry.initialized fwnode false := by
  obtain ⟨provider, hmem, hnode⟩ := h
  have hfound : (registry.providers.find? fun provider ↦ provider.fwnode = fwnode).isSome :=
    List.find?_isSome.2 ⟨provider, hmem, decide_eq_true hnode⟩
  obtain ⟨found, hfind⟩ := Option.isSome_iff_exists.1 hfound
  simp only [fwnodeClkDelProvider, hfind]
  exact ⟨rfl, rfl⟩

theorem del_of_unlisted (registry : Registry Node Data Hw) {fwnode : Node}
    (h : ¬∃ provider ∈ registry.providers, provider.fwnode = fwnode) :
    fwnodeClkDelProvider (some fwnode) registry = registry := by
  have hnone : registry.providers.find? (fun provider ↦ provider.fwnode = fwnode) = none := by
    apply List.find?_eq_none.2
    intro provider hmem hnode
    exact h ⟨provider, hmem, of_decide_eq_true hnode⟩
  simp only [fwnodeClkDelProvider, hnone]

variable {base : Node → ℤ} {registry : Registry Node Data Hw} {view : Stacks Node Data Hw}

theorem refines_add (hrefines : Refines base registry view) (provider : Provider Node Data Hw)
    (after : Registry Node Data Hw) (hproviders : after.providers = provider :: registry.providers)
    (hrefs : after.nodeRefs =
      Function.update registry.nodeRefs provider.fwnode (registry.nodeRefs provider.fwnode + 1)) :
    Refines base after (KeyedStack.push Provider.fwnode view provider) := by
  constructor
  · rw [← hrefines.view_eq, Registry.view, hproviders, KeyedStack.stack_cons]
    rfl
  · intro node
    have hbefore := hrefines.nodeRefs_eq node
    rw [hrefs, KeyedStack.push]
    by_cases hnode : node = provider.fwnode
    · rw [hnode] at hbefore ⊢
      rw [Function.update_self, Function.update_self, List.length_cons]
      omega
    · rw [Function.update_of_ne hnode, Function.update_of_ne hnode]
      exact hbefore

theorem refines_del (hrefines : Refines base registry view) (node : Node) :
    Refines base (fwnodeClkDelProvider (some node) registry) (KeyedStack.pop view node) := by
  have hdel := fwnodeClkDelProvider_eq node registry
  rw [hrefines.view_eq] at hdel
  rw [KeyedStack.pop]
  cases hview : view node with
  | nil =>
    rw [hview] at hdel
    rw [hdel, List.tail_nil, ← hview, Function.update_eq_self]
    exact hrefines
  | cons newest older =>
    rw [hview] at hdel
    refine ⟨hdel.1, fun other ↦ ?_⟩
    have hbefore := hrefines.nodeRefs_eq other
    rw [hdel.2, List.tail_cons]
    by_cases hother : other = node
    · rw [hother, hview, List.length_cons] at hbefore
      rw [hother, Function.update_self, Function.update_self]
      omega
    · rw [Function.update_of_ne hother, Function.update_of_ne hother]
      exact hbefore

theorem refines_apply (hrefines : Refines base registry view) (event : Event Node Data Hw) :
    Refines base (event.apply registry) (event.applyStacks view) := by
  cases event with
  | del fwnode =>
    cases fwnode with
    | none => exact hrefines
    | some node => exact refines_del hrefines node
  | add fwnode ops data allocates =>
    match fwnode, ops, allocates with
    | none, _, _ => exact hrefines
    | some _, none, _ => exact hrefines
    | some _, some ⟨none⟩, _ => exact hrefines
    | some _, some ⟨some _⟩, false => exact hrefines
    | some node, some ⟨some get⟩, true => exact refines_add hrefines ⟨node, get, data⟩ _ rfl rfl

theorem refines_history (nodeRefs : Node → ℤ) (initialized : Node → Bool)
    (history : List (Event Node Data Hw)) :
    Refines nodeRefs (history.foldl Event.apply (.initial nodeRefs initialized))
      (history.foldl Event.applyStacks fun _ ↦ []) := by
  have hrun : ∀ (registry : Registry Node Data Hw) (view : Stacks Node Data Hw),
      Refines nodeRefs registry view → Refines nodeRefs (history.foldl Event.apply registry)
        (history.foldl Event.applyStacks view) := by
    induction history with
    | nil => exact fun _ _ h ↦ h
    | cons event history ih => exact fun _ _ h ↦ ih _ _ (refines_apply h event)
  exact hrun _ _ ⟨rfl, fun node ↦ by simp [Registry.initial]⟩

/-- A device with a firmware node that is not an OF node is looked for in clkdev exactly if the
lookup fails for another reason than a deferral. -/
theorem clkGet_eq_clkGetSys_iff (properties : Properties Node) (available : Node → Bool)
    (ofClkGetHw : Except Errno Hw) (fwnode : Node) (conId : Option String)
    (registry : Registry Node Data Hw) :
    (clkGet properties available ofClkGetHw (some ⟨some (.fwnode fwnode)⟩) conId registry).1 =
        .clkGetSys ↔
      ∃ errno, (fwnodeClkGetHw properties available (some fwnode) 0 conId registry).1 =
        .error errno ∧ errno ≠ EPROBE_DEFER := by
  simp only [clkGet, Option.bind_some]
  rcases fwnodeClkGetHw properties available (some fwnode) 0 conId registry with ⟨_ | hw, after⟩
  · next errno =>
    by_cases hdefer : errno = EPROBE_DEFER
    · simp [hdefer]
    · simp [hdefer]
  · simp

/-- Over every history, lookups answer from the stack of the node, a removal takes the newest provider
off the stack and drops one reference, and there is one reference for each provider.  What `clk_get`
tries next depends on the error of the lookup alone. -/
theorem fwnodeClk_history (properties : Properties Node) (available : Node → Bool)
    (nodeRefs : Node → ℤ) (initialized : Node → Bool) (history : List (Event Node Data Hw)) :
    let registry := history.foldl Event.apply (.initial nodeRefs initialized)
    let view : Stacks Node Data Hw := history.foldl Event.applyStacks fun _ ↦ []
    (∀ clkspec, available clkspec.fwnode = true →
      fwnodeClkGetHwFromFwspec available registry (some clkspec) =
        answer (.error EPROBE_DEFER) clkspec (view clkspec.fwnode)) ∧
    (∀ node, let after := fwnodeClkDelProvider (some node) registry
      match view node with
      | [] => after = registry
      | _ :: older => after.view = Function.update view node older ∧
          after.nodeRefs = Function.update registry.nodeRefs node (registry.nodeRefs node - 1)) ∧
    (∀ node, registry.nodeRefs node = nodeRefs node + (view node).length) ∧
    ∀ ofClkGetHw fwnode conId,
      (clkGet properties available ofClkGetHw (some ⟨some (.fwnode fwnode)⟩) conId registry).1 =
          .clkGetSys ↔
        ∃ errno, (fwnodeClkGetHw properties available (some fwnode) 0 conId registry).1 =
          .error errno ∧ errno ≠ EPROBE_DEFER := by
  intro registry view
  have hrefines : Refines nodeRefs registry view := refines_history nodeRefs initialized history
  refine ⟨fun clkspec havailable ↦ ?_, fun node ↦ ?_, hrefines.nodeRefs_eq, ?_⟩
  · rw [← hrefines.view_eq]
    simp only [fwnodeClkGetHwFromFwspec, havailable, Bool.not_true, Bool.false_eq_true, if_false]
    exact lookupLoop_eq clkspec registry.providers _
  · have hdel := fwnodeClkDelProvider_eq node registry
    rw [hrefines.view_eq] at hdel
    exact hdel
  · intro ofClkGetHw fwnode conId
    exact clkGet_eq_clkGetSys_iff properties available ofClkGetHw fwnode conId registry

end

/-- A simple provider, and then one that decodes nothing. -/
def twoProviders : List (Event ℕ ℕ ℕ) :=
  [.add (some 1) (some ⟨some fwnodeClkHwSimpleGet⟩) 10 true,
    .add (some 1) (some ⟨some fun _ _ ↦ .error ENODEV⟩) 20 true]

/-- The newer provider fails and the older one answers, or has the last word. -/
theorem fwnodeClk_history_twoProviders :
    let registry := twoProviders.foldl Event.apply (.initial (fun _ ↦ 0) fun _ ↦ false)
    fwnodeClkGetHwFromFwspec (fun _ ↦ true) registry (some ⟨1, []⟩) = .ok 10 ∧
      fwnodeClkGetHwFromFwspec (fun _ ↦ true) registry (some ⟨1, [3]⟩) = .error EINVAL := by
  have hlookup := (fwnodeClk_history ⟨fun _ _ ↦ .error ENOENT, fun _ _ ↦ .error ENOENT⟩
    (fun _ ↦ true) (fun _ ↦ 0) (fun _ ↦ false) twoProviders).1
  exact ⟨hlookup ⟨1, []⟩ rfl, hlookup ⟨1, [3]⟩ rfl⟩

end TclB220G.Clk
