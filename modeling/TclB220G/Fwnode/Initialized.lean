import TclB220G.Clk.Fwnode
import TclB220G.Lib.Lifetime
import TclB220G.PmDomain.Registry

/-!
# The mark of an initialised firmware node

The registries of clock providers and of power-domain providers are independent of each other, but both
write the same flag of a firmware node.  An addition sets it, and a removal that finds a provider clears
it, whoever else has registered something for the node.

What a step does to the flag and to the number of registrations is said once, by `Change`.  The flag is
right after every prefix of a history exactly as long as a removal takes the only registration of its
node.
-/

namespace TclB220G.Fwnode

open Kernel Lib

section

variable {Node Data Hw Domain : Type} [DecidableEq Node] [DecidableEq Domain]

/-- A call of one of the two registries. -/
inductive ProviderEvent (Node Data Hw Domain : Type) where
  | clk (event : Clk.Event Node Data Hw)
  | genpd (event : PmDomain.Event Node Domain)

/-- Both registries and the flags that they share.  The flags inside the registries are not used. -/
structure Providers (Node Data Hw Domain : Type) where
  clk : Clk.Registry Node Data Hw
  genpd : PmDomain.World Node Domain
  initialized : Node → Bool

namespace Providers

variable (providers : Providers Node Data Hw Domain)

/-- The clock registry as a call finds it. -/
def clkRegistry : Clk.Registry Node Data Hw := { providers.clk with initialized := providers.initialized }

/-- The power domains as a call finds them. -/
def genpdWorld : PmDomain.World Node Domain :=
  { providers.genpd with
    registry := { providers.genpd.registry with initialized := providers.initialized } }

def step : ProviderEvent Node Data Hw Domain → Providers Node Data Hw Domain
  | .clk event =>
    let clk := event.apply providers.clkRegistry
    { providers with clk, initialized := clk.initialized }
  | .genpd event =>
    let genpd := providers.genpdWorld.step event
    { providers with genpd, initialized := genpd.registry.initialized }

def run (events : List (ProviderEvent Node Data Hw Domain)) : Providers Node Data Hw Domain :=
  events.foldl step providers

/-- A clock provider is registered for the node. -/
def HasClk (node : Node) : Prop := ∃ provider ∈ providers.clk.providers, provider.fwnode = node

/-- A power-domain provider is registered for the node. -/
def HasGenpd (node : Node) : Prop :=
  ∃ provider ∈ providers.genpd.registry.providers, provider.fwnode = node

/-- Exactly the nodes with a provider are marked. -/
def Marked : Prop :=
  ∀ node, providers.initialized node = true ↔ providers.HasClk node ∨ providers.HasGenpd node

/-- Nothing is registered and no node is marked. -/
structure Fresh : Prop where
  clk : providers.clk.providers = []
  genpd : providers.genpd.registry.providers = []
  unmarked : ∀ node, providers.initialized node = false

def clkCount (node : Node) : ℕ := (KeyedStack.stack Clk.Provider.fwnode providers.clk.providers node).length

def genpdCount (node : Node) : ℕ :=
  (KeyedStack.stack PmDomain.Provider.fwnode providers.genpd.registry.providers node).length

/-- How many providers of both kinds a node has. -/
def registrations (node : Node) : ℕ := providers.clkCount node + providers.genpdCount node

end Providers

/-- The call removes a provider of the node. -/
def ProviderEvent.Removes (providers : Providers Node Data Hw Domain) (node : Node) :
    ProviderEvent Node Data Hw Domain → Prop
  | .clk (.del (some fwnode)) => fwnode = node ∧ providers.HasClk node
  | .genpd (.del fwnode) => fwnode = node ∧ providers.HasGenpd node
  | _ => False

/-- The call removes no provider, or the only one that its node has. -/
def ProviderEvent.Spares (providers : Providers Node Data Hw Domain)
    (event : ProviderEvent Node Data Hw Domain) : Prop :=
  ∀ node, event.Removes providers node → providers.registrations node = 1

/-! ## What a call changes -/

/-- What a call does to the registrations and to the marks. -/
inductive Change (Node : Type) where
  | keep
  | add (node : Node)
  | remove (node : Node)

namespace Change

def count (counts : Node → ℕ) : Change Node → Node → ℕ
  | keep => counts
  | add node => Function.update counts node (counts node + 1)
  | remove node => Function.update counts node (counts node - 1)

def mark (marks : Node → Bool) : Change Node → Node → Bool
  | keep => marks
  | add node => Function.update marks node true
  | remove node => Function.update marks node false

theorem count_add (change : Change Node) {counts others : Node → ℕ}
    (hpos : ∀ node, change = remove node → 0 < counts node) :
    (fun node ↦ change.count counts node + others node) =
      change.count (fun node ↦ counts node + others node) := by
  funext other
  cases change with
  | keep => rfl
  | add node =>
    simp only [count]
    by_cases hother : other = node
    · rw [hother, Function.update_self, Function.update_self]
      omega
    · rw [Function.update_of_ne hother, Function.update_of_ne hother]
  | remove node =>
    have hnode := hpos node rfl
    simp only [count]
    by_cases hother : other = node
    · rw [hother, Function.update_self, Function.update_self]
      omega
    · rw [Function.update_of_ne hother, Function.update_of_ne hother]

end Change

/-- The list of a registry before and after a change. -/
inductive Relisted {Entry : Type} (key : Entry → Node) : List Entry → List Entry → Change Node → Prop
  | keep (entries : List Entry) : Relisted key entries entries .keep
  | add (entry : Entry) (entries : List Entry) :
    Relisted key entries (entry :: entries) (.add (key entry))
  | remove (node : Node) (entries : List Entry) (hlisted : ∃ entry ∈ entries, key entry = node) :
    Relisted key entries (KeyedStack.erase key entries node) (.remove node)

namespace Relisted

variable {Entry : Type} {key : Entry → Node} {before after : List Entry} {change : Change Node}

theorem count (h : Relisted key before after change) :
    (fun node ↦ (KeyedStack.stack key after node).length) =
      change.count fun node ↦ (KeyedStack.stack key before node).length := by
  cases h with
  | keep => rfl
  | add entry => exact KeyedStack.length_stack_cons key entry before
  | remove node => exact KeyedStack.length_stack_erase key before node

theorem pos (h : Relisted key before after change) (node : Node) (hremove : change = .remove node) :
    0 < (KeyedStack.stack key before node).length := by
  cases h with
  | keep => cases hremove
  | add entry => cases hremove
  | remove other _ hlisted =>
    cases hremove
    exact List.length_pos_iff.2 ((KeyedStack.stack_ne_nil_iff key).2 hlisted)

variable {marks remarked : Node → Bool}

/-- A call that lists at most one entry and marks its node. -/
theorem exists_of_add
    (h : (after = before ∧ remarked = marks) ∨
      ∃ entry, after = entry :: before ∧ remarked = Function.update marks (key entry) true) :
    ∃ change, Relisted key before after change ∧ remarked = change.mark marks ∧
      ∀ node, change ≠ .remove node := by
  rcases h with ⟨rfl, rfl⟩ | ⟨entry, rfl, rfl⟩
  · exact ⟨.keep, .keep _, rfl, fun _ ↦ nofun⟩
  · exact ⟨.add (key entry), .add entry _, rfl, fun _ ↦ nofun⟩

/-- A call that takes the first entry of a node off the list, if there is one, and clears its
mark. -/
theorem exists_of_remove {node : Node}
    (hlisted : (∃ entry ∈ before, key entry = node) →
      after = KeyedStack.erase key before node ∧ remarked = Function.update marks node false)
    (hunlisted : (¬∃ entry ∈ before, key entry = node) → after = before ∧ remarked = marks) :
    ∃ change, Relisted key before after change ∧ remarked = change.mark marks ∧
      ∀ other, change = .remove other ↔ node = other ∧ ∃ entry ∈ before, key entry = other := by
  by_cases hentry : ∃ entry ∈ before, key entry = node
  · obtain ⟨rfl, rfl⟩ := hlisted hentry
    refine ⟨.remove node, .remove node _ hentry, rfl, fun other ↦ ⟨?_, ?_⟩⟩
    · rintro ⟨⟩
      exact ⟨rfl, hentry⟩
    · rintro ⟨rfl, -⟩
      rfl
  · obtain ⟨rfl, rfl⟩ := hunlisted hentry
    refine ⟨.keep, .keep _, rfl, fun other ↦ ⟨nofun, ?_⟩⟩
    rintro ⟨rfl, hother⟩
    exact absurd hother hentry

end Relisted

namespace Providers

variable {before : Providers Node Data Hw Domain}

omit [DecidableEq Domain] in
theorem registrations_pos_iff {node : Node} :
    0 < before.registrations node ↔ before.HasClk node ∨ before.HasGenpd node := by
  have hclk : 0 < before.clkCount node ↔ before.HasClk node := by
    rw [clkCount, List.length_pos_iff, KeyedStack.stack_ne_nil_iff]
    rfl
  have hgenpd : 0 < before.genpdCount node ↔ before.HasGenpd node := by
    rw [genpdCount, List.length_pos_iff, KeyedStack.stack_ne_nil_iff]
    rfl
  rw [← hclk, ← hgenpd, registrations]
  omega

/-- The change is what the call does, and it is a removal exactly if the call is one. -/
structure Changes (before : Providers Node Data Hw Domain) (event : ProviderEvent Node Data Hw Domain)
    (change : Change Node) : Prop where
  registrations : (before.step event).registrations = change.count before.registrations
  initialized : (before.step event).initialized = change.mark before.initialized
  removes : ∀ node, change = .remove node ↔ event.Removes before node

theorem changes_of_clk {event : Clk.Event Node Data Hw} {change : Change Node}
    (hlisted : Relisted Clk.Provider.fwnode before.clk.providers
      (event.apply before.clkRegistry).providers change)
    (hmark : (event.apply before.clkRegistry).initialized = change.mark before.initialized)
    (hremoves : ∀ node, change = .remove node ↔ (ProviderEvent.clk event).Removes before node) :
    before.Changes (.clk event) change where
  registrations := by
    calc
      (before.step (.clk event)).registrations =
          fun node ↦ change.count before.clkCount node + before.genpdCount node := by
        funext node
        exact congrArg (· + before.genpdCount node) (congrFun hlisted.count node)
      _ = change.count before.registrations := change.count_add hlisted.pos
  initialized := hmark
  removes := hremoves

theorem changes_of_genpd {event : PmDomain.Event Node Domain} {change : Change Node}
    (hlisted : Relisted PmDomain.Provider.fwnode before.genpd.registry.providers
      (before.genpdWorld.step event).registry.providers change)
    (hmark : (before.genpdWorld.step event).registry.initialized = change.mark before.initialized)
    (hremoves : ∀ node, change = .remove node ↔ (ProviderEvent.genpd event).Removes before node) :
    before.Changes (.genpd event) change where
  registrations := by
    calc
      (before.step (.genpd event)).registrations =
          fun node ↦ change.count before.genpdCount node + before.clkCount node := by
        funext node
        rw [Nat.add_comm]
        exact congrArg (before.clkCount node + ·) (congrFun hlisted.count node)
      _ = change.count fun node ↦ before.genpdCount node + before.clkCount node :=
        change.count_add hlisted.pos
      _ = change.count before.registrations := by
        congr 1
        funext node
        exact Nat.add_comm _ _
  initialized := hmark
  removes := hremoves

theorem exists_changes_clk (event : Clk.Event Node Data Hw) :
    ∃ change, before.Changes (.clk event) change := by
  cases event with
  | add fwnode ops data allocates =>
    have hadd := (Clk.add_listing fwnode ops data allocates before.clkRegistry).imp_left fun hsame ↦
      And.intro (congrArg Clk.Registry.providers hsame) (congrArg Clk.Registry.initialized hsame)
    obtain ⟨change, hlist, hmark, hnone⟩ := Relisted.exists_of_add hadd
    exact ⟨change, changes_of_clk hlist hmark fun node ↦ iff_of_false (hnone node) id⟩
  | del fwnode =>
    cases fwnode with
    | none => exact ⟨.keep, changes_of_clk (.keep _) rfl fun _ ↦ ⟨nofun, nofun⟩⟩
    | some node =>
      obtain ⟨change, hlist, hmark, hremoves⟩ :=
        Relisted.exists_of_remove (Clk.del_listing before.clkRegistry) fun hunlisted ↦ by
          rw [Clk.del_of_unlisted before.clkRegistry hunlisted]
          exact ⟨rfl, rfl⟩
      exact ⟨change, changes_of_clk hlist hmark hremoves⟩

theorem exists_changes_genpd (event : PmDomain.Event Node Domain) :
    ∃ change, before.Changes (.genpd event) change := by
  cases event with
  | add call fwnode data =>
    obtain ⟨change, hlist, hmark, hnone⟩ := Relisted.exists_of_add
      (PmDomain.add_listing (before.genpdWorld.env call) fwnode data before.genpdWorld.registry)
    exact ⟨change, changes_of_genpd hlist hmark fun node ↦ iff_of_false (hnone node) id⟩
  | del node =>
    obtain ⟨change, hlist, hmark, hremoves⟩ := Relisted.exists_of_remove
      (PmDomain.del_listing before.genpd.gpdList before.genpdWorld.registry) fun hunlisted ↦ by
        rw [PmDomain.del_of_unlisted before.genpd.gpdList before.genpdWorld.registry hunlisted]
        exact ⟨rfl, rfl⟩
    exact ⟨change, changes_of_genpd hlist hmark hremoves⟩
  | gpdList domains => exact ⟨.keep, changes_of_genpd (.keep _) rfl fun _ ↦ ⟨nofun, nofun⟩⟩

theorem exists_changes (before : Providers Node Data Hw Domain)
    (event : ProviderEvent Node Data Hw Domain) : ∃ change, before.Changes event change := by
  cases event with
  | clk event => exact exists_changes_clk event
  | genpd event => exact exists_changes_genpd event

/-! ## Histories -/

omit [DecidableEq Domain] in
theorem marked_iff :
    before.Marked ↔ ∀ node, before.initialized node = true ↔ 0 < before.registrations node := by
  rw [Marked]
  apply forall_congr'
  intro node
  rw [registrations_pos_iff]

omit [DecidableEq Domain] in
/-- A removal finds a registration. -/
theorem registrations_pos_of_removes {event : ProviderEvent Node Data Hw Domain} {node : Node}
    (h : event.Removes before node) : 0 < before.registrations node := by
  rw [registrations_pos_iff]
  match event, h with
  | .clk (.del (some _)), h => exact .inl h.2
  | .genpd (.del _), h => exact .inr h.2

/-- From a state with the right marks, a call leads to one exactly if it spares the others. -/
theorem marked_step_iff (hmarked : before.Marked) (event : ProviderEvent Node Data Hw Domain) :
    (before.step event).Marked ↔ event.Spares before := by
  obtain ⟨change, hchange⟩ := before.exists_changes event
  have hpos : ∀ node, change = .remove node → 0 < before.registrations node := fun node hremove ↦
    registrations_pos_of_removes ((hchange.removes node).1 hremove)
  rw [marked_iff] at hmarked ⊢
  rw [hchange.registrations, hchange.initialized, ProviderEvent.Spares]
  simp only [← hchange.removes]
  cases change with
  | keep => exact ⟨fun _ _ ↦ nofun, fun _ ↦ hmarked⟩
  | add node =>
    refine ⟨fun _ _ ↦ nofun, fun _ other ↦ ?_⟩
    simp only [Change.mark, Change.count]
    by_cases hother : other = node
    · rw [hother, Function.update_self, Function.update_self]
      exact ⟨fun _ ↦ Nat.succ_pos _, fun _ ↦ rfl⟩
    · rw [Function.update_of_ne hother, Function.update_of_ne hother]
      exact hmarked other
  | remove node =>
    -- The mark of the node is cleared, so nothing may be left of its registrations.
    have hnode := hpos node rfl
    simp only [Change.mark, Change.count, Change.remove.injEq]
    constructor
    · rintro h _ rfl
      have hcleared := h node
      rw [Function.update_self, Function.update_self] at hcleared
      have hnone : ¬0 < before.registrations node - 1 := fun hleft ↦ absurd (hcleared.2 hleft) (by decide)
      omega
    · intro h other
      have honly := h node rfl
      by_cases hother : other = node
      · rw [hother, Function.update_self, Function.update_self, honly]
        decide
      · rw [Function.update_of_ne hother, Function.update_of_ne hother]
        exact hmarked other

omit [DecidableEq Node] [DecidableEq Domain] in
theorem Fresh.marked (hfresh : before.Fresh) : before.Marked := by
  intro node
  rw [hfresh.unmarked, HasClk, HasGenpd, hfresh.clk, hfresh.genpd]
  simp

/-- After every prefix of a history exactly the nodes with a provider are marked, if and only if no call
removes a provider from a node that has another one. -/
theorem marked_iff_spares (hfresh : before.Fresh)
    (history : List (ProviderEvent Node Data Hw Domain)) :
    (∀ earlier, earlier <+: history → (before.run earlier).Marked) ↔
      Throughout (fun earlier event ↦ event.Spares (before.run earlier)) history := by
  apply prefixes_iff_throughout
  · exact hfresh.marked
  · intro earlier event hmarked
    rw [run, List.foldl_concat]
    exact marked_step_iff hmarked event

end Providers

end

/-! ## Two clocks on one node -/

/-- Nothing is registered for any number. -/
def noProviders : Providers ℕ ℕ ℕ ℕ where
  clk := ⟨[], fun _ ↦ 0, fun _ ↦ false⟩
  genpd := PmDomain.emptyWorld []
  initialized := fun _ ↦ false

theorem fresh_noProviders : noProviders.Fresh := ⟨rfl, rfl, fun _ ↦ rfl⟩

/-- A clock provider for node `7` is added. -/
def addClock : ProviderEvent ℕ ℕ ℕ ℕ :=
  .clk (.add (some 7) (some ⟨some Clk.fwnodeClkHwSimpleGet⟩) 0 true)

def delClock : ProviderEvent ℕ ℕ ℕ ℕ := .clk (.del (some 7))

/-- One of two clock providers is removed: the other is still registered and the mark is gone. -/
theorem not_marked_twoClocks :
    ¬(noProviders.run [addClock, addClock, delClock]).Marked := by
  intro hmarked
  have hclk : (noProviders.run [addClock, addClock, delClock]).HasClk 7 :=
    ⟨⟨7, Clk.fwnodeClkHwSimpleGet, 0⟩, List.mem_cons_self, rfl⟩
  exact absurd ((hmarked 7).2 (.inl hclk)) (by decide)

/-- The only provider of the node is removed: the marks are right. -/
theorem marked_iff_spares_oneClock :
    noProviders.Fresh ∧ (noProviders.run [addClock, delClock]).Marked := by
  refine ⟨fresh_noProviders, ?_⟩
  apply (Providers.marked_iff_spares fresh_noProviders [addClock, delClock]).2 _ _ List.prefix_rfl
  have hadd : Throughout (fun earlier event ↦ event.Spares (noProviders.run earlier)) [addClock] := by
    rw [← List.nil_append [addClock], throughout_concat]
    exact ⟨Throughout.nil, nofun⟩
  rw [← List.singleton_append, throughout_concat]
  refine ⟨hadd, fun node hremoves ↦ ?_⟩
  obtain ⟨rfl, -⟩ := hremoves
  rfl

end TclB220G.Fwnode
