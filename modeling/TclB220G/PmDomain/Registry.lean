import Mathlib.Algebra.Group.Nat.Defs
import Mathlib.Data.List.Nodup
import TclB220G.Kernel.Fwnode
import TclB220G.Lib.KeyedStack
import TclB220G.PmDomain.Onecell

/-!
# The registry of onecell providers

A registration puts a provider in front of the list of providers and marks the domains of its table.  A
removal takes the first provider of the node off that list, but it finds the domains by a walk over the
list of all power domains.  A lookup takes the first provider of the node.

What the registry is for is a map from nodes to tables.  The registry stands for that map as long as each
node has at most one table, no domain is in two places, and a domain with a provider stays on the list of
all power domains.  Two things come between: a registration that returns zero without having registered
anything, and the 64-bit argument of a lookup, of which only the lower half is read.
-/

namespace TclB220G.PmDomain

open Kernel Kernel.Errno Lib

section

variable {Node Domain : Type} [DecidableEq Node] [DecidableEq Domain]

/-- The walk of a removal over the list of all power domains. -/
def withdrawAll (fwnode : Node) (gpdList : List Domain) (registry : Registry Node Domain) :
    Registry Node Domain :=
  gpdList.foldl (fun registry domain ↦
    if (registry.genpd domain).provider = some fwnode then registry.withdraw domain else registry)
    registry

variable (registry : Registry Node Domain)

/-- The provider of a node is taken off the list and its reference is put. -/
def Registry.unlist (fwnode : Node) : Registry Node Domain :=
  { registry with
    providers := KeyedStack.erase Provider.fwnode registry.providers fwnode
    nodeRefs := Function.update registry.nodeRefs fwnode (registry.nodeRefs fwnode - 1)
    initialized := Function.update registry.initialized fwnode false }

def Registry.findProvider (fwnode : Node) :
    Option (Provider Node Domain) :=
  registry.providers.find? fun provider ↦ provider.fwnode = fwnode

def fwnodeGenpdDelProvider (gpdList : List Domain) (fwnode : Node) (registry : Registry Node Domain) :
    Registry Node Domain :=
  match registry.findProvider fwnode with
  | none => registry
  | some _ => (withdrawAll fwnode gpdList registry).unlist fwnode

def fwnodeGenpdGetFromProvider (args : Option (ReferenceArgs Node)) :
    Except Errno Domain :=
  match args with
  | some ⟨fwnode, [argument]⟩ =>
    -- The local `index` is an `unsigned int`.
    let index := (argument.setWidth 32).toNat
    match registry.findProvider fwnode with
    | none => .error ENOENT
    | some provider =>
      match provider.table[index]? with
      | none => .error EINVAL
      | some none => .error ENOENT
      | some (some domain) => .ok domain
  | _ => .error EINVAL

/-! ## Histories -/

/-- What a registration finds around it, apart from the list of all power domains. -/
structure AddCall (Domain : Type) where
  busRegistered : Bool
  allocates : Bool
  deviceAdd : Domain → Option Errno

inductive Event (Node Domain : Type) where
  | add (call : AddCall Domain) (fwnode : Option Node) (data : Option (OnecellData Domain))
  | del (fwnode : Node)
  /-- Domains are initialised or removed elsewhere. -/
  | gpdList (domains : List Domain)

/-- The registry and the list of all power domains. -/
structure World (Node Domain : Type) where
  registry : Registry Node Domain
  gpdList : List Domain

namespace World

def env (world : World Node Domain) (call : AddCall Domain) : AddEnv Domain where
  busRegistered := call.busRegistered
  allocates := call.allocates
  present := fun domain ↦ domain ∈ world.gpdList
  deviceAdd := call.deviceAdd

def step (world : World Node Domain) : Event Node Domain → World Node Domain
  | .add call fwnode data =>
    { world with
      registry := (fwnodeGenpdAddProviderOnecell (world.env call) fwnode data world.registry).2 }
  | .del fwnode =>
    { world with registry := fwnodeGenpdDelProvider world.gpdList fwnode world.registry }
  | .gpdList domains => { world with gpdList := domains }

def run (world : World Node Domain) (events : List (Event Node Domain)) : World Node Domain :=
  events.foldl step world

/-- Nothing is registered. -/
structure Fresh (world : World Node Domain) : Prop where
  providers : world.registry.providers = []
  unset : ∀ domain, (world.registry.genpd domain).Unset
  balance : ∀ domain, (world.registry.genpd domain).adds = (world.registry.genpd domain).dels

end World

/-- The table that is registered for each node: what the registry is for. -/
abbrev Registrations (Node Domain : Type) := Node → Option (List (Option Domain))

namespace Registrations

def step (live : Registrations Node Domain) : Event Node Domain → Registrations Node Domain
  | .add _ (some fwnode) data => Function.update live fwnode (some (tableOf data))
  | .add _ none _ => live
  | .del fwnode => Function.update live fwnode none
  | .gpdList _ => live

def run (live : Registrations Node Domain) (events : List (Event Node Domain)) :
    Registrations Node Domain :=
  events.foldl step live

def Provides (live : Registrations Node Domain) (node : Node) (domain : Domain) : Prop :=
  ∃ table, live node = some table ∧ some domain ∈ table

def lookup (live : Registrations Node Domain) (node : Node) (index : ℕ) : Except Errno Domain :=
  match live node with
  | none => .error ENOENT
  | some table =>
    match table[index]? with
    | none => .error EINVAL
    | some none => .error ENOENT
    | some (some domain) => .ok domain

end Registrations

/-- What may happen next: a registration that returns zero, for a node without a table and with domains
that are nowhere else, a removal, or a change of the list of all power domains that keeps those with a
provider.  The length of a table is an `unsigned int`. -/
def Admissible (live : Registrations Node Domain) (world : World Node Domain) :
    Event Node Domain → Prop
  | .add call fwnode data =>
    (fwnodeGenpdAddProviderOnecell (world.env call) fwnode data world.registry).1 = 0 ∧
      (∀ node, fwnode = some node → live node = none) ∧ (tableOf data).length < 2 ^ 32 ∧
      (tableOf data).reduceOption.Nodup ∧
      ∀ domain, some domain ∈ tableOf data → ∀ node, ¬live.Provides node domain
  | .del _ => True
  | .gpdList domains => ∀ domain, (world.registry.genpd domain).hasProvider = true → domain ∈ domains

def Legal (live : Registrations Node Domain) (world : World Node Domain) :
    List (Event Node Domain) → Prop
  | [] => True
  | event :: events =>
    Admissible live world event ∧ Legal (live.step event) (world.step event) events

/-- The registry is the map, as far as domains and a lookup with one argument can tell. -/
structure Sound (argument : BitVec 64) (live : Registrations Node Domain) (world : World Node Domain) :
    Prop where
  provided : ∀ domain node, (world.registry.genpd domain).hasProvider = true ∧
    (world.registry.genpd domain).provider = some node ↔ live.Provides node domain
  lookup : ∀ node, fwnodeGenpdGetFromProvider world.registry (some ⟨node, [argument]⟩) =
    live.lookup node argument.toNat
  balance : ∀ domain, ((world.registry.genpd domain).adds : ℤ) - (world.registry.genpd domain).dels =
    if (world.registry.genpd domain).hasProvider then 1 else 0

/-! ## What a registration and a removal do to one domain -/

/-- A registration that returns zero has registered its table, unless it stopped at an absent domain. -/
theorem add_of_eq_zero (env : AddEnv Domain) (fwnode : Option Node) (data : Option (OnecellData Domain))
    (registry : Registry Node Domain)
    (hzero : (fwnodeGenpdAddProviderOnecell env fwnode data registry).1 = 0)
    (habsent : ¬AbsentAfterAdded env fwnode data) :
    ∃ node, fwnode = some node ∧ (∀ entry ∈ tableOf data, Admits env entry) ∧
      (fwnodeGenpdAddProviderOnecell env fwnode data registry).2 =
        (provideAll node (tableOf data) registry).list node (tableOf data) := by
  rcases admits_or_failsAfter env fwnode data with ⟨hreaches, hadmits⟩ | ⟨earlier, hfails⟩
  · obtain ⟨node, record, rfl, rfl, hdomains⟩ := exists_of_reachesLoop env fwnode data hreaches
    exact ⟨node, rfl, hadmits, by rw [add_of_admits env node record registry _ hdomains hreaches hadmits]⟩
  · obtain ⟨ret, after, hcall, -, hneg⟩ := add_of_failsAfter env earlier registry fwnode data hfails
    rw [hcall] at hzero
    exact absurd hzero (ne_of_lt (hneg habsent))

/-- A registration that stopped at an absent domain has left an added one without a provider. -/
theorem unset_of_absentAfterAdded (env : AddEnv Domain) (fwnode : Option Node)
    (data : Option (OnecellData Domain)) (registry : Registry Node Domain)
    (habsent : AbsentAfterAdded env fwnode data) :
    ∃ node added, fwnode = some node ∧ some added ∈ tableOf data ∧
      ((fwnodeGenpdAddProviderOnecell env fwnode data registry).2.genpd added).Unset := by
  obtain ⟨hreaches, earlier, domain, hstops, ⟨added, hadded⟩, -⟩ := habsent
  obtain ⟨node, record, rfl, rfl, hdomains⟩ := exists_of_reachesLoop env fwnode data hreaches
  obtain ⟨ret, after, hcall, hreverted, -⟩ :=
    add_of_stopsAt env node record earlier domain registry _ hdomains hreaches hstops
  obtain ⟨later, hsplit⟩ := hstops.split
  refine ⟨node, added, rfl, hsplit ▸ List.mem_append_left _ hadded, ?_⟩
  rw [hcall]
  exact hreverted.walked added hadded

section

variable (fwnode : Node) (gpdList : List Domain) (registry : Registry Node Domain)

theorem withdrawAll_genpd (domain : Domain) :
    (withdrawAll fwnode gpdList registry).genpd domain =
      if domain ∈ gpdList ∧ (registry.genpd domain).provider = some fwnode then
        (registry.genpd domain).withdrawn 1
      else registry.genpd domain := by
  induction gpdList generalizing registry with
  | nil => rfl
  | cons first gpdList ih =>
    rw [withdrawAll, List.foldl_cons, ← withdrawAll, ih]
    by_cases hdomain : domain = first
    · subst hdomain
      -- Once its provider is unset, a domain is passed over.
      by_cases hprovider : (registry.genpd domain).provider = some fwnode
      · simp [hprovider, Registry.withdraw, Registry.update, Genpd.withdrawn]
      · simp [hprovider]
    · have hsame : ∀ change, (registry.update first change).genpd domain = registry.genpd domain :=
        fun _ ↦ Function.update_of_ne hdomain ..
      split <;> simp [hdomain, Registry.withdraw, hsame]

/-- The walk over the list of all power domains keeps what the withdrawal of a domain keeps. -/
theorem withdrawAll_frame {Value : Type} (read : Registry Node Domain → Value)
    (hread : ∀ registry domain, read (registry.withdraw domain) = read registry) (fwnode : Node)
    (gpdList : List Domain) (registry : Registry Node Domain) :
    read (withdrawAll fwnode gpdList registry) = read registry := by
  induction gpdList generalizing registry with
  | nil => rfl
  | cons first gpdList ih =>
    rw [withdrawAll, List.foldl_cons, ← withdrawAll, ih]
    split
    · exact hread registry first
    · rfl

theorem withdrawAll_providers :
    (withdrawAll fwnode gpdList registry).providers = registry.providers :=
  withdrawAll_frame Registry.providers (fun _ _ ↦ rfl) fwnode gpdList registry

theorem withdrawAll_initialized :
    (withdrawAll fwnode gpdList registry).initialized = registry.initialized :=
  withdrawAll_frame Registry.initialized (fun _ _ ↦ rfl) fwnode gpdList registry

/-- A removal that finds a provider takes it off the list and clears the mark of the node. -/
theorem del_listing {fwnode : Node}
    (h : ∃ provider ∈ registry.providers, provider.fwnode = fwnode) :
    (fwnodeGenpdDelProvider gpdList fwnode registry).providers =
        KeyedStack.erase Provider.fwnode registry.providers fwnode ∧
      (fwnodeGenpdDelProvider gpdList fwnode registry).initialized =
        Function.update registry.initialized fwnode false := by
  obtain ⟨provider, hmem, hnode⟩ := h
  have hfound : (registry.findProvider fwnode).isSome :=
    List.find?_isSome.2 ⟨provider, hmem, decide_eq_true hnode⟩
  obtain ⟨found, hfind⟩ := Option.isSome_iff_exists.1 hfound
  rw [fwnodeGenpdDelProvider, hfind]
  constructor
  · rw [Registry.unlist, withdrawAll_providers]
  · rw [Registry.unlist, withdrawAll_initialized]

theorem del_of_unlisted {fwnode : Node}
    (h : ¬∃ provider ∈ registry.providers, provider.fwnode = fwnode) :
    fwnodeGenpdDelProvider gpdList fwnode registry = registry := by
  have hnone : registry.findProvider fwnode = none := by
    apply List.find?_eq_none.2
    intro provider hmem hnode
    exact h ⟨provider, hmem, of_decide_eq_true hnode⟩
  rw [fwnodeGenpdDelProvider, hnone]

end

/-! ## The registry stands for the map -/

structure Represents (live : Registrations Node Domain) (world : World Node Domain) : Prop where
  listed : ∀ node, KeyedStack.stack Provider.fwnode world.registry.providers node =
    ((live node).map (Provider.mk node)).toList
  provider : ∀ domain node, (world.registry.genpd domain).provider = some node ↔
    live.Provides node domain
  flag : ∀ domain, (world.registry.genpd domain).hasProvider =
    (world.registry.genpd domain).provider.isSome
  balance : ∀ domain, (world.registry.genpd domain).adds = (world.registry.genpd domain).dels +
    if (world.registry.genpd domain).hasProvider then 1 else 0
  present : ∀ domain, (world.registry.genpd domain).hasProvider = true → domain ∈ world.gpdList
  short : ∀ node table, live node = some table → table.length < 2 ^ 32

variable {live : Registrations Node Domain} {world : World Node Domain}

omit [DecidableEq Domain] in
theorem World.Fresh.represents (hfresh : world.Fresh) : Represents (fun _ ↦ none) world where
  listed := fun node ↦ by rw [hfresh.providers]; rfl
  provider := fun domain node ↦ by simp [(hfresh.unset domain).1, Registrations.Provides]
  flag := fun domain ↦ by simp [(hfresh.unset domain).1, (hfresh.unset domain).2]
  balance := fun domain ↦ by simp [hfresh.balance domain, (hfresh.unset domain).2]
  present := fun domain hset ↦ by simp [(hfresh.unset domain).2] at hset
  short := fun _ _ hnone ↦ by cases hnone

omit [DecidableEq Domain] in
theorem Represents.findProvider (h : Represents live world) (node : Node) :
    world.registry.findProvider node = (live node).map (Provider.mk node) := by
  rw [Registry.findProvider, KeyedStack.find?_eq_head? Provider.fwnode, h.listed]
  cases live node <;> rfl

theorem Represents.gpdList (h : Represents live world) {domains : List Domain}
    (hkeeps : Admissible live world (.gpdList domains)) :
    Represents (live.step (.gpdList domains)) (world.step (.gpdList domains)) :=
  { h with present := hkeeps }

omit [DecidableEq Domain] in
theorem provides_update_some (node : Node) (table : List (Option Domain)) (hfree : live node = none)
    (other : Node) (domain : Domain) :
    Registrations.Provides (Function.update live node (some table)) other domain ↔
      other = node ∧ some domain ∈ table ∨ live.Provides other domain := by
  by_cases hother : other = node
  · subst hother
    simp [Registrations.Provides, hfree]
  · simp [Registrations.Provides, hother]

omit [DecidableEq Domain] in
theorem provides_update_none (node other : Node) (domain : Domain) :
    Registrations.Provides (Function.update live node none) other domain ↔
      other ≠ node ∧ live.Provides other domain := by
  by_cases hother : other = node
  · subst hother
    simp [Registrations.Provides]
  · simp [Registrations.Provides, hother]

omit [DecidableEq Node] in
/-- The state of a domain after its table is registered, when it is nowhere else. -/
theorem provideAll_genpd_of_nodup (fwnode : Node) {table : List (Option Domain)}
    (hnodup : table.reduceOption.Nodup) (registry : Registry Node Domain) (domain : Domain) :
    (provideAll fwnode table registry).genpd domain =
      if some domain ∈ table then ⟨some fwnode, true, some fwnode, (registry.genpd domain).adds + 1,
        (registry.genpd domain).dels⟩
      else registry.genpd domain := by
  rw [provideAll_genpd, Genpd.provided]
  split
  next hnone => rw [if_neg (List.count_eq_zero.1 hnone)]
  next hsome =>
    have hmem : some domain ∈ table := by_contra fun hmem ↦ hsome (List.count_eq_zero.2 hmem)
    have honce : table.count (some domain) = 1 := by
      have hle : table.count (some domain) ≤ 1 := by
        rw [List.count, ← List.count_filterMap]
        exact List.nodup_iff_count_le_one.1 hnodup domain
      omega
    rw [if_pos hmem, honce]

/-- A registration keeps the registry in step with the map. -/
theorem Represents.add (h : Represents live world) {call : AddCall Domain} {fwnode : Option Node}
    {data : Option (OnecellData Domain)} (hadmissible : Admissible live world (.add call fwnode data))
    (habsent : ¬AbsentAfterAdded (world.env call) fwnode data) :
    Represents (live.step (.add call fwnode data)) (world.step (.add call fwnode data)) := by
  obtain ⟨hzero, hfree, hlength, hnodup, hdisjoint⟩ := hadmissible
  obtain ⟨node, rfl, hadmits, hafter⟩ := add_of_eq_zero _ fwnode data world.registry hzero habsent
  have hgenpd : ∀ domain, ((world.step (.add call (some node) data)).registry.genpd domain) =
      if some domain ∈ tableOf data then ⟨some node, true, some node,
        (world.registry.genpd domain).adds + 1, (world.registry.genpd domain).dels⟩
      else world.registry.genpd domain := by
    intro domain
    rw [World.step, hafter, ← provideAll_genpd_of_nodup node hnodup]
    rfl
  have hunset : ∀ domain, some domain ∈ tableOf data →
      (world.registry.genpd domain).provider = none := by
    intro domain hmem
    refine Option.eq_none_iff_forall_ne_some.2 fun other hother ↦ ?_
    exact hdisjoint domain hmem other ((h.provider domain other).1 hother)
  have hlive : live.step (.add call (some node) data) =
      Function.update live node (some (tableOf data)) := rfl
  constructor
  case listed =>
    intro other
    rw [hlive, World.step, hafter]
    change KeyedStack.stack Provider.fwnode (_ :: (provideAll node _ _).providers) other = _
    rw [provideAll_providers, KeyedStack.stack_cons, KeyedStack.push]
    by_cases hother : other = node
    · subst hother
      simp [h.listed, hfree other rfl]
    · simp [hother, h.listed]
  case provider =>
    intro domain other
    rw [hlive, hgenpd, provides_update_some node _ (hfree node rfl), ← h.provider]
    by_cases hmem : some domain ∈ tableOf data
    · simp [hmem, hunset domain hmem, eq_comm]
    · simp [hmem]
  case flag =>
    intro domain
    rw [hgenpd]
    split
    · rfl
    · exact h.flag domain
  case balance =>
    intro domain
    rw [hgenpd]
    split
    next hmem => simpa [h.flag, hunset domain hmem] using h.balance domain
    · exact h.balance domain
  case present =>
    intro domain hset
    rw [hgenpd] at hset
    split at hset
    next hmem => exact of_decide_eq_true (hadmits _ hmem domain rfl).1
    · exact h.present domain hset
  case short =>
    intro other table htable
    rw [hlive] at htable
    by_cases hother : other = node
    · rw [hother, Function.update_self] at htable
      cases htable
      exact hlength
    · rw [Function.update_of_ne hother] at htable
      exact h.short other table htable

/-- A removal keeps the registry in step with the map, as the list of all power domains has every domain
that the node provides. -/
theorem Represents.del (h : Represents live world) (fwnode : Node) :
    Represents (live.step (.del fwnode)) (world.step (.del fwnode)) := by
  have hlive : live.step (.del fwnode) = Function.update live fwnode none := rfl
  cases hfind : live fwnode with
  | none =>
    have hsame : world.step (.del fwnode) = world := by
      rw [World.step, fwnodeGenpdDelProvider, h.findProvider, hfind]
      rfl
    rwa [hlive, hsame, ← hfind, Function.update_eq_self]
  | some table =>
    have hregistry : (world.step (.del fwnode)).registry =
        (withdrawAll fwnode world.gpdList world.registry).unlist fwnode := by
      rw [World.step, fwnodeGenpdDelProvider, h.findProvider, hfind]
      rfl
    have hgenpd : ∀ domain, (world.step (.del fwnode)).registry.genpd domain =
        if (world.registry.genpd domain).provider = some fwnode then
          (world.registry.genpd domain).withdrawn 1
        else world.registry.genpd domain := by
      intro domain
      rw [hregistry]
      change (withdrawAll fwnode world.gpdList world.registry).genpd domain = _
      rw [withdrawAll_genpd]
      by_cases hprovider : (world.registry.genpd domain).provider = some fwnode
      · have hpresent := h.present domain (by rw [h.flag, hprovider]; rfl)
        simp [hprovider, hpresent]
      · simp [hprovider]
    constructor
    case listed =>
      intro other
      rw [hlive, hregistry]
      change KeyedStack.stack _ (KeyedStack.erase Provider.fwnode (withdrawAll ..).providers fwnode) other = _
      rw [withdrawAll_providers, KeyedStack.stack_erase, KeyedStack.pop]
      by_cases hother : other = fwnode
      · subst hother
        simp [h.listed, hfind]
      · simp [hother, h.listed]
    case provider =>
      intro domain other
      rw [hlive, hgenpd, provides_update_none, ← h.provider]
      split
      next hprovider => simp [Genpd.withdrawn, hprovider, eq_comm]
      next hprovider => grind
    case flag =>
      intro domain
      rw [hgenpd]
      split
      · rfl
      · exact h.flag domain
    case balance =>
      intro domain
      rw [hgenpd]
      split
      next hprovider => simpa [Genpd.withdrawn, h.flag, hprovider] using h.balance domain
      · exact h.balance domain
    case present =>
      intro domain hset
      rw [hgenpd] at hset
      split at hset
      · cases hset
      · exact h.present domain hset
    case short =>
      intro other table htable
      rw [hlive] at htable
      by_cases hother : other = fwnode
      · rw [hother, Function.update_self] at htable
        cases htable
      · rw [Function.update_of_ne hother] at htable
        exact h.short other table htable

/-! ## Whole histories -/

/-- A registration of the history stops at an absent domain after it has added one. -/
def AbsentIn (world : World Node Domain) (events : List (Event Node Domain)) : Prop :=
  ∃ done call fwnode data, done ++ [.add call fwnode data] <+: events ∧
    AbsentAfterAdded ((world.run done).env call) fwnode data

variable {events : List (Event Node Domain)}

theorem AbsentIn.cons {event : Event Node Domain} (h : AbsentIn (world.step event) events) :
    AbsentIn world (event :: events) := by
  obtain ⟨done, call, fwnode, data, hdone, habsent⟩ := h
  exact ⟨event :: done, call, fwnode, data, List.cons_prefix_cons.2 ⟨rfl, hdone⟩, habsent⟩

theorem Represents.step (h : Represents live world) {event : Event Node Domain}
    (hadmissible : Admissible live world event) (hnone : ¬AbsentIn world (event :: events)) :
    Represents (live.step event) (world.step event) := by
  cases event with
  | add call fwnode data =>
    refine h.add hadmissible fun habsent ↦ hnone ⟨[], call, fwnode, data, ?_, habsent⟩
    exact List.cons_prefix_cons.2 ⟨rfl, List.nil_prefix⟩
  | del fwnode => exact h.del fwnode
  | gpdList domains => exact h.gpdList hadmissible

/-- The registry stands for the map at all times. -/
theorem Represents.run (h : Represents live world) (hlegal : Legal live world events)
    (hnone : ¬AbsentIn world events) {done : List (Event Node Domain)} (hdone : done <+: events) :
    Represents (live.run done) (world.run done) := by
  induction events generalizing live world done with
  | nil =>
    rw [List.prefix_nil] at hdone
    rwa [hdone]
  | cons event events ih =>
    rcases List.prefix_cons_iff.1 hdone with rfl | ⟨rest, rfl, hrest⟩
    · exact h
    · exact ih (h.step hlegal.1 hnone) hlegal.2 (fun habsent ↦ hnone habsent.cons) hrest

omit [DecidableEq Node] [DecidableEq Domain] in
theorem lookup_eq_einval_iff {node : Node} {table : List (Option Domain)} (htable : live node = some table)
    (index : ℕ) : live.lookup node index = .error EINVAL ↔ table.length ≤ index := by
  simp only [Registrations.lookup, htable, ← List.getElem?_eq_none_iff]
  cases table[index]? with
  | none => simp
  | some entry => cases entry <;> simp [ENOENT, EINVAL]

omit [DecidableEq Domain] in
/-- A lookup gives what the map gives exactly if its argument is not cut to the index of an entry. -/
theorem Represents.sound_iff (h : Represents live world) (argument : BitVec 64) :
    Sound argument live world ↔ argument.toNat < 2 ^ 32 ∨
      ∀ node table, live node = some table → table.length ≤ argument.toNat % 2 ^ 32 := by
  have hlookup : ∀ node, fwnodeGenpdGetFromProvider world.registry (some ⟨node, [argument]⟩) =
      live.lookup node (argument.toNat % 2 ^ 32) := by
    intro node
    rw [fwnodeGenpdGetFromProvider, h.findProvider, BitVec.toNat_setWidth, Registrations.lookup]
    cases live node <;> rfl
  constructor
  · intro hsound
    refine (Nat.lt_or_ge _ _).imp_right fun hlarge node table htable ↦ ?_
    have hpast : table.length ≤ argument.toNat :=
      Nat.le_trans (Nat.le_of_lt (h.short node table htable)) hlarge
    rw [← lookup_eq_einval_iff htable]
    calc live.lookup node (argument.toNat % 2 ^ 32)
        = fwnodeGenpdGetFromProvider world.registry (some ⟨node, [argument]⟩) := (hlookup node).symm
      _ = live.lookup node argument.toNat := hsound.lookup node
      _ = .error EINVAL := (lookup_eq_einval_iff htable _).2 hpast
  · intro hfits
    refine ⟨fun domain node ↦ ?_, fun node ↦ ?_, fun domain ↦ ?_⟩
    · rw [← h.provider, h.flag]
      exact and_iff_right_of_imp fun hprovider ↦ by rw [hprovider]; rfl
    · rw [hlookup]
      rcases hfits with hsmall | hcut
      · rw [Nat.mod_eq_of_lt hsmall]
      cases htable : live node with
      | none => rw [Registrations.lookup, Registrations.lookup, htable]
      | some table =>
        have hpast := hcut node table htable
        rw [(lookup_eq_einval_iff htable _).2 hpast,
          (lookup_eq_einval_iff htable _).2 (Nat.le_trans hpast (Nat.mod_le _ _))]
    · have hbalance := h.balance domain
      split at hbalance
      next hset =>
        rw [if_pos hset]
        omega
      next hunset =>
        rw [if_neg hunset]
        omega

/-- **The registry of power domains.** Over a history of registrations that return zero and of removals,
the registry is the map at all times exactly if no registration stops at an absent domain after it has
added one, and the argument of the lookup is not cut to the index of an entry. -/
theorem registry_sound_iff (world : World Node Domain) (events : List (Event Node Domain))
    (argument : BitVec 64) (hfresh : world.Fresh) (hlegal : Legal (fun _ ↦ none) world events) :
    (∀ done, done <+: events →
      Sound argument (Registrations.run (fun _ ↦ none) done) (world.run done)) ↔
    ¬AbsentIn world events ∧ (argument.toNat < 2 ^ 32 ∨ ∀ done, done <+: events → ∀ node table,
      Registrations.run (fun _ ↦ none) done node = some table →
        table.length ≤ argument.toNat % 2 ^ 32) := by
  constructor
  · intro hsound
    have hnone : ¬AbsentIn world events := by
      rintro ⟨done, call, fwnode, data, hdone, habsent⟩
      obtain ⟨node, added, rfl, hmem, hunset⟩ :=
        unset_of_absentAfterAdded _ fwnode data (world.run done).registry habsent
      -- The map has the table, but the domain was taken back.
      have hprovided := ((hsound _ hdone).provided added node).2
        ⟨tableOf data, by simp [Registrations.run, Registrations.step], hmem⟩
      rw [World.run, List.foldl_append] at hprovided
      have hset := hprovided.1.symm.trans hunset.2
      cases hset
    refine ⟨hnone, ?_⟩
    rw [← forall_or_left]
    intro done
    rw [← forall_or_left]
    intro hdone
    exact ((hfresh.represents.run hlegal hnone hdone).sound_iff argument).1 (hsound done hdone)
  · intro h done hdone
    obtain ⟨hnone, hfits⟩ := h
    exact ((hfresh.represents.run hlegal hnone hdone).sound_iff argument).2
      (hfits.imp_right fun hcut ↦ hcut done hdone)

end

/-- Nothing is registered, and some domains are initialised. -/
def emptyWorld (gpdList : List ℕ) : World ℕ ℕ := ⟨emptyRegistry, gpdList⟩

theorem fresh_emptyWorld (gpdList : List ℕ) : (emptyWorld gpdList).Fresh :=
  ⟨rfl, fun _ ↦ ⟨rfl, rfl⟩, fun _ ↦ rfl⟩

/-- A registration for node `7` in which every call succeeds. -/
def addSeven (table : List (Option ℕ)) : Event ℕ ℕ :=
  .add ⟨true, true, fun _ ↦ none⟩ (some 7) (some ⟨some table⟩)

/-- Domain `1` is not on the list of all power domains.  The registration of both domains returns zero,
and then the node is unknown. -/
theorem registry_not_sound_absent :
    Legal (fun _ ↦ none) (emptyWorld [0]) [addSeven [some 0, some 1]] ∧
      fwnodeGenpdGetFromProvider ((emptyWorld [0]).run [addSeven [some 0, some 1]]).registry
        (some ⟨7, [0]⟩) = .error ENOENT ∧
      ¬Sound 0 (Registrations.run (fun _ ↦ none) [addSeven [some 0, some 1]])
        ((emptyWorld [0]).run [addSeven [some 0, some 1]]) := by
  refine ⟨⟨⟨rfl, fun _ _ ↦ rfl, by decide, by decide, fun _ _ _ hprovides ↦ ?_⟩, trivial⟩, rfl,
    fun hsound ↦ ?_⟩
  · obtain ⟨table, htable, -⟩ := hprovides
    cases htable
  · cases hsound.lookup 7

/-- With both domains on the list the registry is the map. -/
theorem registry_sound_iff_present :
    Sound 1 (Registrations.run (fun _ ↦ none) [addSeven [some 0, some 1]])
      ((emptyWorld [0, 1]).run [addSeven [some 0, some 1]]) := by
  have hlegal : Legal (fun _ ↦ none) (emptyWorld [0, 1]) [addSeven [some 0, some 1]] := by
    refine ⟨⟨rfl, fun _ _ ↦ rfl, by decide, by decide, fun _ _ _ hprovides ↦ ?_⟩, trivial⟩
    obtain ⟨table, htable, -⟩ := hprovides
    cases htable
  have hnone : ¬AbsentIn (emptyWorld [0, 1]) [addSeven [some 0, some 1]] := by
    rintro ⟨done, call, fwnode, data, hdone, -, earlier, domain, hstops, -, habsent⟩
    obtain ⟨rfl, hadd⟩ : done = [] ∧ .add call fwnode data = addSeven [some 0, some 1] := by
      rcases List.prefix_cons_iff.1 hdone with hnil | ⟨rest, hrest, hrest'⟩
      · simp at hnil
      · rw [List.prefix_nil] at hrest'
        rw [hrest'] at hrest
        cases done with
        | nil => simpa using hrest
        | cons event done => simp at hrest
    cases hadd
    obtain ⟨later, hsplit⟩ := hstops.split
    have hmem : some domain ∈ tableOf (some ⟨some [some 0, some 1]⟩) := by
      rw [hsplit]
      exact List.mem_append_right _ List.mem_cons_self
    have hlisted : domain ∈ [0, 1] := by simpa [tableOf] using hmem
    exact of_decide_eq_false habsent hlisted
  exact (registry_sound_iff _ _ 1 (fresh_emptyWorld _) hlegal).2 ⟨hnone, .inl (by decide)⟩ _
    List.prefix_rfl

-- An argument of 2 ^ 32 is read as zero.
example : fwnodeGenpdGetFromProvider ((emptyWorld [0]).run [addSeven [some 0]]).registry
    (some ⟨7, [0x100000000]⟩) = .ok 0 := rfl

end TclB220G.PmDomain
