import TclB220G.Kernel.Errno
import Mathlib.Data.List.Induction
import Mathlib.Data.List.ReduceOption
import Mathlib.Logic.Function.Basic

/-!
# Onecell power-domain providers on firmware nodes

`fwnode_genpd_add_provider_onecell` registers a table of power domains under a firmware node.  It
adds one device for each table entry and, on the first entry that cannot be added, walks back over
the entries before it.  The value it then returns is the local `ret`, which is `-EINVAL` until the
first `device_add` and whatever the last `device_add` returned from then on.

The loop is specified once, by the prefix of the table that it got through.  From that
specification follows exactly when the call is all or nothing: it is, unless an absent domain comes
after one that was added.  In that case everything is undone and zero is returned.
-/

namespace TclB220G.PmDomain

open Kernel Kernel.Errno

/-- What a registration touches of `struct generic_pm_domain`.  The counters are of successful
`device_add` and of `device_del` calls on the domain's device. -/
structure Genpd (Node : Type) where
  provider : Option Node
  hasProvider : Bool
  devNode : Option Node
  adds : ℕ
  dels : ℕ
  deriving DecidableEq, Repr

/-- The table of `struct genpd_onecell_data`; an entry is a hole where the table holds NULL. -/
structure OnecellData (Domain : Type) where
  domains : Option (List (Option Domain))
  deriving DecidableEq, Repr

/-- An entry of the provider list, `struct fwnode_genpd_provider`. -/
structure Provider (Node Domain : Type) where
  fwnode : Node
  table : List (Option Domain)
  deriving DecidableEq, Repr

/-- The provider list, newest first, with the state of every domain, the references taken on
firmware nodes and their `initialized` flags. -/
structure Registry (Node Domain : Type) where
  genpd : Domain → Genpd Node
  providers : List (Provider Node Domain)
  nodeRefs : Node → ℕ
  initialized : Node → Bool

/-- What the registration finds around it: the bus, the allocator, the domain list and the driver
core. -/
structure AddEnv (Domain : Type) where
  busRegistered : Bool
  allocates : Bool
  present : Domain → Bool
  deviceAdd : Domain → Option Errno

section

variable {Node Domain : Type} [DecidableEq Domain]

namespace Registry

def update (registry : Registry Node Domain) (domain : Domain) (change : Genpd Node → Genpd Node) :
    Registry Node Domain :=
  { registry with genpd := Function.update registry.genpd domain (change (registry.genpd domain)) }

variable (registry : Registry Node Domain)

/-- The call `device_set_node(&genpd->dev, fwnode)`. -/
def setNode (fwnode : Node) (domain : Domain) :
    Registry Node Domain :=
  registry.update domain fun genpd ↦ { genpd with devNode := some fwnode }

/-- The loop body after a successful `device_add`. -/
def provide (fwnode : Node) (domain : Domain) :
    Registry Node Domain :=
  registry.update domain fun genpd ↦
    { genpd with provider := some fwnode, hasProvider := true, adds := genpd.adds + 1 }

/-- The body of the `error:` loop. -/
def withdraw (domain : Domain) : Registry Node Domain :=
  registry.update domain fun genpd ↦
    { genpd with provider := none, hasProvider := false, dels := genpd.dels + 1 }

/-- Publication of a provider whose domains are all added. -/
def list [DecidableEq Node] (registry : Registry Node Domain) (fwnode : Node) (table : List (Option Domain)) :
    Registry Node Domain :=
  { registry with
    providers := { fwnode, table } :: registry.providers
    nodeRefs := Function.update registry.nodeRefs fwnode (registry.nodeRefs fwnode + 1)
    initialized := Function.update registry.initialized fwnode true }

end Registry

/-- How the loop over the table ended: the index it failed at, if any, the value of `ret` and the
registry. -/
structure LoopExit (Node Domain : Type) where
  failedAt : Option ℕ
  ret : ℤ
  registry : Registry Node Domain

def addLoop (env : AddEnv Domain) (fwnode : Node) :
    ℕ → ℤ → Registry Node Domain → List (Option Domain) → LoopExit Node Domain
  | _, ret, registry, [] => ⟨none, ret, registry⟩
  | index, ret, registry, none :: rest => addLoop env fwnode (index + 1) ret registry rest
  | index, ret, registry, some domain :: rest =>
    if env.present domain then
      match env.deviceAdd domain with
      | none =>
        addLoop env fwnode (index + 1) 0 ((registry.setNode fwnode domain).provide fwnode domain) rest
      | some errno => ⟨some index, errno.ret, registry.setNode fwnode domain⟩
    else ⟨some index, ret, registry⟩

/-- The loop `while (i--)` of the error path. -/
def rollback (table : List (Option Domain)) : ℕ → Registry Node Domain → Registry Node Domain
  | 0, registry => registry
  | index + 1, registry =>
    match table[index]? with
    | some (some domain) => rollback table index (registry.withdraw domain)
    | _ => rollback table index registry

def fwnodeGenpdAddProviderOnecell [DecidableEq Node] (env : AddEnv Domain)
    (fwnode : Option Node) (data : Option (OnecellData Domain)) (registry : Registry Node Domain) :
    ℤ × Registry Node Domain :=
  match fwnode, data.bind OnecellData.domains with
  | some fwnode, some table =>
    if !env.busRegistered then (ENODEV.ret, registry)
    else if !env.allocates then (ENOMEM.ret, registry)
    else
      let exit := addLoop env fwnode 0 EINVAL.ret registry table
      match exit.failedAt with
      | none => (0, exit.registry.list fwnode table)
      | some index => (exit.ret, rollback table index exit.registry)
  | _, _ => (EINVAL.ret, registry)

/-! ## What the loop and the walk back do -/

/-- The entry can be added: the table holds a hole, or a domain that is present and whose device
the driver core takes. -/
def Admits (env : AddEnv Domain) (entry : Option Domain) : Prop :=
  ∀ domain, entry = some domain → env.present domain = true ∧ env.deviceAdd domain = none

/-- The registry after the loop has got through `entries`. -/
def provideAll (fwnode : Node) (entries : List (Option Domain)) (registry : Registry Node Domain) :
    Registry Node Domain :=
  (entries.reduceOption).foldl
    (fun registry domain ↦ (registry.setNode fwnode domain).provide fwnode domain) registry

/-- The value of `ret` after the loop has got through `entries`. -/
def retAfter (entries : List (Option Domain)) (ret : ℤ) : ℤ :=
  if entries.reduceOption = [] then ret else 0

@[simp] theorem provideAll_none (fwnode : Node) (entries : List (Option Domain))
    (registry : Registry Node Domain) :
    provideAll fwnode (none :: entries) registry = provideAll fwnode entries registry := rfl

@[simp] theorem provideAll_some (fwnode : Node) (domain : Domain) (entries : List (Option Domain))
    (registry : Registry Node Domain) :
    provideAll fwnode (some domain :: entries) registry =
      provideAll fwnode entries ((registry.setNode fwnode domain).provide fwnode domain) := rfl

omit [DecidableEq Domain] in
theorem retAfter_some (domain : Domain) (entries : List (Option Domain)) (ret : ℤ) :
    retAfter (some domain :: entries) ret = retAfter entries 0 := by
  simp [retAfter, List.reduceOption_cons_of_some]

variable (env : AddEnv Domain)

/-- A loop over admissible entries is the loop over what follows them. -/
theorem addLoop_append (fwnode : Node) (entries rest : List (Option Domain))
    (hadmits : ∀ entry ∈ entries, Admits env entry) (index : ℕ) (ret : ℤ)
    (registry : Registry Node Domain) :
    addLoop env fwnode index ret registry (entries ++ rest) =
      addLoop env fwnode (index + entries.length) (retAfter entries ret)
        (provideAll fwnode entries registry) rest := by
  induction entries generalizing index ret registry with
  | nil => rfl
  | cons entry entries ih =>
    have hrest := fun other hother ↦ hadmits other (List.mem_cons_of_mem _ hother)
    have hindex : index + 1 + entries.length = index + (entry :: entries).length := by
      rw [List.length_cons]
      omega
    cases entry with
    | none =>
      rw [List.cons_append, addLoop, ih hrest, hindex]
      rfl
    | some domain =>
      have hentry := hadmits _ List.mem_cons_self domain rfl
      rw [List.cons_append, addLoop, if_pos hentry.1, hentry.2]
      dsimp only
      rw [ih hrest, hindex, retAfter_some, provideAll_some]

omit [DecidableEq Domain] in
/-- A table is admissible throughout, or it has a first entry that is not. -/
theorem admits_or_first (table : List (Option Domain)) :
    (∀ entry ∈ table, Admits env entry) ∨
      ∃ before domain after, table = before ++ some domain :: after ∧
        (∀ entry ∈ before, Admits env entry) ∧ ¬Admits env (some domain) := by
  induction table with
  | nil => exact .inl fun entry hentry ↦ absurd hentry List.not_mem_nil
  | cons entry table ih =>
    by_cases hentry : Admits env entry
    · rcases ih with hall | ⟨before, domain, after, htable, hbefore, hdomain⟩
      · exact .inl (List.forall_mem_cons.2 ⟨hentry, hall⟩)
      · refine .inr ⟨entry :: before, domain, after, ?_, ?_, hdomain⟩
        · rw [htable, List.cons_append]
        · exact List.forall_mem_cons.2 ⟨hentry, hbefore⟩
    · cases entry with
      | none => exact absurd (fun domain hdomain ↦ by cases hdomain) hentry
      | some domain =>
        exact .inr ⟨[], domain, table, rfl, fun entry hentry ↦ absurd hentry List.not_mem_nil,
          hentry⟩

/-- The state of a domain that `count` iterations of the loop have added. -/
def Genpd.provided (fwnode : Node) (genpd : Genpd Node) (count : ℕ) : Genpd Node :=
  if count = 0 then genpd
  else ⟨some fwnode, true, some fwnode, genpd.adds + count, genpd.dels⟩

/-- The state of a domain that `count` iterations of the error loop have removed. -/
def Genpd.withdrawn (genpd : Genpd Node) (count : ℕ) : Genpd Node :=
  if count = 0 then genpd
  else { genpd with provider := none, hasProvider := false, dels := genpd.dels + count }

theorem provideAll_genpd (fwnode : Node) (entries : List (Option Domain))
    (registry : Registry Node Domain) (domain : Domain) :
    (provideAll fwnode entries registry).genpd domain =
      (registry.genpd domain).provided fwnode (entries.count (some domain)) := by
  induction entries generalizing registry with
  | nil => rfl
  | cons entry entries ih =>
    cases entry with
    | none => rw [provideAll_none, ih, List.count_cons_of_ne (by simp)]
    | some other =>
      rw [provideAll_some, ih]
      by_cases hother : other = domain
      · subst hother
        rw [List.count_cons_self]
        simp only [Registry.provide, Registry.setNode, Registry.update, Function.update_self,
          Genpd.provided, Nat.add_one_ne_zero, if_false]
        split
        · next hcount => rw [hcount]
        · simp only [Genpd.mk.injEq, true_and, and_true]
          omega
      · rw [List.count_cons_of_ne (by simpa using hother)]
        simp only [Registry.provide, Registry.setNode, Registry.update]
        rw [Function.update_of_ne (Ne.symm hother), Function.update_of_ne (Ne.symm hother)]

theorem provideAll_providers (fwnode : Node) (entries : List (Option Domain))
    (registry : Registry Node Domain) :
    (provideAll fwnode entries registry).providers = registry.providers := by
  induction entries generalizing registry with
  | nil => rfl
  | cons entry entries ih =>
    cases entry with
    | none => rw [provideAll_none, ih]
    | some domain =>
      rw [provideAll_some, ih]
      rfl

/-- One entry of the walk back. -/
theorem rollback_concat (init rest : List (Option Domain)) (entry : Option Domain)
    (registry : Registry Node Domain) :
    rollback (init ++ [entry] ++ rest) (init ++ [entry]).length registry =
      rollback (init ++ (entry :: rest)) init.length (entry.elim registry registry.withdraw) := by
  have hentry : (init ++ (entry :: rest))[init.length]? = some entry := by
    simp
  rw [List.append_assoc, List.singleton_append, List.length_append, List.length_singleton,
    rollback, hentry]
  cases entry <;> rfl

theorem rollback_genpd (entries rest : List (Option Domain)) (registry : Registry Node Domain)
    (domain : Domain) :
    (rollback (entries ++ rest) entries.length registry).genpd domain =
      (registry.genpd domain).withdrawn (entries.count (some domain)) := by
  induction entries using List.reverseRecOn generalizing rest registry with
  | nil => rfl
  | append_singleton init entry ih =>
    rw [rollback_concat, ih, List.count_append, List.count_singleton]
    cases entry with
    | none => rfl
    | some other =>
      by_cases hother : other = domain
      · subst hother
        simp only [Option.elim_some, Registry.withdraw, Registry.update, Function.update_self,
          Genpd.withdrawn, beq_self_eq_true, if_true, Nat.add_one_ne_zero, if_false]
        split
        · next hcount => rw [hcount]
        · simp only [Genpd.mk.injEq, true_and]
          omega
      · simp only [Option.elim_some, Registry.withdraw, Registry.update]
        rw [Function.update_of_ne (Ne.symm hother)]
        simp [hother]

/-- The walk back keeps what the withdrawal of a domain keeps. -/
theorem rollback_frame {Value : Type} (read : Registry Node Domain → Value)
    (hread : ∀ registry domain, read (registry.withdraw domain) = read registry)
    (table : List (Option Domain)) (index : ℕ) (registry : Registry Node Domain) :
    read (rollback table index registry) = read registry := by
  induction index generalizing registry with
  | zero => rfl
  | succ index ih =>
    unfold rollback
    split
    · rw [ih, hread]
    · exact ih registry

theorem rollback_providers (table : List (Option Domain)) (index : ℕ)
    (registry : Registry Node Domain) :
    (rollback table index registry).providers = registry.providers :=
  rollback_frame Registry.providers (fun _ _ ↦ rfl) table index registry

theorem rollback_initialized (table : List (Option Domain)) (index : ℕ)
    (registry : Registry Node Domain) :
    (rollback table index registry).initialized = registry.initialized :=
  rollback_frame Registry.initialized (fun _ _ ↦ rfl) table index registry

/-- The loop touches neither the list of providers nor the flags of nodes. -/
theorem addLoop_frame (fwnode : Node) (index : ℕ) (ret : ℤ) (registry : Registry Node Domain)
    (table : List (Option Domain)) :
    (addLoop env fwnode index ret registry table).registry.providers = registry.providers ∧
      (addLoop env fwnode index ret registry table).registry.initialized = registry.initialized := by
  induction table generalizing index ret registry with
  | nil => exact ⟨rfl, rfl⟩
  | cons entry table ih =>
    cases entry with
    | none => exact ih (index + 1) ret registry
    | some domain =>
      unfold addLoop
      split
      · split
        · exact ih (index + 1) 0 ((registry.setNode fwnode domain).provide fwnode domain)
        · exact ⟨rfl, rfl⟩
      · exact ⟨rfl, rfl⟩

/-- A registration lists one provider and marks its node, or it does neither. -/
theorem add_listing [DecidableEq Node] (fwnode : Option Node) (data : Option (OnecellData Domain))
    (registry : Registry Node Domain) :
    ((fwnodeGenpdAddProviderOnecell env fwnode data registry).2.providers = registry.providers ∧
      (fwnodeGenpdAddProviderOnecell env fwnode data registry).2.initialized = registry.initialized) ∨
    ∃ provider : Provider Node Domain,
      (fwnodeGenpdAddProviderOnecell env fwnode data registry).2.providers =
        provider :: registry.providers ∧
      (fwnodeGenpdAddProviderOnecell env fwnode data registry).2.initialized =
        Function.update registry.initialized provider.fwnode true := by
  unfold fwnodeGenpdAddProviderOnecell
  split
  · rename_i node table _
    obtain ⟨hproviders, hinitialized⟩ := addLoop_frame env node 0 EINVAL.ret registry table
    split
    · exact .inl ⟨rfl, rfl⟩
    · split
      · exact .inl ⟨rfl, rfl⟩
      · dsimp only
        split
        · refine .inr ⟨⟨node, table⟩, ?_, ?_⟩
          · rw [Registry.list, hproviders]
          · rw [Registry.list, hinitialized]
        · exact .inl ⟨by rw [rollback_providers, hproviders],
            by rw [rollback_initialized, hinitialized]⟩
  · exact .inl ⟨rfl, rfl⟩

/-! ## All or nothing -/

/-- The domain has no provider. -/
def Genpd.Unset (genpd : Genpd Node) : Prop :=
  genpd.provider = none ∧ genpd.hasProvider = false

/-- Every domain of the table was present and has been added, and the provider is listed. -/
structure Registered (env : AddEnv Domain) (fwnode : Node) (table : List (Option Domain))
    (before after : Registry Node Domain) : Prop where
  added : ∀ domain, some domain ∈ table →
    env.present domain = true ∧ (before.genpd domain).adds < (after.genpd domain).adds
  listed : after.providers = { fwnode, table } :: before.providers

/-- No domain of the table has a provider, every `device_add` is matched by one `device_del`, and
the provider list is as it was. -/
structure Undone (table : List (Option Domain)) (before after : Registry Node Domain) : Prop where
  unset : ∀ domain, some domain ∈ table → (after.genpd domain).Unset
  balanced : ∀ domain, ∃ count,
    (after.genpd domain).adds = (before.genpd domain).adds + count ∧
    (after.genpd domain).dels = (before.genpd domain).dels + count
  unlisted : after.providers = before.providers

/-- The table of a call, empty where a pointer on the way to it is NULL. -/
def tableOf (data : Option (OnecellData Domain)) : List (Option Domain) :=
  (data.bind OnecellData.domains).getD []

section

variable (fwnode : Option Node) (data : Option (OnecellData Domain))

/-- The call registered the provider. -/
def Registers (before after : Registry Node Domain) : Prop :=
  ∃ node table, fwnode = some node ∧ data.bind OnecellData.domains = some table ∧
    Registered env node table before after

/-- The call returned zero exactly if it registered the provider; otherwise it returned a negative
error number and left nothing behind. -/
def AllOrNothing (before : Registry Node Domain) (result : ℤ × Registry Node Domain) : Prop :=
  (result.1 = 0 ↔ Registers env fwnode data before result.2) ∧
    (¬Registers env fwnode data before result.2 →
      result.1 < 0 ∧ Undone (tableOf data) before result.2)

/-- The call reaches the loop: its pointers are set, the bus is registered and the provider record
is allocated. -/
def ReachesLoop : Prop :=
  fwnode.isSome ∧ (data.bind OnecellData.domains).isSome ∧ env.busRegistered = true ∧
    env.allocates = true

/-- The first entry of the table that cannot be added is `domain`, after the entries `earlier`. -/
structure StopsAt (table earlier : List (Option Domain)) (domain : Domain) : Prop where
  split : ∃ later, table = earlier ++ some domain :: later
  admits : ∀ entry ∈ earlier, Admits env entry
  refuses : ¬Admits env (some domain)

/-- The loop stops at an absent domain after a domain was added. -/
def AbsentAfterAdded : Prop :=
  ReachesLoop env fwnode data ∧ ∃ earlier domain, StopsAt env (tableOf data) earlier domain ∧
    (∃ added, some added ∈ earlier) ∧ env.present domain = false

/-- The call fails after the loop got through `earlier`. -/
def FailsAfter (earlier : List (Option Domain)) : Prop :=
  ¬ReachesLoop env fwnode data ∧ earlier = [] ∨
    ReachesLoop env fwnode data ∧ ∃ domain, StopsAt env (tableOf data) earlier domain

/-- The call fails, and a domain of the table that it does not walk back over had a provider before
the call. -/
def LeavesProvided (before : Registry Node Domain) : Prop :=
  ∃ earlier, FailsAfter env fwnode data earlier ∧
    ∃ domain, some domain ∈ tableOf data ∧ some domain ∉ earlier ∧ ¬(before.genpd domain).Unset

end

/-- What a call that fails after `earlier` does to the registry. -/
structure Reverted (earlier : List (Option Domain)) (before after : Registry Node Domain) :
    Prop where
  walked : ∀ domain, some domain ∈ earlier → (after.genpd domain).Unset
  others : ∀ domain, some domain ∉ earlier →
    ((after.genpd domain).Unset ↔ (before.genpd domain).Unset)
  balanced : ∀ domain, ∃ count,
    (after.genpd domain).adds = (before.genpd domain).adds + count ∧
    (after.genpd domain).dels = (before.genpd domain).dels + count
  unlisted : after.providers = before.providers

omit [DecidableEq Domain] in
theorem reverted_refl (registry : Registry Node Domain) : Reverted [] registry registry :=
  ⟨fun _ h ↦ absurd h List.not_mem_nil, fun _ _ ↦ Iff.rfl, fun _ ↦ ⟨0, rfl, rfl⟩, rfl⟩

/-- Walking back over the entries the loop got through reverts them.  The device node of the entry
that failed may have been set. -/
theorem reverted_rollback (fwnode : Node) (earlier rest : List (Option Domain))
    (before middle : Registry Node Domain)
    (hgenpd : ∀ domain, ∃ node,
      middle.genpd domain =
        { (provideAll fwnode earlier before).genpd domain with devNode := node })
    (hproviders : middle.providers = before.providers) :
    Reverted earlier before (rollback (earlier ++ rest) earlier.length middle) := by
  have hafter : ∀ domain, ∃ node,
      (rollback (earlier ++ rest) earlier.length middle).genpd domain =
        ({ (before.genpd domain).provided fwnode (earlier.count (some domain)) with
          devNode := node } : Genpd Node).withdrawn (earlier.count (some domain)) := by
    intro domain
    obtain ⟨node, hnode⟩ := hgenpd domain
    use node
    rw [rollback_genpd, hnode, provideAll_genpd]
  refine ⟨fun domain hdomain ↦ ?_, fun domain hdomain ↦ ?_,
    fun domain ↦ ⟨earlier.count (some domain), ?_⟩, ?_⟩
  · obtain ⟨node, hnode⟩ := hafter domain
    have hcount := Nat.pos_iff_ne_zero.1 (List.count_pos_iff.2 hdomain)
    rw [hnode, Genpd.withdrawn, if_neg hcount]
    exact ⟨rfl, rfl⟩
  · obtain ⟨node, hnode⟩ := hafter domain
    rw [hnode, List.count_eq_zero.2 hdomain]
    rfl
  · obtain ⟨node, hnode⟩ := hafter domain
    rw [hnode, Genpd.withdrawn]
    split
    · next hcount =>
      rw [hcount]
      exact ⟨rfl, rfl⟩
    · next hcount => simp [Genpd.provided, hcount]
  · rw [rollback_providers, hproviders]

omit [DecidableEq Domain] in
/-- A call that reverted what it did is all or nothing exactly if it reports an error and the
domains it did not walk back over had no provider. -/
theorem allOrNothing_iff_of_reverted (fwnode : Option Node) (data : Option (OnecellData Domain))
    (earlier : List (Option Domain)) (before after : Registry Node Domain) (ret : ℤ)
    (hreverted : Reverted earlier before after) :
    AllOrNothing env fwnode data before (ret, after) ↔
      ret < 0 ∧ ∀ domain, some domain ∈ tableOf data → some domain ∉ earlier →
        (before.genpd domain).Unset := by
  have hnot : ¬Registers env fwnode data before after := by
    intro h
    obtain ⟨node, table, -, -, hregistered⟩ := h
    have hlisted := hregistered.listed
    rw [hreverted.unlisted] at hlisted
    exact List.cons_ne_self _ _ hlisted.symm
  constructor
  · intro h
    refine ⟨(h.2 hnot).1, fun domain htable hearlier ↦ ?_⟩
    exact (hreverted.others domain hearlier).1 ((h.2 hnot).2.unset domain htable)
  · intro h
    refine ⟨iff_of_false (ne_of_lt h.1) hnot, fun _ ↦ ⟨h.1, fun domain htable ↦ ?_, ?_, ?_⟩⟩
    · by_cases hearlier : some domain ∈ earlier
      · exact hreverted.walked domain hearlier
      · exact (hreverted.others domain hearlier).2 (h.2 domain htable hearlier)
    · exact hreverted.balanced
    · exact hreverted.unlisted

section Registration

variable [DecidableEq Node] (env : AddEnv Domain) (fwnode : Node) (data : OnecellData Domain)
  (earlier later : List (Option Domain)) (domain : Domain) (registry : Registry Node Domain)

theorem add_of_not_reachesLoop (fwnode : Option Node) (data : Option (OnecellData Domain))
    (hreaches : ¬ReachesLoop env fwnode data) :
    ∃ errno : Errno, fwnodeGenpdAddProviderOnecell env fwnode data registry =
      (errno.ret, registry) := by
  unfold fwnodeGenpdAddProviderOnecell
  split
  · next hdata =>
    split
    · exact ⟨ENODEV, rfl⟩
    · next hbus =>
      split
      · exact ⟨ENOMEM, rfl⟩
      · next hallocates =>
        rw [Bool.not_eq_true', Bool.not_eq_false] at hbus hallocates
        refine absurd ⟨rfl, ?_, hbus, hallocates⟩ hreaches
        rw [hdata]
        rfl
  · exact ⟨EINVAL, rfl⟩

variable (table : List (Option Domain))

theorem add_of_reachesLoop (hdata : data.domains = some table)
    (hreaches : ReachesLoop env (some fwnode) (some data)) :
    fwnodeGenpdAddProviderOnecell env (some fwnode) (some data) registry =
      match addLoop env fwnode 0 EINVAL.ret registry table with
      | ⟨none, _, after⟩ => (0, after.list fwnode table)
      | ⟨some index, ret, after⟩ => (ret, rollback table index after) := by
  simp only [fwnodeGenpdAddProviderOnecell, Option.bind_some, hdata, hreaches.2.2.1,
    hreaches.2.2.2, Bool.not_true, Bool.false_eq_true, if_false]
  rcases addLoop env fwnode 0 EINVAL.ret registry table with ⟨failedAt, ret, after⟩
  cases failedAt <;> rfl

theorem add_of_admits (hdata : data.domains = some table)
    (hreaches : ReachesLoop env (some fwnode) (some data))
    (hadmits : ∀ entry ∈ table, Admits env entry) :
    fwnodeGenpdAddProviderOnecell env (some fwnode) (some data) registry =
      (0, (provideAll fwnode table registry).list fwnode table) := by
  have hloop := addLoop_append env fwnode table [] hadmits 0 EINVAL.ret registry
  rw [List.append_nil] at hloop
  rw [add_of_reachesLoop env fwnode data registry table hdata hreaches, hloop]
  rfl

/-- An absent domain ends the loop with `ret` as the entries before it left it. -/
theorem add_of_absent (hdata : data.domains = some (earlier ++ some domain :: later))
    (hreaches : ReachesLoop env (some fwnode) (some data))
    (hadmits : ∀ entry ∈ earlier, Admits env entry) (habsent : env.present domain = false) :
    fwnodeGenpdAddProviderOnecell env (some fwnode) (some data) registry =
      (retAfter earlier EINVAL.ret,
        rollback (earlier ++ some domain :: later) earlier.length
          (provideAll fwnode earlier registry)) := by
  rw [add_of_reachesLoop env fwnode data registry _ hdata hreaches,
    addLoop_append env fwnode earlier _ hadmits, addLoop, habsent, Nat.zero_add]
  rfl

/-- A device that the driver core refuses ends the loop with the error of `device_add`. -/
theorem add_of_refused (hdata : data.domains = some (earlier ++ some domain :: later))
    (hreaches : ReachesLoop env (some fwnode) (some data))
    (hadmits : ∀ entry ∈ earlier, Admits env entry) (hpresent : env.present domain = true)
    (errno : Errno) (hrefused : env.deviceAdd domain = some errno) :
    fwnodeGenpdAddProviderOnecell env (some fwnode) (some data) registry =
      (errno.ret,
        rollback (earlier ++ some domain :: later) earlier.length
          ((provideAll fwnode earlier registry).setNode fwnode domain)) := by
  rw [add_of_reachesLoop env fwnode data registry _ hdata hreaches,
    addLoop_append env fwnode earlier _ hadmits, addLoop, if_pos hpresent, hrefused, Nat.zero_add]

theorem registers_of_admits (hdata : data.domains = some table)
    (hadmits : ∀ entry ∈ table, Admits env entry) :
    Registers env (some fwnode) (some data) registry
      ((provideAll fwnode table registry).list fwnode table) := by
  refine ⟨fwnode, table, rfl, hdata, fun domain hdomain ↦ ⟨?_, ?_⟩, ?_⟩
  · exact (hadmits _ hdomain domain rfl).1
  · have hcount : 0 < table.count (some domain) := List.count_pos_iff.2 hdomain
    have hgenpd := provideAll_genpd fwnode table registry domain
    rw [Genpd.provided, if_neg (Nat.pos_iff_ne_zero.1 hcount)] at hgenpd
    calc (registry.genpd domain).adds
        < (registry.genpd domain).adds + table.count (some domain) := Nat.lt_add_of_pos_right hcount
      _ = ((provideAll fwnode table registry).genpd domain).adds := by rw [hgenpd]
  · change _ :: (provideAll fwnode table registry).providers = _
    rw [provideAll_providers]

omit [DecidableEq Domain] in
theorem retAfter_eq_zero (hadded : ∃ added, some added ∈ earlier) (ret : ℤ) :
    retAfter earlier ret = 0 := by
  obtain ⟨added, hadded⟩ := hadded
  have hne : earlier.reduceOption ≠ [] := by
    apply List.ne_nil_of_mem
    exact List.reduceOption_mem_iff.2 hadded
  rw [retAfter, if_neg hne]

omit [DecidableEq Domain] in
theorem retAfter_of_holes (hholes : ¬∃ added, some added ∈ earlier) (ret : ℤ) :
    retAfter earlier ret = ret := by
  have hnil : earlier.reduceOption = [] := by
    apply List.eq_nil_iff_forall_not_mem.2
    intro added hadded
    exact hholes ⟨added, List.reduceOption_mem_iff.1 hadded⟩
  rw [retAfter, if_pos hnil]

/-- A call whose loop stops reverts what it did.  It returns zero exactly if it stops at an absent
domain after a domain was added. -/
theorem add_of_stopsAt (hdata : data.domains = some table)
    (hreaches : ReachesLoop env (some fwnode) (some data))
    (hstops : StopsAt env table earlier domain) :
    ∃ ret after, fwnodeGenpdAddProviderOnecell env (some fwnode) (some data) registry =
        (ret, after) ∧ Reverted earlier registry after ∧
      (ret < 0 ↔ ¬((∃ added, some added ∈ earlier) ∧ env.present domain = false)) := by
  obtain ⟨later, hsplit⟩ := hstops.split
  subst hsplit
  have hproviders := provideAll_providers fwnode earlier registry
  by_cases hpresent : env.present domain = true
  · have hrefused : ∃ errno, env.deviceAdd domain = some errno := by
      apply Option.ne_none_iff_exists'.1
      intro hnone
      apply hstops.refuses
      intro other hother
      cases hother
      exact ⟨hpresent, hnone⟩
    obtain ⟨errno, herrno⟩ := hrefused
    refine ⟨_, _, add_of_refused env fwnode data earlier later domain registry hdata hreaches
      hstops.admits hpresent errno herrno, ?_, ?_⟩
    · refine reverted_rollback fwnode earlier _ registry _ ?_ hproviders
      intro other
      by_cases hother : other = domain
      · subst hother
        exact ⟨some fwnode, Function.update_self ..⟩
      · exact ⟨_, Function.update_of_ne hother ..⟩
    · simp [errno.ret_neg, hpresent]
  · have habsent : env.present domain = false := Bool.eq_false_iff.2 hpresent
    refine ⟨_, _, add_of_absent env fwnode data earlier later domain registry hdata hreaches
      hstops.admits habsent, ?_, ?_⟩
    · exact reverted_rollback fwnode earlier _ registry _ (fun _ ↦ ⟨_, rfl⟩) hproviders
    · by_cases hadded : ∃ added, some added ∈ earlier
      · rw [retAfter_eq_zero earlier hadded]
        exact iff_of_false (lt_irrefl 0) fun h ↦ h ⟨hadded, habsent⟩
      · rw [retAfter_of_holes earlier hadded]
        exact iff_of_true EINVAL.ret_neg fun h ↦ hadded h.1

omit [DecidableEq Domain] [DecidableEq Node] in
theorem exists_of_reachesLoop (fwnode : Option Node) (data : Option (OnecellData Domain))
    (hreaches : ReachesLoop env fwnode data) :
    ∃ node record, fwnode = some node ∧ data = some record ∧
      record.domains = some (tableOf data) := by
  obtain ⟨node, hnode⟩ := Option.isSome_iff_exists.1 hreaches.1
  obtain ⟨table, htable⟩ := Option.isSome_iff_exists.1 hreaches.2.1
  obtain ⟨record, hrecord, hdomains⟩ := Option.bind_eq_some_iff.1 htable
  refine ⟨node, record, hnode, hrecord, ?_⟩
  rw [tableOf, htable, Option.getD_some, hdomains]

/-- Every call that fails reverts what it did. -/
theorem add_of_failsAfter (fwnode : Option Node) (data : Option (OnecellData Domain))
    (hfails : FailsAfter env fwnode data earlier) :
    ∃ ret after, fwnodeGenpdAddProviderOnecell env fwnode data registry = (ret, after) ∧
      Reverted earlier registry after ∧ (¬AbsentAfterAdded env fwnode data → ret < 0) := by
  rcases hfails with ⟨hreaches, hnil⟩ | ⟨hreaches, domain, hstops⟩
  · obtain ⟨errno, herrno⟩ := add_of_not_reachesLoop env registry fwnode data hreaches
    subst hnil
    exact ⟨errno.ret, registry, herrno, reverted_refl registry, fun _ ↦ errno.ret_neg⟩
  · obtain ⟨node, record, rfl, rfl, hdomains⟩ := exists_of_reachesLoop env fwnode data hreaches
    obtain ⟨ret, after, hcall, hreverted, hret⟩ := add_of_stopsAt env node record earlier domain
      registry _ hdomains hreaches hstops
    refine ⟨ret, after, hcall, hreverted, fun hnot ↦ hret.2 fun h ↦ hnot ?_⟩
    exact ⟨hreaches, earlier, domain, hstops, h⟩

omit [DecidableEq Domain] [DecidableEq Node] in
theorem admits_or_failsAfter (fwnode : Option Node) (data : Option (OnecellData Domain)) :
    (ReachesLoop env fwnode data ∧ ∀ entry ∈ tableOf data, Admits env entry) ∨
      ∃ earlier, FailsAfter env fwnode data earlier := by
  by_cases hreaches : ReachesLoop env fwnode data
  · rcases admits_or_first env (tableOf data) with hadmits | hfirst
    · exact .inl ⟨hreaches, hadmits⟩
    · obtain ⟨earlier, domain, later, hsplit, hadmits, hrefuses⟩ := hfirst
      exact .inr ⟨earlier, .inr ⟨hreaches, domain, ⟨later, hsplit⟩, hadmits, hrefuses⟩⟩
  · exact .inr ⟨[], .inl ⟨hreaches, rfl⟩⟩

omit [DecidableEq Domain] [DecidableEq Node] in
theorem not_failsAfter_of_admits (fwnode : Option Node) (data : Option (OnecellData Domain))
    (hreaches : ReachesLoop env fwnode data) (hadmits : ∀ entry ∈ tableOf data, Admits env entry) :
    ¬FailsAfter env fwnode data earlier := by
  intro h
  rcases h with ⟨hnot, -⟩ | ⟨-, domain, hstops⟩
  · exact hnot hreaches
  · obtain ⟨later, hsplit⟩ := hstops.split
    apply hstops.refuses
    apply hadmits
    rw [hsplit]
    exact List.mem_append_right _ List.mem_cons_self

end Registration

/-- Registration is all or nothing unless its loop stops at an absent domain after it has added
one, or it fails on a table with a domain that had a provider before and that it does not walk back
over. -/
theorem fwnodeGenpdAddProviderOnecell_allOrNothing_iff [DecidableEq Node] (env : AddEnv Domain)
    (fwnode : Option Node) (data : Option (OnecellData Domain))
    (registry : Registry Node Domain) :
    AllOrNothing env fwnode data registry
        (fwnodeGenpdAddProviderOnecell env fwnode data registry) ↔
      ¬AbsentAfterAdded env fwnode data ∧ ¬LeavesProvided env fwnode data registry := by
  rcases admits_or_failsAfter env fwnode data with ⟨hreaches, hadmits⟩ | ⟨earlier, hfails⟩
  · have hnever := fun earlier ↦
      not_failsAfter_of_admits env earlier fwnode data hreaches hadmits
    apply iff_of_true
    · obtain ⟨node, record, rfl, rfl, hdomains⟩ := exists_of_reachesLoop env fwnode data hreaches
      have hregisters := registers_of_admits env node record registry _ hdomains hadmits
      rw [add_of_admits env node record registry _ hdomains hreaches hadmits]
      exact ⟨iff_of_true rfl hregisters, fun hcontra ↦ absurd hregisters hcontra⟩
    · refine ⟨fun h ↦ ?_, fun h ↦ ?_⟩
      · obtain ⟨-, earlier, domain, hstops, -⟩ := h
        exact hnever earlier (.inr ⟨hreaches, domain, hstops⟩)
      · obtain ⟨earlier, hfails, -⟩ := h
        exact hnever earlier hfails
  · constructor
    · intro h
      refine ⟨fun habsent ↦ ?_, fun hleaves ↦ ?_⟩
      · obtain ⟨hreaches, earlier, domain, hstops, hadded⟩ := habsent
        obtain ⟨node, record, rfl, rfl, hdomains⟩ := exists_of_reachesLoop env fwnode data hreaches
        obtain ⟨ret, after, hcall, hreverted, hret⟩ := add_of_stopsAt env node record earlier
          domain registry _ hdomains hreaches hstops
        rw [hcall, allOrNothing_iff_of_reverted env _ _ earlier _ _ _ hreverted] at h
        exact hret.1 h.1 hadded
      · obtain ⟨earlier, hfails, domain, htable, hearlier, hset⟩ := hleaves
        obtain ⟨ret, after, hcall, hreverted, -⟩ := add_of_failsAfter env earlier registry fwnode
          data hfails
        rw [hcall, allOrNothing_iff_of_reverted env _ _ earlier _ _ _ hreverted] at h
        exact hset (h.2 domain htable hearlier)
    · intro h
      obtain ⟨ret, after, hcall, hreverted, hret⟩ := add_of_failsAfter env earlier registry fwnode
        data hfails
      rw [hcall, allOrNothing_iff_of_reverted env _ _ earlier _ _ _ hreverted]
      refine ⟨hret h.1, fun domain htable hearlier ↦ ?_⟩
      by_contra hset
      exact h.2 ⟨earlier, hfails, domain, htable, hearlier, hset⟩

end

/-- A registry in which nothing has been registered yet. -/
def emptyRegistry : Registry ℕ ℕ where
  genpd := fun _ ↦ ⟨none, false, none, 0, 0⟩
  providers := []
  nodeRefs := fun _ ↦ 0
  initialized := fun _ ↦ false

/-- Domain `0` is on the list of power domains and no other is. -/
def firstPresent : AddEnv ℕ where
  busRegistered := true
  allocates := true
  present := fun domain ↦ domain == 0
  deviceAdd := fun _ ↦ none

/-- The second domain is absent.  Zero is returned, and no provider is listed. -/
theorem fwnodeGenpdAddProviderOnecell_absent_second :
    let result := fwnodeGenpdAddProviderOnecell firstPresent (some 7)
      (some ⟨some [some 0, some 1]⟩) emptyRegistry
    result.1 = 0 ∧ result.2.providers = [] ∧
      ¬AllOrNothing firstPresent (some 7) (some ⟨some [some 0, some 1]⟩) emptyRegistry result := by
  refine ⟨rfl, rfl, fun h ↦ ?_⟩
  obtain ⟨node, table, -, -, hregistered⟩ := h.1.1 rfl
  exact List.cons_ne_nil _ _ hregistered.listed.symm

end TclB220G.PmDomain
