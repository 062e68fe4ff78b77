import Mathlib.Data.List.Nodup
import TclB220G.Interconnect.BcmVoter

/-!
# Lifetimes of voters

A lookup gives only voters that are in the list, of a bound device, and a voter is off the list before it
is freed.  The outline says at each stage of a device which resources and which voter it has, and what
the moves of one actor leave to the others: a voter in the list is not touched in memory, and its device
stays bound until the voter has left the list.  So a lookup can rely on what it has tested until it gives
back the lock, although it does not have the lock of the device.
-/

namespace TclB220G.Interconnect.Voter

open Kernel Kernel.Errno Lib

/-! ## What a device has -/

section

variable {Device Client OfNode Fwnode Address : Type}

/-- The resources of a device, the voter that it has in memory, and whether that is in the list. -/
structure Possession (Device OfNode Address : Type) where
  devres : List (Managed Address)
  block : Option (Address × BcmVoter Device OfNode)
  listed : Bool

namespace Possession

def nothing : Possession Device OfNode Address := ⟨[], none, false⟩

def unlisted (voter : Address) (content : BcmVoter Device OfNode) : Possession Device OfNode Address :=
  ⟨[.memory voter], some (voter, content), false⟩

def published (voter : Address) (content : BcmVoter Device OfNode) : Possession Device OfNode Address :=
  ⟨[.memory voter], some (voter, content), true⟩

def managed (voter : Address) (content : BcmVoter Device OfNode) : Possession Device OfNode Address :=
  ⟨[.unlist voter, .memory voter], some (voter, content), true⟩

end Possession

/-- The device has this and no other voter in memory. -/
structure Registry.Holds (registry : Registry Device Client OfNode Address) (device : Device)
    (possession : Possession Device OfNode Address) : Prop where
  devres : registry.devres device = possession.devres
  memory : ∀ voter content, registry.memory voter = some ⟨device, content⟩ ↔
    possession.block = some (voter, content)
  listed : ∀ voter content, possession.block = some (voter, content) →
    (voter ∈ registry.voters ↔ possession.listed = true)

/-- What holds of the list between moves: every element is the voter that the probe of its device has
set up. -/
structure Consistent (board : Board Device OfNode Fwnode)
    (registry : Registry Device Client OfNode Address) : Prop where
  nodup : registry.voters.Nodup
  live : ∀ voter ∈ registry.voters, ∃ device, registry.memory voter = some ⟨device, board.voterOf device⟩

/-! ## What the others may rely on -/

/-- What the moves of an actor leave to the others. -/
structure Spares (actor : Actor Device Client) (before after : Registry Device Client OfNode Address) :
    Prop where
  memory : ∀ voter block, actor ≠ .core block.owner →
    (after.memory voter = some block ↔ before.memory voter = some block)
  voters : ∀ voter block, actor ≠ .core block.owner → before.memory voter = some block →
    (voter ∈ after.voters ↔ voter ∈ before.voters)
  devres : ∀ device, actor ≠ .core device → after.devres device = before.devres device
  bound : ∀ device, actor ≠ .core device → after.bound device = before.bound device
  /-- The lock and the list stay as they are while another actor has the lock. -/
  lock : ∀ holder, holder ≠ actor → before.lock = some holder →
    after.lock = some holder ∧ after.voters = before.voters
  /-- What is in the list stays in memory as it is. -/
  live : ∀ voter ∈ before.voters, after.memory voter = before.memory voter
  /-- A device stays bound while its voter is in the list. -/
  attached : ∀ voter ∈ before.voters, ∀ block, before.memory voter = some block →
    before.bound block.owner = true → after.bound block.owner = true

namespace Spares

variable {registry : Registry Device Client OfNode Address} {actor : Actor Device Client}
  {device : Device} {voter : Address} {content : BcmVoter Device OfNode}

theorem refl : Spares actor registry registry where
  memory _ _ _ := Iff.rfl
  voters _ _ _ _ := Iff.rfl
  devres _ _ := rfl
  bound _ _ := rfl
  lock _ _ hlock := ⟨hlock, rfl⟩
  live _ _ := rfl
  attached _ _ _ _ hbound := hbound

/-- The lock is taken when it is free, or given back by its holder. -/
theorem setLock (hlock : registry.lock = none ∨ registry.lock = some actor)
    (holder : Option (Actor Device Client)) : Spares actor registry (registry.setLock holder) where
  memory _ _ _ := Iff.rfl
  voters _ _ _ _ := Iff.rfl
  devres _ _ := rfl
  bound _ _ := rfl
  lock other hother hheld := by
    rcases hlock with hlock | hlock
    · rw [hlock] at hheld
      cases hheld
    · rw [hlock] at hheld
      exact absurd (Option.some.inj hheld).symm hother
  live _ _ := rfl
  attached _ _ _ _ hbound := hbound

/-- The holder of the lock changes the list at a voter of its own. -/
theorem update_voters (hlock : registry.lock = some (.core device))
    (hmemory : registry.memory voter = some ⟨device, content⟩) {voters : List Address}
    (hvoters : ∀ other, other ≠ voter → (other ∈ voters ↔ other ∈ registry.voters)) :
    Spares (.core device) registry { registry with voters } where
  memory _ _ _ := Iff.rfl
  voters other block hother hblock := by
    apply hvoters
    rintro rfl
    rw [hmemory, Option.some.injEq] at hblock
    exact hother (congrArg (Actor.core ∘ Block.owner) hblock)
  devres _ _ := rfl
  bound _ _ := rfl
  lock holder hholder hheld := by
    rw [hlock] at hheld
    exact absurd (Option.some.inj hheld).symm hholder
  live _ _ := rfl
  attached _ _ _ _ hbound := hbound

theorem listAddTail (hlock : registry.lock = some (.core device))
    (hmemory : registry.memory voter = some ⟨device, content⟩) :
    Spares (.core device) registry (registry.listAddTail voter) :=
  update_voters hlock hmemory fun other hother ↦ by simp [hother]

theorem listDel [DecidableEq Address] (hlock : registry.lock = some (.core device))
    (hmemory : registry.memory voter = some ⟨device, content⟩) :
    Spares (.core device) registry (registry.listDel voter) :=
  update_voters hlock hmemory fun _ hother ↦ List.mem_erase_of_ne hother

variable [DecidableEq Device]

theorem setBound {value : Bool} (hvalue : value = true ∨ ∀ voter ∈ registry.voters, ∀ block,
      registry.memory voter = some block → block.owner ≠ device) :
    Spares (.core device) registry (registry.setBound device value) where
  memory _ _ _ := Iff.rfl
  voters _ _ _ _ := Iff.rfl
  devres _ _ := rfl
  bound _ hother := Function.update_of_ne (fun h ↦ hother (congrArg Actor.core h).symm) _ _
  lock _ _ hlock := ⟨hlock, rfl⟩
  live _ _ := rfl
  attached voter hvoter block hblock hbound := by
    by_cases howner : block.owner = device
    · have htrue : value = true := hvalue.resolve_right fun hnone ↦ hnone voter hvoter block hblock howner
      dsimp only [Registry.setBound]
      rw [howner, Function.update_self, htrue]
    · exact (Function.update_of_ne howner _ _).trans hbound

theorem setDevres (managed : List (Managed Address)) :
    Spares (.core device) registry (registry.setDevres device managed) where
  memory _ _ _ := Iff.rfl
  voters _ _ _ _ := Iff.rfl
  devres _ hother := Function.update_of_ne (fun h ↦ hother (congrArg Actor.core h).symm) _ _
  bound _ _ := rfl
  lock _ _ hlock := ⟨hlock, rfl⟩
  live _ _ := rfl
  attached _ _ _ _ hbound := hbound

variable [DecidableEq Address]

/-- A device changes memory that nobody else has and that is not in the list. -/
theorem update_memory (hunlisted : voter ∉ registry.voters)
    (hbefore : ∀ block, registry.memory voter = some block → block.owner = device)
    {content : Option (Block Device OfNode)} (hafter : ∀ block, content = some block → block.owner = device)
    (managed : List (Managed Address)) :
    Spares (.core device) registry
      { registry with
        memory := Function.update registry.memory voter content
        devres := Function.update registry.devres device managed } where
  memory other block hother := by
    dsimp only
    by_cases hvoter : other = voter
    · rw [hvoter, Function.update_self]
      have hforeign : block.owner ≠ device := fun h ↦ hother (congrArg Actor.core h).symm
      exact ⟨fun h ↦ absurd (hafter block h) hforeign, fun h ↦ absurd (hbefore block h) hforeign⟩
    · rw [Function.update_of_ne hvoter]
  voters _ _ _ _ := Iff.rfl
  devres _ hother := Function.update_of_ne (fun h ↦ hother (congrArg Actor.core h).symm) _ _
  bound _ _ := rfl
  lock _ _ hlock := ⟨hlock, rfl⟩
  live other hother := by
    have hne : other ≠ voter := fun h ↦ hunlisted (h ▸ hother)
    exact Function.update_of_ne hne _ _
  attached _ _ _ _ hbound := hbound

theorem store (hunlisted : voter ∉ registry.voters)
    (hmemory : registry.memory voter = some ⟨device, content⟩) (stored : BcmVoter Device OfNode) :
    Spares (.core device) registry (registry.store voter stored) := by
  have hupdate := update_memory hunlisted (by simp [hmemory])
    (show ∀ block, some (Block.mk device stored) = some block → block.owner = device by simp)
    (registry.devres device)
  rw [Function.update_eq_self] at hupdate
  rw [Registry.store, hmemory]
  exact hupdate

end Spares

/-! ## What the moves do to a device -/

namespace Registry.Holds

variable {registry after : Registry Device Client OfNode Address} {actor : Actor Device Client}
  {device : Device} {possession : Possession Device OfNode Address} {voter : Address}
  {content : BcmVoter Device OfNode}

/-- The others leave a device what it has. -/
theorem stable (hholds : registry.Holds device possession) (hactor : actor ≠ .core device)
    (hspares : Spares actor registry after) : after.Holds device possession where
  devres := (hspares.devres device hactor).trans hholds.devres
  memory voter content := (hspares.memory voter ⟨device, content⟩ hactor).trans (hholds.memory voter content)
  listed voter content hblock :=
    (hspares.voters voter ⟨device, content⟩ hactor ((hholds.memory voter content).2 hblock)).trans
      (hholds.listed voter content hblock)

theorem setLock (hholds : registry.Holds device possession) (holder : Option (Actor Device Client)) :
    (registry.setLock holder).Holds device possession :=
  ⟨hholds.devres, hholds.memory, hholds.listed⟩

/-- The memory of the voter that a device has. -/
theorem memory_eq {managed : List (Managed Address)} {listed : Bool}
    (hholds : registry.Holds device ⟨managed, some (voter, content), listed⟩) :
    registry.memory voter = some ⟨device, content⟩ :=
  (hholds.memory voter content).2 rfl

theorem mem_voters {managed : List (Managed Address)} {listed : Bool}
    (hholds : registry.Holds device ⟨managed, some (voter, content), listed⟩) :
    voter ∈ registry.voters ↔ listed = true :=
  hholds.listed voter content rfl

theorem not_mem_voters (hholds : registry.Holds device (.unlisted voter content)) :
    voter ∉ registry.voters :=
  fun hvoter ↦ absurd (hholds.mem_voters.1 hvoter) Bool.false_ne_true

theorem listAddTail (hholds : registry.Holds device (.unlisted voter content)) :
    (registry.listAddTail voter).Holds device (.published voter content) where
  devres := hholds.devres
  memory := hholds.memory
  listed other _ hblock := by
    cases hblock
    exact iff_of_true (List.mem_append_right _ List.mem_cons_self) rfl

section

variable [DecidableEq Address]

theorem listDel (hholds : registry.Holds device (.published voter content))
    (hnodup : registry.voters.Nodup) :
    (registry.listDel voter).Holds device (.unlisted voter content) where
  devres := hholds.devres
  memory := hholds.memory
  listed other _ hblock := by
    cases hblock
    exact iff_of_false hnodup.not_mem_erase Bool.false_ne_true

/-- A device that has at most this voter writes to it, or takes or frees its memory. -/
theorem update_memory (hholds : registry.Holds device possession)
    (honly : ∀ other content, possession.block = some (other, content) → other = voter)
    (new : Option (BcmVoter Device OfNode)) (other : Address) (content : BcmVoter Device OfNode) :
    Function.update registry.memory voter (new.map (Block.mk device)) other = some ⟨device, content⟩ ↔
      new.map (Prod.mk voter) = some (other, content) := by
  by_cases hother : other = voter
  · rw [hother, Function.update_self]
    cases new with
    | none => simp
    | some stored => simp
  · rw [Function.update_of_ne hother]
    constructor
    · exact fun h ↦ absurd (honly other content ((hholds.memory other content).1 h)) hother
    · intro h
      obtain ⟨stored, -, hstored⟩ := Option.map_eq_some_iff.1 h
      exact absurd (congrArg Prod.fst hstored).symm hother

theorem store (hholds : registry.Holds device (.unlisted voter content))
    (stored : BcmVoter Device OfNode) :
    (registry.store voter stored).Holds device (.unlisted voter stored) where
  devres := hholds.devres
  memory := by
    rw [Registry.store, hholds.memory_eq]
    exact hholds.update_memory (fun _ _ h ↦ (Prod.mk.inj (Option.some.inj h)).1.symm) (some stored)
  listed other _ hblock := by
    cases hblock
    exact hholds.mem_voters

end

/-- A device that has nothing owns no memory. -/
theorem owner_ne (hholds : registry.Holds device .nothing) {voter : Address} {block : Block Device OfNode}
    (hmemory : registry.memory voter = some block) : block.owner ≠ device := by
  rintro rfl
  cases (hholds.memory voter block.voter).1 hmemory

variable [DecidableEq Device]

theorem setBound (hholds : registry.Holds device possession) (value : Bool) :
    (registry.setBound device value).Holds device possession :=
  ⟨hholds.devres, hholds.memory, hholds.listed⟩

theorem setDevres (hholds : registry.Holds device possession) (managed : List (Managed Address)) :
    (registry.setDevres device managed).Holds device { possession with devres := managed } :=
  ⟨Function.update_self _ _ _, hholds.memory, hholds.listed⟩

variable [DecidableEq Address]

theorem devmKzalloc (hholds : registry.Holds device .nothing) (hunlisted : voter ∉ registry.voters) :
    (registry.devmKzalloc device voter).Holds device (.unlisted voter cleared) where
  devres := by
    dsimp only [Registry.devmKzalloc]
    rw [Function.update_self, hholds.devres]
    rfl
  memory := hholds.update_memory nofun (some cleared)
  listed other _ hblock := by
    cases hblock
    exact iff_of_false hunlisted Bool.false_ne_true

theorem release (hholds : registry.Holds device (.unlisted voter content)) :
    (registry.release device voter []).Holds device .nothing where
  devres := Function.update_self _ _ _
  memory := hholds.update_memory (fun _ _ h ↦ (Prod.mk.inj (Option.some.inj h)).1.symm) none
  listed _ _ hblock := nomatch hblock

end Registry.Holds

/-! ## The outline -/

/-- The device is what a lookup asks for. -/
def Wanted.Meets (board : Board Device OfNode Fwnode) (bound : Device → Bool) (device : Device) :
    Wanted OfNode Fwnode → Prop
  | .ofNode node => ∃ np, board.ofNode device = some np ∧ node = some np
  | .fwnode node => board.devFwnode device = some node ∧ bound device = true

/-- The voter is in the list, set up by its device, and the device is what the lookup asks for. -/
structure Fits (board : Board Device OfNode Fwnode) (registry : Registry Device Client OfNode Address)
    (wanted : Wanted OfNode Fwnode) (voter : Address) : Prop where
  listed : voter ∈ registry.voters
  meets : ∃ device, registry.memory voter = some ⟨device, board.voterOf device⟩ ∧
    wanted.Meets board registry.bound device

namespace Stage

/-- The actor has `bcm_voter_lock`. -/
def locked : Stage OfNode Fwnode Address → Bool
  | adding _ | added _ | deleting _ _ | deleted _ | scanning _ _ | leaving _ _ => true
  | _ => false

/-- The device counts as bound.  It does so until its resources are released. -/
def isBound : Stage OfNode Fwnode Address → Bool
  | otherDriver | bound => true
  | releasing ending | unlisting _ ending | deleting _ ending | deleted ending => ending = .removal
  | _ => false

/-- What a device may have at a stage. -/
def Grants (board : Board Device OfNode Fwnode) (device : Device) :
    Stage OfNode Fwnode Address → Possession Device OfNode Address → Prop
  | unbound, possession | otherDriver, possession => possession = .nothing
  | allocated voter, possession => possession = .unlisted voter cleared
  | filled voter, possession | adding voter, possession =>
    possession = .unlisted voter (board.voterOf device)
  | added voter, possession | listed voter, possession | unlisting voter _, possession |
    deleting voter _, possession => possession = .published voter (board.voterOf device)
  | probed, possession | bound, possession => ∃ voter, possession = .managed voter (board.voterOf device)
  | deleted _, possession => ∃ voter, possession = .unlisted voter (board.voterOf device)
  | releasing _, possession => possession = .nothing ∨ ∃ voter,
    possession = .unlisted voter (board.voterOf device) ∨
      possession = .managed voter (board.voterOf device)
  | _, _ => False

/-- What a lookup knows of the list at a stage. -/
structure Finds (board : Board Device OfNode Fwnode) (registry : Registry Device Client OfNode Address)
    (stage : Stage OfNode Fwnode Address) : Prop where
  candidate : ∀ wanted voter, stage = scanning wanted (some voter) → voter ∈ registry.voters
  result : ∀ wanted voter, stage = leaving wanted (.ok voter) → Fits board registry wanted voter

end Stage

/-- What holds at each stage of an actor. -/
def Asserts (board : Board Device OfNode Fwnode) (actor : Actor Device Client)
    (registry : Registry Device Client OfNode Address) (stage : Stage OfNode Fwnode Address) : Prop :=
  (stage.locked = true → registry.lock = some actor) ∧
    match actor with
    | .core device => registry.bound device = stage.isBound ∧
      ∃ possession, stage.Grants board device possession ∧ registry.Holds device possession
    | .client _ => stage.Finds board registry

variable {board : Board Device OfNode Fwnode} {actor other : Actor Device Client}
  {registry after : Registry Device Client OfNode Address} {stage stage' : Stage OfNode Fwnode Address}

/-- A device stays what a lookup asks for while its voter is in the list. -/
theorem Fits.stable {wanted : Wanted OfNode Fwnode} {voter : Address}
    (hfits : Fits board registry wanted voter) (hspares : Spares actor registry after)
    (hvoters : after.voters = registry.voters) : Fits board after wanted voter := by
  obtain ⟨device, hmemory, hmeets⟩ := hfits.meets
  refine ⟨hvoters ▸ hfits.listed, device, (hspares.live voter hfits.listed).trans hmemory, ?_⟩
  cases wanted with
  | ofNode node => exact hmeets
  | fwnode node => exact ⟨hmeets.1, hspares.attached voter hfits.listed _ hmemory hmeets.2⟩

theorem asserts_stable (hother : other ≠ actor) (hasserts : Asserts board other registry stage)
    (hspares : Spares actor registry after) : Asserts board other after stage := by
  obtain ⟨hlock, hactor⟩ := hasserts
  refine ⟨fun hlocked ↦ (hspares.lock other hother (hlock hlocked)).1, ?_⟩
  cases other with
  | core device =>
    obtain ⟨hbound, possession, hgrants, hholds⟩ := hactor
    exact ⟨(hspares.bound device hother.symm).trans hbound, possession, hgrants,
      hholds.stable hother.symm hspares⟩
  | client client =>
    -- The lookup has the lock wherever it knows something of the list.
    have hvoters : stage.locked = true → after.voters = registry.voters :=
      fun hlocked ↦ (hspares.lock _ hother (hlock hlocked)).2
    constructor
    · rintro wanted voter rfl
      rw [hvoters rfl]
      exact hactor.candidate wanted voter rfl
    · rintro wanted voter rfl
      exact (hactor.result wanted voter rfl).stable hspares (hvoters rfl)

/-- What `devres_release_all` finds tells what the device still has. -/
theorem holds_of_devres {device : Device} {ending : Ending}
    (hasserts : Asserts board (.core device) registry (.releasing ending)) :
    match registry.devres device with
    | [] => registry.Holds device .nothing
    | .memory voter :: rest =>
      rest = [] ∧ registry.Holds device (.unlisted voter (board.voterOf device))
    | .unlist voter :: rest =>
      rest = [.memory voter] ∧ registry.Holds device (.managed voter (board.voterOf device)) := by
  obtain ⟨-, -, possession, hgrants, hholds⟩ := hasserts
  rw [hholds.devres]
  rcases hgrants with rfl | ⟨voter, rfl | rfl⟩
  · exact hholds
  · exact ⟨rfl, hholds⟩
  · exact ⟨rfl, hholds⟩

namespace Consistent

/-- Memory that is free is not in the list. -/
theorem not_mem_voters (hconsistent : Consistent board registry) {voter : Address}
    (hfree : registry.memory voter = none) : voter ∉ registry.voters := by
  intro hvoter
  obtain ⟨device, hmemory⟩ := hconsistent.live voter hvoter
  rw [hfree] at hmemory
  cases hmemory

theorem of_spares (hconsistent : Consistent board registry) (hspares : Spares actor registry after)
    (hvoters : after.voters.Sublist registry.voters) : Consistent board after where
  nodup := hconsistent.nodup.sublist hvoters
  live voter hvoter := by
    rw [hspares.live voter (hvoters.subset hvoter)]
    exact hconsistent.live voter (hvoters.subset hvoter)

theorem listAddTail (hconsistent : Consistent board registry) {device : Device} {voter : Address}
    (hholds : registry.Holds device (.unlisted voter (board.voterOf device))) :
    Consistent board (registry.listAddTail voter) where
  nodup := by
    rw [Registry.listAddTail, ← List.concat_eq_append]
    exact hconsistent.nodup.concat hholds.not_mem_voters
  live other hother := by
    rcases List.mem_append.1 hother with hother | hother
    · exact hconsistent.live other hother
    · rw [List.mem_singleton.1 hother]
      exact ⟨device, hholds.memory_eq⟩

end Consistent

/-- The element after one of the list is one of the list. -/
theorem mem_of_next [DecidableEq Address] {voter following : Address}
    (hnext : registry.next voter = some following) :
    following ∈ registry.voters := by
  have hmem := List.mem_of_mem_head? hnext
  exact (List.dropWhile_sublist _).subset (List.mem_of_mem_drop hmem)

section

variable [DecidableEq OfNode] [DecidableEq Fwnode]

/-- The condition of a lookup on a voter that its device has set up. -/
theorem accepts_voterOf (bound : Device → Bool) (device : Device) (wanted : Wanted OfNode Fwnode)
    (haccepts : wanted.accepts board bound (board.voterOf device) ≠ some false) :
    wanted.Meets board bound device := by
  cases wanted with
  | ofNode node =>
    simp only [Wanted.accepts, Board.voterOf, ne_eq, Option.some.injEq, Bool.not_eq_false,
      Bool.and_eq_true] at haccepts
    obtain ⟨np, hnp⟩ := Option.isSome_iff_exists.1 haccepts.1
    exact ⟨np, hnp, (of_decide_eq_true haccepts.2).symm.trans hnp⟩
  | fwnode node =>
    simpa [Wanted.accepts, Board.voterOf, Wanted.Meets] using haccepts

variable [DecidableEq Device] [DecidableEq Address]

section

variable (hconsistent : Consistent board registry) (hasserts : Asserts board actor registry stage)
  (hmove : VoterMove board actor registry stage after stage')
include hconsistent hasserts hmove

theorem spares_move : Spares actor registry after := by
  cases hmove with
  | refuse | noMemory | manageFails | bindFails | remove | failed | lookUp | lookUpOf | accept | skip
  | notFound => exact .refl
  | addLock hfree | unlistLock hfree | scanLock hfree => exact .setLock (.inl hfree) _
  | addUnlock | unlistUnlock | scanUnlock => exact .setLock (.inr (hasserts.1 rfl)) _
  | bindOther | bind => exact .setBound (.inl rfl)
  | unbindOther =>
    obtain ⟨-, -, possession, rfl, hholds⟩ := hasserts
    exact .setBound (.inr fun _ _ _ hmemory ↦ hholds.owner_ne hmemory)
  | detach hdevres =>
    have hholds := holds_of_devres hasserts
    rw [hdevres] at hholds
    exact .setBound (.inr fun _ _ _ hmemory ↦ Registry.Holds.owner_ne hholds hmemory)
  | manage | runAction => exact .setDevres _
  | allocate voter _ hfree =>
    exact .update_memory (hconsistent.not_mem_voters hfree) (by simp [hfree]) (by simp) _
  | fill =>
    obtain ⟨-, -, possession, rfl, hholds⟩ := hasserts
    exact .store hholds.not_mem_voters hholds.memory_eq _
  | add =>
    obtain ⟨hlock, -, possession, rfl, hholds⟩ := hasserts
    exact .listAddTail (hlock rfl) hholds.memory_eq
  | delete =>
    obtain ⟨hlock, -, possession, rfl, hholds⟩ := hasserts
    exact .listDel (hlock rfl) hholds.memory_eq
  | free hdevres =>
    have hfound := holds_of_devres hasserts
    rw [hdevres] at hfound
    obtain ⟨-, hholds⟩ := hfound
    exact .update_memory hholds.not_mem_voters (by simp [hholds.memory_eq]) (by simp) _

theorem consistent_move : Consistent board after := by
  have hspares := spares_move hconsistent hasserts hmove
  cases hmove with
  | add =>
    obtain ⟨-, -, possession, rfl, hholds⟩ := hasserts
    exact hconsistent.listAddTail hholds
  | delete => exact hconsistent.of_spares hspares List.erase_sublist
  | _ => exact hconsistent.of_spares hspares (List.Sublist.refl _)

/-- Each move leaves the actor what its next stage asserts. -/
theorem asserts_move : Asserts board actor after stage' := by
  cases hmove with
  | bindOther | unbindOther =>
    obtain ⟨-, -, possession, rfl, hholds⟩ := hasserts
    exact ⟨nofun, Function.update_self _ _ _, _, rfl, hholds.setBound _⟩
  | refuse | noMemory =>
    obtain ⟨-, hbound, possession, rfl, hholds⟩ := hasserts
    exact ⟨nofun, hbound, _, .inl rfl, hholds⟩
  | allocate voter _ hfree =>
    obtain ⟨-, hbound, possession, rfl, hholds⟩ := hasserts
    exact ⟨nofun, hbound, _, rfl, hholds.devmKzalloc (hconsistent.not_mem_voters hfree)⟩
  | fill =>
    obtain ⟨-, hbound, possession, rfl, hholds⟩ := hasserts
    exact ⟨nofun, hbound, _, rfl, hholds.store _⟩
  | addLock | unlistLock =>
    obtain ⟨-, hbound, possession, rfl, hholds⟩ := hasserts
    exact ⟨fun _ ↦ rfl, hbound, _, rfl, hholds.setLock _⟩
  | add =>
    obtain ⟨hlock, hbound, possession, rfl, hholds⟩ := hasserts
    exact ⟨hlock, hbound, _, rfl, hholds.listAddTail⟩
  | addUnlock =>
    obtain ⟨-, hbound, possession, rfl, hholds⟩ := hasserts
    exact ⟨nofun, hbound, _, rfl, hholds.setLock _⟩
  | @manage device _ voter =>
    obtain ⟨-, hbound, possession, rfl, hholds⟩ := hasserts
    refine ⟨nofun, hbound, .managed voter (board.voterOf device), ⟨voter, rfl⟩, ?_⟩
    rw [hholds.devres]
    exact hholds.setDevres _
  | manageFails =>
    obtain ⟨-, hbound, possession, rfl, hholds⟩ := hasserts
    exact ⟨nofun, hbound, _, rfl, hholds⟩
  | bind =>
    obtain ⟨-, -, possession, hgrants, hholds⟩ := hasserts
    exact ⟨nofun, Function.update_self _ _ _, possession, hgrants, hholds.setBound _⟩
  | bindFails | remove =>
    obtain ⟨-, hbound, possession, ⟨voter, rfl⟩, hholds⟩ := hasserts
    exact ⟨nofun, hbound, _, .inr ⟨voter, .inr rfl⟩, hholds⟩
  | runAction hdevres =>
    have hfound := holds_of_devres hasserts
    rw [hdevres] at hfound
    obtain ⟨rfl, hholds⟩ := hfound
    exact ⟨nofun, hasserts.2.1, _, rfl, hholds.setDevres _⟩
  | delete =>
    obtain ⟨hlock, hbound, possession, rfl, hholds⟩ := hasserts
    exact ⟨hlock, hbound, _, ⟨_, rfl⟩, hholds.listDel hconsistent.nodup⟩
  | unlistUnlock =>
    obtain ⟨-, hbound, possession, ⟨voter, rfl⟩, hholds⟩ := hasserts
    exact ⟨nofun, hbound, _, .inr ⟨voter, .inl rfl⟩, hholds.setLock _⟩
  | free hdevres =>
    have hfound := holds_of_devres hasserts
    rw [hdevres] at hfound
    obtain ⟨rfl, hholds⟩ := hfound
    exact ⟨nofun, hasserts.2.1, _, .inl rfl, hholds.release⟩
  | failed hdevres =>
    have hholds := holds_of_devres hasserts
    rw [hdevres] at hholds
    exact ⟨nofun, hasserts.2.1, _, rfl, hholds⟩
  | detach hdevres =>
    have hholds := holds_of_devres hasserts
    rw [hdevres] at hholds
    exact ⟨nofun, Function.update_self _ _ _, _, rfl, Registry.Holds.setBound hholds _⟩
  | lookUp | lookUpOf => exact ⟨nofun, nofun, nofun⟩
  | scanLock =>
    refine ⟨fun _ ↦ rfl, ?_, nofun⟩
    intro wanted voter hstage
    exact List.mem_of_mem_head? (Stage.scanning.inj hstage).2
  | accept haccepts =>
    have hcandidate := hasserts.2.candidate _ _ rfl
    obtain ⟨device, hmemory⟩ := hconsistent.live _ hcandidate
    refine ⟨fun _ ↦ hasserts.1 rfl, nofun, ?_⟩
    rintro _ _ ⟨⟩
    rw [hmemory] at haccepts
    exact ⟨hcandidate, device, hmemory, accepts_voterOf registry.bound device _ haccepts⟩
  | skip =>
    refine ⟨fun _ ↦ hasserts.1 rfl, ?_, nofun⟩
    intro wanted voter hstage
    exact mem_of_next (Stage.scanning.inj hstage).2
  | notFound => exact ⟨fun _ ↦ hasserts.1 rfl, nofun, nofun⟩
  | scanUnlock => exact ⟨nofun, nofun, nofun⟩

end

/-- The outline of the probes, removals and lookups. -/
def outline (board : Board Device OfNode Fwnode) :
    Interleaving.Outline (@VoterMove Device Client OfNode Fwnode Address _ _ _ _ board) where
  invariant := Consistent board
  asserts := Asserts board
  guarantee := Spares
  keeps hconsistent hasserts hmove :=
    ⟨consistent_move hconsistent hasserts hmove, asserts_move hconsistent hasserts hmove,
      spares_move hconsistent hasserts hmove⟩
  stable hother hasserts hspares := asserts_stable hother hasserts hspares

theorem holds_unprobed (board : Board Device OfNode Fwnode) :
    (outline board).Holds (unprobed : Interleaving.System (Actor Device Client)
      (Registry Device Client OfNode Address) (Stage OfNode Fwnode Address)) := by
  refine ⟨⟨List.nodup_nil, fun _ hvoter ↦ absurd hvoter List.not_mem_nil⟩, fun actor ↦ ?_⟩
  cases actor with
  | core device => exact ⟨nofun, rfl, .nothing, rfl, rfl, fun _ _ ↦ ⟨nofun, nofun⟩, nofun⟩
  | client client => exact ⟨nofun, nofun, nofun⟩

end

/-! ## What is seen of a run -/

/-- A lookup gives back the lock with a voter as its result, or a voter is freed, in the registry as it
is at that moment. -/
inductive Observation (Device Client OfNode Fwnode Address : Type) where
  | found (wanted : Wanted OfNode Fwnode) (voter : Address)
    (registry : Registry Device Client OfNode Address)
  | freed (voter : Address) (registry : Registry Device Client OfNode Address)

def observe : Actor Device Client → Registry Device Client OfNode Address →
    Stage OfNode Fwnode Address → Stage OfNode Fwnode Address →
    Option (Observation Device Client OfNode Fwnode Address)
  | .client _, registry, .leaving wanted (.ok voter), .idle => some (.found wanted voter registry)
  | .core device, registry, .releasing _, .releasing _ =>
    match registry.devres device with
    | .memory voter :: _ => some (.freed voter registry)
    | _ => none
  | _, _, _, _ => none

/-- What is asked of an observation. -/
def Observation.Sound (board : Board Device OfNode Fwnode) :
    Observation Device Client OfNode Fwnode Address → Prop
  | found (.fwnode node) voter registry => voter ∈ registry.voters ∧
    ∃ block device, registry.memory voter = some block ∧ block.voter.dev = some device ∧
      board.devFwnode device = some node ∧ registry.bound device = true
  | found (.ofNode node) voter registry => voter ∈ registry.voters ∧
    ∃ block np, registry.memory voter = some block ∧ block.voter.np = some np ∧ node = some np
  | freed voter registry => voter ∉ registry.voters ∧ registry.memory voter ≠ none

theorem Fits.sound {wanted : Wanted OfNode Fwnode} {voter : Address}
    (hfits : Fits board registry wanted voter) :
    (Observation.found wanted voter registry).Sound board := by
  obtain ⟨device, hmemory, hmeets⟩ := hfits.meets
  cases wanted with
  | fwnode node => exact ⟨hfits.listed, _, device, hmemory, rfl, hmeets⟩
  | ofNode node =>
    obtain ⟨np, hnp, hnode⟩ := hmeets
    exact ⟨hfits.listed, _, np, hmemory, hnp, hnode⟩

section

variable [DecidableEq Device] [DecidableEq Client] [DecidableEq OfNode] [DecidableEq Fwnode]
  [DecidableEq Address]

omit [DecidableEq Client] in
theorem sound_observe {observation : Observation Device Client OfNode Fwnode Address}
    (hasserts : Asserts board actor registry stage)
    (hmove : VoterMove board actor registry stage after stage')
    (hobserve : observe actor registry stage stage' = some observation) :
    observation.Sound board := by
  cases hmove with
  | free hdevres =>
    have hfound := holds_of_devres hasserts
    rw [hdevres] at hfound
    obtain ⟨-, hholds⟩ := hfound
    simp only [observe, hdevres, Option.some.injEq] at hobserve
    subst hobserve
    exact ⟨hholds.not_mem_voters, by simp [hholds.memory_eq]⟩
  | @scanUnlock _ _ wanted result =>
    cases result with
    | error errno => cases hobserve
    | ok voter =>
      cases hobserve
      exact (hasserts.2.result wanted voter rfl).sound
  | _ => cases hobserve

/-- Whatever the order in which devices are probed and removed and lookups are made, and wherever a
probe fails: the result of a lookup is in the list when the lookup gives back the lock, and there its
device has the firmware node that was asked for and is bound, or it has the OF node that was asked for;
a voter is not in the list when it is freed; the list has only voters in memory; and a device that is
not bound owns none. -/
theorem bcmVoters_sound (board : Board Device OfNode Fwnode)
    {system : Interleaving.System (Actor Device Client) (Registry Device Client OfNode Address)
      (Stage OfNode Fwnode Address)}
    {observations : List (Observation Device Client OfNode Fwnode Address)}
    (htraced : Interleaving.Traced (VoterMove board) observe unprobed system observations) :
    (∀ observation ∈ observations, observation.Sound board) ∧
    (∀ voter ∈ system.shared.voters,
      ∃ device, system.shared.memory voter = some ⟨device, board.voterOf device⟩) ∧
    ∀ device, system.pc (.core device) = .unbound →
      ∀ voter block, system.shared.memory voter = some block → block.owner ≠ device := by
  have hholds := (outline board).holds_run (holds_unprobed board) htraced.run
  refine ⟨?_, hholds.1.live, ?_⟩
  · have hsound : ∀ seen ∈ observations, seen.Sound board :=
      (outline board).forall_events (fun _ hasserts hmove hobserve ↦ sound_observe hasserts hmove hobserve)
        (holds_unprobed board) htraced
    exact hsound
  · intro device hunbound voter block hmemory
    have hasserts := hholds.2 (.core device)
    rw [hunbound] at hasserts
    obtain ⟨-, -, possession, rfl, hnothing⟩ := hasserts
    exact hnothing.owner_ne hmemory

end

end

/-! ## A probe that fails after the voter was added -/

/-- The board with one voter, whose firmware node is `7`. -/
def oneVoter : Board Unit ℕ ℕ where
  ofNode := fun _ ↦ none
  fwnode := fun _ ↦ some 7
  ofFwnodeHandle := id
  parentName := fun _ ↦ some (some "rpmh")
  tclAcpiDisplay := fun _ ↦ true
  tcsWait := fun _ ↦ .error ENODATA
  acpiDisabled := false
  sysVendor := some "TCL Communication Ltd."
  productName := some "B220G"

/-- A device whose property refers to the voter. -/
def mnoc : Consumer ℕ ℕ where
  ofNode := none
  ofPropertyMatchString := fun _ ↦ .error ENODATA
  ofParsePhandle := fun _ ↦ none
  devicePropertyMatchString := fun _ ↦ .error ENODATA
  fwnodeFindReference := fun index ↦ if index = 0 then .ok 7 else .error ENOENT

/-- The first probe cannot register its action; the second one succeeds, and its voter is found. -/
theorem traced_oneVoter :
    ∃ system, ∃ first second : Registry Unit Unit ℕ ℕ,
      Interleaving.Traced (VoterMove oneVoter) observe unprobed system
        [.found (.fwnode 7) 0 second, .freed 0 first] := by
  have h₀ : Interleaving.Traced (@VoterMove Unit Unit ℕ ℕ ℕ _ _ _ _ oneVoter) observe unprobed unprobed [] :=
    .refl
  have h₁ := h₀.move (.core ()) (.allocate 0 (by decide) rfl)
  have h₂ := h₁.move (.core ()) .fill
  have h₃ := h₂.move (.core ()) (.addLock rfl)
  have h₄ := h₃.move (.core ()) .add
  have h₅ := h₄.move (.core ()) .addUnlock
  have h₆ := h₅.move (.core ()) .manageFails
  have h₇ := h₆.move (.core ()) (.unlistLock rfl)
  have h₈ := h₇.move (.core ()) .delete
  have h₉ := h₈.move (.core ()) .unlistUnlock
  have h₁₀ := h₉.move (.core ()) (.free rfl)
  have h₁₁ := h₁₀.move (.core ()) (.failed rfl)
  -- The memory of the first voter is used again.
  have h₁₂ := h₁₁.move (.core ()) (.allocate 0 (by decide) rfl)
  have h₁₃ := h₁₂.move (.core ()) .fill
  have h₁₄ := h₁₃.move (.core ()) (.addLock rfl)
  have h₁₅ := h₁₄.move (.core ()) .add
  have h₁₆ := h₁₅.move (.core ()) .addUnlock
  have h₁₇ := h₁₆.move (.core ()) .manage
  have h₁₈ := h₁₇.move (.core ()) .bind
  have h₁₉ := h₁₈.move (.client ()) (.lookUp (some mnoc) none rfl)
  have h₂₀ := h₁₉.move (.client ()) (.scanLock rfl)
  have h₂₁ := h₂₀.move (.client ()) (.accept (by decide))
  have h₂₂ := h₂₁.move (.client ()) .scanUnlock
  exact ⟨_, _, _, h₂₂⟩

/-- In that run, the voter is off the list when it is freed, and the one that is found is usable. -/
theorem bcmVoters_sound_oneVoter :
    ∃ system, ∃ first second : Registry Unit Unit ℕ ℕ,
      Interleaving.Traced (VoterMove oneVoter) observe unprobed system
        [.found (.fwnode 7) 0 second, .freed 0 first] ∧
      0 ∉ first.voters ∧ 0 ∈ second.voters ∧ second.bound () = true := by
  obtain ⟨system, first, second, htraced⟩ := traced_oneVoter
  have hsound := (bcmVoters_sound oneVoter htraced).1
  have hfreed := hsound (.freed 0 first) (by simp)
  obtain ⟨hlisted, _, _, _, _, _, hbound⟩ := hsound (.found (.fwnode 7) 0 second) (by simp)
  exact ⟨system, first, second, htraced, hfreed.1, hlisted, hbound⟩

end TclB220G.Interconnect.Voter
