import Mathlib.Algebra.Group.Pi.Basic
import Mathlib.Data.Fintype.Basic
import TclB220G.Display.Stage
import TclB220G.Lib.StateTriple

/-!
# The board modules of the audio service

Five modules bring up the codec.  One provides the pins of the SoundWire lines, one holds the votes for the
two rails of the codec, one holds its reset line high, and two register the codec and the card.  Each has
an init function that gives back on a failure what it took, and an exit function.

The calls into the rest of the kernel are answered by an oracle.  A vote that is answered by an error may
have reached the hardware or not.
-/

namespace TclB220G.Audio.Service

open Kernel Kernel.Errno Lib Lib.Script
open Display (Verdict)

/-- The modules, in the order in which they are loaded. -/
inductive BoardModule where
  | lpiProvider | powerHold | resetHold | wcd | card
  deriving DecidableEq, Repr

inductive Bank where
  | ldo | bob
  deriving DecidableEq, Repr

instance : Fintype Bank := ⟨{.ldo, .bob}, fun bank ↦ by cases bank <;> decide⟩

inductive LpiClk where
  | core | audio
  deriving DecidableEq, Repr

inductive WcdNode where
  | glink | apr | q6afe | rxMaster | txMaster | rx | tx
  deriving DecidableEq, Repr

inductive Master where
  | rx | tx
  deriving DecidableEq, Repr

/-- What the modules take and give back: references to devices and nodes, clocks and their aliases,
mappings and registrations. -/
inductive Slot where
  | bank (bank : Bank)
  | gpio58
  | clk (clk : LpiClk)
  | lookup (clk : LpiClk)
  | lpiNode | lpiDevice
  | node (node : WcdNode)
  | codec
  | gpiodTable | q6admDevice | routeDevice | cardDriver | cardDevice
  deriving DecidableEq, Repr

def Slot.owner : Slot → BoardModule
  | bank _ => .powerHold
  | gpio58 => .resetHold
  | clk _ | lookup _ | lpiNode | lpiDevice => .lpiProvider
  | node _ | codec => .wcd
  | gpiodTable | q6admDevice | routeDevice | cardDriver | cardDevice => .card

/-- What a module keeps while it is loaded. -/
def BoardModule.keeps : BoardModule → Finset Slot
  | .lpiProvider => {.lpiDevice, .lpiNode, .lookup .audio, .lookup .core, .clk .audio, .clk .core}
  | .powerHold => {.bank .bob, .bank .ldo}
  | .resetHold => {.gpio58}
  | .wcd => {.codec}
  | .card => {.cardDevice, .cardDriver, .routeDevice, .gpiodTable}

/-- How a module tells that it did not get something. -/
def Slot.verdict : Slot → Verdict
  | bank _ | node _ => .null ENODEV
  | gpio58 => .null ENOMEM
  | lpiNode | cardDriver => .nonzero
  | gpiodTable => .succeeds
  | q6admDevice => .null EPROBE_DEFER
  | _ => .negative

/-- Checks of the modules that only read. -/
inductive Check where
  | dmi (module_ : BoardModule)
  | cmdDb (bank : Bank)
  | usable (bank : Bank)
  deriving DecidableEq, Repr

/-- What the scripts look at. -/
inductive Sight where
  | provider (index : Fin 4)
  | adspRegistered | adspRunning | q6admRegistered | lpiBound
  | present (device : Fin 5)
  | bound (device : Fin 5)
  | attached
  | pmWritable
  | cardListed
  | pcmRunning
  | controlWritable (master : Master)
  deriving DecidableEq, Repr

/-- The other commands of the scripts. -/
inductive Command where
  | sleep
  | modprobe (index : Fin 22)
  | readAdspState | startAdsp
  | drivers_probe (device : Fin 5)
  | pmAuto (master : Master)
  | pmOn (master : Master)
  | alsactlRestore
  | amixer (control : Fin 7)
  deriving DecidableEq, Repr

inductive Call where
  | acquire (slot : Slot)
  | release (slot : Slot)
  | forget (slot : Slot)
  | check (check : Check)
  | rpmhWrite (addr data : ℕ)
  | setOn (bank : Bank) (on : Bool)
  | readl (offset : ℕ)
  | writel (value offset : ℕ)
  | setActive (active : Bool)
  | insert (module_ : BoardModule)
  | live (module_ : BoardModule)
  | remove (module_ : BoardModule)
  | gone (module_ : BoardModule)
  | sight (sight : Sight)
  | command (command : Command)
  deriving DecidableEq, Repr

/-- The address of a bank in the command database. -/
def Bank.addr : Bank → ℕ
  | .ldo => 0x42200
  | .bob => 0x40400

/-- The loaded modules, the rails that are remembered to be on, the votes that are known to stand, the
variable for the reset line and the values last written to its registers. -/
structure Board where
  loaded : BoardModule → Bool
  on : Bank → Bool
  votes : ℕ → Option ℕ
  active : Bool
  registers : ℕ → Option ℕ

/-- The board, the static variables of the modules and what they hold. -/
structure State extends Board where
  statics : Slot → Bool
  refs : Slot → ℤ

def Call.effect (call : Call) (answer : ℤ) (state : State) : State :=
  match call with
  | .acquire slot =>
    if slot.verdict.failed answer then { state with statics := Function.update state.statics slot false }
    else
      { state with
        statics := Function.update state.statics slot true
        refs := Function.update state.refs slot (state.refs slot + 1) }
  | .release slot => { state with refs := Function.update state.refs slot (state.refs slot - 1) }
  | .forget slot => { state with statics := Function.update state.statics slot false }
  | .rpmhWrite addr data =>
    { state with votes := Function.update state.votes addr (if answer = 0 then some data else none) }
  | .setOn bank on => { state with on := Function.update state.on bank on }
  | .writel value offset => { state with registers := Function.update state.registers offset (some value) }
  | .setActive active => { state with active }
  -- A module that is loaded starts with its variables cleared.
  | .insert module_ =>
    if answer = 0 then
      { state with
        statics := fun slot ↦ if slot.owner = module_ then false else state.statics slot
        on := if module_ = .powerHold then fun _ ↦ false else state.on
        active := if module_ = .resetHold then false else state.active }
    else state
  | .live module_ => { state with loaded := Function.update state.loaded module_ true }
  | .gone module_ => { state with loaded := Function.update state.loaded module_ false }
  | .check _ | .readl _ | .remove _ | .sight _ | .command _ => state

def Call.verdict : Call → Verdict
  | .acquire slot => slot.verdict
  | .check _ | .sight _ => .null ENODEV
  | .rpmhWrite .. | .insert _ | .remove _ | .command _ => .nonzero
  | _ => .succeeds

/-- Nothing is loaded at the start, and nothing is known of the hardware. -/
def boot : State where
  loaded _ := false
  on _ := false
  votes _ := none
  active := false
  registers _ := none
  statics _ := false
  refs _ := 0

def service : Interface Call State where
  initial := boot
  effect := Call.effect
  failed call := call.verdict.failed
  errno call := call.verdict.errno
  errno_ne_zero call := call.verdict.errno_ne_zero

abbrev ServiceScript := Script Call

def perform (call : Call) : ServiceScript Unit := Script.perform service call

/-- Stores what a search has found, which may be nothing. -/
def lookUp (slot : Slot) : ServiceScript Unit := do
  let _ ← invoke (.acquire slot)

/-- Gives something back if the variable for it is set. -/
def releaseIf (slot : Slot) : ServiceScript Unit := do
  let current ← state service
  if current.statics slot then perform (.release slot) else pure ()

/-! ## The pins of the SoundWire lines -/

def lpiClksDrop : ServiceScript Unit := do
  releaseIf (.lookup .audio)
  releaseIf (.lookup .core)
  perform (.forget (.lookup .audio))
  perform (.forget (.lookup .core))

def lpiClksPut : ServiceScript Unit := do
  releaseIf (.clk .audio)
  releaseIf (.clk .core)
  perform (.forget (.clk .audio))
  perform (.forget (.clk .core))

def tclLpiProviderInit : ServiceScript Unit := do
  perform (.check (.dmi .lpiProvider))
  perform (.acquire (.clk .core))
  guarding (do perform (.release (.clk .core)); perform (.forget (.clk .core))) do
    perform (.acquire (.clk .audio))
  guarding lpiClksPut do
    perform (.acquire (.lookup .core))
    guarding lpiClksDrop do
      perform (.acquire (.lookup .audio))
      perform (.acquire .lpiNode)
      guarding (perform (.release .lpiNode)) do
        perform (.acquire .lpiDevice)

def tclLpiProviderExit : ServiceScript Unit := do
  perform (.release .lpiDevice)
  perform (.release .lpiNode)
  lpiClksDrop
  lpiClksPut

/-! ## The votes for the rails -/

/-- Votes for a rail to be off, and remembers it if the vote was taken. -/
def disableRail (bank : Bank) : ServiceScript ℤ := do
  let current ← state service
  if current.on bank then
    let err ← invoke (.rpmhWrite (bank.addr + 4) 0)
    if err = 0 then
      perform (.setOn bank false)
      pure 0
    else pure err
  else pure 0

def disableRails : ServiceScript ℤ := do
  let bob ← disableRail .bob
  let ldo ← disableRail .ldo
  pure (if bob = 0 then ldo else bob)

def putBanks : ServiceScript Unit := do
  releaseIf (.bank .bob)
  perform (.forget (.bank .bob))
  releaseIf (.bank .ldo)
  perform (.forget (.bank .ldo))

/-- The votes behind the first one, which are taken back if one of them is refused. -/
def voteRails : ServiceScript Unit :=
  guarding (do let _ ← disableRails) do
    perform (.rpmhWrite 0x42208 7)
    perform (.rpmhWrite 0x42204 1)
    perform (.setOn .ldo true)
    perform (.rpmhWrite 0x40400 3300)
    perform (.rpmhWrite 0x40408 6)
    perform (.rpmhWrite 0x40404 1)
    perform (.setOn .bob true)

def tclAudioPowerHoldInit : ServiceScript Unit := do
  perform (.check (.dmi .powerHold))
  perform (.check (.cmdDb .ldo))
  perform (.check (.cmdDb .bob))
  lookUp (.bank .ldo)
  lookUp (.bank .bob)
  guarding putBanks do
    let current ← state service
    if current.statics (.bank .ldo) && current.statics (.bank .bob) then
      perform (.check (.usable .ldo))
      perform (.check (.usable .bob))
      -- 1.8 V in the high power mode, and 3.3 V in the automatic mode.
      perform (.rpmhWrite 0x42200 1800)
      voteRails
    else abort ENODEV.ret

def tclAudioPowerHoldExit : ServiceScript Unit := do
  let _ ← disableRails
  putBanks

/-! ## The reset line -/

def restoreGpio58 : ServiceScript Unit := do
  let current ← state service
  if current.active then
    perform (.writel 0 4)
    perform (.readl 4)
    perform (.writel 1 0)
    perform (.readl 0)
    perform (.setActive false)
  else pure ()

def tclCodecResetHoldInit : ServiceScript Unit := do
  perform (.check (.dmi .resetHold))
  perform (.acquire .gpio58)
  let present ← invoke (.readl 0x10)
  let cfg ← invoke (.readl 0)
  let io ← invoke (.readl 4)
  if present % 2 = 0 ∨ cfg ≠ 1 ∨ io ≠ 0 then
    perform (.release .gpio58)
    perform (.forget .gpio58)
    abort EBUSY.ret
  else
    perform (.writel 0 4)
    perform (.writel 0x200 0)
    perform (.readl 0)
    perform (.setActive true)
    perform (.writel 2 4)
    perform (.readl 4)

def tclCodecResetHoldExit : ServiceScript Unit := do
  restoreGpio58
  releaseIf .gpio58

/-! ## The codec -/

def tclAcpiWcdPutLookupNodes : ServiceScript Unit := do
  inOrder ([.node .tx, .node .rx, .node .txMaster, .node .rxMaster, .node .q6afe, .node .apr,
    .node .glink].map releaseIf)
  inOrder ([.node .rx, .node .tx, .node .rxMaster, .node .txMaster, .node .q6afe, .node .apr,
    .node .glink].map fun slot ↦ perform (.forget slot))

/-- Looks up a node below another one if that one was found. -/
def findBelow (parent node : WcdNode) : ServiceScript Unit := do
  let current ← state service
  if current.statics (.node parent) then lookUp (.node node) else pure ()

def tclAcpiWcdInit : ServiceScript Unit := do
  lookUp (.node .glink)
  findBelow .glink .apr
  findBelow .apr .q6afe
  findBelow .q6afe .rxMaster
  findBelow .q6afe .txMaster
  findBelow .rxMaster .rx
  findBelow .txMaster .tx
  guarding tclAcpiWcdPutLookupNodes do
    let current ← state service
    if current.statics (.node .rx) && current.statics (.node .tx) then perform (.acquire .codec)
    else abort ENODEV.ret
  tclAcpiWcdPutLookupNodes

def tclAcpiWcdExit : ServiceScript Unit := releaseIf .codec

/-! ## The card -/

def tclCardInit : ServiceScript Unit := do
  perform (.acquire .gpiodTable)
  guarding (perform (.release .gpiodTable)) do
    perform (.acquire .q6admDevice)
    let route ← attempt (perform (.acquire .routeDevice))
    perform (.release .q6admDevice)
    match route with
    | .error error => abort error
    | .ok _ =>
      guarding (perform (.release .routeDevice)) do
        perform (.acquire .cardDriver)
        guarding (perform (.release .cardDriver)) do
          perform (.acquire .cardDevice)

def tclCardExit : ServiceScript Unit := do
  perform (.release .cardDevice)
  perform (.release .cardDriver)
  perform (.release .routeDevice)
  perform (.release .gpiodTable)

/-! ## Rails and reset -/

/-- The voltage in millivolts that is asked for. -/
def Bank.voltage : Bank → ℕ
  | .ldo => 1800
  | .bob => 3300

def Bank.mode : Bank → ℕ
  | .ldo => 7
  | .bob => 6

/-- Both rails are voted on, at their voltages and in their modes. -/
def RailsOn (board : Board) : Prop :=
  ∀ bank : Bank, board.votes bank.addr = some bank.voltage ∧ board.votes (bank.addr + 8) = some bank.mode ∧
    board.votes (bank.addr + 4) = some 1

/-- No rail is known to be voted on. -/
def Dark (board : Board) : Prop := ∀ bank : Bank, board.votes (bank.addr + 4) ≠ some 1

/-- The line is an output and high, so that the codec is not in reset. -/
def Released (board : Board) : Prop := board.registers 0 = some 0x200 ∧ board.registers 4 = some 2

instance (board : Board) : Decidable (RailsOn board) := inferInstanceAs (Decidable (∀ _ : Bank, _))

instance (board : Board) : Decidable (Released board) := inferInstanceAs (Decidable (_ ∧ _))

/-- The codec is out of reset only while it has power. -/
def Safe (board : Board) : Prop := Released board → RailsOn board

/-- What a script does to the state, if the board is safe all the way. -/
abbrev ServiceScript.Does {α : Type} (script : ServiceScript α) (before : State → Prop) (after : α → State → Prop)
    (failing : State → Prop) : Prop :=
  script.Takes service (fun state ↦ Safe state.toBoard) before after failing

/-! ## What a module owes on the way -/

/-- A module owes what it has a set variable for, among the slots in `owed`; the variables in `sure` are
set.  All else that modules hold is as it was in `base`, and the board is safe and has a property. -/
structure Point (base : State) (module_ : BoardModule) (owed sure : Finset Slot) (other : Board → Prop)
    (state : State) : Prop where
  refs : ∀ slot, state.refs slot = base.refs slot + if slot ∈ owed ∧ state.statics slot = true then 1 else 0
  others : ∀ slot, slot.owner ≠ module_ → state.statics slot = base.statics slot
  sure : ∀ slot ∈ sure, state.statics slot = true
  safe : Safe state.toBoard
  board : other state.toBoard

/-- A module owes nothing. -/
abbrev Clean (base : State) (module_ : BoardModule) (other : Board → Prop) : State → Prop :=
  Point base module_ ∅ ∅ other

/-- A module owes what it keeps, and has the variables for it set. -/
abbrev Equipped (base : State) (module_ : BoardModule) (other : Board → Prop) : State → Prop :=
  Point base module_ module_.keeps module_.keeps other

namespace Point

variable {base state : State} {module_ : BoardModule} {owed sure owed' sure' : Finset Slot}
  {other next : Board → Prop} {slot : Slot} (h : Point base module_ owed sure other state)
include h

theorem imp (howed : owed = owed') (hsure : sure' ⊆ sure) :
    Point base module_ owed' sure' other state := by
  subst howed
  exact ⟨h.refs, h.others, fun slot hslot ↦ h.sure slot (hsure hslot), h.safe, h.board⟩

theorem map (hnext : other state.toBoard → next state.toBoard) :
    Point base module_ owed sure next state :=
  ⟨h.refs, h.others, h.sure, h.safe, hnext h.board⟩

theorem loosen : Point base module_ owed ∅ other state :=
  h.imp rfl (Finset.empty_subset _)

/-- The variable for one slot and the number of references to it change. -/
theorem change (howner : slot.owner = module_) {value : Bool}
    {count : ℤ} (hcount : count = base.refs slot + if slot ∈ owed' ∧ value = true then 1 else 0)
    (howed : ∀ later, later ≠ slot → (later ∈ owed' ↔ later ∈ owed))
    (hsure : ∀ later ∈ sure', if later = slot then value = true else later ∈ sure) :
    Point base module_ owed' sure' other
      { state with
        statics := Function.update state.statics slot value
        refs := Function.update state.refs slot count } := by
  refine ⟨fun later ↦ ?_, fun later hlater ↦ ?_, fun later hlater ↦ ?_, h.safe, h.board⟩
  · by_cases heq : later = slot
    · subst heq
      simpa using hcount
    · simpa [heq, howed later heq] using h.refs later
  · have hne : later ≠ slot := fun heq ↦ hlater (heq ▸ howner)
    exact (Function.update_of_ne hne _ _).trans (h.others later hlater)
  · have hset := hsure later hlater
    split_ifs at hset with heq
    · simpa [heq] using hset
    · exact (Function.update_of_ne heq _ _).trans (h.sure later hset)

theorem acquired (hslot : slot ∉ owed) (howner : slot.owner = module_) {answer : ℤ}
    (hfailed : slot.verdict.failed answer = false) :
    Point base module_ (insert slot owed) (insert slot sure) other
      (Call.effect (.acquire slot) answer state) := by
  rw [Call.effect, if_neg (ne_true_of_eq_false hfailed)]
  refine h.change howner ?_ (fun later hlater ↦ by simp [hlater]) fun later hlater ↦ ?_
  · rw [h.refs slot]
    simp [hslot]
  · split_ifs with heq
    · rfl
    · exact (Finset.mem_insert.1 hlater).resolve_left heq

theorem forgotten (hslot : slot ∉ owed) (howner : slot.owner = module_) :
    Point base module_ owed (sure.erase slot) other
      { state with statics := Function.update state.statics slot false } := by
  have hsame : Function.update state.refs slot (state.refs slot) = state.refs := Function.update_eq_self ..
  rw [← hsame]
  refine h.change howner ?_ (fun _ _ ↦ Iff.rfl) fun later hlater ↦ ?_
  · rw [h.refs slot]
    simp [hslot]
  · obtain ⟨hne, hlater⟩ := Finset.mem_erase.1 hlater
    rwa [if_neg hne]

theorem released (hslot : slot ∈ owed) (hset : state.statics slot = true) :
    Point base module_ (owed.erase slot) sure other
      { state with refs := Function.update state.refs slot (state.refs slot - 1) } := by
  refine ⟨fun later ↦ ?_, h.others, h.sure, h.safe, h.board⟩
  have hlater := h.refs later
  by_cases heq : later = slot
  · subst heq
    simp [hlater, hslot, hset]
  · simpa [heq] using hlater

/-- It makes no difference if a slot is owed whose variable is not set. -/
theorem unset (hset : state.statics slot = false)
    (howed : ∀ later, later ≠ slot → (later ∈ owed' ↔ later ∈ owed)) :
    Point base module_ owed' sure other state := by
  refine ⟨fun later ↦ ?_, h.others, h.sure, h.safe, h.board⟩
  rw [h.refs later]
  by_cases heq : later = slot
  · simp [heq, hset]
  · simp [howed later heq]

theorem failed (hslot : slot ∉ owed) (howner : slot.owner = module_) {answer : ℤ}
    (hfailed : slot.verdict.failed answer = true) :
    Point base module_ owed (sure.erase slot) other (Call.effect (.acquire slot) answer state) ∧
      (Call.effect (.acquire slot) answer state).statics slot = false := by
  rw [Call.effect, if_pos hfailed]
  exact ⟨h.forgotten hslot howner, Function.update_self ..⟩

theorem searched (hslot : slot ∉ owed) (howner : slot.owner = module_) (answer : ℤ) :
    Point base module_ (insert slot owed) (sure.erase slot) other (Call.effect (.acquire slot) answer state) := by
  cases hfailed : slot.verdict.failed answer with
  | false =>
    refine (h.acquired hslot howner hfailed).imp rfl ?_
    exact (Finset.erase_subset _ _).trans (Finset.subset_insert _ _)
  | true =>
    obtain ⟨hpoint, hset⟩ := h.failed hslot howner hfailed
    exact hpoint.unset hset fun later hlater ↦ by simp [hlater]

end Point

/-! ## Rules -/

/-- A call that changes nothing. -/
theorem does_quiet {fact failing : State → Prop} {call : Call}
    (hquiet : ∀ answer state, call.effect answer state = state) (hsafe : ∀ state, fact state → Safe state.toBoard)
    (hfailing : ∀ state, fact state → failing state) : (perform call).Does fact (fun _ ↦ fact) failing := by
  apply takes_perform
  · intro answer state h
    change Safe (call.effect answer state).toBoard
    rw [hquiet]
    exact hsafe state h
  · intro answer state h _
    change fact (call.effect answer state)
    rwa [hquiet]
  · intro answer state h _
    change failing (call.effect answer state)
    rw [hquiet]
    exact hfailing state h

section

variable {base : State} {module_ : BoardModule} {owed sure owed' sure' : Finset Slot} {other : Board → Prop}
  {slot : Slot} {before failing : State → Prop}

theorem does_imp {script : ServiceScript Unit}
    (h : script.Does before (fun _ ↦ Point base module_ owed sure other) failing) (howed : owed = owed')
    (hsure : sure' ⊆ sure) : script.Does before (fun _ ↦ Point base module_ owed' sure' other) failing :=
  takes_after h fun _ _ hafter ↦ hafter.imp howed hsure

theorem does_check (check : Check)
    (hfailing : ∀ state, Point base module_ owed sure other state → failing state) :
    (perform (.check check)).Does (Point base module_ owed sure other)
      (fun _ ↦ Point base module_ owed sure other)
      failing :=
  does_quiet (fun _ _ ↦ rfl) (fun _ h ↦ h.safe) hfailing

/-- What could not be acquired is not owed, and its variable is not set. -/
theorem does_acquire (hslot : slot ∉ owed) (howner : slot.owner = module_)
    (hfailing : ∀ state, Point base module_ owed (sure.erase slot) other state → state.statics slot = false →
      failing state) :
    (perform (.acquire slot)).Does (Point base module_ owed sure other)
      (fun _ ↦ Point base module_ (insert slot owed) (insert slot sure) other) failing := by
  apply takes_perform
  · intro answer state h
    exact (h.searched hslot howner answer).safe
  · intro answer state h hfailed
    exact h.acquired hslot howner hfailed
  · intro answer state h hfailed
    obtain ⟨hpoint, hset⟩ := h.failed hslot howner hfailed
    exact hfailing _ hpoint hset

theorem does_search (hslot : slot ∉ owed) (howner : slot.owner = module_) :
    (lookUp slot).Does (Point base module_ owed sure other)
      (fun _ ↦ Point base module_ (insert slot owed) (sure.erase slot) other) failing := by
  refine takes_bind (takes_invoke ?_ ?_) fun _ ↦ takes_pure fun _ h ↦ h
  · intro answer state h
    exact (h.searched hslot howner answer).safe
  · intro answer state h
    exact h.searched hslot howner answer

theorem does_release (hslot : slot ∈ owed) (hsure : slot ∈ sure) :
    (perform (.release slot)).Does (Point base module_ owed sure other)
      (fun _ ↦ Point base module_ (owed.erase slot) sure other) failing := by
  apply takes_perform
  · intro answer state h
    exact h.safe
  · intro answer state h _
    exact h.released hslot (h.sure slot hsure)
  · intro answer state _ hfailed
    exact absurd hfailed Bool.false_ne_true

theorem does_forget (hslot : slot ∉ owed) (howner : slot.owner = module_) :
    (perform (.forget slot)).Does (Point base module_ owed sure other)
      (fun _ ↦ Point base module_ owed (sure.erase slot) other) failing := by
  apply takes_perform
  · intro answer state h
    exact h.safe
  · intro answer state h _
    exact h.forgotten hslot howner
  · intro answer state _ hfailed
    exact absurd hfailed Bool.false_ne_true

theorem does_releaseIf (hslot : slot ∈ owed) :
    (releaseIf slot).Does (Point base module_ owed sure other)
      (fun _ ↦ Point base module_ (owed.erase slot) sure other) failing := by
  refine takes_state fun current ↦ ?_
  split_ifs with hset
  · apply takes_perform
    · rintro answer state ⟨h, -⟩
      exact h.safe
    · rintro answer state ⟨h, rfl⟩ _
      exact h.released hslot hset
    · intro answer state _ hfailed
      exact absurd hfailed Bool.false_ne_true
  · refine takes_pure ?_
    rintro state ⟨h, rfl⟩
    exact h.unset (Bool.eq_false_of_not_eq_true hset) fun later hlater ↦ by simp [hlater]

/-! ### The pins -/

theorem does_lpiClksDrop (haudio : .lookup .audio ∈ owed) (hcore : .lookup .core ∈ owed) :
    lpiClksDrop.Does (Point base .lpiProvider owed sure other)
      (fun _ ↦ Point base .lpiProvider ((owed.erase (.lookup .audio)).erase (.lookup .core))
        ((sure.erase (.lookup .audio)).erase (.lookup .core)) other) failing := by
  unfold lpiClksDrop
  refine takes_bind (does_releaseIf haudio) fun _ ↦ ?_
  refine takes_bind (does_releaseIf (by simpa using hcore)) fun _ ↦ ?_
  refine takes_bind (does_forget (by simp) rfl) fun _ ↦ ?_
  exact does_forget (by simp) rfl

theorem does_lpiClksPut (haudio : .clk .audio ∈ owed) (hcore : .clk .core ∈ owed) :
    lpiClksPut.Does (Point base .lpiProvider owed sure other)
      (fun _ ↦ Point base .lpiProvider ((owed.erase (.clk .audio)).erase (.clk .core))
        ((sure.erase (.clk .audio)).erase (.clk .core)) other) failing := by
  unfold lpiClksPut
  refine takes_bind (does_releaseIf haudio) fun _ ↦ ?_
  refine takes_bind (does_releaseIf (by simpa using hcore)) fun _ ↦ ?_
  refine takes_bind (does_forget (by simp) rfl) fun _ ↦ ?_
  exact does_forget (by simp) rfl

theorem does_lpiDevices :
    ServiceScript.Does
      (guarding lpiClksDrop do
        perform (.acquire (.lookup .audio))
        perform (.acquire .lpiNode)
        guarding (perform (.release .lpiNode)) do
          perform (.acquire .lpiDevice))
      (Point base .lpiProvider {.lookup .core, .clk .audio, .clk .core} {.lookup .core, .clk .audio, .clk .core}
        other)
      (fun _ ↦ Equipped base .lpiProvider other) (Point base .lpiProvider {.clk .audio, .clk .core} ∅ other) := by
  have hdrop : lpiClksDrop.Does
      (Point base .lpiProvider {.lookup .audio, .lookup .core, .clk .audio, .clk .core} ∅ other)
      (fun _ ↦ Point base .lpiProvider {.clk .audio, .clk .core} ∅ other)
      (Point base .lpiProvider {.clk .audio, .clk .core} ∅ other) :=
    does_imp (does_lpiClksDrop (by decide) (by decide)) (by decide) (Finset.empty_subset _)
  refine takes_guarding ?_ hdrop
  refine takes_bind (does_acquire (by decide) rfl fun _ h hset ↦ ?_) fun _ ↦ ?_
  · exact h.loosen.unset hset fun later hlater ↦ by simp [hlater]
  refine takes_bind (does_acquire (by decide) rfl fun _ h _ ↦ h.loosen) fun _ ↦ ?_
  refine takes_guarding (does_acquire (by decide) rfl fun _ h _ ↦ h) ?_
  exact does_imp (does_release (by decide) (by decide)) (by decide) (Finset.empty_subset _)

theorem does_tclLpiProviderInit :
    tclLpiProviderInit.Does (Clean base .lpiProvider other) (fun _ ↦ Equipped base .lpiProvider other)
      (Clean base .lpiProvider other) := by
  have hput : lpiClksPut.Does (Point base .lpiProvider {.clk .audio, .clk .core} ∅ other)
      (fun _ ↦ Clean base .lpiProvider other) (Clean base .lpiProvider other) :=
    does_imp (does_lpiClksPut (by decide) (by decide)) (by decide) (Finset.empty_subset _)
  unfold tclLpiProviderInit
  refine takes_bind (does_check _ fun _ h ↦ h) fun _ ↦ ?_
  refine takes_bind (does_acquire (by decide) rfl fun _ h _ ↦ h) fun _ ↦ ?_
  refine takes_bind (takes_guarding (does_acquire (by decide) rfl fun _ h _ ↦ h) ?_) fun _ ↦ ?_
  · refine takes_bind (does_release (by decide) (by decide)) fun _ ↦ ?_
    exact does_imp (does_forget (by decide) rfl) (by decide) (Finset.empty_subset _)
  refine takes_guarding ?_ hput
  exact takes_bind (does_acquire (by decide) rfl fun _ h _ ↦ h.loosen) fun _ ↦ does_lpiDevices

theorem does_tclLpiProviderExit :
    tclLpiProviderExit.Does (Equipped base .lpiProvider other)
      (fun _ ↦ Clean base .lpiProvider other) failing := by
  unfold tclLpiProviderExit
  refine takes_bind (does_release (by decide) (by decide)) fun _ ↦ ?_
  refine takes_bind (does_release (by decide) (by decide)) fun _ ↦ ?_
  refine takes_bind (does_lpiClksDrop (by decide) (by decide)) fun _ ↦ ?_
  exact does_imp (does_lpiClksPut (by decide) (by decide)) (by decide) (Finset.empty_subset _)

/-! ### The card -/

theorem does_tclCardInit :
    tclCardInit.Does (Clean base .card other) (fun _ ↦ Equipped base .card other) (Clean base .card other) := by
  have htable : (perform (.release .gpiodTable)).Does (Point base .card {.gpiodTable} {.gpiodTable} other)
      (fun _ ↦ Clean base .card other) (Clean base .card other) :=
    does_imp (does_release (by decide) (by decide)) (by decide) (Finset.empty_subset _)
  have hroute : (perform (.release .routeDevice)).Does
      (Point base .card {.routeDevice, .gpiodTable} {.routeDevice, .gpiodTable} other)
      (fun _ ↦ Point base .card {.gpiodTable} {.gpiodTable} other)
      (Point base .card {.gpiodTable} {.gpiodTable} other) :=
    does_imp (does_release (by decide) (by decide)) (by decide) (by decide)
  have hq6adm : (perform (.release .q6admDevice)).Does
      (Point base .card {.routeDevice, .q6admDevice, .gpiodTable} {.routeDevice, .q6admDevice, .gpiodTable} other)
      (fun _ ↦ Point base .card {.routeDevice, .gpiodTable} {.routeDevice, .gpiodTable} other)
      (Point base .card {.gpiodTable} {.gpiodTable} other) :=
    does_imp (does_release (by decide) (by decide)) (by decide) (by decide)
  unfold tclCardInit
  refine takes_bind (does_acquire (by decide) rfl fun _ h _ ↦ h) fun _ ↦ takes_guarding ?_ htable
  refine takes_bind (does_acquire (by decide) rfl fun _ h _ ↦ h) fun _ ↦ ?_
  refine takes_attempt (does_acquire (by decide) rfl fun _ h _ ↦ h) (fun _ ↦ ?_) fun error ↦ ?_
  · refine takes_bind hq6adm fun _ ↦ takes_guarding ?_ hroute
    refine takes_bind (does_acquire (by decide) rfl fun _ h _ ↦ h) fun _ ↦ ?_
    refine takes_guarding (does_acquire (by decide) rfl fun _ h _ ↦ h) ?_
    exact does_imp (does_release (by decide) (by decide)) (by decide) (by decide)
  · refine takes_bind (does_release (by decide) (by decide)) fun _ ↦ ?_
    exact takes_abort fun _ h ↦ h.imp (by decide) (by decide)

theorem does_tclCardExit :
    tclCardExit.Does (Equipped base .card other) (fun _ ↦ Clean base .card other) failing := by
  unfold tclCardExit
  refine takes_bind (does_release (by decide) (by decide)) fun _ ↦ ?_
  refine takes_bind (does_release (by decide) (by decide)) fun _ ↦ ?_
  refine takes_bind (does_release (by decide) (by decide)) fun _ ↦ ?_
  exact does_imp (does_release (by decide) (by decide)) (by decide) (Finset.empty_subset _)

/-! ### The codec -/

theorem does_releaseAll {slots : List Slot} (hslots : slots.Nodup) (howed : ∀ slot ∈ slots, slot ∈ owed) :
    ServiceScript.Does (inOrder (slots.map releaseIf)) (Point base module_ owed sure other)
      (fun _ ↦ Point base module_ (slots.foldl Finset.erase owed) sure other) failing := by
  induction slots generalizing owed with
  | nil => exact takes_pure fun _ h ↦ h
  | cons slot slots ih =>
    obtain ⟨hslot, hslots⟩ := List.nodup_cons.1 hslots
    obtain ⟨howed, hrest⟩ := List.forall_mem_cons.1 howed
    refine takes_bind (does_releaseIf howed) fun _ ↦ ih hslots fun later hlater ↦ ?_
    exact Finset.mem_erase.2 ⟨fun heq ↦ hslot (heq ▸ hlater), hrest later hlater⟩

theorem does_forgetAll {slots : List Slot} (howed : ∀ slot ∈ slots, slot ∉ owed)
    (howner : ∀ slot ∈ slots, slot.owner = module_) :
    ServiceScript.Does (inOrder (slots.map fun slot ↦ perform (.forget slot)))
      (Point base module_ owed sure other)
      (fun _ ↦ Point base module_ owed (slots.foldl Finset.erase sure) other) failing := by
  induction slots generalizing sure with
  | nil => exact takes_pure fun _ h ↦ h
  | cons slot slots ih =>
    obtain ⟨howed, hrest⟩ := List.forall_mem_cons.1 howed
    obtain ⟨hslot, howner⟩ := List.forall_mem_cons.1 howner
    exact takes_bind (does_forget howed hslot) fun _ ↦ ih hrest howner

/-- The nodes that are looked up. -/
def lookupNodes : Finset Slot :=
  {.node .tx, .node .rx, .node .txMaster, .node .rxMaster, .node .q6afe, .node .apr, .node .glink}

theorem does_tclAcpiWcdPutLookupNodes (howed : lookupNodes ⊆ owed) :
    tclAcpiWcdPutLookupNodes.Does (Point base .wcd owed sure other)
      (fun _ ↦ Point base .wcd (owed \ lookupNodes) (sure \ lookupNodes) other) failing := by
  unfold tclAcpiWcdPutLookupNodes
  refine takes_bind (does_releaseAll (by decide) fun slot hslot ↦ howed ?_) fun _ ↦ ?_
  · revert slot
    decide
  refine does_imp (does_forgetAll ?_ (by decide)) ?_ ?_
  · simp
  · ext slot
    simp [lookupNodes]
    tauto
  · intro slot
    simp [lookupNodes]
    tauto

/-- The nodes that have been looked up may be owed, and the others have no variable set. -/
structure Searched (base : State) (other : Board → Prop) (looked : Finset Slot) (state : State) : Prop where
  point : Point base .wcd looked ∅ other state
  clear : ∀ slot ∈ lookupNodes, slot ∉ looked → state.statics slot = false

theorem does_lookUp {looked : Finset Slot} {node : WcdNode} (hnode : .node node ∉ looked) :
    (lookUp (.node node)).Does (Searched base other looked)
      (fun _ ↦ Searched base other (insert (.node node) looked)) failing := by
  refine takes_bind (takes_invoke ?_ fun answer state h ↦ ?_) fun _ ↦ takes_pure fun _ h ↦ h
  · intro answer state h
    exact (h.point.searched hnode rfl answer).safe
  · refine ⟨h.point.searched hnode rfl answer, fun slot hslot hlooked ↦ ?_⟩
    obtain ⟨hne, hlooked⟩ := not_or.1 (mt Finset.mem_insert.2 hlooked)
    have hsame : (Call.effect (.acquire (.node node)) answer state).statics slot = state.statics slot := by
      rw [Call.effect]
      split_ifs <;> exact Function.update_of_ne hne _ _
    exact hsame.trans (h.clear slot hslot hlooked)

theorem does_findBelow {looked : Finset Slot} {parent node : WcdNode} (hnode : .node node ∉ looked) :
    (findBelow parent node).Does (Searched base other looked)
      (fun _ ↦ Searched base other (insert (.node node) looked)) failing := by
  refine takes_state fun current ↦ ?_
  split_ifs
  · exact takes_before (does_lookUp hnode) fun _ h ↦ h.1
  · refine takes_pure ?_
    rintro state ⟨h, -⟩
    have hclear : state.statics (.node node) = false := h.clear _ (by cases node <;> decide) hnode
    refine ⟨h.point.unset hclear fun later hlater ↦ by simp [hlater], fun slot hslot hlooked ↦ ?_⟩
    exact h.clear slot hslot (mt Finset.mem_insert_of_mem hlooked)

theorem does_tclAcpiWcdInit :
    tclAcpiWcdInit.Does (Searched base other ∅) (fun _ ↦ Equipped base .wcd other) (Clean base .wcd other) := by
  have hnone : tclAcpiWcdPutLookupNodes.Does (Point base .wcd lookupNodes ∅ other)
      (fun _ ↦ Clean base .wcd other) (Clean base .wcd other) :=
    does_imp (does_tclAcpiWcdPutLookupNodes (Finset.Subset.refl _)) (by decide) (Finset.empty_subset _)
  have hput : tclAcpiWcdPutLookupNodes.Does (Point base .wcd (insert .codec lookupNodes) {.codec} other)
      (fun _ ↦ Equipped base .wcd other) (Clean base .wcd other) :=
    does_imp (does_tclAcpiWcdPutLookupNodes (by decide)) (by decide) (by decide)
  have hcodec : (perform (.acquire .codec)).Does (Point base .wcd lookupNodes ∅ other)
      (fun _ ↦ Point base .wcd (insert .codec lookupNodes) {.codec} other)
      (Point base .wcd lookupNodes ∅ other) :=
    does_acquire (by decide) rfl fun _ h _ ↦ h
  unfold tclAcpiWcdInit
  refine takes_bind (does_lookUp (by decide)) fun _ ↦ takes_bind (does_findBelow (by decide)) fun _ ↦ ?_
  refine takes_bind (does_findBelow (by decide)) fun _ ↦ takes_bind (does_findBelow (by decide)) fun _ ↦ ?_
  refine takes_bind (does_findBelow (by decide)) fun _ ↦ takes_bind (does_findBelow (by decide)) fun _ ↦ ?_
  refine takes_bind (does_findBelow (by decide)) fun _ ↦ takes_bind (takes_guarding ?_ hnone) fun _ ↦ hput
  refine takes_state fun current ↦ ?_
  split_ifs
  · exact takes_before hcodec fun _ h ↦ h.1.point
  · exact takes_abort fun _ h ↦ h.1.point

theorem does_tclAcpiWcdExit :
    tclAcpiWcdExit.Does (Equipped base .wcd other) (fun _ ↦ Clean base .wcd other) failing :=
  does_imp (does_releaseIf (by decide)) (by decide) (Finset.empty_subset _)

end

end TclB220G.Audio.Service
