import Mathlib.Data.Fintype.Basic
import TclB220G.Lib.Lifetime

/-!
# The interrupt domain of the codec

The aggregate codec creates an interrupt domain, a mapping in it and a regmap chip on that mapping when it
is bound, and publishes the domain to its two SoundWire slaves.  SoundWire runs the interrupt callback of a
slave with the lock of that slave held, and the callback dispatches through the published domain.

Binding, failing to bind and unbinding are one program here, and each of its steps may fail where the
source checks for it.  A history is any sequence of its steps and of the parts of callbacks.  The pointers
hold the names of domains, which are numbered in the order of their creation.  A mapping has the name of
its domain, and a chip that of its mapping.
-/

namespace TclB220G.Audio

open Lib

inductive Slave where
  | rx | tx
  deriving DecidableEq, Repr

instance : Fintype Slave where
  elems := {.rx, .tx}
  complete slave := by cases slave <;> simp

inductive Kind where
  | domain | mapping | chip
  deriving DecidableEq, Repr

instance : Fintype Kind where
  elems := {.domain, .mapping, .chip}
  complete kind := by cases kind <;> simp

structure Resource where
  kind : Kind
  id : ℕ
  deriving DecidableEq, Repr

/-- A chip rests on its mapping, and a mapping on its domain. -/
def Kind.restsOn : Kind → Kind → Bool
  | .chip, .mapping | .mapping, .domain => true
  | _, _ => false

def RestsOn (upper lower : Resource) : Prop :=
  upper.id = lower.id ∧ upper.kind.restsOn lower.kind = true

/-- What is released by itself when the codec is unbound or could not be bound. -/
inductive Managed where
  | chip (id : ℕ)
  | domainRemove
  deriving DecidableEq, Repr

/-- The fields of the aggregate and its slaves.  `irq` is a field in one series of patches and a local
variable in the other, and zero is `none`.  `devm` is the list of managed resources, the last one first.
`callback` is the pointer that a running callback has found at its slave, and `locked` says that the
aggregate itself holds the lock of a slave.  The last two fields record what has happened: the lives of
the resources, and whether a null pointer was followed. -/
structure Codec (Pc : Type) where
  pc : Pc
  virq : Option ℕ
  irq : Option ℕ
  irqChip : Option ℕ
  slaveIrq : Slave → Option ℕ
  devm : List Managed
  domains : ℕ
  callback : Slave → Option (Option ℕ)
  locked : Slave → Bool
  log : List (LifeEvent Resource)
  fault : Bool

namespace Codec

variable {Pc : Type}

def initial (pc : Pc) : Codec Pc :=
  ⟨pc, none, none, none, fun _ ↦ none, [], 0, fun _ ↦ none, fun _ ↦ false, [], false⟩

/-- What has become of a resource. -/
def stage (codec : Codec Pc) (kind : Kind) (id : ℕ) : LifeStage := lifeStage codec.log ⟨kind, id⟩

/-! ## Callbacks -/

/-- SoundWire takes the lock of a slave and calls its callback. -/
def enter (slave : Slave) (codec : Codec Pc) : Codec Pc :=
  if codec.callback slave = none ∧ codec.locked slave = false then
    { codec with callback := Function.update codec.callback slave (some (codec.slaveIrq slave)) }
  else codec

/-- A running callback dispatches.  One that checks its pointer does nothing without a domain. -/
def dispatch (checks : Bool) (slave : Slave) (codec : Codec Pc) : Codec Pc :=
  match codec.callback slave with
  | none => codec
  | some none => if checks then codec else { codec with fault := true }
  | some (some id) => { codec with log := .used ⟨.domain, id⟩ :: codec.log }

def leave (slave : Slave) (codec : Codec Pc) : Codec Pc :=
  { codec with callback := Function.update codec.callback slave none }

end Codec

/-- The next step of the aggregate, with whether its call succeeds, or a part of a callback. -/
inductive Action where
  | drive (ok : Bool)
  | enter (slave : Slave)
  | dispatch (slave : Slave)
  | leave (slave : Slave)
  deriving DecidableEq, Repr

/-! ## One stack of resources at a time -/

/-- What the log says when at most the resources named `top` are live: those of the kinds that `keeps`
tells, while those that `ahead` tells have not been there yet.  Later names are new. -/
structure Stacked (log : List (LifeEvent Resource)) (top : Option ℕ) (keeps ahead : Kind → Bool)
    (next : ℕ) : Prop where
  sound : SoundLives log
  nested : NestedLives RestsOn log
  live : ∀ kind id, lifeStage log ⟨kind, id⟩ = .live ↔ top = some id ∧ keeps kind = true
  absent : ∀ kind id, top = some id → ahead kind = true → lifeStage log ⟨kind, id⟩ = .absent
  fresh : ∀ kind id, next ≤ id → lifeStage log ⟨kind, id⟩ = .absent
  below : ∀ id, top = some id → id < next

namespace Stacked

variable {log : List (LifeEvent Resource)} {top : Option ℕ} {keeps ahead keeps' ahead' : Kind → Bool}
  {next id : ℕ} {kind : Kind}

theorem nil (ahead : Kind → Bool) : Stacked [] none (fun _ ↦ false) ahead 0 where
  sound := trivial
  nested := trivial
  live kind id := by simp [lifeStage]
  absent _ _ _ _ := rfl
  fresh _ _ _ := rfl
  below := by simp

/-- Without a live resource there need not be a name. -/
theorem forget (h : Stacked log top keeps ahead next) (hkeeps : ∀ kind, keeps kind = false) :
    Stacked log none keeps' ahead' next where
  sound := h.sound
  nested := h.nested
  live kind id := by simp [h.live, hkeeps]
  absent := by simp
  fresh := h.fresh
  below := by simp

theorem weaken (h : Stacked log top keeps ahead next) (hkeeps : ∀ kind, keeps' kind = keeps kind)
    (hahead : ∀ kind, ahead' kind = true → ahead kind = true) : Stacked log top keeps' ahead' next where
  sound := h.sound
  nested := h.nested
  live kind id := by rw [h.live, hkeeps]
  absent kind id htop hkind := h.absent kind id htop (hahead kind hkind)
  fresh := h.fresh
  below := h.below

theorem use (h : Stacked log (some id) keeps ahead next) (hkind : keeps kind = true) :
    Stacked (.used ⟨kind, id⟩ :: log) (some id) keeps ahead next where
  sound := h.sound.used ((h.live kind id).2 ⟨rfl, hkind⟩)
  nested := ⟨trivial, h.nested⟩
  live := h.live
  absent := h.absent
  fresh := h.fresh
  below := h.below

theorem createDomain (h : Stacked log none keeps ahead next) :
    Stacked (.created ⟨.domain, next⟩ :: log) (some next) (· = .domain) (· ≠ .domain) (next + 1) where
  sound := h.sound.created (h.fresh .domain next (Nat.le_refl next))
  nested := ⟨fun lower hrests ↦ absurd hrests.2 (by cases lower.kind <;> simp [Kind.restsOn]), h.nested⟩
  live kind id := by
    have hlive := h.live kind id
    rw [lifeStage_created]
    grind
  absent kind id htop hkind := by
    have hfresh := h.fresh kind id
    rw [lifeStage_created]
    grind
  fresh kind id hid := by
    have hfresh := h.fresh kind id (by omega)
    rw [lifeStage_created]
    grind
  below id htop := by
    rw [← Option.some.inj htop]
    exact Nat.lt_succ_self next

/-- A kind may come once the kinds below are there. -/
theorem create (h : Stacked log (some id) keeps ahead next) (hkind : ahead kind = true)
    (hlower : ∀ lower, kind.restsOn lower = true → keeps lower = true)
    (hkeeps : ∀ other, keeps' other = if other = kind then true else keeps other)
    (hahead : ∀ other, ahead' other = true → ahead other = true ∧ other ≠ kind) :
    Stacked (.created ⟨kind, id⟩ :: log) (some id) keeps' ahead' next where
  sound := h.sound.created (h.absent kind id rfl hkind)
  nested := by
    refine ⟨fun ⟨lower, name⟩ hrests ↦ ?_, h.nested⟩
    obtain rfl : id = name := hrests.1
    exact (h.live lower id).2 ⟨rfl, hlower lower hrests.2⟩
  live other name := by
    have hlive := h.live other name
    rw [lifeStage_created]
    grind
  absent other name htop hother := by
    have habsent := h.absent other name htop
    rw [lifeStage_created]
    grind
  fresh other name hname := by
    have hfresh := h.fresh other name hname
    have hbelow := h.below id rfl
    rw [lifeStage_created]
    grind
  below := h.below

/-- A kind may go once the kinds above are gone. -/
theorem release (h : Stacked log (some id) keeps ahead next) (hkind : keeps kind = true)
    (hupper : ∀ upper, upper.restsOn kind = true → keeps upper = false)
    (hkeeps : ∀ other, keeps' other = if other = kind then false else keeps other) :
    Stacked (.released ⟨kind, id⟩ :: log) (some id) keeps' ahead next where
  sound := h.sound.released ((h.live kind id).2 ⟨rfl, hkind⟩)
  nested := by
    refine ⟨fun ⟨upper, name⟩ hrests hlive ↦ ?_, h.nested⟩
    obtain rfl : name = id := hrests.1
    exact Bool.false_ne_true ((hupper upper hrests.2).symm.trans ((h.live upper name).1 hlive).2)
  live other name := by
    have hlive := h.live other name
    rw [lifeStage_released]
    grind
  absent other name htop hother := by
    have habsent := h.absent other name htop hother
    have hlive := h.live kind id
    rw [lifeStage_released]
    grind
  fresh other name hname := by
    have hfresh := h.fresh other name hname
    have hbelow := h.below id rfl
    rw [lifeStage_released]
    grind
  below := h.below

end Stacked

/-! ## The aggregate of the device tree series -/

variable {slave : Slave} {point : SetPoint} {task : SetTask}

namespace Locked

inductive SetTask where
  | publish | retract
  deriving DecidableEq, Repr

inductive SetPoint where
  | lock | assign | unlock
  deriving DecidableEq, Repr

/-- The steps of `wcd938x_bind`, `wcd938x_irq_init`, `wcd938x_irq_exit` and `wcd938x_unbind` in the order
of the source.  Everything of `wcd938x_bind` before the interrupts is one step. -/
inductive Pc where
  | unbound | prepare
  | createDomain | createMapping | addChip
  | set (task : SetTask) (slave : Slave) (point : SetPoint)
  | register | bound
  | exit | findMapping | deleteChip | disposeMapping | removeDomain | clearDomain
  | release
  deriving DecidableEq, Repr

/-- What comes after `wcd938x_set_slave_irq`. -/
def afterSet : SetTask → Slave → Pc
  | task, .rx => .set task .tx .lock
  | .publish, .tx => .register
  | .retract, .tx => .findMapping

/-- One step of `wcd938x_set_slave_irq`.  The lock is waited for while a callback runs. -/
def setSlaveIrq (task : SetTask) (slave : Slave) (codec : Codec Pc) : SetPoint → Codec Pc
  | .lock =>
    if codec.callback slave = none then
      { codec with pc := .set task slave .assign, locked := Function.update codec.locked slave true }
    else codec
  | .assign =>
    { codec with
      pc := .set task slave .unlock
      slaveIrq := Function.update codec.slaveIrq slave
        (if task = .publish then codec.virq else none) }
  | .unlock =>
    { codec with pc := afterSet task slave, locked := Function.update codec.locked slave false }

/-- One step of the aggregate. -/
def drive (ok : Bool) (codec : Codec Pc) : Codec Pc :=
  match codec.pc with
  | .unbound => { codec with pc := .prepare }
  | .prepare => { codec with pc := if ok then .createDomain else .release }
  | .createDomain =>
    if ok then
      { codec with
        pc := .createMapping
        virq := some codec.domains
        domains := codec.domains + 1
        log := .created ⟨.domain, codec.domains⟩ :: codec.log }
    else { codec with pc := .release, virq := none }
  | .createMapping =>
    match codec.virq, ok with
    | some id, true =>
      { codec with pc := .addChip, irq := some id, log := .created ⟨.mapping, id⟩ :: codec.log }
    | _, _ => { codec with pc := .removeDomain, irq := none }
  | .addChip =>
    match codec.irq, ok with
    | some id, true =>
      { codec with
        pc := .set .publish .rx .lock
        irq := none
        irqChip := some id
        devm := .chip id :: codec.devm
        log := .created ⟨.chip, id⟩ :: codec.log }
    | _, _ => { codec with pc := .disposeMapping }
  | .set task slave point => setSlaveIrq task slave codec point
  | .register => { codec with pc := if ok then .bound else .exit }
  | .bound => { codec with pc := .exit }
  | .exit => { codec with pc := if codec.virq = none then .release else .set .retract .rx .lock }
  | .findMapping =>
    match codec.virq with
    | some id =>
      { codec with
        pc := .deleteChip
        irq := if codec.stage .mapping id = .live then some id else none
        log := .used ⟨.domain, id⟩ :: codec.log }
    | none => { codec with pc := .deleteChip, irq := none, fault := true }
  | .deleteChip =>
    -- the chip is looked at before it is searched among the managed resources
    match codec.irqChip with
    | some id =>
      { codec with
        pc := .disposeMapping
        irqChip := none
        devm := codec.devm.erase (.chip id)
        log := (if .chip id ∈ codec.devm then [.released ⟨.chip, id⟩] else []) ++
          .used ⟨.chip, id⟩ :: codec.log }
    | none => { codec with pc := .disposeMapping, fault := true }
  | .disposeMapping =>
    match codec.irq with
    | some id =>
      { codec with
        pc := .removeDomain, irq := none, log := .released ⟨.mapping, id⟩ :: codec.log }
    | none => { codec with pc := .removeDomain }
  | .removeDomain =>
    match codec.virq with
    | some id => { codec with pc := .clearDomain, log := .released ⟨.domain, id⟩ :: codec.log }
    | none => { codec with pc := .clearDomain, fault := true }
  | .clearDomain => { codec with pc := .release, virq := none }
  | .release =>
    match codec.devm with
    | .chip id :: rest => { codec with devm := rest, log := .released ⟨.chip, id⟩ :: codec.log }
    | .domainRemove :: rest => { codec with devm := rest }
    | [] => { codec with pc := .unbound }

def step (codec : Codec Pc) : Action → Codec Pc
  | .drive ok => drive ok codec
  | .enter slave => codec.enter slave
  | .dispatch slave => codec.dispatch true slave
  | .leave slave => codec.leave slave

def run (history : List Action) : Codec Pc := history.foldl step (.initial .unbound)

/-! ### What holds at each step -/

/-- The kinds that are live at a step. -/
def Pc.keeps : Pc → Kind → Bool
  | .createMapping, kind | .removeDomain, kind => kind = .domain
  | .addChip, kind | .disposeMapping, kind => kind ≠ .chip
  | .set .., _ | .register, _ | .bound, _ | .exit, _ | .findMapping, _ | .deleteChip, _ => true
  | _, _ => false

/-- The kinds that are still to come. -/
def Pc.ahead : Pc → Kind → Bool
  | .createMapping, kind => kind ≠ .domain
  | .addChip, kind => kind = .chip
  | _, _ => false

/-- Whether the pointer of the aggregate is set. -/
def Pc.named (pc : Pc) : Bool := pc.keeps .domain || pc = .clearDomain

/-- Whether the aggregate knows its mapping. -/
def Pc.mapped : Pc → Bool
  | .addChip | .deleteChip | .disposeMapping => true
  | _ => false

/-- Whether a slave may have the domain. -/
def Pc.publishes : Pc → Slave → Bool
  | .set .publish .rx .unlock, slave => slave = .rx
  | .set .publish .tx .unlock, _ => true
  | .set .publish .tx _, slave => slave = .rx
  | .set .retract .rx .unlock, slave => slave = .tx
  | .set .retract .rx _, _ => true
  | .set .retract .tx .unlock, _ => false
  | .set .retract .tx _, slave => slave = .tx
  | .register, _ | .bound, _ | .exit, _ => true
  | _, _ => false

/-- Whether the aggregate holds the lock of a slave. -/
def Pc.locks : Pc → Slave → Bool
  | .set _ target .assign, slave | .set _ target .unlock, slave => slave = target
  | _, _ => false

/-- The pointers of the aggregate. -/
structure Wired (codec : Codec Pc) : Prop where
  fault : codec.fault = false
  virq : codec.virq.isSome = codec.pc.named
  irq : codec.pc.mapped = true → codec.irq = codec.virq
  irqChip : codec.pc.keeps .chip = true → codec.irqChip = codec.virq
  devm : codec.devm = if codec.pc.keeps .chip then codec.virq.toList.map .chip else []

/-- The pointers of the slaves.  Neither a running callback nor the aggregate with a lock is disturbed. -/
structure Guarded (codec : Codec Pc) : Prop where
  slaves : ∀ slave id, codec.slaveIrq slave = some id →
    codec.virq = some id ∧ codec.pc.publishes slave = true
  locked : ∀ slave, codec.locked slave = codec.pc.locks slave
  callback : ∀ slave pointer, codec.callback slave = some pointer →
    codec.slaveIrq slave = pointer ∧ codec.locked slave = false

structure Intact (codec : Codec Pc) : Prop where
  wired : Wired codec
  guarded : Guarded codec
  lives : Stacked codec.log codec.virq codec.pc.keeps codec.pc.ahead codec.domains

variable {codec next : Codec Pc}

theorem Wired.name (h : Wired codec) (hnamed : codec.pc.named = true) : ∃ id, codec.virq = some id :=
  Option.isSome_iff_exists.1 (h.virq.trans hnamed)

theorem Wired.nameless (h : Wired codec) (hnamed : codec.pc.named = false) : codec.virq = none := by
  simpa using h.virq.trans hnamed

theorem Wired.managed {id : ℕ} (h : Wired codec) (hid : codec.virq = some id)
    (hchip : codec.pc.keeps .chip = true) : codec.devm = [.chip id] := by
  rw [h.devm, hchip, if_pos rfl, hid, Option.toList_some, List.map_singleton]

theorem Wired.unmanaged (h : Wired codec) (hchip : codec.pc.keeps .chip = false) : codec.devm = [] := by
  rw [h.devm, hchip, if_neg Bool.false_ne_true]

/-- A step that leaves the pointers of the aggregate alone. -/
theorem Wired.move (h : Wired codec)
    (hsame : (next.fault, next.virq, next.irq, next.irqChip, next.devm) =
      (codec.fault, codec.virq, codec.irq, codec.irqChip, codec.devm))
    (hkeeps : ∀ kind, next.pc.keeps kind = codec.pc.keeps kind)
    (hnamed : next.pc.named = codec.pc.named)
    (hmapped : next.pc.mapped = true → codec.pc.mapped = true) : Wired next := by
  simp only [Prod.mk.injEq] at hsame
  obtain ⟨hfault, hvirq, hirq, hirqChip, hdevm⟩ := hsame
  constructor
  · rw [hfault, h.fault]
  · rw [hvirq, hnamed, h.virq]
  · intro hnext
    rw [hirq, hvirq, h.irq (hmapped hnext)]
  · intro hnext
    rw [hirqChip, hvirq, h.irqChip (hkeeps .chip ▸ hnext)]
  · rw [hdevm, hvirq, hkeeps, h.devm]

/-- A step that leaves the slaves alone. -/
theorem Guarded.move (h : Guarded codec)
    (hsame : (next.slaveIrq, next.callback, next.locked) = (codec.slaveIrq, codec.callback, codec.locked))
    (hslaves : ∀ slave id, codec.virq = some id → codec.pc.publishes slave = true →
      next.virq = some id ∧ next.pc.publishes slave = true)
    (hlocks : ∀ slave, next.pc.locks slave = codec.pc.locks slave) : Guarded next := by
  simp only [Prod.mk.injEq] at hsame
  obtain ⟨hslaveIrq, hcallback, hlocked⟩ := hsame
  constructor
  · intro slave id hid
    rw [hslaveIrq] at hid
    exact hslaves slave id (h.slaves slave id hid).1 (h.slaves slave id hid).2
  · intro slave
    rw [hlocked, h.locked, hlocks]
  · rw [hslaveIrq, hcallback, hlocked]
    exact h.callback

/-- Every resource is there while a slave is set. -/
theorem keeps_afterSet (task : SetTask) (slave : Slave) (kind : Kind) :
    (afterSet task slave).keeps kind = true := by
  cases task <;> cases slave <;> rfl

theorem publishes_afterSet (task : SetTask) (slave other : Slave) :
    (afterSet task slave).publishes other = (Pc.set task slave .unlock).publishes other := by
  cases task <;> cases slave <;> cases other <;> rfl

/-- The lock of a slave is waited for while its callback runs, and a callback that has not begun waits
for the lock. -/
theorem Guarded.setSlaveIrq (h : Guarded codec) (hpc : codec.pc = .set task slave point) :
    Guarded (setSlaveIrq task slave codec point) := by
  have hslaves := h.slaves
  have hlocked := h.locked
  rw [hpc] at hslaves hlocked
  cases point with
  | lock =>
    rw [Locked.setSlaveIrq]
    split_ifs with hidle
    · constructor
      · intro other id hid
        obtain ⟨hvirq, hpublishes⟩ := hslaves other id hid
        refine ⟨hvirq, ?_⟩
        cases task <;> cases slave <;> exact hpublishes
      · intro other
        have hother := hlocked other
        simp only [Function.update_apply, Pc.locks]
        grind [Pc.locks]
      · intro other pointer hpointer
        obtain ⟨hslaveIrq, hfree⟩ := h.callback other pointer hpointer
        simp only [Function.update_apply]
        grind
    · exact h
  | assign =>
    rw [Locked.setSlaveIrq]
    constructor
    · intro other id hid
      have hother := hslaves other id
      simp only [Function.update_apply] at hid
      cases task <;> cases slave <;> cases other <;> grind [Pc.publishes]
    · exact hlocked
    · intro other pointer hpointer
      obtain ⟨hslaveIrq, hfree⟩ := h.callback other pointer hpointer
      have hother := hlocked other
      simp only [Function.update_apply]
      grind [Pc.locks]
  | unlock =>
    rw [Locked.setSlaveIrq]
    constructor
    · intro other id hid
      obtain ⟨hvirq, hpublishes⟩ := hslaves other id hid
      exact ⟨hvirq, (publishes_afterSet task slave other).trans hpublishes⟩
    · intro other
      have hother := hlocked other
      simp only [Function.update_apply]
      cases task <;> cases slave <;> cases other <;> grind [Pc.locks, afterSet]
    · intro other pointer hpointer
      obtain ⟨hslaveIrq, hfree⟩ := h.callback other pointer hpointer
      simp only [Function.update_apply]
      grind

theorem Wired.setSlaveIrq (h : Wired codec) (hpc : codec.pc = .set task slave point) :
    Wired (setSlaveIrq task slave codec point) := by
  cases point with
  | lock =>
    rw [Locked.setSlaveIrq]
    split_ifs
    · exact h.move rfl (by rw [hpc]; exact fun _ ↦ rfl) (by rw [hpc]; rfl) nofun
    · exact h
  | assign => exact h.move rfl (by rw [hpc]; exact fun _ ↦ rfl) (by rw [hpc]; rfl) nofun
  | unlock =>
    have hkeeps := keeps_afterSet task slave
    refine h.move rfl ?_ ?_ ?_
    · rw [hpc]
      exact hkeeps
    · rw [hpc, Locked.setSlaveIrq, Pc.named, hkeeps]
      rfl
    · cases task <;> cases slave <;> exact nofun

theorem Intact.setSlaveIrq (h : Intact codec) (hpc : codec.pc = .set task slave point) :
    Intact (setSlaveIrq task slave codec point) := by
  refine ⟨h.wired.setSlaveIrq hpc, h.guarded.setSlaveIrq hpc, ?_⟩
  have hlives := h.lives
  rw [hpc] at hlives
  cases point with
  | lock =>
    rw [Locked.setSlaveIrq]
    split_ifs
    · exact hlives
    · exact h.lives
  | assign => exact hlives
  | unlock =>
    refine hlives.weaken (keeps_afterSet task slave) ?_
    cases task <;> cases slave <;> exact fun _ ↦ nofun

theorem Intact.drive (h : Intact codec) (ok : Bool) : Intact (drive ok codec) := by
  obtain ⟨hwired, hguarded, hlives⟩ := h
  rcases codec with ⟨pc, virq, irq, irqChip, slaveIrq, devm, domains, callback, locked, log, fault⟩
  dsimp only at hlives
  cases pc with
  | unbound =>
    exact ⟨hwired.move rfl (fun _ ↦ rfl) rfl nofun, hguarded.move rfl nofun fun _ ↦ rfl, hlives⟩
  | prepare =>
    cases ok <;>
      exact ⟨hwired.move rfl (fun _ ↦ rfl) rfl nofun, hguarded.move rfl nofun fun _ ↦ rfl, hlives⟩
  | createDomain =>
    obtain rfl : virq = none := hwired.nameless rfl
    obtain rfl : devm = [] := hwired.unmanaged rfl
    cases ok with
    | false =>
      exact ⟨hwired.move rfl (fun _ ↦ rfl) rfl nofun, hguarded.move rfl nofun fun _ ↦ rfl, hlives⟩
    | true =>
      refine ⟨⟨hwired.fault, rfl, nofun, nofun, rfl⟩, hguarded.move rfl nofun fun _ ↦ rfl, ?_⟩
      exact hlives.createDomain
  | createMapping =>
    obtain ⟨id, rfl : virq = some id⟩ := hwired.name rfl
    obtain rfl : devm = [] := hwired.unmanaged rfl
    cases ok with
    | false =>
      refine ⟨⟨hwired.fault, rfl, nofun, nofun, rfl⟩, hguarded.move rfl nofun fun _ ↦ rfl, ?_⟩
      exact hlives.weaken (fun _ ↦ rfl) nofun
    | true =>
      have hcreated : Stacked (.created ⟨.mapping, id⟩ :: log) (some id) (Pc.keeps .addChip)
          (Pc.ahead .addChip) domains := hlives.create rfl (by decide) (by decide) (by decide)
      exact ⟨⟨hwired.fault, rfl, fun _ ↦ rfl, nofun, rfl⟩, hguarded.move rfl nofun fun _ ↦ rfl, hcreated⟩
  | addChip =>
    obtain ⟨id, rfl : virq = some id⟩ := hwired.name rfl
    obtain rfl : irq = some id := hwired.irq rfl
    obtain rfl : devm = [] := hwired.unmanaged rfl
    cases ok with
    | false =>
      refine ⟨⟨hwired.fault, rfl, fun _ ↦ rfl, nofun, rfl⟩, hguarded.move rfl nofun fun _ ↦ rfl, ?_⟩
      exact hlives.weaken (fun _ ↦ rfl) nofun
    | true =>
      have hcreated : Stacked (.created ⟨.chip, id⟩ :: log) (some id) (fun _ ↦ true) (fun _ ↦ false)
          domains := hlives.create rfl (by decide) (by decide) (by decide)
      exact ⟨⟨hwired.fault, rfl, nofun, fun _ ↦ rfl, rfl⟩, hguarded.move rfl nofun fun _ ↦ rfl, hcreated⟩
  | set task slave point =>
    exact Intact.setSlaveIrq ⟨hwired, hguarded, hlives⟩ rfl
  | register =>
    cases ok <;>
      exact ⟨hwired.move rfl (fun _ ↦ rfl) rfl nofun,
        hguarded.move rfl (fun _ _ hid _ ↦ ⟨hid, rfl⟩) fun _ ↦ rfl, hlives⟩
  | bound =>
    exact ⟨hwired.move rfl (fun _ ↦ rfl) rfl nofun,
      hguarded.move rfl (fun _ _ hid _ ↦ ⟨hid, rfl⟩) fun _ ↦ rfl, hlives⟩
  | exit =>
    obtain ⟨id, rfl : virq = some id⟩ := hwired.name rfl
    exact ⟨hwired.move rfl (fun _ ↦ rfl) rfl nofun,
      hguarded.move rfl (fun _ _ hid _ ↦ ⟨hid, rfl⟩) fun _ ↦ rfl, hlives⟩
  | findMapping =>
    obtain ⟨id, rfl : virq = some id⟩ := hwired.name rfl
    have hmapping : lifeStage log ⟨.mapping, id⟩ = .live := (hlives.live .mapping id).2 ⟨rfl, rfl⟩
    have hused : Stacked (.used ⟨.domain, id⟩ :: log) (some id) (fun _ ↦ true) (fun _ ↦ false) domains :=
      hlives.use rfl
    have hfound : (if lifeStage log ⟨.mapping, id⟩ = .live then some id else none) = some id :=
      if_pos hmapping
    exact ⟨⟨hwired.fault, rfl, fun _ ↦ hfound, hwired.irqChip, hwired.devm⟩,
      hguarded.move rfl nofun fun _ ↦ rfl, hused⟩
  | deleteChip =>
    obtain ⟨id, rfl : virq = some id⟩ := hwired.name rfl
    obtain rfl : irq = some id := hwired.irq rfl
    obtain rfl : irqChip = some id := hwired.irqChip rfl
    obtain rfl : devm = [.chip id] := hwired.managed rfl rfl
    have hused : Stacked (.used ⟨.chip, id⟩ :: log) (some id) (fun _ ↦ true) (fun _ ↦ false) domains :=
      hlives.use rfl
    have hreleased : Stacked (.released ⟨.chip, id⟩ :: .used ⟨.chip, id⟩ :: log) (some id)
        (Pc.keeps .disposeMapping) (Pc.ahead .disposeMapping) domains :=
      hused.release rfl (by decide) (by decide)
    simp only [Locked.drive, List.mem_singleton, if_true, List.erase_cons_head, List.singleton_append]
    exact ⟨⟨hwired.fault, rfl, fun _ ↦ rfl, nofun, rfl⟩, hguarded.move rfl nofun fun _ ↦ rfl, hreleased⟩
  | disposeMapping =>
    obtain ⟨id, rfl : virq = some id⟩ := hwired.name rfl
    obtain rfl : irq = some id := hwired.irq rfl
    have hreleased : Stacked (.released ⟨.mapping, id⟩ :: log) (some id) (Pc.keeps .removeDomain)
        (Pc.ahead .removeDomain) domains := hlives.release rfl (by decide) (by decide)
    exact ⟨⟨hwired.fault, rfl, nofun, nofun, hwired.devm⟩, hguarded.move rfl nofun fun _ ↦ rfl, hreleased⟩
  | removeDomain =>
    obtain ⟨id, rfl : virq = some id⟩ := hwired.name rfl
    have hreleased : Stacked (.released ⟨.domain, id⟩ :: log) (some id) (Pc.keeps .clearDomain)
        (Pc.ahead .clearDomain) domains := hlives.release rfl (by decide) (by decide)
    exact ⟨⟨hwired.fault, rfl, nofun, nofun, hwired.devm⟩, hguarded.move rfl nofun fun _ ↦ rfl, hreleased⟩
  | clearDomain =>
    refine ⟨⟨hwired.fault, rfl, nofun, nofun, hwired.devm⟩, hguarded.move rfl nofun fun _ ↦ rfl, ?_⟩
    exact hlives.forget fun _ ↦ rfl
  | release =>
    obtain rfl : devm = [] := hwired.unmanaged rfl
    exact ⟨hwired.move rfl (fun _ ↦ rfl) rfl nofun, hguarded.move rfl nofun fun _ ↦ rfl, hlives⟩

/-! ### Callbacks and histories -/

theorem Intact.enter (h : Intact codec) (slave : Slave) : Intact (codec.enter slave) := by
  rw [Codec.enter]
  split_ifs with hidle
  · refine ⟨h.wired.move rfl (fun _ ↦ rfl) rfl fun hmapped ↦ hmapped,
      ⟨h.guarded.slaves, h.guarded.locked, ?_⟩, h.lives⟩
    intro other pointer hpointer
    simp only [Function.update_apply] at hpointer
    split_ifs at hpointer with hother
    · rw [hother]
      exact ⟨Option.some.inj hpointer, hidle.2⟩
    · exact h.guarded.callback other pointer hpointer
  · exact h

theorem keeps_of_publishes {pc : Pc} (hpublishes : pc.publishes slave = true) (kind : Kind) :
    pc.keeps kind = true := by
  cases pc <;> first | rfl | exact Bool.noConfusion hpublishes

/-- The pointer of a running callback is still that of its slave, so its domain is there. -/
theorem Intact.dispatch (h : Intact codec) (slave : Slave) : Intact (codec.dispatch true slave) := by
  rw [Codec.dispatch]
  cases hcallback : codec.callback slave with
  | none => exact h
  | some pointer =>
    cases pointer with
    | none => exact h
    | some id =>
      have hslave := (h.guarded.callback slave (some id) hcallback).1
      obtain ⟨hvirq, hpublishes⟩ := h.guarded.slaves slave id hslave
      have hlives := h.lives
      rw [hvirq] at hlives
      have hused := hlives.use (keeps_of_publishes hpublishes .domain)
      rw [← hvirq] at hused
      exact ⟨h.wired.move rfl (fun _ ↦ rfl) rfl fun hmapped ↦ hmapped,
        ⟨h.guarded.slaves, h.guarded.locked, h.guarded.callback⟩, hused⟩

theorem Intact.leave (h : Intact codec) (slave : Slave) : Intact (codec.leave slave) := by
  refine ⟨h.wired.move rfl (fun _ ↦ rfl) rfl fun hmapped ↦ hmapped,
    ⟨h.guarded.slaves, h.guarded.locked, ?_⟩, h.lives⟩
  intro other pointer hpointer
  simp only [Codec.leave, Function.update_apply] at hpointer
  split_ifs at hpointer with hother
  exact h.guarded.callback other pointer hpointer

theorem Intact.step (h : Intact codec) (action : Action) : Intact (step codec action) := by
  cases action with
  | drive ok => exact h.drive ok
  | enter slave => exact h.enter slave
  | dispatch slave => exact h.dispatch slave
  | leave slave => exact h.leave slave

theorem intact_initial : Intact (.initial .unbound) where
  wired := ⟨rfl, rfl, nofun, nofun, rfl⟩
  guarded := ⟨nofun, fun _ ↦ rfl, nofun⟩
  lives := .nil _

theorem intact_run (history : List Action) : Intact (run history) :=
  List.foldlRecOn history Locked.step intact_initial fun _ h action _ ↦ h.step action

/-- **The interrupts of the codec in the device tree series.** In every history, resources are used and
released only while they are there, so that no callback uses a domain that was removed.  No null pointer
is followed.  A chip goes before its mapping, and a mapping before its domain.  Except between the removal
of a domain and the next assignment, the pointer of the aggregate is null exactly if no domain is live.
Whenever the codec is unbound, each resource that was created has been released exactly once. -/
theorem locked_lifetime (history : List Action) :
    SoundLives (run history).log ∧ (run history).fault = false ∧
    NestedLives RestsOn (run history).log ∧
    ((run history).pc ≠ .clearDomain →
      ((run history).virq = none ↔ ∀ id, (run history).stage .domain id ≠ .live)) ∧
    ((run history).pc = .unbound → ∀ resource, .created resource ∈ (run history).log →
      (run history).log.count (.released resource) = 1) := by
  have h := intact_run history
  refine ⟨h.lives.sound, h.wired.fault, h.lives.nested, fun hpc ↦ ?_, fun hpc resource hcreated ↦ ?_⟩
  · constructor
    · intro hvirq id hlive
      have htop := ((h.lives.live .domain id).1 hlive).1
      rw [hvirq] at htop
      exact Option.some_ne_none id htop.symm
    · intro hnone
      by_contra hvirq
      obtain ⟨id, hid⟩ := Option.ne_none_iff_exists'.1 hvirq
      have hnamed := h.wired.virq
      rw [hid, Option.isSome_some, Pc.named, decide_eq_false hpc, Bool.or_false] at hnamed
      exact hnone id ((h.lives.live .domain id).2 ⟨hid, hnamed.symm⟩)
  · refine h.lives.sound.released_once hcreated fun hlive ↦ ?_
    have hkeeps := ((h.lives.live resource.kind resource.id).1 hlive).2
    rw [hpc] at hkeeps
    exact Bool.noConfusion hkeeps

/-- A callback of a bound codec dispatches through the domain of its slave. -/
example : (run (List.replicate 12 (.drive true) ++ [.enter .rx, .dispatch .rx])).log =
    [.used ⟨.domain, 0⟩, .created ⟨.chip, 0⟩, .created ⟨.mapping, 0⟩, .created ⟨.domain, 0⟩] := by
  decide

end Locked

end TclB220G.Audio
