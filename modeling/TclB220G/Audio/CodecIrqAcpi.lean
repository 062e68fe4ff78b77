import TclB220G.Audio.CodecIrq

/-!
# The interrupt domain of the codec in the ACPI series

Here the removal of the domain is a managed action, and the pointers of the slaves are written without
their locks.  The private data outlives a binding.  After an unbinding `irq_chip` still points to the chip
that the managed release has freed, and the cleanup of a later bind follows it if the new interrupts could
not be set up that far.  The callback is the one of the unpatched driver, which does not check its pointer.
-/

namespace TclB220G.Audio.Acpi

open Lib

/-- The steps of `wcd938x_bind`, `wcd938x_irq_init`, `wcd938x_irq_cleanup`, `wcd938x_irq_domain_remove`
and `wcd938x_unbind` in the order of the source.  Everything of `wcd938x_bind` before the interrupts is
one step. -/
inductive Pc where
  | unbound | prepare
  | createDomain | addAction | createMapping | addChip
  | publish (slave : Slave) | register | bound
  | retract (slave : Slave)
  | clear (slave : Slave) | deleteChip | removeAction
  | disposeMapping | removeDomain
  | release
  deriving DecidableEq, Repr

/-- One step of the aggregate. -/
def drive (ok : Bool) (codec : Codec Pc) : Codec Pc :=
  match codec.pc with
  | .unbound => { codec with pc := .prepare }
  | .prepare => { codec with pc := if ok then .createDomain else .release }
  | .createDomain =>
    if ok then
      { codec with
        pc := .addAction
        virq := some codec.domains
        domains := codec.domains + 1
        log := .created ⟨.domain, codec.domains⟩ :: codec.log }
    else { codec with pc := .release, virq := none }
  | .addAction =>
    -- an action that cannot be added is run at once
    if ok then { codec with pc := .createMapping, devm := .domainRemove :: codec.devm }
    else { codec with pc := .disposeMapping }
  | .createMapping =>
    match codec.virq, ok with
    | some id, true =>
      { codec with pc := .addChip, irq := some id, log := .created ⟨.mapping, id⟩ :: codec.log }
    | _, _ => { codec with pc := .clear .rx, irq := none }
  | .addChip =>
    match codec.irq, ok with
    | some id, true =>
      { codec with
        pc := .publish .rx
        irqChip := some id
        devm := .chip id :: codec.devm
        log := .created ⟨.chip, id⟩ :: codec.log }
    | _, _ => { codec with pc := .clear .rx }
  | .publish slave =>
    { codec with
      pc := if slave = .rx then .publish .tx else .register
      slaveIrq := Function.update codec.slaveIrq slave codec.virq }
  | .register => { codec with pc := if ok then .bound else .clear .rx }
  | .bound => { codec with pc := .retract .rx }
  | .retract slave =>
    { codec with
      pc := if slave = .rx then .retract .tx else .release
      slaveIrq := Function.update codec.slaveIrq slave none }
  | .clear slave =>
    { codec with
      pc := if slave = .rx then .clear .tx else .deleteChip
      slaveIrq := Function.update codec.slaveIrq slave none }
  | .deleteChip =>
    -- the chip is looked at before it is searched among the managed resources
    match codec.irqChip with
    | some id =>
      { codec with
        pc := .removeAction
        irqChip := none
        devm := codec.devm.erase (.chip id)
        log := (if .chip id ∈ codec.devm then [.released ⟨.chip, id⟩] else []) ++
          .used ⟨.chip, id⟩ :: codec.log }
    | none => { codec with pc := .removeAction }
  | .removeAction => { codec with pc := .disposeMapping, devm := codec.devm.erase .domainRemove }
  | .disposeMapping =>
    match codec.irq with
    | some id =>
      { codec with
        pc := .removeDomain, irq := none, log := .released ⟨.mapping, id⟩ :: codec.log }
    | none => { codec with pc := .removeDomain }
  | .removeDomain =>
    match codec.virq with
    | some id =>
      { codec with pc := .release, virq := none, log := .released ⟨.domain, id⟩ :: codec.log }
    | none => { codec with pc := .release }
  | .release =>
    match codec.devm with
    | .chip id :: rest => { codec with devm := rest, log := .released ⟨.chip, id⟩ :: codec.log }
    | .domainRemove :: rest => { codec with pc := .disposeMapping, devm := rest }
    | [] => { codec with pc := .unbound }

def step (codec : Codec Pc) : Action → Codec Pc
  | .drive ok => drive ok codec
  | .enter slave => codec.enter slave
  | .dispatch slave => codec.dispatch false slave
  | .leave slave => codec.leave slave

def run (history : List Action) : Codec Pc := history.foldl step (.initial .unbound)

/-! ## What has been done before -/

/-- What the steps so far tell of what is safe to do next: whether an unbinding has begun since a chip was
last added, which slaves the domain has been published to and not taken back from, and of every callback
that runs whether its slave was such a one when it was entered and no domain has been removed since. -/
structure Past where
  leftover : Bool
  published : Slave → Bool
  callback : Slave → Option Bool

namespace Past

def initial : Past := ⟨false, fun _ ↦ false, fun _ ↦ none⟩

def note (past : Past) (pc : Pc) : Action → Past
  | .drive ok =>
    match pc with
    | .bound => { past with leftover := true }
    | .addChip => { past with leftover := if ok then false else past.leftover }
    | .publish slave => { past with published := Function.update past.published slave true }
    | .retract slave | .clear slave =>
      { past with published := Function.update past.published slave false }
    | .removeDomain => { past with callback := fun slave ↦ (past.callback slave).map fun _ ↦ false }
    | _ => past
  | .enter slave =>
    if past.callback slave = none then
      { past with callback := Function.update past.callback slave (some (past.published slave)) }
    else past
  | .dispatch _ => past
  | .leave slave => { past with callback := Function.update past.callback slave none }

/-- No cleanup runs between an unbinding and the next chip.  A callback that dispatches was entered while
its slave was published, and the domain has not been removed since. -/
def Permits (past : Past) (pc : Pc) : Action → Prop
  | .drive _ => pc = .deleteChip → past.leftover = false
  | .dispatch slave => past.callback slave ≠ some false
  | .enter _ | .leave _ => True

end Past

/-- Every action of a history is permitted by what was done before it. -/
def CarefulFrom (codec : Codec Pc) (past : Past) : List Action → Prop
  | [] => True
  | action :: history =>
    past.Permits codec.pc action ∧ CarefulFrom (step codec action) (past.note codec.pc action) history

/-- In terms of the pointers: a cleanup finds no chip that is not among the managed resources, and a
callback dispatches through the domain that the codec still has. -/
def Harmless (codec : Codec Pc) : Action → Prop
  | .drive _ => codec.pc = .deleteChip → ∀ id, codec.irqChip = some id → .chip id ∈ codec.devm
  | .dispatch slave => ∀ pointer, codec.callback slave = some pointer →
    pointer ≠ none ∧ pointer = codec.virq
  | .enter _ | .leave _ => True

/-! ## What holds at each step -/

/-- The kinds that are still to come. -/
def Pc.ahead : Pc → Kind → Bool
  | .addAction, kind | .createMapping, kind => kind ≠ .domain
  | .addChip, kind => kind = .chip
  | _, _ => false

/-- Whether a slave may have the domain. -/
def Pc.publishes : Pc → Slave → Bool
  | .publish .tx, slave => slave = .rx
  | .register, _ | .bound, _ | .retract .rx, _ | .clear .rx, _ => true
  | .retract .tx, slave | .clear .tx, slave => slave = .tx
  | _, _ => false

/-- The pointers and managed resources at each step: `virq`, `irq`, `irq_chip` and `devm`.  As long as no
chip has been added, `irq_chip` may be anything. -/
inductive Shape : Pc → Option ℕ → Option ℕ → Option ℕ → List Managed → Prop where
  | unbound chip : Shape .unbound none none chip []
  | prepare chip : Shape .prepare none none chip []
  | createDomain chip : Shape .createDomain none none chip []
  | addAction id chip : Shape .addAction (some id) none chip []
  | createMapping id chip : Shape .createMapping (some id) none chip [.domainRemove]
  | addChip id chip : Shape .addChip (some id) (some id) chip [.domainRemove]
  | publish slave id : Shape (.publish slave) (some id) (some id) (some id) [.chip id, .domainRemove]
  | register id : Shape .register (some id) (some id) (some id) [.chip id, .domainRemove]
  | bound id : Shape .bound (some id) (some id) (some id) [.chip id, .domainRemove]
  | retract slave id : Shape (.retract slave) (some id) (some id) (some id) [.chip id, .domainRemove]
  | clear slave id : Shape (.clear slave) (some id) (some id) (some id) [.chip id, .domainRemove]
  | clearFailed slave id irq chip (hirq : irq = none ∨ irq = some id) :
    Shape (.clear slave) (some id) irq chip [.domainRemove]
  | deleteChip id : Shape .deleteChip (some id) (some id) (some id) [.chip id, .domainRemove]
  | deleteFailed id irq chip (hirq : irq = none ∨ irq = some id) :
    Shape .deleteChip (some id) irq chip [.domainRemove]
  | removeAction id irq (hirq : irq = none ∨ irq = some id) :
    Shape .removeAction (some id) irq none [.domainRemove]
  | disposeMapping id irq chip (hirq : irq = none ∨ irq = some id) :
    Shape .disposeMapping (some id) irq chip []
  | removeDomain id chip : Shape .removeDomain (some id) none chip []
  | releaseChip id : Shape .release (some id) (some id) (some id) [.chip id, .domainRemove]
  | releaseDomain id : Shape .release (some id) (some id) (some id) [.domainRemove]
  | released chip : Shape .release none none chip []

theorem Shape.virq_unbound {virq irq irqChip : Option ℕ} {devm : List Managed}
    (h : Shape .unbound virq irq irqChip devm) : virq = none := by
  cases h
  rfl

/-- The kinds that are live when the domain, the mapping and the chip are or not. -/
def these (domain mapping chip : Bool) : Kind → Bool
  | .domain => domain
  | .mapping => mapping
  | .chip => chip

structure Intact (codec : Codec Pc) : Prop where
  fault : codec.fault = false
  shape : Shape codec.pc codec.virq codec.irq codec.irqChip codec.devm
  lives : Stacked codec.log codec.virq
    (these codec.virq.isSome codec.irq.isSome (codec.devm.any (· ≠ .domainRemove))) codec.pc.ahead
    codec.domains
  chip : ∀ id, codec.irqChip = some id → codec.stage .chip id ≠ .absent
  slaves : ∀ slave id, codec.slaveIrq slave = some id →
    codec.virq = some id ∧ codec.pc.publishes slave = true
  callback : ∀ slave id, codec.callback slave = some (some id) → codec.stage .domain id ≠ .absent

variable {codec next : Codec Pc}

/-- A step of the aggregate only adds to the log, so what was there before is known ever after. -/
theorem Intact.move (h : Intact codec)
    (hsame : (next.fault, next.callback) = (codec.fault, codec.callback))
    (hlog : codec.log <:+ next.log) (hshape : Shape next.pc next.virq next.irq next.irqChip next.devm)
    (hlives : Stacked next.log next.virq
      (these next.virq.isSome next.irq.isSome (next.devm.any (· ≠ .domainRemove))) next.pc.ahead
      next.domains)
    (hchip : ∀ id, next.irqChip = some id → codec.irqChip = some id ∨ next.stage .chip id = .live)
    (hslaves : ∀ slave id, next.slaveIrq slave = some id →
      next.virq = some id ∧ next.pc.publishes slave = true) : Intact next := by
  obtain ⟨hfault, hcallback⟩ := Prod.mk.inj hsame
  obtain ⟨later, hlater⟩ := hlog
  have hknown : ∀ kind id, codec.stage kind id ≠ .absent → next.stage kind id ≠ .absent := by
    intro kind id hstage
    rw [Codec.stage, ← hlater]
    exact lifeStage_ne_absent hstage
  refine ⟨hfault.trans h.fault, hshape, hlives, fun id hid ↦ ?_, hslaves, fun slave id hid ↦ ?_⟩
  · rcases hchip id hid with hold | hnew
    · exact hknown .chip id (h.chip id hold)
    · rw [hnew]
      exact LifeStage.noConfusion
  · rw [hcallback] at hid
    exact hknown .domain id (h.callback slave id hid)

/-- A step that creates, uses and releases nothing. -/
theorem Intact.stay (h : Intact codec)
    (hsame : (next.fault, next.callback, next.log, next.irqChip) =
      (codec.fault, codec.callback, codec.log, codec.irqChip))
    (hshape : Shape next.pc next.virq next.irq next.irqChip next.devm)
    (hlives : Stacked next.log next.virq
      (these next.virq.isSome next.irq.isSome (next.devm.any (· ≠ .domainRemove))) next.pc.ahead
      next.domains)
    (hslaves : ∀ slave id, next.slaveIrq slave = some id →
      next.virq = some id ∧ next.pc.publishes slave = true) : Intact next := by
  simp only [Prod.mk.injEq] at hsame
  obtain ⟨hfault, hcallback, hlog, hirqChip⟩ := hsame
  refine h.move ?_ ?_ hshape hlives (fun id hid ↦ .inl ?_) hslaves
  · rw [hfault, hcallback]
  · rw [hlog]
  · rw [← hirqChip, hid]

/-- Writing the pointer of one slave. -/
theorem slaves_update (pc pc' : Pc) {slaveIrq : Slave → Option ℕ} {virq pointer : Option ℕ} {slave : Slave}
    (hslaves : ∀ other id, slaveIrq other = some id → virq = some id ∧ pc.publishes other = true)
    (hothers : ∀ other, other ≠ slave → pc.publishes other = true → pc'.publishes other = true)
    (hpointer : ∀ id, pointer = some id → virq = some id ∧ pc'.publishes slave = true)
    (other : Slave) (id : ℕ) (hid : Function.update slaveIrq slave pointer other = some id) :
    virq = some id ∧ pc'.publishes other = true := by
  rw [Function.update_apply] at hid
  split_ifs at hid with hother
  · rw [hother]
    exact hpointer id hid
  · exact ⟨(hslaves other id hid).1, hothers other hother (hslaves other id hid).2⟩

/-- The cleanup of a binding that had come as far as its chip. -/
theorem drive_deleteChip (ok : Bool) (id : ℕ) (slaveIrq : Slave → Option ℕ) (domains : ℕ)
    (callback : Slave → Option (Option ℕ)) (locked : Slave → Bool) (log : List (LifeEvent Resource))
    (fault : Bool) :
    drive ok ⟨.deleteChip, some id, some id, some id, slaveIrq, [.chip id, .domainRemove], domains,
      callback, locked, log, fault⟩ =
      ⟨.removeAction, some id, some id, none, slaveIrq, [.domainRemove], domains, callback, locked,
        .released ⟨.chip, id⟩ :: .used ⟨.chip, id⟩ :: log, fault⟩ := by
  simp [drive]

/-- A harmless cleanup of a binding that had not come as far as its chip finds no pointer to one. -/
theorem irqChip_eq_none {ok : Bool} (hpc : codec.pc = .deleteChip) (hdevm : codec.devm = [.domainRemove])
    (hharmless : Harmless codec (.drive ok)) : codec.irqChip = none := by
  refine Option.eq_none_iff_forall_ne_some.2 fun id hid ↦ ?_
  simpa [hdevm] using hharmless hpc id hid

theorem Intact.drive (h : Intact codec) (ok : Bool) (hharmless : Harmless codec (.drive ok)) :
    Intact (drive ok codec) := by
  rcases codec with ⟨pc, virq, irq, irqChip, slaveIrq, devm, domains, callback, locked, log, fault⟩
  have hshape := h.shape
  have hlives := h.lives
  have hslaves := h.slaves
  dsimp only at hshape hlives hslaves
  cases hshape with
  | unbound _ => exact h.stay rfl (.prepare irqChip) hlives hslaves
  | prepare _ =>
    cases ok with
    | false => exact h.stay rfl (.released irqChip) hlives hslaves
    | true => exact h.stay rfl (.createDomain irqChip) hlives hslaves
  | createDomain _ =>
    cases ok with
    | false => exact h.stay rfl (.released irqChip) hlives hslaves
    | true =>
      have hcreated : Stacked (.created ⟨.domain, domains⟩ :: log) (some domains)
          (these true false false) (Pc.ahead .addAction) (domains + 1) :=
        hlives.createDomain.weaken (by decide) (by decide)
      exact h.move rfl (List.suffix_cons _ _) (.addAction domains irqChip) hcreated (fun _ ↦ .inl)
        fun slave id hid ↦ nomatch (hslaves slave id hid).1
  | addAction id _ =>
    cases ok with
    | false =>
      exact h.stay rfl (.disposeMapping id none irqChip (.inl rfl))
        (hlives.weaken (fun _ ↦ rfl) nofun) hslaves
    | true => exact h.stay rfl (.createMapping id irqChip) hlives hslaves
  | createMapping id _ =>
    cases ok with
    | false =>
      exact h.stay rfl (.clearFailed .rx id none irqChip (.inl rfl))
        (hlives.weaken (fun _ ↦ rfl) nofun)
        fun slave name hname ↦ nomatch (hslaves slave name hname).2
    | true =>
      have hcreated : Stacked (.created ⟨.mapping, id⟩ :: log) (some id) (these true true false)
          (Pc.ahead .addChip) domains :=
        Stacked.create (show Stacked log (some id) (these true false false) (Pc.ahead .createMapping) domains
          from hlives) rfl (by decide) (by decide) (by decide)
      exact h.move rfl (List.suffix_cons _ _) (.addChip id irqChip) hcreated (fun _ ↦ .inl) hslaves
  | addChip id _ =>
    cases ok with
    | false =>
      exact h.stay rfl (.clearFailed .rx id (some id) irqChip (.inr rfl))
        (hlives.weaken (fun _ ↦ rfl) nofun)
        fun slave name hname ↦ nomatch (hslaves slave name hname).2
    | true =>
      have hcreated : Stacked (.created ⟨.chip, id⟩ :: log) (some id) (these true true true)
          (fun _ ↦ false) domains :=
        Stacked.create (show Stacked log (some id) (these true true false) (Pc.ahead .addChip) domains
          from hlives) rfl (by decide) (by decide) (by decide)
      have hchip : ∀ name, some id = some name →
          lifeStage (.created ⟨.chip, id⟩ :: log) ⟨.chip, name⟩ = .live :=
        fun name hname ↦ (hcreated.live .chip name).2 ⟨hname, rfl⟩
      exact h.move rfl (List.suffix_cons _ _) (.publish .rx id) hcreated
        (fun name hname ↦ .inr (hchip name hname)) fun slave name hname ↦
          nomatch (hslaves slave name hname).2
  | publish slave id =>
    cases slave with
    | rx =>
      exact h.stay rfl (.publish .tx id) hlives
        (slaves_update (.publish .rx) (.publish .tx) hslaves (fun _ _ ↦ nofun) fun _ hname ↦ ⟨hname, rfl⟩)
    | tx =>
      exact h.stay rfl (.register id) hlives
        (slaves_update (.publish .tx) .register hslaves (fun _ _ _ ↦ rfl) fun _ hname ↦ ⟨hname, rfl⟩)
  | register id =>
    cases ok with
    | false => exact h.stay rfl (.clear .rx id) hlives hslaves
    | true => exact h.stay rfl (.bound id) hlives hslaves
  | bound id => exact h.stay rfl (.retract .rx id) hlives hslaves
  | retract slave id =>
    cases slave with
    | rx =>
      exact h.stay rfl (.retract .tx id) hlives
        (slaves_update (.retract .rx) (.retract .tx) hslaves (by decide) nofun)
    | tx =>
      exact h.stay rfl (.releaseChip id) hlives
        (slaves_update (.retract .tx) .release hslaves (by decide) nofun)
  | clear slave id =>
    cases slave with
    | rx =>
      exact h.stay rfl (.clear .tx id) hlives
        (slaves_update (.clear .rx) (.clear .tx) hslaves (by decide) nofun)
    | tx =>
      exact h.stay rfl (.deleteChip id) hlives
        (slaves_update (.clear .tx) .deleteChip hslaves (by decide) nofun)
  | clearFailed slave id _ _ hirq =>
    cases slave with
    | rx =>
      exact h.stay rfl (.clearFailed .tx id irq irqChip hirq) hlives
        (slaves_update (.clear .rx) (.clear .tx) hslaves (by decide) nofun)
    | tx =>
      exact h.stay rfl (.deleteFailed id irq irqChip hirq) hlives
        (slaves_update (.clear .tx) .deleteChip hslaves (by decide) nofun)
  | deleteChip id =>
    have hused : Stacked (.used ⟨.chip, id⟩ :: log) (some id) (these true true true) (fun _ ↦ false)
        domains := hlives.use rfl
    have hreleased : Stacked (.released ⟨.chip, id⟩ :: .used ⟨.chip, id⟩ :: log) (some id)
        (these true true false) (fun _ ↦ false) domains := hused.release rfl (by decide) (by decide)
    rw [drive_deleteChip]
    exact h.move rfl (List.suffix_append [_, _] log) (.removeAction id (some id) (.inr rfl)) hreleased
      nofun hslaves
  | deleteFailed id _ _ hirq =>
    obtain rfl : irqChip = none := irqChip_eq_none rfl rfl hharmless
    exact h.stay rfl (.removeAction id irq hirq) hlives hslaves
  | removeAction id _ hirq =>
    exact h.stay rfl (.disposeMapping id irq none hirq) hlives hslaves
  | disposeMapping id _ _ hirq =>
    rcases hirq with rfl | rfl
    · exact h.stay rfl (.removeDomain id irqChip) hlives hslaves
    · have hreleased : Stacked (.released ⟨.mapping, id⟩ :: log) (some id) (these true false false)
          (fun _ ↦ false) domains :=
        Stacked.release (show Stacked log (some id) (these true true false) (fun _ ↦ false) domains
          from hlives) rfl (by decide) (by decide)
      exact h.move rfl (List.suffix_cons _ _) (.removeDomain id irqChip) hreleased (fun _ ↦ .inl) hslaves
  | removeDomain id _ =>
    have hreleased : Stacked (.released ⟨.domain, id⟩ :: log) (some id) (these false false false)
        (fun _ ↦ false) domains :=
      Stacked.release (show Stacked log (some id) (these true false false) (fun _ ↦ false) domains
        from hlives) rfl (by decide) (by decide)
    exact h.move rfl (List.suffix_cons _ _) (.released irqChip) (hreleased.forget (by decide))
      (fun _ ↦ .inl) fun slave name hname ↦ nomatch (hslaves slave name hname).2
  | releaseChip id =>
    have hreleased : Stacked (.released ⟨.chip, id⟩ :: log) (some id) (these true true false)
        (fun _ ↦ false) domains :=
      Stacked.release (show Stacked log (some id) (these true true true) (fun _ ↦ false) domains
        from hlives) rfl (by decide) (by decide)
    exact h.move rfl (List.suffix_cons _ _) (.releaseDomain id) hreleased (fun _ ↦ .inl) hslaves
  | releaseDomain id =>
    exact h.stay rfl (.disposeMapping id (some id) (some id) (.inr rfl)) hlives hslaves
  | released _ => exact h.stay rfl (.unbound irqChip) hlives hslaves

/-! ## Callbacks and histories -/

theorem Intact.domain_live (h : Intact codec) (id : ℕ) :
    codec.stage .domain id = .live ↔ codec.virq = some id := by
  refine (h.lives.live .domain id).trans ⟨And.left, fun hvirq ↦ ⟨hvirq, ?_⟩⟩
  rw [these, hvirq, Option.isSome_some]

theorem Intact.enter (h : Intact codec) (slave : Slave) : Intact (codec.enter slave) := by
  rw [Codec.enter]
  split_ifs
  · refine ⟨h.fault, h.shape, h.lives, h.chip, h.slaves, fun other id hid ↦ ?_⟩
    simp only [Function.update_apply] at hid
    split_ifs at hid
    · have hvirq := (h.slaves slave id (Option.some.inj hid)).1
      have hlive : codec.stage .domain id = .live := (h.domain_live id).2 hvirq
      exact fun habsent ↦ LifeStage.noConfusion (hlive.symm.trans habsent)
    · exact h.callback other id hid
  · exact h

theorem Intact.dispatch (h : Intact codec) (slave : Slave)
    (hharmless : Harmless codec (.dispatch slave)) : Intact (codec.dispatch false slave) := by
  rw [Codec.dispatch]
  cases hcallback : codec.callback slave with
  | none => exact h
  | some pointer =>
    obtain ⟨hsome, hvirq⟩ := hharmless pointer hcallback
    cases pointer with
    | none => exact absurd rfl hsome
    | some id =>
      have hlives := h.lives
      rw [← hvirq] at hlives
      have hused := hlives.use (show these true _ _ .domain = true from rfl)
      rw [hvirq] at hused
      exact ⟨h.fault, h.shape, hused, h.chip, h.slaves, h.callback⟩

theorem Intact.leave (h : Intact codec) (slave : Slave) : Intact (codec.leave slave) := by
  refine ⟨h.fault, h.shape, h.lives, h.chip, h.slaves, fun other id hid ↦ ?_⟩
  simp only [Codec.leave, Function.update_apply] at hid
  split_ifs at hid
  exact h.callback other id hid

theorem Intact.step {action : Action} (h : Intact codec) (hharmless : Harmless codec action) :
    Intact (step codec action) := by
  cases action with
  | drive ok => exact h.drive ok hharmless
  | enter slave => exact h.enter slave
  | dispatch slave => exact h.dispatch slave hharmless
  | leave slave => exact h.leave slave

/-- A chip that a cleanup finds but that is not managed any more was released before. -/
theorem Intact.not_sound_drive {ok : Bool} (h : Intact codec)
    (hharmful : ¬Harmless codec (.drive ok)) : ¬SoundLives (Acpi.drive ok codec).log := by
  simp only [Harmless, not_forall] at hharmful
  obtain ⟨hpc, id, hchip, hmanaged⟩ := hharmful
  intro hsound
  simp only [Acpi.drive, hpc, hchip, if_neg hmanaged, List.nil_append] at hsound
  have hkeeps := ((h.lives.live .chip id).1 hsound.1).2
  have hshape := h.shape
  rw [hpc, hchip] at hshape
  generalize codec.virq = virq, codec.irq = irq, codec.devm = devm at hshape hmanaged hkeeps
  cases hshape with
  | deleteChip => exact hmanaged List.mem_cons_self
  | deleteFailed => exact Bool.noConfusion hkeeps

/-- A callback with a pointer other than that of the codec follows null or finds its domain removed. -/
theorem Intact.not_sound_dispatch {slave : Slave} (h : Intact codec)
    (hharmful : ¬Harmless codec (.dispatch slave)) (hsound : SoundLives (codec.dispatch false slave).log) :
    (codec.dispatch false slave).fault = true := by
  simp only [Harmless, not_forall] at hharmful
  obtain ⟨pointer, hcallback, hpointer⟩ := hharmful
  rw [Codec.dispatch, hcallback] at hsound ⊢
  cases pointer with
  | none => rfl
  | some id =>
    have hvirq : codec.virq = some id := (h.domain_live id).1 hsound.1
    exact absurd ⟨Option.some_ne_none id, hvirq.symm⟩ hpointer

theorem log_drive (ok : Bool) (codec : Codec Pc) :
    codec.log <:+ (drive ok codec).log ∧ (drive ok codec).fault = codec.fault := by
  unfold drive
  split <;> (try split) <;> grind [List.suffix_cons, List.suffix_append]

theorem log_step (codec : Codec Pc) (action : Action) :
    codec.log <:+ (step codec action).log ∧
      (codec.fault = true → (step codec action).fault = true) := by
  cases action with
  | drive ok => exact ⟨(log_drive ok codec).1, fun hfault ↦ (log_drive ok codec).2.trans hfault⟩
  | enter slave =>
    rw [step, Codec.enter]
    split_ifs <;> exact ⟨List.suffix_rfl, fun hfault ↦ hfault⟩
  | dispatch slave =>
    rw [step, Codec.dispatch]
    split
    · exact ⟨List.suffix_rfl, fun hfault ↦ hfault⟩
    · exact ⟨List.suffix_rfl, fun _ ↦ rfl⟩
    · exact ⟨List.suffix_cons _ _, fun hfault ↦ hfault⟩
  | leave slave => exact ⟨List.suffix_rfl, fun hfault ↦ hfault⟩

theorem log_foldl (history : List Action) (codec : Codec Pc) :
    codec.log <:+ (history.foldl step codec).log ∧
      (codec.fault = true → (history.foldl step codec).fault = true) := by
  induction history generalizing codec with
  | nil => exact ⟨List.suffix_rfl, fun hfault ↦ hfault⟩
  | cons action history ih =>
    have hstep := log_step codec action
    have hrest := ih (step codec action)
    exact ⟨hstep.1.trans hrest.1, fun hfault ↦ hrest.2 (hstep.2 hfault)⟩

/-! ## The past and the pointers -/

/-- The chip is about to be released without a cleanup. -/
def Pc.unwinds : Pc → Bool
  | .retract _ | .release => true
  | _ => false

/-- There is a pointer to a chip that is released, or about to be without a cleanup. -/
def stale (codec : Codec Pc) : Bool :=
  codec.irqChip.isSome && (codec.pc.unwinds || !codec.devm.any (· ≠ .domainRemove))

/-- The pointers are what the past tells. -/
structure Coupled (past : Past) (codec : Codec Pc) : Prop where
  locked : ∀ slave, codec.locked slave = false
  leftover : past.leftover = stale codec
  published : ∀ slave, past.published slave = (codec.slaveIrq slave).isSome
  callback : ∀ slave, past.callback slave =
    (codec.callback slave).map fun pointer ↦ pointer.isSome && pointer == codec.virq

variable {past : Past}

/-- A step that leaves the pointers of the slaves and the domain alone. -/
theorem Coupled.stay (h : Coupled past codec) {leftover : Bool}
    (hsame : (next.slaveIrq, next.callback, next.locked, next.virq) =
      (codec.slaveIrq, codec.callback, codec.locked, codec.virq))
    (hleftover : leftover = stale next) : Coupled { past with leftover } next := by
  simp only [Prod.mk.injEq] at hsame
  obtain ⟨hslaveIrq, hcallback, hlocked, hvirq⟩ := hsame
  refine ⟨by rw [hlocked]; exact h.locked, hleftover, ?_, ?_⟩
  · rw [hslaveIrq]
    exact h.published
  · rw [hcallback, hvirq]
    exact h.callback

/-- Writing the pointer of one slave. -/
theorem Coupled.write (h : Coupled past codec) (pc : Pc) (slave : Slave) {pointer : Option ℕ}
    {published : Bool} (hpointer : published = pointer.isSome)
    (hleftover : past.leftover = stale { codec with pc }) :
    Coupled { past with published := Function.update past.published slave published }
      { codec with pc, slaveIrq := Function.update codec.slaveIrq slave pointer } := by
  refine ⟨h.locked, hleftover, fun other ↦ ?_, h.callback⟩
  by_cases hother : other = slave
  · subst hother
    simpa using hpointer
  · simpa [hother] using h.published other

theorem Coupled.drive (h : Coupled past codec) (hintact : Intact codec) (ok : Bool)
    (hharmless : Harmless codec (.drive ok)) :
    Coupled (past.note codec.pc (.drive ok)) (drive ok codec) := by
  rcases codec with ⟨pc, virq, irq, irqChip, slaveIrq, devm, domains, callback, locked, log, fault⟩
  have hshape := hintact.shape
  have hleftover := h.leftover
  dsimp only at hshape hleftover
  cases hshape with
  | unbound _ => exact h.stay rfl hleftover
  | prepare _ => cases ok <;> exact h.stay rfl hleftover
  | createDomain _ =>
    cases ok with
    | false => exact h.stay rfl hleftover
    | true =>
      -- The new domain is none that a running callback can have found.
      refine ⟨h.locked, hleftover, h.published, fun slave ↦ ?_⟩
      refine (h.callback slave).trans (Option.map_congr fun pointer hpointer ↦ ?_)
      have hold : pointer ≠ some domains := by
        rintro rfl
        exact hintact.callback slave domains hpointer (hintact.lives.fresh .domain domains (Nat.le_refl _))
      cases pointer with
      | none => rfl
      | some id => exact (beq_eq_false_iff_ne.2 hold).symm
  | addAction _ _ => cases ok <;> exact h.stay rfl hleftover
  | createMapping _ _ => cases ok <;> exact h.stay rfl hleftover
  | addChip _ _ =>
    cases ok with
    | false => exact h.stay rfl hleftover
    | true => exact h.stay rfl rfl
  | publish slave _ =>
    cases slave with
    | rx => exact h.write (.publish .tx) .rx rfl hleftover
    | tx => exact h.write .register .tx rfl hleftover
  | register _ => cases ok <;> exact h.stay rfl hleftover
  | bound _ => exact h.stay rfl rfl
  | retract slave _ =>
    cases slave with
    | rx => exact h.write (.retract .tx) .rx rfl hleftover
    | tx => exact h.write .release .tx rfl hleftover
  | clear slave _ | clearFailed slave _ _ _ _ =>
    cases slave with
    | rx => exact h.write (.clear .tx) .rx rfl hleftover
    | tx => exact h.write .deleteChip .tx rfl hleftover
  | deleteChip id =>
    rw [drive_deleteChip]
    exact h.stay rfl hleftover
  | deleteFailed _ _ _ _ =>
    obtain rfl : irqChip = none := irqChip_eq_none rfl rfl hharmless
    exact h.stay rfl hleftover
  | removeAction _ _ _ => exact h.stay rfl hleftover
  | disposeMapping _ _ _ hirq => rcases hirq with rfl | rfl <;> exact h.stay rfl hleftover
  | removeDomain _ _ =>
    refine ⟨h.locked, hleftover, h.published, fun slave ↦ ?_⟩
    change (past.callback slave).map (fun _ ↦ false) = _
    rw [h.callback slave, Option.map_map]
    refine Option.map_congr fun pointer _ ↦ ?_
    cases pointer <;> rfl
  | releaseChip _ | releaseDomain _ | released _ => exact h.stay rfl hleftover

theorem Coupled.step {action : Action} (h : Coupled past codec) (hintact : Intact codec)
    (hharmless : Harmless codec action) :
    Coupled (past.note codec.pc action) (Acpi.step codec action) := by
  cases action with
  | drive ok => exact h.drive hintact ok hharmless
  | enter slave =>
    have hidle : past.callback slave = none ↔ codec.callback slave = none := by
      rw [h.callback slave, Option.map_eq_none_iff]
    rw [Past.note, Acpi.step, Codec.enter]
    by_cases hnone : codec.callback slave = none
    · rw [if_pos (hidle.2 hnone), if_pos ⟨hnone, h.locked slave⟩]
      refine ⟨h.locked, h.leftover, h.published, fun other ↦ ?_⟩
      by_cases hother : other = slave
      · subst hother
        have hslaves := hintact.slaves other
        simp only [Function.update_self, Option.map_some, h.published]
        cases hpointer : codec.slaveIrq other with
        | none => rfl
        | some id => simp [(hslaves id hpointer).1]
      · simpa [hother] using h.callback other
    · rw [if_neg (hidle.not.2 hnone), if_neg fun hboth ↦ hnone hboth.1]
      exact h
  | dispatch slave =>
    rw [Acpi.step, Codec.dispatch]
    split <;> exact ⟨h.locked, h.leftover, h.published, h.callback⟩
  | leave slave =>
    refine ⟨h.locked, h.leftover, h.published, fun other ↦ ?_⟩
    by_cases hother : other = slave
    · simp [hother, Past.note, Acpi.step, Codec.leave]
    · simpa [hother, Past.note, Acpi.step, Codec.leave] using h.callback other

/-- What the past permits is what is harmless. -/
theorem Coupled.permits_iff (h : Coupled past codec) (hintact : Intact codec) (action : Action) :
    past.Permits codec.pc action ↔ Harmless codec action := by
  cases action with
  | drive ok =>
    refine forall_congr' fun hpc ↦ ?_
    have hshape := hintact.shape
    rw [h.leftover, stale]
    rw [hpc] at hshape ⊢
    generalize codec.virq = virq, codec.irq = irq, codec.irqChip = irqChip, codec.devm = devm at hshape ⊢
    cases hshape with
    | deleteChip => simp [Pc.unwinds]
    | deleteFailed => cases irqChip <;> simp [Pc.unwinds]
  | dispatch slave =>
    rw [Past.Permits, Harmless, h.callback slave]
    cases codec.callback slave with
    | none => simp
    | some pointer => cases pointer <;> simp
  | enter slave => exact Iff.rfl
  | leave slave => exact Iff.rfl

/-- The state is intact, and the past tells of it. -/
structure Tracked (past : Past) (codec : Codec Pc) : Prop where
  intact : Intact codec
  coupled : Coupled past codec

theorem Tracked.step {action : Action} (h : Tracked past codec) (hpermits : past.Permits codec.pc action) :
    Tracked (past.note codec.pc action) (Acpi.step codec action) := by
  have hharmless := (h.coupled.permits_iff h.intact action).1 hpermits
  exact ⟨h.intact.step hharmless, h.coupled.step h.intact hharmless⟩

theorem Tracked.foldl {history : List Action} (h : Tracked past codec)
    (hcareful : CarefulFrom codec past history) : Intact (history.foldl Acpi.step codec) := by
  induction history generalizing codec past with
  | nil => exact h.intact
  | cons action history ih => exact ih (h.step hcareful.1) hcareful.2

theorem CarefulFrom.earlier {earlier later : List Action} (h : CarefulFrom codec past (earlier ++ later)) :
    CarefulFrom codec past earlier := by
  induction earlier generalizing codec past with
  | nil => trivial
  | cons action earlier ih => exact ⟨h.1, ih h.2⟩

/-- What goes wrong once is in the log for good. -/
theorem Tracked.carefulFrom {history : List Action} (h : Tracked past codec)
    (hsound : SoundLives (history.foldl Acpi.step codec).log)
    (hfault : (history.foldl Acpi.step codec).fault = false) :
    CarefulFrom codec past history := by
  induction history generalizing codec past with
  | nil => trivial
  | cons action history ih =>
    rw [List.foldl_cons] at hsound hfault
    have hpermits : past.Permits codec.pc action := by
      rw [h.coupled.permits_iff h.intact]
      by_contra hharmful
      obtain ⟨⟨later, hlater⟩, hlasting⟩ := log_foldl history (Acpi.step codec action)
      rw [← hlater] at hsound
      have hearlier : SoundLives (Acpi.step codec action).log := hsound.earlier
      cases action with
      | drive ok => exact h.intact.not_sound_drive hharmful hearlier
      | enter slave => exact hharmful trivial
      | dispatch slave =>
        rw [hlasting (h.intact.not_sound_dispatch hharmful hearlier)] at hfault
        exact Bool.noConfusion hfault
      | leave slave => exact hharmful trivial
    exact ⟨hpermits, ih (h.step hpermits) hsound hfault⟩

theorem tracked_initial : Tracked .initial (.initial .unbound) where
  intact := ⟨rfl, .unbound none, (Stacked.nil fun _ ↦ false).forget fun _ ↦ rfl, nofun, nofun, nofun⟩
  coupled := ⟨fun _ ↦ rfl, rfl, fun _ ↦ rfl, fun _ ↦ rfl⟩

/-- What is meant to hold in a history: resources are used and released only while they are there, no
callback dispatches without a domain, and whenever the codec is unbound, each resource that was created
has been released exactly once. -/
structure Kept (history : List Action) : Prop where
  sound : SoundLives (run history).log
  fault : (run history).fault = false
  once : ∀ earlier, earlier <+: history → (run earlier).pc = .unbound →
    ∀ resource, .created resource ∈ (run earlier).log →
      (run earlier).log.count (.released resource) = 1

/-- **The interrupts of the codec in the ACPI series.** The lifetimes are kept in exactly those histories
in which no bind fails with a cleanup after an unbinding before it has added a chip of its own, and every
callback that dispatches was entered while its slave was published, with no removal of the domain since. -/
theorem kept_iff (history : List Action) :
    Kept history ↔ CarefulFrom (.initial .unbound) .initial history := by
  constructor
  · exact fun h ↦ tracked_initial.carefulFrom h.sound h.fault
  · intro hcareful
    have h := tracked_initial.foldl hcareful
    refine ⟨h.lives.sound, h.fault, ?_⟩
    rintro earlier ⟨later, rfl⟩ hpc resource hcreated
    have hearlier : Intact (run earlier) := tracked_initial.foldl hcareful.earlier
    refine hearlier.lives.sound.released_once hcreated fun hlive ↦ ?_
    have htop := ((hearlier.lives.live resource.kind resource.id).1 hlive).1
    have hshape := hearlier.shape
    rw [hpc] at hshape
    rw [hshape.virq_unbound] at htop
    exact Option.some_ne_none resource.id htop.symm

/-- A binding and an unbinding, and then a bind that fails to create its mapping, up to the point where
its cleanup has deleted the chip. -/
def failedRebind : List Action :=
  List.replicate 17 (.drive true) ++ List.replicate 4 (.drive true) ++ [.drive false] ++
    List.replicate 3 (.drive true)

/-- The cleanup of a failed rebind follows the pointer to the chip of the earlier binding.  A callback
dispatches without a domain before the first binding, and through a removed domain if the codec is
unbound while it runs. -/
theorem not_kept_failedRebind :
    ¬Kept failedRebind ∧ ¬Kept [.enter .rx, .dispatch .rx] ∧
      ¬Kept (List.replicate 9 (.drive true) ++ [.enter .rx] ++ List.replicate 8 (.drive true) ++
        [.dispatch .rx]) := by
  refine ⟨fun h ↦ absurd h.sound (by decide), fun h ↦ absurd h.fault (by decide), fun h ↦ ?_⟩
  exact absurd h.sound (by decide)

end TclB220G.Audio.Acpi
