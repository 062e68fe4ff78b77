import Mathlib.Data.List.Basic
import Mathlib.Data.List.Induction
import TclB220G.Kernel.Errno
import TclB220G.Lib.Lifetime

/-!
# The GLINK subdevice of a remote processor

The subdevice holds a reference to the node that describes its edge, is linked into the list of the remote
processor, and registers an edge whenever the processor is started.  Whether it was added is not kept
anywhere: `qcom_remove_glink_subdev` goes by the pointer to the node.  `qcom_add_glink_subdev` sets this
pointer before it duplicates the name of the subsystem, and if there is no memory for the name it returns
without linking the subdevice.
-/

namespace TclB220G.Remoteproc

open Kernel Kernel.Errno Lib

/-- A reference to a node, an edge, or the place of the subdevice in the list of its processor. -/
inductive GlinkKind where
  | reference | edge | link
  deriving DecidableEq, Repr

structure GlinkResource where
  kind : GlinkKind
  id : ℕ
  deriving DecidableEq, Repr

/-- The pointer `glink->edge`. -/
inductive GlinkEdge where
  | null
  | error (errno : Errno)
  | edge (id : ℕ)
  deriving DecidableEq, Repr

/-- The fields of `struct qcom_rproc_glink`, whether the processor has started the subdevice, and what has
happened so far.  A pointer to a node is the number of the reference that was taken with it. -/
structure Glink where
  node : Option ℕ
  fwnode : Option ℕ
  ssrName : Bool
  irq : ℤ
  edge : GlinkEdge
  subdev : Option ℕ
  started : Bool
  next : ℕ
  log : List (LifeEvent GlinkResource)

namespace Glink

/-- A subdevice in memory that was only zeroed. -/
def unused : Glink := ⟨none, none, false, 0, .null, none, false, 0, []⟩

variable (glink : Glink)

/-- A resource with a new number. -/
def create (kind : GlinkKind) : Glink :=
  { glink with next := glink.next + 1, log := .created ⟨kind, glink.next⟩ :: glink.log }

def release (kind : GlinkKind) (id : ℕ) : Glink :=
  { glink with log := .released ⟨kind, id⟩ :: glink.log }

/-- Dropping a reference does nothing for a null pointer. -/
def put (pointer : Option ℕ) : Glink :=
  { glink with log := (pointer.map fun id ↦ .released ⟨.reference, id⟩).toList ++ glink.log }

def use (pointer : Option ℕ) : Glink :=
  { glink with log := (pointer.map fun id ↦ .used ⟨.reference, id⟩).toList ++ glink.log }

def rprocAddSubdev : Glink := { glink.create .link with subdev := some glink.next }

/-- Unlinking a subdevice that is not in the list releases a place that does not exist. -/
def rprocRemoveSubdev : Glink :=
  { glink.release .link (glink.subdev.getD glink.next) with subdev := none }

/-- The end of `qcom_add_glink_subdev`. -/
def finishAdd (duplicated : Bool) : Glink :=
  if !duplicated then { glink with ssrName := false }
  else rprocAddSubdev { glink with ssrName := true }

/-- `qcom_add_glink_subdev`: whether the parent of the processor has a device tree node, whether its node
has the child `glink-edge`, the answer of `fwnode_irq_get_byname`, and whether there is memory for the
name. -/
def qcomAddGlinkSubdev (ofNode child : Bool) (irq : ℤ) (duplicated : Bool) (glink : Glink) : Glink :=
  if ofNode then
    if child then finishAdd { glink.create .reference with node := some glink.next } duplicated
    else { glink with node := none }
  else if child then
    if irq < 0 then (glink.create .reference).put (some glink.next)
    else
      finishAdd { glink.create .reference with fwnode := some glink.next, irq := irq } duplicated
  else glink

/-- `qcom_add_glink_subdev_fwnode`, with pointers that may be null. -/
def qcomAddGlinkSubdevFwnode (fwnode ssrName : Bool) (irq : ℤ) (duplicated : Bool) (glink : Glink) :
    ℤ × Glink :=
  if !fwnode || !ssrName || irq ≤ 0 then (if irq < 0 then irq else EINVAL.ret, glink)
  else if glink.node.isSome || glink.fwnode.isSome then (EBUSY.ret, glink)
  else if !duplicated then (ENOMEM.ret, { glink with ssrName := false })
  else
    (0, rprocAddSubdev
      { glink.create .reference with ssrName := true, fwnode := some glink.next, irq := irq })

/-- `glink_subdev_start`, which registers the edge with one of the two nodes. -/
def glinkSubdevStart (registered : Except Errno Unit) (glink : Glink) : Glink :=
  let glink := glink.use (if glink.fwnode.isSome then glink.fwnode else glink.node)
  match registered with
  | .error errno => { glink with edge := .error errno }
  | .ok _ => { glink.create .edge with edge := .edge glink.next }

/-- The pointer that `qcom_add_glink_subdev` sets. -/
def pointer (ofNode : Bool) (glink : Glink) : Option ℕ :=
  if ofNode then glink.node else glink.fwnode

def glinkSubdevStop : Glink :=
  match glink.edge with
  | .edge id => { glink.release .edge id with edge := .null }
  | _ => { glink with edge := .null }

def qcomRemoveGlinkSubdev : Glink :=
  if glink.node.isNone && glink.fwnode.isNone then glink
  else
    let glink := (glink.rprocRemoveSubdev.put glink.node).put glink.fwnode
    { glink with node := none, fwnode := none, ssrName := false }

end Glink

/-- What is done with the subdevice. -/
inductive GlinkOp where
  | add (child : Bool) (irq : ℤ) (duplicated : Bool)
  | addFwnode (fwnode ssrName : Bool) (irq : ℤ) (duplicated : Bool)
  | start (registered : Except Errno Unit)
  | stop
  | remove

variable (ofNode : Bool)

/-- One operation.  The core starts and stops the subdevices in its list, and does not start what it has
started already. -/
def glinkStep (glink : Glink) : GlinkOp → Glink
  | .add child irq duplicated => glink.qcomAddGlinkSubdev ofNode child irq duplicated
  | .addFwnode fwnode ssrName irq duplicated =>
    (glink.qcomAddGlinkSubdevFwnode fwnode ssrName irq duplicated).2
  | .start registered =>
    if glink.subdev.isSome && !glink.started then
      { glink.glinkSubdevStart registered with started := registered.isOk }
    else glink
  | .stop => if glink.subdev.isSome then { glink.glinkSubdevStop with started := false } else glink
  | .remove => glink.qcomRemoveGlinkSubdev

def glinkRun (glink : Glink) (ops : List GlinkOp) : Glink :=
  ops.foldl (glinkStep ofNode) glink

/-- An addition that leaves something behind.  If it finds no node, it clears the pointer to a node of the
device tree.  Otherwise it is wrong for a subdevice that is not linked if there is no memory for the name,
and for one that is linked if it links it again or has a pointer already. -/
def GlinkOp.astray (glink : Glink) : GlinkOp → Bool
  | .add child irq duplicated =>
    if !child then ofNode && glink.node.isSome
    else if ofNode || decide (0 ≤ irq) then
      if glink.subdev.isSome then duplicated || (glink.pointer ofNode).isSome else !duplicated
    else false
  | _ => false

/-- Nothing is created twice, or used or released while it is not live, and nothing is live after a
removal. -/
structure GlinkKept (ops : List GlinkOp) : Prop where
  sound : SoundLives (glinkRun ofNode .unused ops).log
  removed : Throughout (fun earlier op ↦ op = .remove → ∀ resource,
    lifeStage (glinkRun ofNode .unused (earlier ++ [.remove])).log resource ≠ .live) ops

/-- No addition leaves anything behind. -/
def GlinkClean : List GlinkOp → Prop :=
  Throughout fun earlier op ↦ op.astray ofNode (glinkRun ofNode .unused earlier) = false

/-- A subdevice is removed only while the processor has not started it, and if no addition before left
anything behind. -/
def GlinkProper : List GlinkOp → Prop :=
  Throughout fun earlier op ↦ op = .remove →
    (glinkRun ofNode .unused earlier).started = false ∧ GlinkClean ofNode earlier

namespace Glink

variable {ofNode : Bool} {glink next : Glink} {kind : GlinkKind} {id : ℕ} {resource : GlinkResource}

/-- The resources that the subdevice can reach. -/
def Owns (glink : Glink) : GlinkResource → Prop
  | ⟨.reference, id⟩ => glink.node = some id ∨ glink.fwnode = some id
  | ⟨.edge, id⟩ => glink.edge = .edge id
  | ⟨.link, id⟩ => glink.subdev = some id

/-- What every pointer is good for as long as nothing is removed. -/
structure Lives (glink : Glink) : Prop where
  sound : SoundLives glink.log
  fresh : ∀ kind id, glink.next ≤ id → lifeStage glink.log ⟨kind, id⟩ = .absent
  live : ∀ resource, glink.Owns resource → lifeStage glink.log resource = .live
  distinct : ∀ id, glink.node = some id → glink.fwnode ≠ some id

/-- Nothing is out of reach. -/
structure Reached (glink : Glink) : Prop extends Lives glink where
  owned : ∀ resource, lifeStage glink.log resource = .live → glink.Owns resource

/-- The pointers to the nodes also say whether the subdevice is linked. -/
structure Intact (glink : Glink) : Prop extends Reached glink where
  linked : glink.subdev.isSome = (glink.node.isSome || glink.fwnode.isSome)
  running : glink.started = true ↔ ∃ id, glink.edge = .edge id
  started : glink.started = true → glink.subdev.isSome = true

/-- What a change does that removes nothing: pointers are set to new resources only, and what is out of
reach stays. -/
structure Grows (glink next : Glink) : Prop where
  lives : next.Lives
  next_le : glink.next ≤ next.next
  owns : ∀ resource, next.Owns resource → glink.Owns resource ∨ glink.next ≤ resource.id
  stays : ∀ resource, lifeStage glink.log resource = .live → ¬ glink.Owns resource →
    lifeStage next.log resource = .live

theorem Lives.lt_next (h : glink.Lives) (hlive : lifeStage glink.log resource = .live) :
    resource.id < glink.next := by
  by_contra hle
  have habsent := h.fresh resource.kind resource.id (Nat.le_of_not_lt hle)
  rw [hlive] at habsent
  exact LifeStage.noConfusion habsent

theorem Grows.refl (h : glink.Lives) : glink.Grows glink :=
  ⟨h, Nat.le_refl _, fun _ ↦ Or.inl, fun _ hlive _ ↦ hlive⟩

theorem Grows.trans {last : Glink} (h : glink.Lives) (hfirst : glink.Grows next)
    (hsecond : next.Grows last) : glink.Grows last where
  lives := hsecond.lives
  next_le := Nat.le_trans hfirst.next_le hsecond.next_le
  owns resource howns := by
    rcases hsecond.owns resource howns with howns | hle
    · exact hfirst.owns resource howns
    · exact .inr (Nat.le_trans hfirst.next_le hle)
  stays resource hlive hnot := by
    refine hsecond.stays resource (hfirst.stays resource hlive hnot) fun howns ↦ ?_
    rcases hfirst.owns resource howns with howns | hle
    · exact hnot howns
    · exact absurd (h.lt_next hlive) (Nat.not_lt.2 hle)

theorem lifeStage_create : lifeStage (glink.create kind).log resource =
    if resource = ⟨kind, glink.next⟩ then .live else lifeStage glink.log resource :=
  lifeStage_created

variable (kind) in
/-- A new resource, and a pointer to it. -/
theorem Lives.create (h : glink.Lives) (hlog : next.log = (glink.create kind).log)
    (hnext : next.next = glink.next + 1)
    (howns : ∀ resource, next.Owns resource → glink.Owns resource ∨ resource = ⟨kind, glink.next⟩)
    (hdistinct : ∀ id, next.node = some id → next.fwnode ≠ some id) : glink.Grows next where
  lives :=
    { sound := hlog ▸ h.sound.created (h.fresh kind _ (Nat.le_refl _))
      fresh := by
        intro other id hle
        rw [hlog, lifeStage_create, if_neg (by simp; omega)]
        exact h.fresh other id (by omega)
      live := by
        intro resource hresource
        rw [hlog, lifeStage_create]
        split_ifs with heq
        · rfl
        · exact h.live resource ((howns resource hresource).resolve_right heq)
      distinct := hdistinct }
  next_le := hnext ▸ Nat.le_succ _
  owns resource hresource := by
    rcases howns resource hresource with howns | rfl
    · exact .inl howns
    · exact .inr (Nat.le_refl _)
  stays resource hlive _ := by
    have hlt := h.lt_next hlive
    rw [hlog, lifeStage_create, if_neg (by rintro rfl; exact absurd hlt (Nat.lt_irrefl _))]
    exact hlive

theorem Lives.rprocAddSubdev (h : glink.Lives) : glink.Grows glink.rprocAddSubdev := by
  refine h.create .link rfl rfl ?_ h.distinct
  rintro ⟨kind, id⟩ howns
  cases kind <;> simp_all [Owns, Glink.rprocAddSubdev, Glink.create]

theorem Lives.of_ssrName (h : glink.Lives) (ssrName : Bool) :
    Lives { glink with ssrName := ssrName } :=
  ⟨h.sound, h.fresh, h.live, h.distinct⟩

theorem Lives.finishAdd (h : glink.Lives) (duplicated : Bool) :
    glink.Grows (glink.finishAdd duplicated) := by
  cases duplicated with
  | false => exact ⟨h.of_ssrName false, Nat.le_refl _, fun _ ↦ .inl, fun _ hlive _ ↦ hlive⟩
  | true =>
    have hgrows := (h.of_ssrName true).rprocAddSubdev
    exact ⟨hgrows.lives, hgrows.next_le, hgrows.owns, hgrows.stays⟩

variable (kind) in
/-- The pointers do not know the next number yet. -/
theorem Lives.ne_next (h : glink.Lives) : ¬ glink.Owns ⟨kind, glink.next⟩ :=
  fun howns ↦ Nat.lt_irrefl _ (h.lt_next (h.live _ howns))

theorem Lives.takeNode (h : glink.Lives) :
    glink.Grows { glink.create .reference with node := some glink.next } := by
  refine h.create .reference rfl rfl ?_ ?_
  · rintro ⟨kind, id⟩ howns
    cases kind <;> simp_all [Owns, Glink.create]
    tauto
  · intro id hnode hfwnode
    obtain rfl : glink.next = id := Option.some.inj hnode
    exact h.ne_next .reference (.inr hfwnode)

theorem Lives.takeFwnode (h : glink.Lives) (irq : ℤ) :
    glink.Grows { glink.create .reference with fwnode := some glink.next, irq := irq } := by
  refine h.create .reference rfl rfl ?_ ?_
  · rintro ⟨kind, id⟩ howns
    cases kind <;> simp_all [Owns, Glink.create]
    tauto
  · intro id hnode hfwnode
    obtain rfl : glink.next = id := Option.some.inj hfwnode
    exact h.ne_next .reference (.inl hnode)

theorem lifeStage_release : lifeStage (glink.release kind id).log resource =
    if resource = ⟨kind, id⟩ then .gone else lifeStage glink.log resource :=
  lifeStage_released

/-- A live resource is released, and no pointer to it is kept. -/
theorem Lives.release (h : glink.Lives) (hlive : lifeStage glink.log ⟨kind, id⟩ = .live)
    (hlog : next.log = (glink.release kind id).log) (hnext : next.next = glink.next)
    (howns : ∀ resource, next.Owns resource → glink.Owns resource ∧ resource ≠ ⟨kind, id⟩)
    (hdistinct : ∀ id, next.node = some id → next.fwnode ≠ some id) : next.Lives where
  sound := hlog ▸ h.sound.released hlive
  fresh other number hle := by
    have hlt := h.lt_next hlive
    have hne : (⟨other, number⟩ : GlinkResource) ≠ ⟨kind, id⟩ := by
      rintro ⟨rfl, rfl⟩
      exact absurd hlt (Nat.not_lt.2 (hnext ▸ hle))
    rw [hlog, lifeStage_release, if_neg hne]
    exact h.fresh other number (hnext ▸ hle)
  live resource hresource := by
    rw [hlog, lifeStage_release, if_neg (howns resource hresource).2]
    exact h.live resource (howns resource hresource).1
  distinct := hdistinct

/-- A reference that is dropped at once. -/
theorem Lives.takeAndPut (h : glink.Lives) :
    glink.Grows ((glink.create .reference).put (some glink.next)) := by
  have hgrows : glink.Grows (glink.create .reference) :=
    h.create .reference rfl rfl (fun _ ↦ .inl) h.distinct
  have hnew : ∀ resource, lifeStage glink.log resource = .live → resource ≠ ⟨.reference, glink.next⟩ := by
    rintro _ hlive rfl
    exact Nat.lt_irrefl _ (h.lt_next hlive)
  refine ⟨?_, hgrows.next_le, hgrows.owns, ?_⟩
  · refine hgrows.lives.release (lifeStage_create.trans (if_pos rfl)) rfl rfl ?_ h.distinct
    exact fun resource howns ↦ ⟨howns, hnew resource (h.live resource howns)⟩
  · intro resource hlive hnot
    exact (lifeStage_release.trans (if_neg (hnew resource hlive))).trans
      (hgrows.stays resource hlive hnot)

/-- A pointer is cleared. -/
theorem Lives.forget (h : glink.Lives) (hlog : next.log = glink.log) (hnext : next.next = glink.next)
    (howns : ∀ resource, next.Owns resource → glink.Owns resource)
    (hdistinct : ∀ id, next.node = some id → next.fwnode ≠ some id) : glink.Grows next where
  lives :=
    { sound := hlog ▸ h.sound
      fresh := by rw [hlog, hnext]; exact h.fresh
      live := fun resource hresource ↦ hlog ▸ h.live resource (howns resource hresource)
      distinct := hdistinct }
  next_le := Nat.le_of_eq hnext.symm
  owns resource hresource := .inl (howns resource hresource)
  stays resource hlive _ := hlog ▸ hlive

theorem Lives.qcomAddGlinkSubdev (h : glink.Lives) (child : Bool) (irq : ℤ) (duplicated : Bool) :
    glink.Grows (glink.qcomAddGlinkSubdev ofNode child irq duplicated) := by
  unfold Glink.qcomAddGlinkSubdev
  split_ifs
  · exact h.takeNode.trans h (h.takeNode.lives.finishAdd duplicated)
  · refine h.forget rfl rfl ?_ nofun
    rintro ⟨kind, id⟩ howns
    cases kind <;> simp_all [Owns]
  · exact h.takeAndPut
  · exact (h.takeFwnode irq).trans h ((h.takeFwnode irq).lives.finishAdd duplicated)
  · exact .refl h

theorem Lives.qcomAddGlinkSubdevFwnode (h : glink.Lives) (fwnode ssrName : Bool) (irq : ℤ)
    (duplicated : Bool) :
    glink.Grows (glink.qcomAddGlinkSubdevFwnode fwnode ssrName irq duplicated).2 := by
  unfold Glink.qcomAddGlinkSubdevFwnode
  split_ifs
  · exact .refl h
  · exact .refl h
  · exact .refl h
  · exact h.finishAdd false
  · exact (h.takeFwnode irq).trans h ((h.takeFwnode irq).lives.finishAdd true)

theorem Lives.use (h : glink.Lives) {pointer : Option ℕ}
    (hpointer : ∀ id, pointer = some id → glink.Owns ⟨.reference, id⟩) :
    glink.Grows (glink.use pointer) := by
  cases pointer with
  | none => exact .refl h
  | some id =>
    have hsound := h.sound.used (h.live _ (hpointer id rfl))
    exact ⟨⟨hsound, h.fresh, h.live, h.distinct⟩, Nat.le_refl _, fun _ ↦ .inl, fun _ hlive _ ↦ hlive⟩

theorem Lives.glinkSubdevStart (h : glink.Lives) (registered : Except Errno Unit) :
    glink.Grows (glink.glinkSubdevStart registered) := by
  have huse : glink.Grows (glink.use (if glink.fwnode.isSome then glink.fwnode else glink.node)) := by
    refine h.use fun id hid ↦ ?_
    split_ifs at hid
    · exact .inr hid
    · exact .inl hid
  refine huse.trans h ?_
  cases registered with
  | error errno =>
    refine huse.lives.forget rfl rfl ?_ huse.lives.distinct
    rintro ⟨kind, id⟩ howns
    cases kind <;> simp_all [Owns, Glink.glinkSubdevStart]
  | ok _ =>
    refine huse.lives.create .edge rfl rfl ?_ huse.lives.distinct
    rintro ⟨kind, id⟩ howns
    cases kind <;> simp_all [Owns, Glink.create, Glink.glinkSubdevStart]

theorem Lives.glinkSubdevStop (h : glink.Lives) : glink.Grows glink.glinkSubdevStop := by
  unfold Glink.glinkSubdevStop
  split
  · rename_i id hedge
    have howns : ∀ resource, Owns { glink.release .edge id with edge := .null } resource →
        glink.Owns resource ∧ resource ≠ ⟨.edge, id⟩ := by
      rintro ⟨kind, other⟩ howns
      cases kind <;> simp_all [Owns, Glink.release]
    refine ⟨h.release (h.live ⟨.edge, id⟩ hedge) rfl rfl howns h.distinct, Nat.le_refl _,
      fun resource hresource ↦ .inl (howns resource hresource).1, ?_⟩
    intro resource hlive hnot
    refine (lifeStage_release.trans (if_neg ?_)).trans hlive
    rintro rfl
    exact hnot hedge
  · refine h.forget rfl rfl ?_ h.distinct
    rintro ⟨kind, id⟩ howns
    cases kind <;> simp_all [Owns]

/-- Whether the processor has started the subdevice is not a matter of its resources. -/
theorem Grows.started (h : glink.Grows next) (started : Bool) :
    glink.Grows { next with started := started } :=
  ⟨⟨h.lives.sound, h.lives.fresh, h.lives.live, h.lives.distinct⟩, h.next_le, h.owns, h.stays⟩

theorem Lives.step (h : glink.Lives) (op : GlinkOp) (hop : op ≠ .remove) :
    glink.Grows (glinkStep ofNode glink op) := by
  cases op with
  | add child irq duplicated => exact h.qcomAddGlinkSubdev child irq duplicated
  | addFwnode fwnode ssrName irq duplicated =>
    exact h.qcomAddGlinkSubdevFwnode fwnode ssrName irq duplicated
  | start registered =>
    rw [glinkStep]
    split_ifs
    · exact (h.glinkSubdevStart registered).started _
    · exact .refl h
  | stop =>
    rw [glinkStep]
    split_ifs
    · exact h.glinkSubdevStop.started _
    · exact .refl h
  | remove => exact absurd rfl hop

variable (kind) in
theorem Reached.create (h : glink.Reached) (hlog : next.log = (glink.create kind).log)
    (hnext : next.next = glink.next + 1)
    (howns : ∀ resource, next.Owns resource ↔ glink.Owns resource ∨ resource = ⟨kind, glink.next⟩)
    (hdistinct : ∀ id, next.node = some id → next.fwnode ≠ some id) : next.Reached where
  toLives := (h.toLives.create kind hlog hnext (fun resource ↦ (howns resource).1) hdistinct).lives
  owned resource hlive := by
    rw [hlog, lifeStage_create] at hlive
    split_ifs at hlive with heq
    · exact (howns resource).2 (.inr heq)
    · exact (howns resource).2 (.inl (h.owned resource hlive))

theorem Reached.release (h : glink.Reached) (hlive : lifeStage glink.log ⟨kind, id⟩ = .live)
    (hlog : next.log = (glink.release kind id).log) (hnext : next.next = glink.next)
    (howns : ∀ resource, next.Owns resource ↔ glink.Owns resource ∧ resource ≠ ⟨kind, id⟩)
    (hdistinct : ∀ id, next.node = some id → next.fwnode ≠ some id) : next.Reached where
  toLives := h.toLives.release hlive hlog hnext (fun resource ↦ (howns resource).1) hdistinct
  owned resource hlive := by
    rw [hlog, lifeStage_release] at hlive
    split_ifs at hlive with heq
    exact (howns resource).2 ⟨h.owned resource hlive, heq⟩

/-- Nothing is done that the resources are about. -/
theorem Reached.congr (h : glink.Reached) (hlog : next.log = glink.log) (hnext : next.next = glink.next)
    (howns : ∀ resource, next.Owns resource ↔ glink.Owns resource)
    (hdistinct : ∀ id, next.node = some id → next.fwnode ≠ some id) : next.Reached where
  toLives := (h.forget hlog hnext (fun resource ↦ (howns resource).1) hdistinct).lives
  owned resource hlive := (howns resource).2 (h.owned resource (hlog ▸ hlive))

theorem Reached.rprocAddSubdev (h : glink.Reached) (hsubdev : glink.subdev = none) :
    glink.rprocAddSubdev.Reached := by
  refine h.create .link rfl rfl ?_ h.distinct
  rintro ⟨kind, id⟩
  cases kind <;> simp [Owns, Glink.rprocAddSubdev, Glink.create, hsubdev, eq_comm]

theorem Reached.takeNode (h : glink.Reached) (hnode : glink.node = none) :
    Reached { glink.create .reference with node := some glink.next } := by
  refine h.create .reference rfl rfl ?_ h.toLives.takeNode.lives.distinct
  rintro ⟨kind, id⟩
  cases kind <;> simp [Owns, Glink.create, hnode, eq_comm, or_comm]

theorem Reached.takeFwnode (h : glink.Reached) (hfwnode : glink.fwnode = none) (irq : ℤ) :
    Reached { glink.create .reference with fwnode := some glink.next, irq := irq } := by
  refine h.create .reference rfl rfl ?_ (h.toLives.takeFwnode irq).lives.distinct
  rintro ⟨kind, id⟩
  cases kind <;> simp [Owns, Glink.create, hfwnode, eq_comm]

theorem Reached.takeAndPut (h : glink.Reached) :
    ((glink.create .reference).put (some glink.next)).Reached where
  toLives := h.toLives.takeAndPut.lives
  owned resource hlive := by
    rw [show ((glink.create .reference).put (some glink.next)).log =
      ((glink.create .reference).release .reference glink.next).log from rfl, lifeStage_release] at hlive
    split_ifs at hlive with heq
    rw [lifeStage_create, if_neg heq] at hlive
    exact h.owned resource hlive

/-- A subdevice that is not started has no edge. -/
theorem Intact.no_edge (h : glink.Intact) (hstarted : glink.started = false) :
    glink.edge ≠ .edge id := by
  intro hedge
  rw [h.running.2 ⟨id, hedge⟩] at hstarted
  exact Bool.noConfusion hstarted

/-- A subdevice that is not linked has no pointers. -/
theorem Intact.not_linked (h : glink.Intact) (hsubdev : glink.subdev = none) :
    glink.node = none ∧ glink.fwnode = none ∧ glink.started = false ∧ ∀ id, glink.edge ≠ .edge id := by
  have hlinked := h.linked
  have hstarted : glink.started = false := by
    by_contra hstarted
    simpa [hsubdev] using h.started (by simpa using hstarted)
  refine ⟨?_, ?_, hstarted, ?_⟩
  · cases hnode : glink.node <;> simp_all
  · cases hfwnode : glink.fwnode <;> simp_all
  · exact fun _ ↦ h.no_edge hstarted

/-- The end of an addition is right if the name is there exactly if the subdevice has to be linked. -/
theorem Reached.finishAdd (h : glink.Reached) (duplicated : Bool)
    (hpointer : (glink.node.isSome || glink.fwnode.isSome) = true)
    (hrunning : glink.started = true ↔ ∃ id, glink.edge = .edge id)
    (hstarted : glink.started = true → glink.subdev.isSome = true)
    (hsubdev : glink.subdev.isSome = !duplicated) : (glink.finishAdd duplicated).Intact := by
  cases duplicated with
  | false =>
    have hreached : Reached { glink with ssrName := false } :=
      h.congr rfl rfl (fun _ ↦ Iff.rfl) h.distinct
    exact ⟨hreached, hsubdev.trans hpointer.symm, hrunning, hstarted⟩
  | true =>
    have hreached : Reached { glink with ssrName := true } :=
      h.congr rfl rfl (fun _ ↦ Iff.rfl) h.distinct
    exact ⟨hreached.rprocAddSubdev (by simpa using hsubdev), hpointer.symm, hrunning, fun _ ↦ rfl⟩

variable {irq : ℤ} {duplicated : Bool}

theorem Intact.add (h : glink.Intact) {child : Bool}
    (hnot : (GlinkOp.add child irq duplicated).astray ofNode glink = false) :
    (glink.qcomAddGlinkSubdev ofNode child irq duplicated).Intact := by
  have hsubdev : child = true → (ofNode || decide (0 ≤ irq)) = true →
      glink.subdev.isSome = !duplicated ∧ glink.pointer ofNode = none := by
    intro hchild htaken
    cases hlinked : glink.subdev with
    | none =>
      obtain ⟨hnode, hfwnode, -, -⟩ := h.not_linked hlinked
      simp_all [GlinkOp.astray, pointer]
    | some id => simp_all [GlinkOp.astray]
  unfold Glink.qcomAddGlinkSubdev
  split_ifs with hofNode hchild hchild hirq
  · obtain ⟨hlinked, hpointer⟩ := hsubdev hchild (by simp [hofNode])
    rw [pointer, if_pos hofNode] at hpointer
    exact (h.takeNode hpointer).finishAdd duplicated rfl h.running h.started hlinked
  · have hnode : glink.node = none := by simpa [GlinkOp.astray, hchild, hofNode] using hnot
    rw [← hnode]
    exact h
  · exact ⟨h.takeAndPut, h.linked, h.running, h.started⟩
  · obtain ⟨hlinked, hpointer⟩ := hsubdev hchild (by simp [hofNode]; omega)
    rw [pointer, if_neg hofNode] at hpointer
    exact (h.takeFwnode hpointer irq).finishAdd duplicated (Bool.or_true _) h.running h.started
      hlinked
  · exact h

theorem Intact.addFwnode (h : glink.Intact) (fwnode ssrName : Bool) (irq : ℤ) (duplicated : Bool) :
    (glink.qcomAddGlinkSubdevFwnode fwnode ssrName irq duplicated).2.Intact := by
  unfold Glink.qcomAddGlinkSubdevFwnode
  split_ifs with hargs hirq hbusy hduplicated
  · exact h
  · exact h
  · exact h
  · exact ⟨h.congr rfl rfl (fun _ ↦ Iff.rfl) h.distinct, h.linked, h.running, h.started⟩
  · have hpointers : glink.node = none ∧ glink.fwnode = none := by simpa using hbusy
    have hsubdev : glink.subdev.isSome = false := by simp [h.linked, hpointers]
    exact (h.takeFwnode hpointers.2 irq).finishAdd true (Bool.or_true _) h.running
      h.started hsubdev

theorem Intact.start (h : glink.Intact) (registered : Except Errno Unit)
    (hsubdev : glink.subdev.isSome = true) (hstarted : glink.started = false) :
    Intact { glink.glinkSubdevStart registered with started := registered.isOk } := by
  have hedge : ∀ id, glink.edge ≠ .edge id := fun _ ↦ h.no_edge hstarted
  -- The reference that the edge is registered with is one of the two pointers.
  have huse : ∃ id, (if glink.fwnode.isSome then glink.fwnode else glink.node) = some id ∧
      glink.Owns ⟨.reference, id⟩ := by
    have hpointer := h.linked.symm.trans hsubdev
    cases hfwnode : glink.fwnode with
    | none =>
      obtain ⟨id, hnode⟩ := Option.isSome_iff_exists.1 (by simpa [hfwnode] using hpointer)
      exact ⟨id, by simpa using hnode, .inl hnode⟩
    | some id => exact ⟨id, by simp, .inr hfwnode⟩
  obtain ⟨id, hid, howns⟩ := huse
  have hreached : (glink.use (some id)).Reached :=
    ⟨(h.use fun other hother ↦ Option.some.inj hother ▸ howns).lives, h.owned⟩
  unfold Glink.glinkSubdevStart
  rw [hid]
  cases registered with
  | error errno =>
    refine ⟨hreached.congr rfl rfl ?_ h.distinct, h.linked, ⟨nofun, nofun⟩, nofun⟩
    rintro ⟨kind, other⟩
    cases kind <;> simp [Owns, use, hedge]
  | ok _ =>
    refine ⟨hreached.create .edge rfl rfl ?_ h.distinct, h.linked, ⟨fun _ ↦ ⟨_, rfl⟩, fun _ ↦ rfl⟩,
      fun _ ↦ hsubdev⟩
    rintro ⟨kind, other⟩
    cases kind <;> simp [Owns, use, Glink.create, hedge, eq_comm]

theorem Intact.stop (h : glink.Intact) : Intact { glink.glinkSubdevStop with started := false } := by
  unfold Glink.glinkSubdevStop
  split
  · rename_i id hedge
    refine ⟨h.release (h.live ⟨.edge, id⟩ hedge) rfl rfl ?_ h.distinct, h.linked,
      ⟨nofun, nofun⟩, nofun⟩
    rintro ⟨kind, other⟩
    cases kind <;> simp [Owns, Glink.release, hedge, eq_comm]
  · rename_i hedge
    refine ⟨h.congr rfl rfl ?_ h.distinct, h.linked, ⟨nofun, nofun⟩, nofun⟩
    rintro ⟨kind, other⟩
    cases kind with
    | edge => exact ⟨nofun, fun howns ↦ (hedge other howns).elim⟩
    | _ => exact Iff.rfl

variable {op : GlinkOp}

theorem Intact.step (h : glink.Intact) (hop : op ≠ .remove) (hnot : op.astray ofNode glink = false) :
    (glinkStep ofNode glink op).Intact := by
  cases op with
  | add child irq duplicated => exact h.add hnot
  | addFwnode fwnode ssrName irq duplicated => exact h.addFwnode fwnode ssrName irq duplicated
  | start registered =>
    rw [glinkStep]
    split_ifs with hstart
    · rw [Bool.and_eq_true, Bool.not_eq_true'] at hstart
      exact h.start registered hstart.1 hstart.2
    · exact h
  | stop =>
    rw [glinkStep]
    split_ifs
    · exact h.stop
    · exact h
  | remove => exact absurd rfl hop

/-- Nothing is live once the subdevice has been taken out of the list. -/
theorem Intact.nothing (h : glink.Intact) (hsubdev : glink.subdev = none) :
    lifeStage glink.log resource ≠ .live := by
  obtain ⟨hnode, hfwnode, -, hedge⟩ := h.not_linked hsubdev
  intro hlive
  have howns := h.owned resource hlive
  obtain ⟨kind, id⟩ := resource
  cases kind <;> simp_all [Owns]

theorem Reached.rprocRemoveSubdev (h : glink.Reached) (hsubdev : glink.subdev.isSome = true) :
    glink.rprocRemoveSubdev.Reached := by
  obtain ⟨id, hid⟩ := Option.isSome_iff_exists.1 hsubdev
  refine h.release (h.live ⟨.link, id⟩ hid) (by simp [Glink.rprocRemoveSubdev, hid]) rfl ?_ h.distinct
  rintro ⟨kind, other⟩
  cases kind <;> simp [Owns, Glink.rprocRemoveSubdev, Glink.release, hid, eq_comm]

/-- One of the two references is dropped. -/
theorem Reached.putPointer (h : glink.Reached) (pointer : Option ℕ)
    (hlog : next.log = (glink.put pointer).log) (hnext : next.next = glink.next)
    (hedge : next.edge = glink.edge) (hsubdev : next.subdev = glink.subdev)
    (hpointer : ∀ id, pointer = some id → glink.Owns ⟨.reference, id⟩)
    (howns : ∀ id, next.Owns ⟨.reference, id⟩ ↔ glink.Owns ⟨.reference, id⟩ ∧ pointer ≠ some id)
    (hdistinct : ∀ id, next.node = some id → next.fwnode ≠ some id) : next.Reached := by
  cases pointer with
  | none =>
    refine h.congr hlog hnext ?_ hdistinct
    rintro ⟨kind, other⟩
    cases kind with
    | reference => simpa using howns other
    | edge => simp [Owns, hedge]
    | link => simp [Owns, hsubdev]
  | some id =>
    refine h.release (h.live _ (hpointer id rfl)) hlog hnext ?_ hdistinct
    rintro ⟨kind, other⟩
    cases kind with
    | reference => simpa [eq_comm] using howns other
    | edge => simp [Owns, hedge]
    | link => simp [Owns, hsubdev]

theorem Reached.putNode (h : glink.Reached) : Reached { glink.put glink.node with node := none } := by
  refine h.putPointer glink.node rfl rfl rfl rfl (fun _ ↦ .inl) ?_ nofun
  intro id
  have hdistinct := h.distinct id
  simp only [Owns]
  tauto

theorem Reached.putFwnode (h : glink.Reached) :
    Reached { glink.put glink.fwnode with fwnode := none } := by
  refine h.putPointer glink.fwnode rfl rfl rfl rfl (fun _ ↦ .inr) ?_ (fun _ _ ↦ nofun)
  intro id
  have hdistinct := h.distinct id
  simp only [Owns]
  tauto

/-- A removal empties the subdevice, unless the processor has started it. -/
theorem Intact.remove (h : glink.Intact) (hstarted : glink.started = false) :
    glink.qcomRemoveGlinkSubdev.Intact ∧ glink.qcomRemoveGlinkSubdev.subdev = none := by
  have hlinked := h.linked
  unfold qcomRemoveGlinkSubdev
  split_ifs with hnone
  · refine ⟨h, ?_⟩
    simp only [Bool.and_eq_true, Option.isNone_iff_eq_none] at hnone
    simpa [hnone] using hlinked
  · have hsubdev : glink.subdev.isSome = true := by
      rw [hlinked]
      cases hnode : glink.node <;> cases hfwnode : glink.fwnode <;> simp_all
    have hreached := (h.rprocRemoveSubdev hsubdev).putNode.putFwnode
    refine ⟨⟨hreached.congr rfl rfl (fun _ ↦ Iff.rfl) nofun, rfl, h.running, ?_⟩, rfl⟩
    exact fun hrunning ↦ absurd (hstarted.symm.trans hrunning) nofun

/-- Something is out of reach, or a pointer to a node says that a subdevice is linked that is not. -/
structure Astray (ofNode : Bool) (glink : Glink) : Prop extends Lives glink where
  lost : (∃ resource, lifeStage glink.log resource = .live ∧ ¬ glink.Owns resource) ∨
    (glink.pointer ofNode).isSome = true ∧ glink.subdev = none

theorem lifeStage_finishAdd (hlive : lifeStage glink.log resource = .live) :
    lifeStage (glink.finishAdd duplicated).log resource = .live := by
  cases duplicated with
  | false => exact hlive
  | true =>
    refine lifeStage_create.trans ?_
    split_ifs
    · rfl
    · exact hlive

theorem finishAdd_owns_reference :
    (glink.finishAdd duplicated).Owns ⟨.reference, id⟩ ↔ glink.Owns ⟨.reference, id⟩ := by
  cases duplicated <;> exact Iff.rfl

/-- A reference is lost if its pointer is set once more. -/
theorem Lives.overwrite (h : glink.Lives) {child : Bool} (hpointer : glink.pointer ofNode = some id)
    (hset : (ofNode || child && decide (0 ≤ irq)) = true) :
    (glink.qcomAddGlinkSubdev ofNode child irq duplicated).Astray ofNode := by
  refine ⟨(h.qcomAddGlinkSubdev child irq duplicated).lives, .inl ⟨⟨.reference, id⟩, ?_⟩⟩
  have howns : glink.Owns ⟨.reference, id⟩ := by
    unfold pointer at hpointer
    split_ifs at hpointer
    · exact .inl hpointer
    · exact .inr hpointer
  have hlive := h.live _ howns
  have hne : glink.next ≠ id := (Nat.ne_of_lt (h.lt_next hlive)).symm
  have hcreate : lifeStage (glink.create .reference).log ⟨.reference, id⟩ = .live :=
    lifeStage_create.trans (by rw [hlive, ite_self])
  have hdistinct := h.distinct id
  unfold Glink.qcomAddGlinkSubdev
  split_ifs with hofNode hchild hchild hirq
  · refine ⟨lifeStage_finishAdd hcreate, ?_⟩
    rw [pointer, if_pos hofNode] at hpointer
    rw [finishAdd_owns_reference]
    simp [Owns, Glink.create, hne, hdistinct hpointer]
  · refine ⟨hlive, ?_⟩
    rw [pointer, if_pos hofNode] at hpointer
    simp [Owns, hdistinct hpointer]
  · exact absurd hset (by simp [hofNode, hirq])
  · refine ⟨lifeStage_finishAdd hcreate, ?_⟩
    rw [pointer, if_neg hofNode] at hpointer
    rw [finishAdd_owns_reference]
    simp only [Owns, Glink.create, Option.some.injEq, hne, or_false]
    exact fun hnode ↦ hdistinct hnode hpointer
  · exact absurd hset (by simp [hofNode, hchild])

/-- A place in the list is lost if the subdevice is linked once more. -/
theorem Lives.relink (h : glink.Lives) (hsubdev : glink.subdev = some id)
    (hset : (ofNode || decide (0 ≤ irq)) = true) :
    (glink.qcomAddGlinkSubdev ofNode true irq true).Astray ofNode := by
  refine ⟨(h.qcomAddGlinkSubdev true irq true).lives, .inl ⟨⟨.link, id⟩, ?_⟩⟩
  have hlive := h.live ⟨.link, id⟩ hsubdev
  have hne : glink.next + 1 ≠ id := by
    have := h.lt_next hlive
    simp only at this
    omega
  have hcreate : lifeStage (glink.create .reference).log ⟨.link, id⟩ = .live :=
    lifeStage_create.trans (by rw [hlive, ite_self])
  cases ofNode with
  | true =>
    rw [Glink.qcomAddGlinkSubdev, if_pos rfl, if_pos rfl]
    exact ⟨lifeStage_finishAdd hcreate, fun howns ↦ hne (Option.some.inj howns)⟩
  | false =>
    have hirq : ¬ irq < 0 := by simpa using hset
    rw [Glink.qcomAddGlinkSubdev, if_neg Bool.false_ne_true, if_pos rfl, if_neg hirq]
    exact ⟨lifeStage_finishAdd hcreate, fun howns ↦ hne (Option.some.inj howns)⟩

/-- A subdevice with a pointer to its node is not added once more. -/
theorem qcomAddGlinkSubdevFwnode_busy {fwnode ssrName : Bool}
    (hpointer : (glink.pointer ofNode).isSome = true) :
    (glink.qcomAddGlinkSubdevFwnode fwnode ssrName irq duplicated).2 = glink := by
  have hbusy : (glink.node.isSome || glink.fwnode.isSome) = true := by
    cases ofNode <;> simp_all [pointer]
  rw [qcomAddGlinkSubdevFwnode, if_pos hbusy]
  split_ifs <;> rfl

/-- A pointer without a link stays, or another addition makes its reference unreachable. -/
theorem Astray.of_pointer (h : glink.Lives) (hop : op ≠ .remove)
    (hpointer : (glink.pointer ofNode).isSome = true) (hsubdev : glink.subdev = none) :
    (glinkStep ofNode glink op).Astray ofNode := by
  have hsame : glink.Astray ofNode := ⟨h, .inr ⟨hpointer, hsubdev⟩⟩
  cases op with
  | add child irq duplicated =>
    obtain ⟨id, hid⟩ := Option.isSome_iff_exists.1 hpointer
    by_cases hset : (ofNode || child && decide (0 ≤ irq)) = true
    · exact h.overwrite hid hset
    · obtain ⟨hofNode, hnot⟩ := Bool.or_eq_false_iff.1 (Bool.not_eq_true _ ▸ hset)
      have hgrows : glink.Grows (glink.qcomAddGlinkSubdev ofNode child irq duplicated) :=
        h.qcomAddGlinkSubdev child irq duplicated
      refine ⟨hgrows.lives, .inr ?_⟩
      rw [glinkStep, Glink.qcomAddGlinkSubdev, if_neg (by simp [hofNode])]
      split_ifs with hchild hirq
      · exact ⟨hpointer, hsubdev⟩
      · exact absurd hnot (by simp [hchild, Int.not_lt.1 hirq])
      · exact ⟨hpointer, hsubdev⟩
  | addFwnode fwnode ssrName irq duplicated =>
    rw [glinkStep, qcomAddGlinkSubdevFwnode_busy hpointer]
    exact hsame
  | start registered =>
    rw [glinkStep, hsubdev]
    exact hsame
  | stop =>
    rw [glinkStep, hsubdev]
    exact hsame
  | remove => exact absurd rfl hop

/-- What is lost stays so until a removal. -/
theorem Astray.step (h : glink.Astray ofNode) (hop : op ≠ .remove) :
    (glinkStep ofNode glink op).Astray ofNode := by
  rcases h.lost with ⟨resource, hlive, hnot⟩ | ⟨hpointer, hsubdev⟩
  · have hgrows : glink.Grows (glinkStep ofNode glink op) := h.toLives.step op hop
    refine ⟨hgrows.lives, .inl ⟨resource, hgrows.stays resource hlive hnot, fun howns ↦ ?_⟩⟩
    rcases hgrows.owns resource howns with howns | hle
    · exact hnot howns
    · exact absurd (h.lt_next hlive) (Nat.not_lt.2 hle)
  · exact .of_pointer h.toLives hop hpointer hsubdev

theorem Intact.astray (h : glink.Intact) (hop : op.astray ofNode glink = true) :
    (glinkStep ofNode glink op).Astray ofNode := by
  cases op with
  | add child irq duplicated =>
    cases hpointer : glink.pointer ofNode with
    | some id =>
      refine h.overwrite hpointer ?_
      cases ofNode with
      | true => rfl
      | false => cases child <;> simp_all [GlinkOp.astray]
    | none =>
      have hset : child = true ∧ (ofNode || decide (0 ≤ irq)) = true ∧
          glink.subdev.isSome = duplicated := by
        cases child <;> cases ofNode <;> cases hsubdev : glink.subdev <;>
          simp_all [GlinkOp.astray, pointer]
      obtain ⟨rfl, hset, hsubdev⟩ := hset
      cases hlinked : glink.subdev with
      | some id =>
        obtain rfl : duplicated = true := by simpa [hlinked] using hsubdev.symm
        exact h.relink hlinked hset
      | none =>
        obtain rfl : duplicated = false := by simpa [hlinked] using hsubdev.symm
        refine ⟨(h.qcomAddGlinkSubdev true irq false).lives, .inr ?_⟩
        cases ofNode with
        | true => exact ⟨rfl, hlinked⟩
        | false =>
          have hirq : ¬ irq < 0 := by simpa using hset
          rw [glinkStep, Glink.qcomAddGlinkSubdev, if_neg Bool.false_ne_true, if_pos rfl, if_neg hirq]
          exact ⟨rfl, hlinked⟩
  | _ => exact absurd hop Bool.false_ne_true

/-- Dropping a reference leaves what is out of reach. -/
theorem lifeStage_put {pointer : Option ℕ} (hne : ∀ id, pointer = some id → resource ≠ ⟨.reference, id⟩) :
    lifeStage (glink.put pointer).log resource = lifeStage glink.log resource := by
  cases pointer with
  | none => rfl
  | some id => exact lifeStage_released.trans (if_neg (hne id rfl))

/-- A removal then releases a place that the subdevice does not have, or leaves something behind. -/
theorem Astray.remove (h : glink.Astray ofNode) (hsound : SoundLives glink.qcomRemoveGlinkSubdev.log) :
    ∃ resource, lifeStage glink.qcomRemoveGlinkSubdev.log resource = .live := by
  rcases h.lost with ⟨resource, hlive, hnot⟩ | ⟨hpointer, hsubdev⟩
  · refine ⟨resource, ?_⟩
    unfold qcomRemoveGlinkSubdev
    split_ifs
    · exact hlive
    · have hnode : ∀ id, glink.node = some id → resource ≠ ⟨.reference, id⟩ := by
        rintro id hid rfl
        exact hnot (.inl hid)
      have hfwnode : ∀ id, glink.fwnode = some id → resource ≠ ⟨.reference, id⟩ := by
        rintro id hid rfl
        exact hnot (.inr hid)
      have hlink : resource ≠ ⟨.link, glink.subdev.getD glink.next⟩ := by
        rintro rfl
        cases hsubdev : glink.subdev with
        | none =>
          rw [hsubdev] at hlive
          exact Nat.lt_irrefl _ (h.lt_next hlive)
        | some id =>
          rw [hsubdev] at hnot
          exact hnot hsubdev
      calc lifeStage ((glink.rprocRemoveSubdev.put glink.node).put glink.fwnode).log resource
          = lifeStage (glink.rprocRemoveSubdev.put glink.node).log resource := lifeStage_put hfwnode
        _ = lifeStage glink.rprocRemoveSubdev.log resource := lifeStage_put hnode
        _ = lifeStage glink.log resource := lifeStage_release.trans (if_neg hlink)
        _ = .live := hlive
  · -- The place that is released was never created.
    exfalso
    have hnone : ¬ (glink.node.isNone && glink.fwnode.isNone) = true := by
      obtain ⟨id, hid⟩ := Option.isSome_iff_exists.1 hpointer
      cases ofNode <;> simp_all [pointer]
    rw [qcomRemoveGlinkSubdev, if_neg hnone] at hsound
    have hrelease : lifeStage glink.log ⟨.link, glink.subdev.getD glink.next⟩ = .live :=
      (Along.earlier (Along.earlier hsound)).1
    rw [hsubdev, Option.getD_none, h.fresh .link _ (Nat.le_refl _)] at hrelease
    exact LifeStage.noConfusion hrelease

/-- A removal does not unregister an edge. -/
theorem lifeStage_remove_edge :
    lifeStage glink.qcomRemoveGlinkSubdev.log ⟨.edge, id⟩ = lifeStage glink.log ⟨.edge, id⟩ := by
  unfold qcomRemoveGlinkSubdev
  split_ifs
  · rfl
  · calc lifeStage ((glink.rprocRemoveSubdev.put glink.node).put glink.fwnode).log ⟨.edge, id⟩
        = lifeStage (glink.rprocRemoveSubdev.put glink.node).log ⟨.edge, id⟩ :=
          lifeStage_put fun _ _ ↦ by simp
      _ = lifeStage glink.rprocRemoveSubdev.log ⟨.edge, id⟩ := lifeStage_put fun _ _ ↦ by simp
      _ = lifeStage glink.log ⟨.edge, id⟩ := lifeStage_release.trans (if_neg (by simp))

theorem finishAdd_suffix {log : List (LifeEvent GlinkResource)} (h : log <:+ glink.log) :
    log <:+ (glink.finishAdd duplicated).log := by
  cases duplicated with
  | false => exact h
  | true => exact h.trans (List.suffix_cons _ _)

/-- What has happened is not forgotten. -/
theorem log_suffix_step : glink.log <:+ (glinkStep ofNode glink op).log := by
  cases op with
  | add child irq duplicated =>
    rw [glinkStep, Glink.qcomAddGlinkSubdev]
    split_ifs
    · exact finishAdd_suffix (List.suffix_cons _ _)
    · exact List.suffix_rfl
    · exact (List.suffix_cons _ _).trans (List.suffix_cons _ _)
    · exact finishAdd_suffix (List.suffix_cons _ _)
    · exact List.suffix_rfl
  | addFwnode fwnode ssrName irq duplicated =>
    rw [glinkStep, Glink.qcomAddGlinkSubdevFwnode]
    split_ifs
    · exact List.suffix_rfl
    · exact List.suffix_rfl
    · exact List.suffix_rfl
    · exact List.suffix_rfl
    · exact (List.suffix_cons _ _).trans (List.suffix_cons _ _)
  | start registered =>
    rw [glinkStep]
    split_ifs
    · cases registered with
      | error errno => exact List.suffix_append _ _
      | ok _ => exact (List.suffix_append _ _).trans (List.suffix_cons _ _)
    · exact List.suffix_rfl
  | stop =>
    rw [glinkStep]
    split_ifs
    · unfold Glink.glinkSubdevStop
      split
      · exact List.suffix_cons _ _
      · exact List.suffix_rfl
    · exact List.suffix_rfl
  | remove =>
    rw [glinkStep, qcomRemoveGlinkSubdev]
    split_ifs
    · exact List.suffix_rfl
    · exact ((List.suffix_cons _ _).trans (List.suffix_append _ _)).trans (List.suffix_append _ _)

end Glink

section

variable {ofNode : Bool} {ops : List GlinkOp} {op : GlinkOp}

theorem glinkRun_concat {glink : Glink} :
    glinkRun ofNode glink (ops ++ [op]) = glinkStep ofNode (glinkRun ofNode glink ops) op :=
  List.foldl_concat ..

theorem Glink.unused_intact : Glink.unused.Intact where
  sound := trivial
  fresh _ _ _ := rfl
  live := by
    rintro ⟨kind, id⟩ howns
    cases kind <;> simp [Owns, unused] at howns
  distinct := nofun
  owned _ := nofun
  linked := rfl
  running := ⟨nofun, nofun⟩
  started := nofun

/-- A subdevice whose removals are proper is intact up to the first addition that leaves something
behind. -/
theorem GlinkProper.intact (h : GlinkProper ofNode ops) :
    GlinkClean ofNode ops ∧ (glinkRun ofNode .unused ops).Intact ∨
      ¬ GlinkClean ofNode ops ∧ (glinkRun ofNode .unused ops).Astray ofNode := by
  induction ops using List.reverseRecOn with
  | nil => exact .inl ⟨.nil, Glink.unused_intact⟩
  | append_singleton ops op ih =>
    obtain ⟨hops, hop⟩ := throughout_concat.1 h
    simp only [GlinkClean, throughout_concat, glinkRun_concat]
    rcases ih hops with ⟨hclean, hintact⟩ | ⟨hclean, hastray⟩
    · by_cases hremove : op = .remove
      · subst hremove
        exact .inl ⟨⟨hclean, rfl⟩, (hintact.remove (hop rfl).1).1⟩
      · cases hleft : op.astray ofNode (glinkRun ofNode .unused ops) with
        | false => exact .inl ⟨⟨hclean, rfl⟩, hintact.step hremove hleft⟩
        | true => exact .inr ⟨fun hboth ↦ Bool.noConfusion hboth.2, hintact.astray hleft⟩
    · by_cases hremove : op = .remove
      · exact absurd (hop hremove).2 hclean
      · exact .inr ⟨fun hboth ↦ hclean hboth.1, hastray.step hremove⟩

theorem GlinkProper.lives (h : GlinkProper ofNode ops) : (glinkRun ofNode .unused ops).Lives := by
  rcases h.intact with ⟨-, hintact⟩ | ⟨-, hastray⟩
  · exact hintact.toLives
  · exact hastray.toLives

/-- A removal after which all is well is proper. -/
theorem GlinkProper.of_removed (h : GlinkProper ofNode ops)
    (hsound : SoundLives (glinkStep ofNode (glinkRun ofNode .unused ops) .remove).log)
    (hremoved : ∀ resource,
      lifeStage (glinkStep ofNode (glinkRun ofNode .unused ops) .remove).log resource ≠ .live) :
    (glinkRun ofNode .unused ops).started = false ∧ GlinkClean ofNode ops := by
  rcases h.intact with ⟨hclean, hintact⟩ | ⟨-, hastray⟩
  · refine ⟨?_, hclean⟩
    by_contra hstarted
    obtain ⟨id, hedge⟩ := hintact.running.1 (by simpa using hstarted)
    exact hremoved ⟨.edge, id⟩ (Glink.lifeStage_remove_edge.trans (hintact.live _ hedge))
  · obtain ⟨resource, hlive⟩ := hastray.remove hsound
    exact absurd hlive (hremoved resource)

/-- Whatever is done with a subdevice, everything is used and released properly exactly if it is removed
only while it is not started, and no addition before the removal left anything behind. -/
theorem glinkKept_iff (ofNode : Bool) (ops : List GlinkOp) :
    GlinkKept ofNode ops ↔ GlinkProper ofNode ops := by
  constructor
  · intro h
    induction ops using List.reverseRecOn with
    | nil => exact .nil
    | append_singleton ops op ih =>
      obtain ⟨hsound, hremoved⟩ := h
      rw [glinkRun_concat] at hsound
      obtain ⟨hops, hop⟩ := throughout_concat.1 hremoved
      have hbefore : SoundLives (glinkRun ofNode .unused ops).log := by
        have hsuffix : (glinkRun ofNode .unused ops).log <:+
          (glinkStep ofNode (glinkRun ofNode .unused ops) op).log := Glink.log_suffix_step
        obtain ⟨later, hlater⟩ := hsuffix
        exact Along.earlier (hlater ▸ hsound)
      have hproper := ih ⟨hbefore, hops⟩
      refine throughout_concat.2 ⟨hproper, fun hremove ↦ ?_⟩
      subst hremove
      simp only [glinkRun_concat, forall_const] at hop
      exact hproper.of_removed hsound hop
  · intro h
    refine ⟨h.lives.sound, fun earlier op later hsplit hremove ↦ ?_⟩
    obtain ⟨hstarted, hclean⟩ := h earlier op later hsplit hremove
    subst hsplit
    have hearlier : GlinkProper ofNode earlier := Throughout.earlier h
    rcases hearlier.intact with ⟨-, hintact⟩ | ⟨hnot, -⟩
    · obtain ⟨hintact, hsubdev⟩ := hintact.remove hstarted
      intro resource
      rw [glinkRun_concat]
      exact hintact.nothing hsubdev
    · exact absurd hclean hnot

/-- There is no memory for the name, and the subdevice is removed: the removal goes by the pointer, and
unlinks a subdevice that was never linked. -/
theorem glinkKept_not_without_name :
    ¬ GlinkKept false [.add true 5 false, .remove] :=
  fun h ↦ absurd h.sound (by decide)

end

end TclB220G.Remoteproc
