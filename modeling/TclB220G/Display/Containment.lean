import TclB220G.Display.Binding

/-!
# Containing a bring-up that stops half way

A coordinator keeps its devices for the whole boot, also when its bring-up fails.  A device without a
driver is then contained if nothing can probe it any more, that is, if it carries the override that no
driver matches.

A stage loses the override when it is activated.  So a bring-up that has not failed yet has every stage
contained, and one that fails has at most one stage that is not, the one whose driver it could not attach.
-/

namespace TclB220G.Display

open Kernel Lib

section

variable {Id Other : Type}

/-- The stage whose device a call can expose, hide, bind or release. -/
def Call.concerns : Call Id Other → Option Id
  | .platformDeviceAdd stage | .deviceSetDriverOverride stage _ | .deviceAttach stage |
    .deviceReleaseDriver stage | .platformDeviceUnregister stage => some stage
  | _ => none

def AttachFailed (stage : Id) (trace : List (Call Id Other × ℤ)) : Prop :=
  ∃ answer ≤ 0, (.deviceAttach stage, answer) ∈ trace

variable [DecidableEq Id]

/-- A call that leaves the device of a stage and its driver alone. -/
structure Call.Spares (call : Call Id Other) (answer : ℤ) (stage : Id) : Prop where
  pdev : ∀ stages : Id → DisplayStage, (call.effect answer stages stage).pdev = (stages stage).pdev
  binds : ∀ bound, call.binds answer stage bound = bound
  attach : Call.deviceAttach stage ≠ call

theorem Call.spares_of_ne {call : Call Id Other} {stage : Id} (hother : call.concerns ≠ some stage)
    (answer : ℤ) : call.Spares answer stage where
  pdev stages := by
    cases call <;> simp only [Call.concerns, ne_eq, Option.some.injEq] at hother <;>
      simp only [Call.effect] <;> grind
  binds bound := by
    cases call <;> simp only [Call.concerns, ne_eq, Option.some.injEq] at hother <;>
      simp only [Call.binds, hother, false_and, if_false]
  attach := by
    rintro rfl
    exact hother rfl

theorem Call.spares_of_quiet {call : Call Id Other} (hquiet : call.concerns = none) (answer : ℤ)
    (stage : Id) : call.Spares answer stage :=
  spares_of_ne (by simp [hquiet]) answer

/-- A call that concerns one stage leaves every other alone. -/
theorem Call.spares_other {call : Call Id Other} {stage target : Id} (hcall : call.concerns = some stage)
    (htarget : target ≠ stage) (answer : ℤ) : call.Spares answer target := by
  apply spares_of_ne
  rw [hcall]
  exact fun heq ↦ htarget (Option.some.inj heq).symm

/-- An addition or an override that fails does nothing. -/
theorem Call.spares_of_failed {call : Call Id Other} {answer : ℤ} {stage : Id} (hanswer : answer ≠ 0)
    (hcall : call = .platformDeviceAdd stage ∨ ∃ override, call = .deviceSetDriverOverride stage override)
    (target : Id) : call.Spares answer target := by
  rcases hcall with rfl | ⟨override, rfl⟩ <;> constructor <;>
    simp [Call.effect, Call.binds, hanswer]

section

variable (coordinator : Coordinator Other) (probing : Probing Id) (stage : Id)
  (trace : List (Call Id Other × ℤ))

/-- The device of a stage has a driver or cannot be probed. -/
def Contained : Prop :=
  coordinator.bound probing trace stage = false →
    (coordinator.interface.replay trace stage).exposed = false

/-- The device of a stage was left without the driver that it was to get. -/
def Abandoned : Prop :=
  AttachFailed stage trace ∧ coordinator.bound probing trace stage = false

/-- Nothing has gone wrong with a stage. -/
structure Fine : Prop where
  contained : Contained coordinator probing stage trace
  attached : ¬AttachFailed stage trace

/-- A stage was released to its driver, which could not be attached. -/
structure Released : Prop where
  exposed : (coordinator.interface.replay trace stage).exposed = true
  failed : AttachFailed stage trace

def AllFine (trace : List (Call Id Other × ℤ)) : Prop := ∀ stage, Fine coordinator probing stage trace

/-- A bring-up that has ended: the stages that may have been left released, and the others. -/
structure Ended (released : List Id) (trace : List (Call Id Other × ℤ)) : Prop where
  inside : ∀ stage ∈ released,
    Fine coordinator probing stage trace ∨ Released coordinator stage trace
  outside : ∀ stage ∉ released, Contained coordinator probing stage trace

end

variable {coordinator : Coordinator Other} {probing : Probing Id} {call : Call Id Other} {answer : ℤ}
  {trace : List (Call Id Other × ℤ)} {stage : Id} {released : List Id}

/-! ## One call -/

theorem replay_call : coordinator.interface.replay ((call, answer) :: trace) =
    call.effect answer (coordinator.interface.replay trace) :=
  rfl

theorem Call.Spares.exposed (hspares : call.Spares answer stage) :
    (coordinator.interface.replay ((call, answer) :: trace) stage).exposed =
      (coordinator.interface.replay trace stage).exposed := by
  rw [replay_call, DisplayStage.exposed, DisplayStage.exposed, hspares.pdev]

omit [DecidableEq Id] in
theorem attachFailed_cons (hcall : Call.deviceAttach stage ≠ call) :
    AttachFailed stage ((call, answer) :: trace) ↔ AttachFailed stage trace := by
  simp [AttachFailed, hcall]

theorem Contained.cons (h : Contained coordinator probing stage trace)
    (hspares : call.Spares answer stage) :
    Contained coordinator probing stage ((call, answer) :: trace) := by
  intro hfree
  rw [Coordinator.bound, Bool.or_eq_false_iff, hspares.binds] at hfree
  rw [hspares.exposed]
  exact h hfree.1

theorem Fine.cons (h : Fine coordinator probing stage trace) (hspares : call.Spares answer stage) :
    Fine coordinator probing stage ((call, answer) :: trace) :=
  ⟨h.contained.cons hspares, (attachFailed_cons hspares.attach).not.2 h.attached⟩

theorem Released.cons (h : Released coordinator stage trace) (hspares : call.Spares answer stage) :
    Released coordinator stage ((call, answer) :: trace) :=
  ⟨hspares.exposed.trans h.exposed, (attachFailed_cons hspares.attach).2 h.failed⟩

theorem AllFine.cons (h : AllFine coordinator probing trace) (hspares : ∀ stage, call.Spares answer stage) :
    AllFine coordinator probing ((call, answer) :: trace) :=
  fun stage ↦ (h stage).cons (hspares stage)

theorem AllFine.quiet (h : AllFine coordinator probing trace) (hquiet : call.concerns = none) :
    AllFine coordinator probing ((call, answer) :: trace) :=
  h.cons (Call.spares_of_quiet hquiet answer)

theorem AllFine.ended (h : AllFine coordinator probing trace) : Ended coordinator probing released trace :=
  ⟨fun stage _ ↦ .inl (h stage), fun stage _ ↦ (h stage).contained⟩

theorem Ended.cons (h : Ended coordinator probing released trace) (hquiet : call.concerns = none) :
    Ended coordinator probing released ((call, answer) :: trace) where
  inside stage hstage := (h.inside stage hstage).imp
    (fun hfine ↦ hfine.cons (Call.spares_of_quiet hquiet answer stage))
    fun hreleased ↦ hreleased.cons (Call.spares_of_quiet hquiet answer stage)
  outside stage hstage := (h.outside stage hstage).cons (Call.spares_of_quiet hquiet answer stage)

/-- A bring-up that has ended contains its devices unless it has abandoned one of those released. -/
theorem Ended.contained_iff (h : Ended coordinator probing released trace) :
    (∀ stage, Contained coordinator probing stage trace) ↔
      ∀ stage ∈ released, ¬Abandoned coordinator probing stage trace := by
  constructor
  · intro hcontained stage hstage habandoned
    rcases h.inside stage hstage with hfine | hreleased
    · exact hfine.attached habandoned.1
    · have hexposed := hreleased.exposed
      rw [hcontained stage habandoned.2] at hexposed
      exact Bool.false_ne_true hexposed
  · intro hkept stage
    by_cases hstage : stage ∈ released
    · rcases h.inside stage hstage with hfine | hreleased
      · exact hfine.contained
      · exact fun hfree ↦ absurd ⟨hreleased.failed, hfree⟩ (hkept stage hstage)
    · exact h.outside stage hstage

/-! ## Scripts that contain their stages -/

variable (coordinator probing released) in
/-- A script that finds every stage fine leaves them so if it succeeds.  If it fails, only the stages
given may have been released. -/
def Contains {α : Type} (script : Script (Call Id Other) α) : Prop :=
  script.Triple (AllFine coordinator probing) (fun _ ↦ AllFine coordinator probing)
    (Ended coordinator probing released)

variable {α β : Type}

theorem contains_pure (value : α) :
    Contains coordinator probing released (pure value : Script (Call Id Other) α) :=
  Script.triple_pure fun _ hfine ↦ hfine

theorem Contains.bind {script : Script (Call Id Other) α} {next : α → Script (Call Id Other) β}
    (hscript : Contains coordinator probing released script)
    (hnext : ∀ value, Contains coordinator probing released (next value)) :
    Contains coordinator probing released (script >>= next) :=
  Script.triple_bind hscript hnext

theorem contains_inOrder {scripts : List (Script (Call Id Other) Unit)}
    (hscripts : ∀ script ∈ scripts, Contains coordinator probing released script) :
    Contains coordinator probing released (Script.inOrder scripts) :=
  Script.triple_inOrder hscripts

theorem contains_invoke (hquiet : call.concerns = none) :
    Contains coordinator probing released (Script.invoke call) :=
  Script.triple_invoke fun _ _ hfine ↦ hfine.quiet hquiet

theorem contains_step (hquiet : call.concerns = none) :
    Contains coordinator probing released (Script.step coordinator.interface call) :=
  Script.triple_step (fun _ _ hfine _ ↦ hfine.quiet hquiet) fun _ _ hfine _ ↦ (hfine.quiet hquiet).ended

theorem contains_perform (hquiet : call.concerns = none) :
    Contains coordinator probing released (coordinator.perform call) :=
  (contains_step hquiet).bind fun _ ↦ contains_pure _

theorem contains_refuse (errno : Errno) :
    Contains coordinator probing released (coordinator.refuse errno : Script (Call Id Other) α) :=
  Script.triple_refuse fun _ hfine ↦ (hfine.quiet rfl).ended

theorem Contains.onFailure {script : Script (Call Id Other) α}
    (hscript : Contains coordinator probing released script) (hquiet : call.concerns = none) :
    Contains coordinator probing released (script.onFailure [call]) :=
  Script.triple_onFailure hscript fun _ _ hended ↦ hended.cons hquiet

/-- A script that goes by the state of its stages, whatever it is. -/
theorem contains_state {next : (Id → DisplayStage) → Script (Call Id Other) α}
    (hnext : ∀ stages, Contains coordinator probing released (next stages)) :
    Contains coordinator probing released (Script.state coordinator.interface >>= next) :=
  fun oracle trace hfine ↦ hnext _ oracle trace hfine

/-! ## The functions of a stage -/

variable (coordinator probing) in
/-- Between its allocation and its addition, the device of a stage carries the override. -/
def Prepared (stage : Id) (trace : List (Call Id Other × ℤ)) : Prop :=
  AllFine coordinator probing trace ∧
    ∃ device, (coordinator.interface.replay trace stage).allocated = some device ∧ device.blocked = true

/-- A blocked device is added blocked, and has no driver. -/
theorem Prepared.add (h : Prepared coordinator probing stage trace) :
    AllFine coordinator probing ((.platformDeviceAdd stage, 0) :: trace) := by
  obtain ⟨hfine, device, hdevice, hblocked⟩ := h
  intro target
  by_cases htarget : target = stage
  · have hhidden : (coordinator.interface.replay ((.platformDeviceAdd stage, 0) :: trace) stage).exposed =
        false := by
      simp [replay_call, Call.effect, DisplayStage.exposed, hdevice, hblocked]
    rw [htarget]
    exact ⟨fun _ ↦ hhidden, (attachFailed_cons (by simp)).not.2 (hfine stage).attached⟩
  · exact (hfine target).cons (Call.spares_other rfl htarget 0)

/-- A call that touches no stage keeps a device prepared. -/
theorem triple_prepared (heffect : ∀ answer (stages : Id → DisplayStage), call.effect answer stages = stages)
    (hquiet : call.concerns = none) :
    (coordinator.perform call).Triple (Prepared coordinator probing stage)
      (fun _ ↦ Prepared coordinator probing stage) (Ended coordinator probing released) := by
  have hcons : ∀ answer trace, Prepared coordinator probing stage trace →
      Prepared coordinator probing stage ((call, answer) :: trace) := by
    intro answer trace hprepared
    refine ⟨hprepared.1.quiet hquiet, ?_⟩
    rw [replay_call, heffect]
    exact hprepared.2
  exact Script.triple_perform (fun answer trace hprepared _ ↦ hcons answer trace hprepared)
    fun answer trace hprepared _ ↦ (hcons answer trace hprepared).1.ended

variable (coordinator probing) in
/-- The device of a stage is allocated. -/
def Begun (stage : Id) (trace : List (Call Id Other × ℤ)) : Prop :=
  AllFine coordinator probing trace ∧
    (coordinator.interface.replay trace stage).allocated.isSome = true

theorem triple_begun (name : String) (id : ℤ) :
    (coordinator.perform (.platformDeviceAlloc stage name id)).Triple (AllFine coordinator probing)
      (fun _ ↦ Begun coordinator probing stage) (Ended coordinator probing released) := by
  apply Script.triple_perform
  · intro answer trace hfine hok
    have hanswer : answer ≠ 0 := by
      rintro rfl
      exact Bool.noConfusion hok
    refine ⟨hfine.quiet rfl, ?_⟩
    simp [replay_call, Call.effect, hanswer]
  · exact fun answer trace hfine _ ↦ (hfine.quiet rfl).ended

theorem triple_block_begun :
    (coordinator.perform (.overrideAllocated stage)).Triple (Begun coordinator probing stage)
      (fun _ ↦ Prepared coordinator probing stage) (Ended coordinator probing released) := by
  apply triple_nonzero rfl
  · intro trace hbegun
    obtain ⟨device, hdevice⟩ := Option.isSome_iff_exists.1 hbegun.2
    refine ⟨hbegun.1.quiet rfl, ⟨true, device.bound⟩, ?_, rfl⟩
    simp [replay_call, Call.effect, hdevice]
  · exact fun answer trace _ hbegun ↦ (hbegun.1.quiet rfl).ended

theorem triple_addBlocked :
    (coordinator.perform (.platformDeviceAdd stage)).Triple (Prepared coordinator probing stage)
      (fun _ ↦ AllFine coordinator probing) (Ended coordinator probing released) := by
  apply triple_nonzero rfl
  · exact fun trace hprepared ↦ hprepared.add
  · exact fun answer trace hanswer hprepared ↦
      (hprepared.1.cons (Call.spares_of_failed hanswer (.inl rfl))).ended

theorem contains_tclDisplayStageCreateFull (stage : Id) (name : String) (id : ℤ)
    (resources : List Resource) :
    Contains coordinator probing released
      (coordinator.tclDisplayStageCreateFull stage name id resources) := by
  apply contains_state
  intro stages
  split_ifs
  · exact contains_refuse _
  · apply Script.triple_bind (triple_begun name id)
    intro _
    have hput : ∀ answer trace, Ended coordinator probing released trace →
        Ended coordinator probing released ((Call.platformDevicePut stage, answer) :: trace) :=
      fun answer trace hended ↦ hended.cons rfl
    refine Script.triple_onFailure ?_ hput
    apply Script.triple_inOrder_cons triple_block_begun
    apply Script.triple_inOrder_cons (triple_prepared (fun _ _ ↦ rfl) rfl)
    apply Script.triple_inOrder_cons (triple_prepared (fun _ _ ↦ rfl) rfl)
    apply Script.triple_inOrder_cons (triple_prepared (fun _ _ ↦ rfl) rfl)
    exact Script.triple_inOrder_cons triple_addBlocked (Script.triple_inOrder_nil fun _ hfine ↦ hfine)

theorem contains_tclDisplayStageCreate (stage : Id) (name : String) (resources : List Resource) :
    Contains coordinator probing released (coordinator.tclDisplayStageCreate stage name resources) :=
  contains_tclDisplayStageCreateFull stage name (-1) resources

theorem contains_tclDisplayStageClock (stage : Id) (provider source consumer : String) :
    Contains coordinator probing released
      (coordinator.tclDisplayStageClock stage provider source consumer) := by
  apply contains_state
  intro stages
  split
  · exact contains_refuse _
  · split_ifs
    · exact contains_refuse _
    · exact contains_refuse _
    · exact (contains_step rfl).bind fun clk ↦ (contains_perform rfl).onFailure rfl

theorem contains_tclDisplayStageDomain (stage : Id) (domain : ℤ) :
    Contains coordinator probing released (coordinator.tclDisplayStageDomain stage domain) := by
  apply contains_state
  intro stages
  split
  · exact contains_refuse _
  · split_ifs
    · exact contains_refuse _
    · exact contains_refuse _
    · exact (contains_perform rfl).bind fun _ ↦ contains_refuse _
    · exact (contains_perform rfl).bind fun _ ↦ contains_perform rfl

variable (coordinator probing) in
/-- A stage has lost the override and is about to get its driver. -/
structure Releasing (stage : Id) (trace : List (Call Id Other × ℤ)) : Prop where
  exposed : (coordinator.interface.replay trace stage).exposed = true
  attached : ¬AttachFailed stage trace
  others : ∀ target ≠ stage, Fine coordinator probing target trace

/-- Attaching does not touch the override. -/
theorem exposed_attach :
    (coordinator.interface.replay ((.deviceAttach stage, answer) :: trace) stage).exposed =
      (coordinator.interface.replay trace stage).exposed := by
  rw [replay_call, Call.effect]
  split_ifs
  · simp [DisplayStage.exposed, DisplayStage.setBound, Option.any_map]
  · rfl

theorem Releasing.attach (h : Releasing coordinator probing stage trace) (hanswer : 0 < answer) :
    AllFine coordinator probing ((.deviceAttach stage, answer) :: trace) := by
  intro target
  by_cases htarget : target = stage
  · rw [htarget]
    refine ⟨fun hfree ↦ ?_, ?_⟩
    · simp [Coordinator.bound, Call.binds, hanswer] at hfree
    · rintro ⟨failed, hfailed, hmem⟩
      rcases List.mem_cons.1 hmem with heq | hearlier
      · simp only [Prod.mk.injEq, true_and] at heq
        omega
      · exact h.attached ⟨failed, hfailed, hearlier⟩
  · exact (h.others target htarget).cons (Call.spares_other rfl htarget answer)

/-- A driver that cannot be attached leaves its stage released, and no other. -/
theorem Releasing.abandon (h : Releasing coordinator probing stage trace) (hanswer : answer ≤ 0)
    (hstage : stage ∈ released) :
    Ended coordinator probing released ((.deviceAttach stage, answer) :: trace) := by
  have hothers : ∀ target ≠ stage,
      Fine coordinator probing target ((.deviceAttach stage, answer) :: trace) := fun target htarget ↦
    (h.others target htarget).cons (Call.spares_other rfl htarget answer)
  constructor
  · intro target _
    by_cases htarget : target = stage
    · rw [htarget]
      exact .inr ⟨exposed_attach.trans h.exposed, answer, hanswer, List.mem_cons_self⟩
    · exact .inl (hothers target htarget)
  · intro target houtside
    have htarget : target ≠ stage := fun heq ↦ houtside (heq ▸ hstage)
    exact (hothers target htarget).contained

theorem AllFine.release (h : AllFine coordinator probing trace)
    (hpdev : (coordinator.interface.replay trace stage).pdev.isSome = true) :
    Releasing coordinator probing stage ((.deviceSetDriverOverride stage .clear, 0) :: trace) where
  exposed := by
    obtain ⟨device, hdevice⟩ := Option.isSome_iff_exists.1 hpdev
    simp [replay_call, Call.effect, DisplayStage.exposed, DisplayStage.setOverride, hdevice]
  attached := (attachFailed_cons (by simp)).not.2 (h stage).attached
  others target htarget := (h target).cons (Call.spares_other rfl htarget 0)

/-- Only the stage itself can be left released by its activation. -/
theorem contains_tclDisplayStageActivate (hstage : stage ∈ released) :
    Contains coordinator probing released (coordinator.tclDisplayStageActivate stage) := by
  apply Script.triple_state
  intro stages
  split_ifs with hpdev
  · exact Script.triple_refuse fun _ hfine ↦ (hfine.1.quiet rfl).ended
  · have hclear : (coordinator.perform (.deviceSetDriverOverride stage .clear)).Triple
        (fun trace ↦ AllFine coordinator probing trace ∧ coordinator.interface.replay trace = stages)
        (fun _ ↦ Releasing coordinator probing stage) (Ended coordinator probing released) := by
      apply triple_nonzero rfl
      · rintro trace ⟨hfine, rfl⟩
        exact hfine.release (by simpa [Option.isSome_iff_ne_none] using hpdev)
      · exact fun answer trace hanswer hfine ↦
          (hfine.1.cons (Call.spares_of_failed hanswer (.inr ⟨.clear, rfl⟩))).ended
    apply Script.triple_bind hclear
    intro _
    apply Script.triple_perform
    · exact fun answer trace hreleasing hok ↦ hreleasing.attach (not_le.1 (of_decide_eq_false hok))
    · exact fun answer trace hreleasing hfailed ↦
        hreleasing.abandon (of_decide_eq_true hfailed) hstage

/-! ## Blocking what was left released -/

variable (coordinator probing) in
/-- Whether the device of a stage has a driver at this point. -/
def hasDriver (stage : Id) : Script (Call Id Other) Bool :=
  fun _ trace ↦ (.ok (coordinator.bound probing trace stage), trace)

variable (coordinator probing) in
/-- Blocks a device that has no driver.  An override that cannot be set is only reported. -/
def blockUnbound (stage : Id) : Script (Call Id Other) Unit := do
  let stages ← Script.state coordinator.interface
  let driver ← hasDriver coordinator probing stage
  if (stages stage).pdev.isSome ∧ driver = false then
    let _ ← Script.invoke (.deviceSetDriverOverride stage .block)
  else pure ()

def Call.blocks : Call Id Other → Bool
  | .deviceSetDriverOverride _ .block => true
  | _ => false

/-- Every override that blocks a device could be set. -/
def BlocksSucceed (trace : List (Call Id Other × ℤ)) : Prop :=
  ∀ event ∈ trace, event.1.blocks = true → event.2 = 0

instance (trace : List (Call Id Other × ℤ)) : Decidable (BlocksSucceed trace) :=
  inferInstanceAs (Decidable (∀ event ∈ trace, event.1.blocks = true → event.2 = 0))

omit [DecidableEq Id] in
theorem BlocksSucceed.of_cons {event : Call Id Other × ℤ} (h : BlocksSucceed (event :: trace)) :
    BlocksSucceed trace :=
  (List.forall_mem_cons.1 h).2

/-- A device that carries the override is hidden, whatever has happened to it. -/
theorem contained_block :
    Contained coordinator probing stage ((.deviceSetDriverOverride stage .block, 0) :: trace) := by
  intro _
  simp [replay_call, Call.effect, DisplayStage.exposed, DisplayStage.setOverride, Option.any_map]

theorem Ended.block (h : Ended coordinator probing (stage :: released) trace) (hstage : stage ∉ released) :
    Ended coordinator probing released ((.deviceSetDriverOverride stage .block, 0) :: trace) := by
  have hspares : ∀ target ≠ stage,
      (Call.deviceSetDriverOverride stage .block : Call Id Other).Spares 0 target :=
    fun target htarget ↦ Call.spares_other rfl htarget 0
  constructor
  · intro target hinside
    have htarget : target ≠ stage := fun heq ↦ hstage (heq ▸ hinside)
    exact (h.inside target (List.mem_cons_of_mem _ hinside)).imp
      (fun hfine ↦ hfine.cons (hspares target htarget))
      fun hreleased ↦ hreleased.cons (hspares target htarget)
  · intro target houtside
    by_cases htarget : target = stage
    · rw [htarget]
      exact contained_block
    · exact (h.outside target (by simp [htarget, houtside])).cons (hspares target htarget)

/-- A device that is missing or has a driver needs no override. -/
theorem Ended.skip (h : Ended coordinator probing (stage :: released) trace)
    (hskip : ¬((coordinator.interface.replay trace stage).pdev.isSome = true ∧
      coordinator.bound probing trace stage = false)) :
    Ended coordinator probing released trace := by
  refine ⟨fun target hinside ↦ h.inside target (List.mem_cons_of_mem _ hinside), ?_⟩
  intro target houtside
  by_cases htarget : target = stage
  · rw [htarget]
    intro hfree
    have hpdev : (coordinator.interface.replay trace stage).pdev = none := by
      simpa using fun hsome ↦ hskip ⟨hsome, hfree⟩
    rw [DisplayStage.exposed, hpdev, Option.any_none]
  · exact h.outside target (by simp [htarget, houtside])

theorem triple_hasDriver {before failing : List (Call Id Other × ℤ) → Prop}
    {next : Bool → Script (Call Id Other) α} {later : α → List (Call Id Other × ℤ) → Prop}
    (hnext : ∀ driver, (next driver).Triple
      (fun trace ↦ before trace ∧ coordinator.bound probing trace stage = driver) later failing) :
    (hasDriver coordinator probing stage >>= next).Triple before later failing :=
  fun oracle trace hbefore ↦ hnext _ oracle trace ⟨hbefore, rfl⟩

theorem triple_blockUnbound {failing : List (Call Id Other × ℤ) → Prop} (hstage : stage ∉ released) :
    (blockUnbound coordinator probing stage).Triple
      (fun trace ↦ BlocksSucceed trace → Ended coordinator probing (stage :: released) trace)
      (fun _ trace ↦ BlocksSucceed trace → Ended coordinator probing released trace) failing := by
  apply Script.triple_state
  intro stages
  apply triple_hasDriver
  intro driver
  split_ifs with hneeded
  · have hblock : ∀ answer trace,
        (BlocksSucceed trace → Ended coordinator probing (stage :: released) trace) →
          BlocksSucceed ((.deviceSetDriverOverride stage .block, answer) :: trace) →
            Ended coordinator probing released ((.deviceSetDriverOverride stage .block, answer) :: trace) := by
      intro answer trace hended hblocks
      rw [show answer = 0 from hblocks _ List.mem_cons_self rfl]
      exact (hended hblocks.of_cons).block hstage
    exact Script.triple_bind (Script.triple_invoke fun answer trace h ↦ hblock answer trace h.1.1)
      fun _ ↦ Script.triple_pure fun _ hended ↦ hended
  · apply Script.triple_pure
    rintro trace ⟨⟨hended, rfl⟩, rfl⟩ hblocks
    exact (hended hblocks).skip hneeded

/-! ## After the bring-up -/

/-- Whether a stage has a driver so many rounds of probing after the last call. -/
def Coordinator.boundLater (coordinator : Coordinator Other) (probing later : Probing Id)
    (trace : List (Call Id Other × ℤ)) (stage : Id) : ℕ → Bool
  | 0 => coordinator.bound probing trace stage
  | rounds + 1 => coordinator.boundLater probing later trace stage rounds ||
      (later rounds stage && (coordinator.interface.replay trace stage).exposed)

variable (coordinator probing) in
/-- No device without a driver gets one later, whenever probing is tried. -/
def NeverProbed (trace : List (Call Id Other × ℤ)) : Prop :=
  ∀ later stage, coordinator.bound probing trace stage = false →
    ∀ rounds, coordinator.boundLater probing later trace stage rounds = false

/-- Devices are safe from probing exactly if they carry the override. -/
theorem neverProbed_iff :
    NeverProbed coordinator probing trace ↔ ∀ stage, Contained coordinator probing stage trace := by
  constructor
  · intro hnever stage hfree
    simpa [Coordinator.boundLater, hfree] using hnever (fun _ _ ↦ true) stage hfree 1
  · intro hcontained later stage hfree rounds
    induction rounds with
    | zero => exact hfree
    | succ rounds ih => rw [Coordinator.boundLater, ih, hcontained stage hfree, Bool.and_false, Bool.or_false]

end

end TclB220G.Display
