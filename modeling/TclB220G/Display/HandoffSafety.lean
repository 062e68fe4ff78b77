import TclB220G.Display.Handoff

/-!
# Safety of the display handoff

The coordinator follows one discipline: the display engine's device is created only after the trace
shows that the scanout was stopped, nothing but cleanup follows a failure, and nothing that a stage
holds is released.  Every preparation step keeps any fact about the past, so the evidence that
stopping the scanout leaves behind is still there when the device is created.

When a step fails, every stage whose device exists is blocked.  The list of stages that are blocked
contains all of them.
-/

namespace TclB220G.Display

open Kernel Lib Coordinator

/-- The scanout was seen to stop: the revision read as expected, later zero was written to the timing
enable register, and later the status read with bit 0 clear. -/
def Quiesced (trace : List (DisplayCall × ℤ)) : Prop :=
  ∃ revision written status, BitVec.ofInt 32 revision = dpuRevision ∧ stopped status = true ∧
    [(.other (.readl intfStatus), status), (.other (.writel 0 timingEnable), written),
      (.other (.readl 0), revision)].Sublist trace

def handoff : Discipline DisplayCall :=
  retaining BoardCall.cleanup fun stage trace ↦ stage = .dpu → Quiesced trace

theorem lasting_sublist (events : List (DisplayCall × ℤ)) :
    Lasting fun trace ↦ events.Sublist trace :=
  fun event _ hevents ↦ hevents.cons event

theorem lasting_quiesced : Lasting Quiesced := by
  rintro event trace ⟨revision, written, status, hrevision, hstopped, hevents⟩
  exact ⟨revision, written, status, hrevision, hstopped, hevents.cons event⟩

/-! ## Single calls -/

variable {call : BoardCall}

theorem harmless_of_cleanup (hcleanup : call.cleanup = true) :
    display.interface.Harmless handoff (.other call) := by
  refine ⟨hcleanup, fun answer ↦ ?_, retaining_allowed rfl rfl⟩
  have hverdict : call.verdict = .succeeds := by
    cases call <;> simp_all [BoardCall.cleanup, BoardCall.verdict]
  simp [interface, callVerdict, display, hverdict, Verdict.failed]

section

variable {fact : List (DisplayCall × ℤ) → Prop}

theorem follows_ask {after : ℤ → List (DisplayCall × ℤ) → Prop}
    (hsucceeds : call.verdict = .succeeds)
    (hafter : ∀ answer trace, fact trace → after answer ((.other call, answer) :: trace)) :
    (ask call).Follows display.interface handoff fact after :=
  Script.follows_invoke
    (fun _ ↦ by simp [interface, callVerdict, display, hsucceeds, Verdict.failed])
    (fun trace _ ↦ retaining_allowed rfl rfl trace) hafter

theorem follows_refuse_handoff {α : Type} (errno : Errno)
    {after : α → List (DisplayCall × ℤ) → Prop} :
    (display.refuse errno).Follows display.interface handoff fact after :=
  follows_refuse errno

theorem keeps_pure {α : Type} (value : α) :
    (pure value : Script DisplayCall α).Keeps display.interface handoff fact :=
  Script.follows_pure fun _ hfact ↦ hfact

/-- A check that refuses on a condition keeps what a success keeps. -/
theorem keeps_refuse_or {α : Type} {condition : Prop} [Decidable condition] (errno : Errno)
    {script : Script DisplayCall α} (hscript : script.Keeps display.interface handoff fact) :
    (if condition then display.refuse errno else script).Keeps display.interface handoff fact := by
  split_ifs
  · exact follows_refuse_handoff errno
  · exact hscript

variable (hlasting : Lasting fact)
include hlasting

theorem keeps_ask (hsucceeds : call.verdict = .succeeds) :
    (ask call).Keeps display.interface handoff fact :=
  follows_ask hsucceeds fun answer trace ↦ hlasting (.other call, answer) trace

theorem keeps_request (call : BoardCall) :
    (request call).Keeps display.interface handoff fact :=
  Script.keeps_step hlasting fun trace _ ↦ retaining_allowed rfl rfl trace

theorem keeps_require (call : BoardCall) :
    (require call).Keeps display.interface handoff fact :=
  keeps_perform hlasting rfl rfl

theorem keeps_linkSupplier (consumer : Stage) (supplier : Supplier) :
    (linkSupplier consumer supplier).Keeps display.interface handoff fact :=
  keeps_require hlasting _

/-- Stages other than the display engine need no evidence. -/
theorem keeps_createFull {stage : Stage} (hstage : stage ≠ .dpu) (name : String) (id : ℤ)
    (resources : List Resource) :
    (display.tclDisplayStageCreateFull stage name id resources).Keeps display.interface handoff
      fact :=
  keeps_tclDisplayStageCreateFull hlasting (fun _ _ hdpu ↦ absurd hdpu hstage) name id resources

theorem keeps_create {stage : Stage} (hstage : stage ≠ .dpu) (name : String)
    (resources : List Resource) :
    (display.tclDisplayStageCreate stage name resources).Keeps display.interface handoff fact :=
  keeps_createFull hlasting hstage name (-1) resources

variable (stage : Stage)

theorem keeps_clock (provider source consumer : String) :
    (display.tclDisplayStageClock stage provider source consumer).Keeps display.interface handoff
      fact :=
  keeps_tclDisplayStageClock hlasting stage provider source consumer

theorem keeps_domain (domain : ℤ) :
    (display.tclDisplayStageDomain stage domain).Keeps display.interface handoff fact :=
  keeps_tclDisplayStageDomain hlasting stage domain

theorem keeps_activate :
    (display.tclDisplayStageActivate stage).Keeps display.interface handoff fact :=
  keeps_tclDisplayStageActivate hlasting stage

/-! ## Preparation -/

theorem keeps_attachMdssDomain :
    (attachMdssDomain stage).Keeps display.interface handoff fact :=
  Script.follows_bind (keeps_ask hlasting rfl) fun domain ↦ keeps_domain hlasting stage domain

theorem keeps_requireMdssDomain : requireMdssDomain.Keeps display.interface handoff fact := by
  apply Script.follows_bind (keeps_ask hlasting rfl)
  exact fun domain ↦ keeps_refuse_or _ (keeps_pure _)

theorem keeps_prepareNoc (noc : Fin 5 × String) :
    (prepareNoc noc).Keeps display.interface handoff fact := by
  apply Script.keeps_inOrder
  simp [keeps_create hlasting, keeps_linkSupplier hlasting, keeps_activate hlasting]

theorem keeps_prepareInterconnects :
    prepareInterconnects.Keeps display.interface handoff fact := by
  apply Script.keeps_inOrder
  simp [nocNames, keeps_create hlasting, keeps_linkSupplier hlasting, keeps_activate hlasting,
    keeps_prepareNoc hlasting, keeps_require hlasting]

theorem keeps_prepareGcc (cx : ℤ) : (prepareGcc cx).Keeps display.interface handoff fact := by
  apply Script.keeps_inOrder
  simp [keeps_create hlasting, keeps_linkSupplier hlasting, keeps_clock hlasting,
    keeps_domain hlasting, keeps_activate hlasting]

theorem keeps_prepareDispcc : prepareDispcc.Keeps display.interface handoff fact := by
  apply Script.keeps_inOrder
  simp [keeps_create hlasting, keeps_linkSupplier hlasting, keeps_clock hlasting,
    keeps_activate hlasting, keeps_requireMdssDomain hlasting]

theorem keeps_preparePhyRegulator :
    preparePhyRegulator.Keeps display.interface handoff fact := by
  apply Script.keeps_inOrder
  simp [keeps_createFull hlasting, keeps_linkSupplier hlasting, keeps_activate hlasting]

theorem keeps_preparePhy : preparePhy.Keeps display.interface handoff fact := by
  apply Script.keeps_inOrder
  simp [keeps_create hlasting, keeps_linkSupplier hlasting, keeps_clock hlasting,
    keeps_attachMdssDomain hlasting, keeps_activate hlasting, keeps_require hlasting]

theorem keeps_linkNocs (consumer : Stage) :
    (linkNocs consumer).Keeps display.interface handoff fact := by
  apply Script.keeps_inOrder
  simp [nocNames, keeps_linkSupplier hlasting]

theorem keeps_prepareMdss (mdssIrq : ℤ) :
    (prepareMdss mdssIrq).Keeps display.interface handoff fact := by
  apply Script.keeps_inOrder
  simp [keeps_create hlasting, keeps_linkSupplier hlasting, keeps_linkNocs hlasting,
    keeps_clock hlasting, keeps_attachMdssDomain hlasting, keeps_activate hlasting]

theorem keeps_createBelowMdss {stage : Stage}
    (hevidence : ∀ trace, fact trace → stage = .dpu → Quiesced trace) (name : String) (hwirq : ℕ)
    (resources : ℤ → List Resource) :
    (createBelowMdss stage name hwirq resources).Keeps display.interface handoff fact := by
  apply Script.follows_bind (keeps_require hlasting _)
  intro _
  apply Script.follows_bind (keeps_request hlasting _)
  intro irq
  have hcreate : (display.tclDisplayStageCreate stage name (resources irq)).Keeps
      display.interface handoff fact :=
    keeps_tclDisplayStageCreate hlasting hevidence name (resources irq)
  exact Script.follows_onFailure hcreate (List.forall_mem_singleton.2 (harmless_of_cleanup rfl))

theorem keeps_stageClocks (clocks : List (String × String × String)) :
    (stageClocks stage clocks).Keeps display.interface handoff fact := by
  apply Script.keeps_inOrder
  intro script hscript
  obtain ⟨clock, -, rfl⟩ := List.mem_map.1 hscript
  exact keeps_clock hlasting stage _ _ _

/-- The one step that creates the display engine's device needs the scanout to have stopped. -/
theorem keeps_prepareDpu (hquiesced : ∀ trace, fact trace → Quiesced trace) (cx : ℤ) :
    (prepareDpu cx).Keeps display.interface handoff fact := by
  apply Script.keeps_inOrder
  have hcreate := fun name hwirq resources ↦ keeps_createBelowMdss hlasting
    (fun trace hfact (_ : Stage.dpu = .dpu) ↦ hquiesced trace hfact) name hwirq resources
  simp [hcreate, keeps_linkSupplier hlasting, keeps_linkNocs hlasting, keeps_stageClocks hlasting,
    keeps_domain hlasting]

theorem keeps_prepareDsiSupplies :
    prepareDsiSupplies.Keeps display.interface handoff fact := by
  apply Script.keeps_inOrder
  simp [keeps_createFull hlasting, keeps_linkSupplier hlasting, keeps_activate hlasting]

theorem keeps_prepareDisplayGraph :
    prepareDisplayGraph.Keeps display.interface handoff fact := by
  apply Script.keeps_inOrder
  simp [keeps_require hlasting]

theorem keeps_prepareDsi (cx : ℤ) : (prepareDsi cx).Keeps display.interface handoff fact := by
  apply Script.keeps_inOrder
  have hcreate := fun name hwirq resources ↦ keeps_createBelowMdss hlasting
    (fun _ _ (hdsi : Stage.dsi = .dpu) ↦ nomatch hdsi) name hwirq resources
  simp [hcreate, keeps_linkSupplier hlasting, keeps_stageClocks hlasting, keeps_domain hlasting,
    keeps_prepareDisplayGraph hlasting]

/-! ## The bridge -/

theorem keeps_findByPath (path : String) {find : BoardCall} (hfind : find.verdict = .succeeds) :
    (findByPath path find).Keeps display.interface handoff fact := by
  apply Script.follows_bind (keeps_require hlasting _)
  intro _
  apply Script.follows_bind (keeps_require hlasting _)
  intro _
  apply Script.follows_bind (keeps_ask hlasting hfind)
  intro found
  apply Script.follows_bind (keeps_ask hlasting rfl)
  intro _
  exact keeps_refuse_or _ (keeps_pure _)

theorem keeps_describeController :
    describeController.Keeps display.interface handoff fact := by
  apply Script.follows_bind (keeps_ask hlasting rfl)
  intro bound
  apply Script.follows_bind (keeps_ask hlasting rfl)
  intro described
  split_ifs
  · exact follows_refuse_handoff _
  · exact keeps_pure _
  · exact keeps_require hlasting _
  · exact keeps_pure _

theorem keeps_checkClient (adapter : ℤ) :
    (checkClient adapter).Keeps display.interface handoff fact := by
  apply Script.follows_bind (keeps_ask hlasting rfl)
  intro owner
  apply Script.follows_bind (keeps_ask hlasting rfl)
  intro addr
  apply Script.follows_bind (keeps_ask hlasting rfl)
  intro flags
  exact keeps_refuse_or _ (keeps_pure _)

theorem keeps_prepareBridgeClient :
    prepareBridgeClient.Keeps display.interface handoff fact := by
  apply Script.follows_bind (keeps_findByPath hlasting _ rfl)
  intro controller
  apply Script.follows_bind (keeps_describeController hlasting)
  intro _
  apply Script.follows_bind (keeps_require hlasting _)
  intro _
  apply Script.follows_bind (keeps_request hlasting _)
  intro adapter
  apply Script.follows_bind (Script.follows_bind (keeps_ask hlasting rfl) fun parent ↦
    keeps_refuse_or _ (keeps_pure _))
  intro _
  apply Script.follows_bind (keeps_findByPath hlasting _ rfl)
  intro _
  apply Script.follows_bind (keeps_checkClient hlasting adapter)
  intro _
  apply Script.follows_bind (Script.follows_bind (keeps_ask hlasting rfl) fun bound ↦
    keeps_refuse_or _ (keeps_require hlasting _))
  exact fun _ ↦ keeps_require hlasting _

/-! ## Activation -/

theorem keeps_withClocks {body : List ℤ → Script DisplayCall Unit}
    (hbody : ∀ clks, (body clks).Keeps display.interface handoff fact)
    (clocks : List (String × String)) (clks : List ℤ) :
    (withClocks body clocks clks).Keeps display.interface handoff fact := by
  induction clocks generalizing clks with
  | nil => exact hbody clks
  | cons clock clocks ih =>
    apply Script.follows_bind
      (Script.keeps_step hlasting fun trace _ ↦ retaining_allowed rfl rfl trace)
    intro clk
    apply Script.follows_ensuring (ih _) _ fun _ ↦ hlasting
    exact List.forall_mem_singleton.2 (harmless_clkPut clk)

theorem keeps_setRate (clk : ℤ) (rate : ℕ) :
    (setRate clk rate).Keeps display.interface handoff fact := by
  apply Script.follows_bind (keeps_require hlasting _)
  intro _
  apply Script.follows_bind (keeps_ask hlasting rfl)
  exact fun actual ↦ keeps_refuse_or _ (keeps_pure _)

theorem keeps_configureClocks (clks : List ℤ) :
    (configureClocks clks).Keeps display.interface handoff fact := by
  have hadopt : ∀ clk, (adoptClock clk).Keeps display.interface handoff fact := by
    intro clk
    apply Script.keeps_inOrder
    simp [keeps_require hlasting]
  have hparent : ∀ clk parent, (setParent clk parent).Keeps display.interface handoff fact := by
    intro clk parent
    apply Script.keeps_inOrder
    simp [keeps_require hlasting]
  apply Script.keeps_inOrder
  simp [hadopt, hparent, keeps_setRate hlasting]

theorem keeps_prepareClockDefaults :
    prepareClockDefaults.Keeps display.interface handoff fact := by
  apply keeps_withClocks hlasting
  intro clks
  apply Script.follows_bind (keeps_require hlasting _)
  intro _
  apply Script.follows_bind (keeps_require hlasting _)
  intro _
  apply Script.follows_ensuring (keeps_configureClocks hlasting clks) _ fun _ ↦ hlasting
  exact List.forall_mem_singleton.2 (harmless_of_cleanup rfl)

theorem keeps_activateDisplay : activateDisplay.Keeps display.interface handoff fact := by
  apply Script.keeps_inOrder
  simp [keeps_prepareClockDefaults hlasting, keeps_activate hlasting, keeps_require hlasting]

/-! ## Stopping the scanout -/

/-- The status that a poll ends with is the newest that was read. -/
theorem follows_pollStatus (polls : ℕ) :
    (pollStatus polls).Follows display.interface handoff fact fun status trace ↦
      ∃ earlier, trace = (.other (.readl intfStatus), status) :: earlier ∧ fact earlier := by
  have hread : (ask (.readl intfStatus)).Follows display.interface handoff fact
      fun status trace ↦
        ∃ earlier, trace = (.other (.readl intfStatus), status) :: earlier ∧ fact earlier :=
    follows_ask rfl fun status trace hfact ↦ ⟨trace, rfl, hfact⟩
  have hweaken : ∀ status trace,
      (∃ earlier, trace = (.other (.readl intfStatus), status) :: earlier ∧ fact earlier) →
        fact trace := by
    rintro status trace ⟨earlier, rfl, hearlier⟩
    exact hlasting _ _ hearlier
  induction polls with
  | zero =>
    apply Script.follows_bind hread
    intro status
    split_ifs
    · exact Script.follows_pure fun _ hseen ↦ hseen
    · exact Script.follows_weaken (hweaken status) hread
  | succ polls ih =>
    apply Script.follows_bind hread
    intro status
    split_ifs
    · exact Script.follows_pure fun _ hseen ↦ hseen
    · exact Script.follows_weaken (hweaken status) ih

end

theorem follows_stopTiming (polls : ℕ) :
    (stopTiming polls).Follows display.interface handoff (fun _ ↦ True) fun _ ↦ Quiesced := by
  have hrevision : (ask (.readl 0)).Follows display.interface handoff (fun _ ↦ True)
      fun revision trace ↦ [(.other (.readl 0), revision)].Sublist trace :=
    follows_ask rfl fun revision trace _ ↦ (List.nil_sublist trace).cons_cons _
  apply Script.follows_bind hrevision
  intro revision
  split_ifs with hmatch
  · exact follows_refuse_handoff _
  apply Script.follows_bind (keeps_ask (lasting_sublist _) rfl)
  intro enable
  apply Script.follows_bind (keeps_ask (lasting_sublist _) rfl)
  intro _
  split_ifs
  · exact follows_refuse_handoff _
  have hwritten : (ask (.writel 0 timingEnable)).Follows display.interface handoff
      (fun trace ↦ [(.other (.readl 0), revision)].Sublist trace) fun written trace ↦
        [(.other (.writel 0 timingEnable), written), (.other (.readl 0), revision)].Sublist trace :=
    follows_ask rfl fun written trace hseen ↦ hseen.cons_cons _
  apply Script.follows_bind hwritten
  intro written
  apply Script.follows_bind (follows_pollStatus (lasting_sublist _) polls)
  intro status
  split_ifs with hstopped
  · apply Script.follows_pure
    rintro trace ⟨earlier, rfl, hseen⟩
    exact ⟨revision, written, status, not_not.1 hmatch, hstopped, hseen.cons_cons _⟩
  · exact follows_refuse_handoff _

theorem follows_quiesceFirmwareScanout (polls : ℕ) :
    (quiesceFirmwareScanout polls).Follows display.interface handoff (fun _ ↦ True)
      fun _ ↦ Quiesced := by
  have htrue : Lasting fun _ : List (DisplayCall × ℤ) ↦ True := fun _ _ _ ↦ trivial
  apply Script.follows_bind Script.follows_state
  intro stages
  split_ifs
  · exact follows_refuse_handoff _
  apply Script.follows_bind (keeps_require htrue _)
  intro _
  apply Script.follows_ensuring _ (List.forall_mem_singleton.2 (harmless_of_cleanup rfl))
    fun _ ↦ lasting_quiesced
  apply Script.follows_bind (keeps_require htrue _)
  intro _
  exact Script.follows_ensuring (follows_stopTiming polls)
    (List.forall_mem_singleton.2 (harmless_of_cleanup rfl)) fun _ ↦ lasting_quiesced

theorem follows_prepareDisplay (polls : ℕ) (mdssIrq cx : ℤ) :
    (prepareDisplay true polls mdssIrq cx).Follows display.interface handoff (fun _ ↦ True)
      fun _ ↦ Quiesced := by
  have htrue : Lasting fun _ : List (DisplayCall × ℤ) ↦ True := fun _ _ _ ↦ trivial
  apply Script.follows_bind (keeps_prepareInterconnects htrue)
  intro _
  apply Script.follows_bind (keeps_prepareGcc htrue cx)
  intro _
  apply Script.follows_bind (keeps_prepareDispcc htrue)
  intro _
  apply Script.follows_bind (keeps_preparePhyRegulator htrue)
  intro _
  apply Script.follows_bind (keeps_preparePhy htrue)
  intro _
  apply Script.follows_bind (keeps_prepareMdss htrue mdssIrq)
  intro _
  apply Script.follows_bind (follows_quiesceFirmwareScanout polls)
  intro _
  apply Script.follows_bind (keeps_prepareDpu lasting_quiesced (fun _ hquiesced ↦ hquiesced) cx)
  intro _
  apply Script.follows_bind (keeps_prepareDsiSupplies lasting_quiesced)
  intro _
  apply Script.follows_bind (keeps_prepareDsi lasting_quiesced cx)
  intro _
  apply Script.follows_bind (keeps_prepareBridgeClient lasting_quiesced)
  intro _
  apply Script.follows_bind (keeps_activateDisplay lasting_quiesced)
  exact fun _ ↦ keeps_pure _

/-! ## Before the first stage -/

/-- The validation makes calls of the coordinator only, so it follows every discipline that allows
those. -/
theorem follows_findSuppliers {discipline : Discipline DisplayCall}
    (hallowed : ∀ call trace, discipline.allowed (.other call) trace)
    (hharmless : ∀ name, display.interface.Harmless discipline (.other (.putDevice name))) :
    findSuppliers.Keeps display.interface discipline fun _ ↦ True := by
  have htrue : Lasting fun _ : List (DisplayCall × ℤ) ↦ True := fun _ _ _ ↦ trivial
  have hrequire : ∀ call, (require call).Keeps display.interface discipline fun _ ↦ True :=
    fun call ↦ Script.keeps_perform htrue fun trace _ ↦ hallowed call trace
  have hrequest : ∀ call, (request call).Keeps display.interface discipline fun _ ↦ True :=
    fun call ↦ Script.keeps_step htrue fun trace _ ↦ hallowed call trace
  have hput := fun name ↦ List.forall_mem_singleton.2 (hharmless name)
  apply Script.follows_bind (hrequire _)
  intro _
  apply Script.follows_onFailure _ (hput _)
  apply Script.follows_bind (hrequest _)
  intro _
  apply Script.follows_onFailure _ (hput _)
  apply Script.follows_bind (hrequest _)
  intro _
  apply Script.follows_onFailure _ (hput _)
  apply Script.follows_bind (hrequire _)
  exact fun _ ↦ hrequest _

/-- The coordinator's own calls and nothing else. -/
def preliminary : Discipline DisplayCall where
  cleanup _ := true
  allowed call _ := ∃ board, call = .other board

variable {trace : List (DisplayCall × ℤ)}

theorem replay_of_preliminary (hrespects : display.interface.Respects preliminary trace) :
    display.interface.replay trace = fun _ ↦ .empty := by
  induction trace with
  | nil => rfl
  | cons event trace ih =>
    obtain ⟨board, hboard⟩ := hrespects.1.2
    calc display.interface.replay (event :: trace)
        = event.1.effect event.2 (display.interface.replay trace) :=
          Interface.replay_cons _ event trace
      _ = display.interface.replay trace := by rw [hboard]; rfl
      _ = fun _ ↦ .empty := ih hrespects.2

/-- No stage has a device when the validation ends. -/
theorem replay_findSuppliers (oracle : ℕ → DisplayCall → ℤ) :
    display.interface.replay (findSuppliers oracle []).2 = fun _ ↦ .empty := by
  have hfollows : findSuppliers.Keeps display.interface preliminary fun _ ↦ True :=
    follows_findSuppliers (fun call _ ↦ ⟨call, rfl⟩)
      fun name ↦ ⟨rfl, fun _ ↦ rfl, fun _ ↦ ⟨_, rfl⟩⟩
  exact replay_of_preliminary
    (hfollows oracle [] Interface.not_failed_nil trivial trivial).1

/-! ## Blocking -/

/-- The device of the stage, if it has one, is blocked, unless the override could not be set. -/
def Blocked (stage : Stage) (trace : List (DisplayCall × ℤ)) : Prop :=
  ∀ device, (display.interface.replay trace stage).pdev = some device →
    device.blocked = true ∨
      ∃ answer ≠ 0, (.deviceSetDriverOverride stage .block, answer) ∈ trace

/-- A call that blocks a stage blocks it, and leaves the others as they are. -/
theorem replay_block (stage other : Stage) (answer : ℤ) (trace : List (DisplayCall × ℤ)) :
    display.interface.replay ((.deviceSetDriverOverride stage .block, answer) :: trace) other =
      if answer = 0 ∧ other = stage then
        (display.interface.replay trace other).setOverride .block
      else display.interface.replay trace other := by
  rw [Interface.replay_cons]
  simp only [interface, Call.effect]
  by_cases hanswer : answer = 0
  · by_cases hother : other = stage
    · simp [hanswer, hother]
    · simp [hanswer, hother]
  · simp [hanswer]

theorem Blocked.cons_block {stage : Stage} (hblocked : Blocked stage trace) (other : Stage)
    (answer : ℤ) :
    Blocked stage ((.deviceSetDriverOverride other .block, answer) :: trace) := by
  intro device hdevice
  rw [replay_block] at hdevice
  split_ifs at hdevice
  · obtain ⟨earlier, -, rfl⟩ := Option.map_eq_some_iff.1 hdevice
    exact .inl (by simp)
  · apply (hblocked device hdevice).imp_right
    exact fun ⟨refused, hrefused, hmem⟩ ↦ ⟨refused, hrefused, List.mem_cons_of_mem _ hmem⟩

variable (stage : Stage)

theorem blocked_block (answer : ℤ) (trace : List (DisplayCall × ℤ)) :
    Blocked stage ((.deviceSetDriverOverride stage .block, answer) :: trace) := by
  intro device hdevice
  by_cases hanswer : answer = 0
  · rw [replay_block, if_pos ⟨hanswer, rfl⟩] at hdevice
    obtain ⟨earlier, -, rfl⟩ := Option.map_eq_some_iff.1 hdevice
    exact .inl (by simp)
  · exact .inr ⟨answer, hanswer, List.mem_cons_self⟩

section

variable (oracle : ℕ → DisplayCall → ℤ)

theorem blockPendingProbes_cons (stages : List Stage) (trace : List (DisplayCall × ℤ)) :
    blockPendingProbes (stage :: stages) oracle trace = blockPendingProbes stages oracle
      (if (display.interface.replay trace stage).pdev.isSome then
        (.deviceSetDriverOverride stage .block,
          oracle trace.length (.deviceSetDriverOverride stage .block)) :: trace
      else trace) := by
  by_cases hpdev : (display.interface.replay trace stage).pdev.isSome = true
  · simp [blockPendingProbes, hpdev, bind, Script.state, Script.invoke]
  · simp [blockPendingProbes, hpdev, bind, Script.state]

/-- Blocking keeps what every single blocking call keeps. -/
theorem blockPendingProbes_keeps {fact : List (DisplayCall × ℤ) → Prop}
    (hfact : ∀ stage answer trace, fact trace →
      fact ((.deviceSetDriverOverride stage .block, answer) :: trace))
    (stages : List Stage) {trace : List (DisplayCall × ℤ)} (htrace : fact trace) :
    fact (blockPendingProbes stages oracle trace).2 := by
  induction stages generalizing trace with
  | nil => exact htrace
  | cons stage stages ih =>
    rw [blockPendingProbes_cons]
    apply ih
    split_ifs
    · exact hfact _ _ _ htrace
    · exact htrace

theorem blockPendingProbes_ok (stages : List Stage) (trace : List (DisplayCall × ℤ)) :
    (blockPendingProbes stages oracle trace).1 = .ok () := by
  induction stages generalizing trace with
  | nil => rfl
  | cons stage stages ih =>
    rw [blockPendingProbes_cons]
    exact ih _

/-- Every listed stage is blocked in the end. -/
theorem blockPendingProbes_blocks {stages : List Stage} {stage : Stage} (hstage : stage ∈ stages)
    (trace : List (DisplayCall × ℤ)) :
    Blocked stage (blockPendingProbes stages oracle trace).2 := by
  induction stages generalizing trace with
  | nil => exact absurd hstage List.not_mem_nil
  | cons first stages ih =>
    rw [blockPendingProbes_cons]
    rcases List.mem_cons.1 hstage with rfl | hstage
    · apply blockPendingProbes_keeps oracle fun other answer _ hblocked ↦
        hblocked.cons_block other answer
      split_ifs with hpdev
      · exact blocked_block stage _ trace
      · intro device hdevice
        exact absurd (Option.isSome_iff_exists.2 ⟨device, hdevice⟩) hpdev
    · exact ih hstage _

end

theorem mem_pendingStages : stage ∈ pendingStages := by
  cases stage with
  | noc index =>
    revert index
    decide
  | _ => simp [pendingStages]

/-! ## The whole initialisation -/

/-- What holds of the calls that the initialisation has made when it returns. -/
structure SafeHandoff (trace : List (DisplayCall × ℤ)) : Prop where
  ordered : ∀ later event earlier, trace = later ++ event :: earlier →
    event.1.creates = some .dpu → Quiesced earlier
  stops : ∀ later event earlier, trace = later ++ event :: earlier →
    display.interface.Failed earlier → handoff.cleanup event.1 = true
  blocked : display.interface.Failed trace → ∀ stage, Blocked stage trace
  retains : Retains trace (display.interface.replay trace)

theorem safeHandoff_of_respects (hrespects : display.interface.Respects handoff trace)
    (hblocked : display.interface.Failed trace → ∀ stage, Blocked stage trace) :
    SafeHandoff trace where
  ordered := by
    rintro later event earlier rfl hcreates
    exact hrespects.allowed.2.2 .dpu hcreates rfl
  stops := by
    rintro later event earlier rfl
    exact hrespects.allowed.1
  blocked := hblocked
  retains := by
    apply retains_replay
    intro event hevent
    obtain ⟨later, earlier, rfl⟩ := List.append_of_mem hevent
    exact hrespects.allowed.2.1

theorem respects_block (answer : ℤ) (trace : List (DisplayCall × ℤ))
    (hrespects : display.interface.Respects handoff trace) :
    display.interface.Respects handoff
      ((.deviceSetDriverOverride stage .block, answer) :: trace) :=
  hrespects.cons (fun _ ↦ rfl) (retaining_allowed rfl rfl trace)

theorem tclDisplayInit_eq (scanout : Bool) (polls : ℕ) (mdssIrq : ℤ)
    (oracle : ℕ → DisplayCall → ℤ) (trace : List (DisplayCall × ℤ)) :
    tclDisplayInit scanout polls mdssIrq oracle trace =
      match findSuppliers oracle trace with
      | (.error ret, trace) => (.ok ⟨ret, 0, false⟩, trace)
      | (.ok cx, trace) =>
        match prepareDisplay scanout polls mdssIrq cx oracle trace with
        | (.ok (), trace) => (.ok ⟨0, 0, true⟩, trace)
        | (.error result, trace) =>
          (.ok ⟨0, result, false⟩, (blockPendingProbes pendingStages oracle trace).2) := by
  simp only [tclDisplayInit, bind, pure, Script.attempt]
  rcases findSuppliers oracle trace with ⟨_ | cx, trace⟩
  · rfl
  · dsimp only
    rcases prepareDisplay scanout polls mdssIrq cx oracle trace with ⟨result | _, trace⟩
    · have hok := blockPendingProbes_ok oracle pendingStages trace
      dsimp only
      revert hok
      rcases blockPendingProbes pendingStages oracle trace with ⟨outcome, final⟩
      rintro rfl
      rfl
    · rfl

/-- **The handoff with scanout.** Whatever the calls answer and the registers read, the
initialisation returns, an error value tells whether something failed, and its calls were safe. -/
theorem tclDisplayInit_safe (oracle : ℕ → DisplayCall → ℤ) (polls : ℕ) (mdssIrq : ℤ) :
    ∃ outcome trace, tclDisplayInit true polls mdssIrq oracle [] = (.ok outcome, trace) ∧
      (outcome.ready = true ↔ outcome.ret = 0 ∧ outcome.result = 0) ∧
      (outcome.ready = true ↔ ¬display.interface.Failed trace) ∧ SafeHandoff trace := by
  have hfind : findSuppliers.Keeps display.interface handoff fun _ ↦ True :=
    follows_findSuppliers (fun _ trace ↦ retaining_allowed rfl rfl trace)
      fun _ ↦ harmless_of_cleanup rfl
  have hfound := hfind oracle [] Interface.not_failed_nil trivial trivial
  have hempty := replay_findSuppliers oracle
  rw [tclDisplayInit_eq]
  revert hfound hempty
  rcases findSuppliers oracle [] with ⟨ret | cx, trace⟩
  · intro hfound hempty
    refine ⟨_, _, rfl, by simpa using hfound.2.2, by simpa using hfound.2.1,
      safeHandoff_of_respects hfound.1 fun _ stage ↦ ?_⟩
    intro device hdevice
    rw [hempty] at hdevice
    exact absurd hdevice (Option.some_ne_none device).symm
  · intro hfound _
    have hprepared := follows_prepareDisplay polls mdssIrq cx oracle trace hfound.2.1 hfound.1
      trivial
    dsimp only
    revert hprepared
    rcases prepareDisplay true polls mdssIrq cx oracle trace with ⟨result | _, trace⟩
    · intro hprepared
      have hrespects := blockPendingProbes_keeps oracle respects_block pendingStages hprepared.1
      have hfailed := blockPendingProbes_keeps oracle
        (fun _ _ _ ↦ (Interface.failed_cons _ _).2 ∘ .inr) pendingStages hprepared.2.1
      refine ⟨_, _, rfl, by simpa using hprepared.2.2, by simpa using hfailed,
        safeHandoff_of_respects hrespects fun _ stage ↦ ?_⟩
      exact blockPendingProbes_blocks oracle (mem_pendingStages stage) trace
    · intro hprepared
      refine ⟨_, _, rfl, by simp, by simpa using hprepared.2.1, ?_⟩
      exact safeHandoff_of_respects hprepared.1 fun hfailed ↦ absurd hfailed hprepared.2.1

/-- On a board where every call succeeds and the interface stops at once, the display is ready. -/
example : (tclDisplayInit true 0 100 (fun _ call ↦ match call with
    | .clkGetSys _ source => if source = "disp_cc_mdss_mdp_clk" then 3 else 1
    | .other (.clkGetRate clk) => if clk = 3 then 200000000 else 19200000
    | .other (.readl 0) => 0x60020000
    | .other .clientAddr => 0x29
    | .platformDeviceAlloc .. | .deviceAttach _ => 1
    | .other (.platformGetDrvdata _) | .other .busFindDeviceByFwnode |
      .other .i2cFindDeviceByFwnode | .other .adapterParent | .other .clientAdapter => 1
    | .other board => match board.verdict with
      | .null _ | .positive _ => 1
      | _ => 0
    | _ => 0) []).1.toOption = some ⟨0, 0, true⟩ := by
  decide +kernel

end TclB220G.Display
