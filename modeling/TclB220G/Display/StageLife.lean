import Mathlib.Algebra.Order.Pi
import TclB220G.Display.Binding
import TclB220G.Lib.Ledger
import TclB220G.Lib.Lifetime
import TclB220G.Lib.Triple

/-!
# The life of a stage

A stage may be created, given clocks and a domain, activated, quiesced and destroyed in any order, and
every call of these functions may fail.  What it holds is at all times what it has taken and not yet given
back.  So nothing is given back twice, a destruction that failed can be repeated, and one that succeeds
leaves nothing behind.

A clock is held for a moment without the stage knowing of it, between getting it and storing it and
between dropping its alias and putting it.  The balance therefore has a term for what is held besides.
-/

namespace TclB220G.Display

open Kernel Lib

/-- What a stage takes and gives back. -/
inductive Held where
  | allocation
  | device
  | domain
  | clock (clk : ℤ)
  | lookup (lookup : ℤ)
  deriving DecidableEq, Repr

section

variable {Id Other : Type}

/-- What a call takes or gives back. -/
def Call.change : Call Id Other → ℤ → Held → ℤ
  | .platformDeviceAlloc .., answer => if answer = 0 then 0 else Pi.single .allocation 1
  | .platformDevicePut _, _ => -Pi.single .allocation 1
  | .platformDeviceAdd _, answer =>
    if answer = 0 then Pi.single .device 1 - Pi.single .allocation 1 else 0
  | .platformDeviceUnregister _, _ => -Pi.single .device 1
  | .pmGenpdAddDevice .., answer => if answer = 0 then Pi.single .domain 1 else 0
  | .pmGenpdRemoveDevice _, answer => if answer = 0 then -Pi.single .domain 1 else 0
  | .clkGetSys .., answer => if answer < 0 then 0 else Pi.single (.clock answer) 1
  | .clkPut clk, _ => -Pi.single (.clock clk) 1
  | .qcomTclClkdevLookup .., answer => if answer < 0 then 0 else Pi.single (.lookup answer) 1
  | .clkdevDrop _ lookup, _ => -Pi.single (.lookup lookup) 1
  | _, _ => 0

/-- The calls that take an alias or the domain from a device. -/
def Call.detaches : Call Id Other → Bool
  | .clkdevDrop .. | .pmGenpdRemoveDevice _ => true
  | _ => false

/-- What a stage holds. -/
def DisplayStage.inventory (stage : DisplayStage) : Held → ℤ
  | .allocation => if stage.allocated.isSome then 1 else 0
  | .device => if stage.pdev.isSome then 1 else 0
  | .domain => if stage.domainAttached then 1 else 0
  | .clock clk => (stage.clocks.map Prod.fst).count clk
  | .lookup lookup => (stage.clocks.map Prod.snd).count lookup

inductive StageOp where
  | create (name : String) (id : ℤ) (resources : List Resource)
  | clock (provider source consumer : String)
  | domain (domain : ℤ)
  | activate
  | quiesce
  | destroy

variable [DecidableEq Id] (coordinator : Coordinator Other)

def StageOp.script (stage : Id) : StageOp → Script (Call Id Other) Unit
  | create name id resources => coordinator.tclDisplayStageCreateFull stage name id resources
  | clock provider source consumer => coordinator.tclDisplayStageClock stage provider source consumer
  | domain target => coordinator.tclDisplayStageDomain stage target
  | activate => coordinator.tclDisplayStageActivate stage
  | quiesce => coordinator.tclDisplayStageQuiesce stage
  | destroy => coordinator.tclDisplayStageDestroy stage

/-- The calls of a stage over its life so far.  Every function has answers of its own. -/
def lifeTrace (stage : Id) (history : List (StageOp × (ℕ → Call Id Other → ℤ))) :
    List (Call Id Other × ℤ) :=
  history.foldl (fun trace operation ↦ (operation.1.script coordinator stage operation.2 trace).2) []

/-! ## The balance -/

/-- After the call the stage has no more clocks than it has room for, and what the call detached was
detached without a driver. -/
def Careful (probing : Probing Id) (stage : Id) (event : Call Id Other × ℤ)
    (earlier : List (Call Id Other × ℤ)) : Prop :=
  (coordinator.interface.replay (event :: earlier) stage).clocks.length ≤ DisplayStage.maxClocks ∧
    (event.1.detaches = true → coordinator.bound probing earlier stage = false)

/-- The stage is as given, and it and `besides` is what was taken and not given back. -/
structure Sound (probing : Probing Id) (stage : Id) (current : DisplayStage) (besides : Held → ℤ)
    (trace : List (Call Id Other × ℤ)) : Prop where
  state : coordinator.interface.replay trace stage = current
  balance : total Call.change trace = current.inventory + besides
  covered : Covered Call.change trace
  room : current.clocks.length ≤ DisplayStage.maxClocks
  careful : Along (Careful coordinator probing stage) trace

theorem DisplayStage.inventory_nonneg (stage : DisplayStage) : 0 ≤ stage.inventory := by
  intro held
  cases held <;> simp only [inventory, Pi.zero_apply] <;> (try split) <;> simp

theorem DisplayStage.inventory_empty : DisplayStage.empty.inventory = 0 := by
  funext held
  cases held <;> rfl

variable {coordinator} {probing : Probing Id} {stage : Id} {current next : DisplayStage}
  {besides besides' : Held → ℤ} {trace : List (Call Id Other × ℤ)} {call : Call Id Other} {answer : ℤ}

theorem sound_nil : Sound coordinator probing stage .empty 0 [] where
  state := rfl
  balance := by rw [DisplayStage.inventory_empty, add_zero]; rfl
  covered := trivial
  room := Nat.zero_le _
  careful := trivial

theorem Sound.cons (h : Sound coordinator probing stage current besides trace)
    (hstate : ∀ stages : Id → DisplayStage, stages stage = current →
      call.effect answer stages stage = next)
    (hbalance : current.inventory + besides + call.change answer = next.inventory + besides')
    (hbesides : 0 ≤ besides') (hroom : next.clocks.length ≤ DisplayStage.maxClocks)
    (hfree : call.detaches = true → coordinator.bound probing trace stage = false) :
    Sound coordinator probing stage next besides' ((call, answer) :: trace) := by
  have hnext : coordinator.interface.replay ((call, answer) :: trace) stage = next := hstate _ h.state
  have htotal : total Call.change trace + call.change answer = next.inventory + besides' := by
    rw [h.balance, hbalance]
  exact
    { state := hnext
      balance := by rw [total_cons, htotal]
      covered := h.covered.cons (by rw [htotal]; exact add_nonneg next.inventory_nonneg hbesides)
      room := hroom
      careful := ⟨⟨by rwa [hnext], hfree⟩, h.careful⟩ }

/-- A call that neither changes the stage nor takes anything. -/
theorem Sound.idle (h : Sound coordinator probing stage current besides trace) (hbesides : 0 ≤ besides)
    (heffect : ∀ stages : Id → DisplayStage, call.effect answer stages = stages)
    (hchange : (call.change answer : Held → ℤ) = 0) (hdetaches : call.detaches = false) :
    Sound coordinator probing stage current besides ((call, answer) :: trace) :=
  h.cons (fun stages hstage ↦ by rw [heffect, hstage]) (by rw [hchange, add_zero]) hbesides h.room
    fun hdetach ↦ by rw [hdetaches] at hdetach; cases hdetach

/-! ## Functions that do not release -/

/-- A stage between two functions: nothing is half created, and without a device there is nothing. -/
structure DisplayStage.Settled (stage : DisplayStage) : Prop where
  allocated : stage.allocated = none
  absent : stage.pdev = none → stage = .empty

variable (coordinator probing stage) in
def Ready (trace : List (Call Id Other × ℤ)) : Prop :=
  ∃ current, Sound coordinator probing stage current 0 trace ∧ current.Settled

/-- A function starts by looking at its stage. -/
theorem triple_of_ready {α : Type} {next : (Id → DisplayStage) → Script (Call Id Other) α}
    {after : α → List (Call Id Other × ℤ) → Prop} {failing : List (Call Id Other × ℤ) → Prop}
    (hnext : ∀ stages : Id → DisplayStage, (stages stage).Settled →
      (next stages).Triple (Sound coordinator probing stage (stages stage) 0) after failing) :
    (Script.state coordinator.interface >>= next).Triple (Ready coordinator probing stage) after
      failing := by
  intro oracle trace hready
  obtain ⟨current, hsound, hsettled⟩ := hready
  have hstate := hsound.state
  subst hstate
  exact hnext _ hsettled oracle trace hsound

theorem Sound.ready (h : Sound coordinator probing stage current 0 trace) (hsettled : current.Settled) :
    Ready coordinator probing stage trace := ⟨current, h, hsettled⟩

theorem Sound.idle_ready (h : Sound coordinator probing stage current 0 trace) (hsettled : current.Settled)
    (heffect : ∀ stages : Id → DisplayStage, call.effect answer stages = stages)
    (hchange : (call.change answer : Held → ℤ) = 0) (hdetaches : call.detaches = false) :
    Ready coordinator probing stage ((call, answer) :: trace) :=
  (h.idle le_rfl heffect hchange hdetaches).ready hsettled

/-- A check that is not met leaves the stage as it is. -/
theorem triple_refuse {α : Type} {after : α → List (Call Id Other × ℤ) → Prop}
    (hsettled : current.Settled) (errno : Errno) :
    (coordinator.refuse errno : Script (Call Id Other) α).Triple
      (Sound coordinator probing stage current 0) after (Ready coordinator probing stage) :=
  Script.triple_refuse fun _ h ↦ h.idle_ready hsettled (fun _ ↦ rfl) rfl rfl

/-- A call without an effect on the stage. -/
theorem triple_idle {failing : List (Call Id Other × ℤ) → Prop}
    (heffect : ∀ answer (stages : Id → DisplayStage), call.effect answer stages = stages)
    (hchange : ∀ answer, (call.change answer : Held → ℤ) = 0) (hdetaches : call.detaches = false)
    (hfailing : ∀ trace, Sound coordinator probing stage current 0 trace → failing trace) :
    (coordinator.perform call).Triple (Sound coordinator probing stage current 0)
      (fun _ ↦ Sound coordinator probing stage current 0) failing :=
  Script.triple_perform
    (fun answer _ h _ ↦ h.idle le_rfl (heffect answer) (hchange answer) hdetaches)
    fun answer _ h _ ↦ hfailing _ (h.idle le_rfl (heffect answer) (hchange answer) hdetaches)

theorem DisplayStage.settled_empty : DisplayStage.empty.Settled := ⟨rfl, fun _ ↦ rfl⟩

/-- A device that is allocated, with what else the stage has then. -/
def DisplayStage.allocating (device : PlatformDevice) : DisplayStage := ⟨some device, none, [], false⟩

section Creation

variable {device : PlatformDevice}

theorem Sound.alloc {name : String} {id : ℤ} (h : Sound coordinator probing stage .empty 0 trace)
    (hanswer : answer ≠ 0) :
    Sound coordinator probing stage (.allocating .fresh) 0
      ((.platformDeviceAlloc stage name id, answer) :: trace) := by
  refine h.cons (fun stages hstage ↦ ?_) ?_ le_rfl (Nat.zero_le _) fun hdetach ↦ by cases hdetach
  · simp [Call.effect, hanswer, hstage, DisplayStage.empty, DisplayStage.allocating]
  · funext held
    cases held <;> simp [DisplayStage.inventory, DisplayStage.empty, DisplayStage.allocating,
      Call.change, hanswer]

theorem Sound.overrideAllocated (h : Sound coordinator probing stage (.allocating device) 0 trace) :
    Sound coordinator probing stage (.allocating { device with blocked := true }) 0
      ((.overrideAllocated stage, 0) :: trace) := by
  refine h.cons (fun stages hstage ↦ ?_) ?_ le_rfl (Nat.zero_le _) fun hdetach ↦ by cases hdetach
  · simp [Call.effect, hstage, DisplayStage.allocating]
  · funext held
    cases held <;> simp [DisplayStage.inventory, DisplayStage.allocating, Call.change]

theorem Sound.add (h : Sound coordinator probing stage (.allocating device) 0 trace) :
    Sound coordinator probing stage ⟨none, some device, [], false⟩ 0
      ((.platformDeviceAdd stage, 0) :: trace) := by
  refine h.cons (fun stages hstage ↦ ?_) ?_ le_rfl (Nat.zero_le _) fun hdetach ↦ by cases hdetach
  · simp [Call.effect, hstage, DisplayStage.allocating]
  · funext held
    cases held <;> simp [DisplayStage.inventory, DisplayStage.allocating, Call.change]

theorem Sound.put (h : Sound coordinator probing stage (.allocating device) 0 trace) :
    Sound coordinator probing stage .empty 0 ((.platformDevicePut stage, answer) :: trace) := by
  refine h.cons (fun stages hstage ↦ ?_) ?_ le_rfl (Nat.zero_le _) fun hdetach ↦ by cases hdetach
  · simp [Call.effect, hstage, DisplayStage.allocating, DisplayStage.empty]
  · funext held
    cases held <;> simp [DisplayStage.inventory, DisplayStage.allocating, DisplayStage.empty, Call.change]

variable (coordinator probing stage) in
/-- The creation is under way, with whatever device. -/
def Allocating (trace : List (Call Id Other × ℤ)) : Prop :=
  ∃ device, Sound coordinator probing stage (.allocating device) 0 trace

theorem triple_alloc (name : String) (id : ℤ) :
    (coordinator.perform (.platformDeviceAlloc stage name id)).Triple
      (Sound coordinator probing stage .empty 0)
      (fun _ ↦ Sound coordinator probing stage (.allocating .fresh) 0)
      (Ready coordinator probing stage) := by
  refine Script.triple_perform (fun answer _ h hok ↦ h.alloc (of_decide_eq_false hok))
    fun answer _ h hfailed ↦ ?_
  obtain rfl : answer = 0 := of_decide_eq_true hfailed
  exact h.idle_ready DisplayStage.settled_empty (fun _ ↦ rfl) rfl rfl

theorem triple_overrideAllocated :
    (coordinator.perform (.overrideAllocated stage)).Triple
      (Sound coordinator probing stage (.allocating .fresh) 0)
      (fun _ ↦ Sound coordinator probing stage (.allocating ⟨true, false⟩) 0)
      (Allocating coordinator probing stage) :=
  triple_nonzero rfl (fun _ h ↦ h.overrideAllocated) fun _ _ hne h ↦
    ⟨.fresh, h.idle le_rfl (fun _ ↦ if_neg hne) rfl rfl⟩

/-- A call that leaves the device as it was allocated. -/
theorem triple_allocating (heffect : ∀ answer (stages : Id → DisplayStage), call.effect answer stages = stages)
    (hchange : ∀ answer, (call.change answer : Held → ℤ) = 0) (hdetaches : call.detaches = false) :
    (coordinator.perform call).Triple (Sound coordinator probing stage (.allocating device) 0)
      (fun _ ↦ Sound coordinator probing stage (.allocating device) 0)
      (Allocating coordinator probing stage) :=
  triple_idle heffect hchange hdetaches fun _ h ↦ ⟨device, h⟩

theorem triple_add :
    (coordinator.perform (.platformDeviceAdd stage)).Triple
      (Sound coordinator probing stage (.allocating device) 0) (fun _ ↦ Ready coordinator probing stage)
      (Allocating coordinator probing stage) :=
  triple_nonzero rfl (fun _ h ↦ h.add.ready ⟨rfl, fun hnone ↦ by cases hnone⟩) fun _ _ hne h ↦
    ⟨device, h.idle le_rfl (fun _ ↦ if_neg hne) (if_neg hne) rfl⟩

theorem triple_create (name : String) (id : ℤ) (resources : List Resource) :
    (coordinator.tclDisplayStageCreateFull stage name id resources).Triple
      (Ready coordinator probing stage) (fun _ ↦ Ready coordinator probing stage)
      (Ready coordinator probing stage) := by
  refine triple_of_ready fun stages hsettled ↦ ?_
  split
  · exact triple_refuse hsettled _
  next habsent =>
    rw [hsettled.absent (by simpa using habsent)]
    have hput : ∀ answer trace, Allocating coordinator probing stage trace →
        Ready coordinator probing stage ((.platformDevicePut stage, answer) :: trace) := by
      intro answer trace h
      obtain ⟨device, h⟩ := h
      exact h.put.ready DisplayStage.settled_empty
    refine Script.triple_bind (triple_alloc name id) fun _ ↦ Script.triple_onFailure ?_ hput
    exact Script.triple_inOrder_cons triple_overrideAllocated <|
      Script.triple_inOrder_cons (triple_allocating (fun _ _ ↦ rfl) (fun _ ↦ rfl) rfl) <|
      Script.triple_inOrder_cons (triple_allocating (fun _ _ ↦ rfl) (fun _ ↦ rfl) rfl) <|
      Script.triple_inOrder_cons (triple_allocating (fun _ _ ↦ rfl) (fun _ ↦ rfl) rfl) <|
      Script.triple_inOrder_cons triple_add (Script.triple_inOrder_nil fun _ h ↦ h)

end Creation

/-- One clock more. -/
theorem DisplayStage.inventory_push (stage : DisplayStage) (clk lookup : ℤ) :
    ({ stage with clocks := (clk, lookup) :: stage.clocks } : DisplayStage).inventory =
      stage.inventory + Pi.single (.clock clk) 1 + Pi.single (.lookup lookup) 1 := by
  funext held
  cases held with
  | clock other =>
    by_cases hother : other = clk
    · simp [inventory, hother]
    · simp [inventory, Ne.symm hother, hother]
  | lookup other =>
    by_cases hother : other = lookup
    · simp [inventory, hother]
    · simp [inventory, Ne.symm hother, hother]
  | _ => simp [inventory]

/-- A clock that was got is held besides until the stage knows of it. -/
theorem Sound.clkGet {provider source : String} (h : Sound coordinator probing stage current 0 trace)
    (hanswer : ¬answer < 0) :
    Sound coordinator probing stage current (Pi.single (.clock answer) 1)
      ((.clkGetSys provider source, answer) :: trace) := by
  refine h.cons (fun _ hstage ↦ hstage) ?_ ?_ h.room fun hdetach ↦ by cases hdetach
  · simp [Call.change, hanswer]
  · exact Pi.single_nonneg.2 Int.one_nonneg

theorem Sound.clkPut {clk : ℤ} (h : Sound coordinator probing stage current (Pi.single (.clock clk) 1) trace) :
    Sound coordinator probing stage current 0 ((.clkPut clk, answer) :: trace) := by
  refine h.cons (fun _ hstage ↦ hstage) ?_ le_rfl h.room fun hdetach ↦ by cases hdetach
  simp [Call.change]

theorem Sound.lookup {clk : ℤ} {consumer : String}
    (h : Sound coordinator probing stage current (Pi.single (.clock clk) 1) trace)
    (hanswer : ¬answer < 0) (hroom : current.clocks.length ≠ DisplayStage.maxClocks) :
    Sound coordinator probing stage { current with clocks := (clk, answer) :: current.clocks } 0
      ((.qcomTclClkdevLookup stage clk consumer, answer) :: trace) := by
  refine h.cons (fun stages hstage ↦ ?_) ?_ le_rfl ?_ fun hdetach ↦ by cases hdetach
  · simp [Call.effect, hanswer, hstage]
  · rw [DisplayStage.inventory_push, add_zero]
    simp [Call.change, hanswer]
  · have hle := h.room
    rw [List.length_cons]
    omega

theorem triple_clock (provider source consumer : String) :
    (coordinator.tclDisplayStageClock stage provider source consumer).Triple
      (Ready coordinator probing stage) (fun _ ↦ Ready coordinator probing stage)
      (Ready coordinator probing stage) := by
  refine triple_of_ready fun stages hsettled ↦ ?_
  split
  · exact triple_refuse hsettled _
  next device hdevice =>
    split
    · exact triple_refuse hsettled _
    next hroom =>
      split
      · exact triple_refuse hsettled _
      · have hget : (Script.step coordinator.interface (.clkGetSys provider source)).Triple
            (Sound coordinator probing stage (stages stage) 0)
            (fun clk ↦ Sound coordinator probing stage (stages stage) (Pi.single (.clock clk) 1))
            (Ready coordinator probing stage) := by
          refine Script.triple_step (fun answer _ h hok ↦ h.clkGet (of_decide_eq_false hok))
            fun answer _ h hfailed ↦ ?_
          exact h.idle_ready hsettled (fun _ ↦ rfl) (if_pos (of_decide_eq_true hfailed)) rfl
        have hstored : ∀ clk answer trace, ¬answer < 0 →
            Sound coordinator probing stage (stages stage) (Pi.single (.clock clk) 1) trace →
            Ready coordinator probing stage
              ((.qcomTclClkdevLookup stage clk consumer, answer) :: trace) := by
          intro clk answer trace hanswer h
          refine (h.lookup hanswer hroom).ready ⟨hsettled.allocated, fun hnone ↦ ?_⟩
          rw [hdevice] at hnone
          cases hnone
        refine Script.triple_bind hget fun clk ↦ Script.triple_onFailure ?_
          fun _ _ h ↦ (Sound.clkPut h).ready hsettled
        refine Script.triple_perform (fun answer trace h hok ↦ hstored clk answer trace
          (of_decide_eq_false hok) h) fun answer trace h hfailed ↦ ?_
        have hneg : answer < 0 := of_decide_eq_true hfailed
        exact h.idle (Pi.single_nonneg.2 Int.one_nonneg) (fun _ ↦ if_pos hneg) (if_pos hneg) rfl

theorem triple_domain (domain : ℤ) :
    (coordinator.tclDisplayStageDomain stage domain).Triple
      (Ready coordinator probing stage) (fun _ ↦ Ready coordinator probing stage)
      (Ready coordinator probing stage) := by
  refine triple_of_ready fun stages hsettled ↦ ?_
  have hforeign : (coordinator.perform (.foreignDomain stage)).Triple
      (Sound coordinator probing stage (stages stage) 0)
      (fun _ ↦ Sound coordinator probing stage (stages stage) 0) (Ready coordinator probing stage) :=
    triple_idle (fun _ _ ↦ rfl) (fun _ ↦ rfl) rfl fun _ h ↦ h.ready hsettled
  split
  · exact triple_refuse hsettled _
  next device hdevice =>
    split
    · exact triple_refuse hsettled _
    split
    · exact triple_refuse hsettled _
    next hattached =>
      refine Script.triple_bind hforeign fun _ ↦ ?_
      split
      · exact triple_refuse hsettled _
      refine triple_nonzero rfl (fun trace h ↦ ?_) fun answer _ hne h ↦
        h.idle_ready hsettled (fun _ ↦ if_neg hne) (if_neg hne) rfl
      have hnext : Sound coordinator probing stage { stages stage with domainAttached := true } 0
          ((.pmGenpdAddDevice stage domain, 0) :: trace) := by
        refine h.cons (fun _ hstage ↦ ?_) ?_ le_rfl h.room fun hdetach ↦ by cases hdetach
        · simp [Call.effect, hstage]
        · funext held
          cases held <;> simp [DisplayStage.inventory, Call.change, hattached]
      refine hnext.ready ⟨hsettled.allocated, fun hnone ↦ ?_⟩
      rw [hdevice] at hnone
      cases hnone

/-! ## Drivers -/

theorem DisplayStage.inventory_setOverride (stage : DisplayStage) (override : Override) :
    (stage.setOverride override).inventory = stage.inventory := by
  funext held
  cases held with
  | device => simp [inventory, setOverride]
  | _ => rfl

theorem DisplayStage.inventory_setBound (stage : DisplayStage) (bound : Bool) :
    (stage.setBound bound).inventory = stage.inventory := by
  funext held
  cases held with
  | device => simp [inventory, setBound]
  | _ => rfl

theorem DisplayStage.Settled.setOverride (h : current.Settled) (override : Override) :
    (current.setOverride override).Settled := by
  refine ⟨h.allocated, fun hnone ↦ ?_⟩
  rw [h.absent (Option.map_eq_none_iff.1 hnone)]
  rfl

theorem DisplayStage.Settled.setBound (h : current.Settled) (bound : Bool) :
    (current.setBound bound).Settled := by
  refine ⟨h.allocated, fun hnone ↦ ?_⟩
  rw [h.absent (Option.map_eq_none_iff.1 hnone)]
  rfl

theorem Sound.override {override : Override} (h : Sound coordinator probing stage current 0 trace) :
    Sound coordinator probing stage (current.setOverride override) 0
      ((.deviceSetDriverOverride stage override, 0) :: trace) := by
  refine h.cons (fun _ hstage ↦ ?_) ?_ le_rfl h.room fun hdetach ↦ by cases hdetach
  · simp [Call.effect, hstage]
  · rw [current.inventory_setOverride]
    exact add_zero _

theorem Sound.attach (h : Sound coordinator probing stage current 0 trace) (hanswer : 0 < answer) :
    Sound coordinator probing stage (current.setBound true) 0
      ((.deviceAttach stage, answer) :: trace) := by
  refine h.cons (fun _ hstage ↦ ?_) ?_ le_rfl h.room fun hdetach ↦ by cases hdetach
  · simp [Call.effect, hstage, hanswer]
  · rw [current.inventory_setBound]
    exact add_zero _

theorem triple_override (hsettled : current.Settled) (override : Override) :
    (coordinator.perform (.deviceSetDriverOverride stage override)).Triple
      (Sound coordinator probing stage current 0)
      (fun _ ↦ Sound coordinator probing stage (current.setOverride override) 0)
      (Ready coordinator probing stage) :=
  triple_nonzero rfl (fun _ h ↦ h.override) fun _ _ hne h ↦
    h.idle_ready hsettled (fun _ ↦ if_neg hne) rfl rfl

theorem triple_activate :
    (coordinator.tclDisplayStageActivate stage).Triple
      (Ready coordinator probing stage) (fun _ ↦ Ready coordinator probing stage)
      (Ready coordinator probing stage) := by
  refine triple_of_ready fun stages hsettled ↦ ?_
  split
  · exact triple_refuse hsettled _
  · refine Script.triple_bind (triple_override hsettled .clear) fun _ ↦
      Script.triple_perform (fun answer _ h hok ↦ ?_) fun answer _ h hfailed ↦ ?_
    · have hanswer : 0 < answer := not_le.1 (of_decide_eq_false hok)
      exact (h.attach hanswer).ready ((hsettled.setOverride _).setBound _)
    · have hanswer : ¬0 < answer := not_lt.2 (of_decide_eq_true hfailed)
      exact h.idle_ready (hsettled.setOverride _) (fun _ ↦ if_neg hanswer) rfl rfl

/-! ## Functions that release -/

/-- The stage has no driver, and none can come. -/
structure Quiet (coordinator : Coordinator Other) (probing : Probing Id) (stage : Id)
    (current : DisplayStage) (besides : Held → ℤ) (trace : List (Call Id Other × ℤ)) : Prop extends
    Sound coordinator probing stage current besides trace where
  unbound : coordinator.bound probing trace stage = false
  sealed : current.exposed = false

theorem Sound.quiet (h : Sound coordinator probing stage next besides ((call, answer) :: trace))
    (hsealed : next.exposed = false)
    (hbinds : call.binds answer stage (coordinator.bound probing trace stage) = false) :
    Quiet coordinator probing stage next besides ((call, answer) :: trace) where
  toSound := h
  unbound := by rw [bound_cons_of_not_exposed (by rw [h.state, hsealed]), hbinds]
  sealed := hsealed

/-- A call on a stage without a driver, which may detach something. -/
theorem Quiet.cons (h : Quiet coordinator probing stage current besides trace)
    (hstate : ∀ stages : Id → DisplayStage, stages stage = current →
      call.effect answer stages stage = next)
    (hbalance : current.inventory + besides + call.change answer = next.inventory + besides')
    (hbesides : 0 ≤ besides') (hroom : next.clocks.length ≤ DisplayStage.maxClocks)
    (hsealed : next.exposed = false) (hbinds : call.binds answer stage false = false) :
    Quiet coordinator probing stage next besides' ((call, answer) :: trace) :=
  (h.toSound.cons hstate hbalance hbesides hroom fun _ ↦ h.unbound).quiet hsealed
    (by rw [h.unbound, hbinds])

theorem Quiet.idle_ready (h : Quiet coordinator probing stage current 0 trace) (hsettled : current.Settled)
    (heffect : ∀ stages : Id → DisplayStage, call.effect answer stages = stages)
    (hchange : (call.change answer : Held → ℤ) = 0) :
    Ready coordinator probing stage ((call, answer) :: trace) := by
  refine (h.toSound.cons (fun stages hstage ↦ ?_) ?_ le_rfl h.room fun _ ↦ h.unbound).ready hsettled
  · rw [heffect, hstage]
  · rw [hchange, add_zero]

/-- The stage behind the override that no driver matches. -/
def DisplayStage.quiesced (stage : DisplayStage) : DisplayStage :=
  (stage.setOverride .block).setBound false

theorem DisplayStage.exposed_quiesced (stage : DisplayStage) : stage.quiesced.exposed = false := by
  rcases stage with ⟨allocated, pdev, clocks, attached⟩
  cases pdev <;> rfl

theorem Sound.release (h : Sound coordinator probing stage (current.setOverride .block) 0 trace) :
    Quiet coordinator probing stage current.quiesced 0
      ((.deviceReleaseDriver stage, answer) :: trace) := by
  have hsound : Sound coordinator probing stage current.quiesced 0
      ((.deviceReleaseDriver stage, answer) :: trace) := by
    refine h.cons (fun _ hstage ↦ ?_) ?_ le_rfl h.room fun hdetach ↦ by cases hdetach
    · simp [Call.effect, hstage, DisplayStage.quiesced]
    · rw [DisplayStage.quiesced, DisplayStage.inventory_setBound]
      exact add_zero _
  exact hsound.quiet current.exposed_quiesced (if_pos rfl)

theorem triple_quiesce (hsettled : current.Settled) :
    (coordinator.tclDisplayStageQuiesce stage).Triple (Sound coordinator probing stage current 0)
      (fun _ trace ↦ Sound coordinator probing stage current 0 trace ∧ current.pdev = none ∨
        Quiet coordinator probing stage current.quiesced 0 trace)
      (Ready coordinator probing stage) := by
  refine Script.triple_state fun stages ↦ ?_
  split
  next habsent =>
    refine Script.triple_pure fun trace h ↦ .inl ⟨h.1, ?_⟩
    rw [← h.1.state, h.2]
    simpa using habsent
  · refine Script.triple_bind (Script.triple_consequence (triple_override hsettled .block)
      (fun _ h ↦ h.1) (fun _ _ h ↦ h) fun _ h ↦ h) fun _ ↦ ?_
    exact Script.triple_perform (fun _ _ h _ ↦ .inr h.release) fun _ _ _ hfailed ↦ by cases hfailed

theorem Quiet.drop {clk lookup : ℤ} {clocks : List (ℤ × ℤ)}
    (h : Quiet coordinator probing stage current 0 trace) (hclocks : current.clocks = (clk, lookup) :: clocks) :
    Quiet coordinator probing stage { current with clocks } (Pi.single (.clock clk) 1)
      ((.clkdevDrop stage lookup, answer) :: trace) := by
  have hinventory : current.inventory = ({ current with clocks } : DisplayStage).inventory +
      Pi.single (.clock clk) 1 + Pi.single (.lookup lookup) 1 := by
    rw [← DisplayStage.inventory_push, ← hclocks]
  have hroom := h.room
  rw [hclocks, List.length_cons] at hroom
  refine h.cons (fun _ hstage ↦ ?_) ?_ (Pi.single_nonneg.2 Int.one_nonneg) (Nat.le_of_succ_le hroom)
    h.sealed rfl
  · simp [Call.effect, hstage, hclocks]
  · rw [hinventory, add_zero]
    exact add_neg_cancel_right _ _

theorem Quiet.clkPut {clk : ℤ} (h : Quiet coordinator probing stage current (Pi.single (.clock clk) 1) trace) :
    Quiet coordinator probing stage current 0 ((.clkPut clk, answer) :: trace) := by
  refine h.cons (fun _ hstage ↦ hstage) ?_ le_rfl h.room h.sealed rfl
  simp [Call.change]

/-- The loop over the clocks of a stage. -/
theorem triple_dropClocks (clocks : List (ℤ × ℤ)) (hclocks : current.clocks = clocks) :
    (coordinator.dropClocks stage clocks).Triple (Quiet coordinator probing stage current 0)
      (fun _ ↦ Quiet coordinator probing stage { current with clocks := [] } 0)
      (Ready coordinator probing stage) := by
  induction clocks generalizing current with
  | nil =>
    have hsame : ({ current with clocks := [] } : DisplayStage) = current := by rw [← hclocks]
    rw [hsame]
    exact Script.triple_pure fun _ h ↦ h
  | cons clock clocks ih =>
    exact Script.triple_bind (Script.triple_perform (fun _ _ h _ ↦ h.drop hclocks)
        fun _ _ _ hfailed ↦ by cases hfailed) fun _ ↦
      Script.triple_bind (Script.triple_perform (fun _ _ h _ ↦ h.clkPut)
        fun _ _ _ hfailed ↦ by cases hfailed) fun _ ↦ ih rfl

theorem Quiet.removeDomain (h : Quiet coordinator probing stage current 0 trace)
    (hattached : current.domainAttached = true) :
    Quiet coordinator probing stage { current with domainAttached := false } 0
      ((.pmGenpdRemoveDevice stage, 0) :: trace) := by
  refine h.cons (fun _ hstage ↦ ?_) ?_ le_rfl h.room h.sealed rfl
  · simp [Call.effect, hstage]
  · funext held
    cases held <;> simp [DisplayStage.inventory, Call.change, hattached]

/-- With its clocks and its domain gone, the device is all that a stage has. -/
theorem Quiet.unregister {device : PlatformDevice}
    (h : Quiet coordinator probing stage ⟨none, some device, [], false⟩ 0 trace) :
    Sound coordinator probing stage .empty 0 ((.platformDeviceUnregister stage, answer) :: trace) := by
  refine h.toSound.cons (fun _ hstage ↦ ?_) ?_ le_rfl (Nat.zero_le _) fun hdetach ↦ by cases hdetach
  · simp [Call.effect, hstage, DisplayStage.empty]
  · funext held
    cases held <;> simp [DisplayStage.inventory, DisplayStage.empty, Call.change]

/-- The rest of a destruction, when the domain is off. -/
theorem triple_dismantle {device : PlatformDevice} {clocks : List (ℤ × ℤ)} :
    (do
      coordinator.perform (.foreignDomain stage)
      coordinator.dropClocks stage clocks
      coordinator.perform (.platformDeviceUnregister stage)).Triple
      (Quiet coordinator probing stage ⟨none, some device, clocks, false⟩ 0)
      (fun _ ↦ Sound coordinator probing stage .empty 0) (Ready coordinator probing stage) := by
  have hsettled : (⟨none, some device, clocks, false⟩ : DisplayStage).Settled :=
    ⟨rfl, fun hnone ↦ by cases hnone⟩
  have hforeign : (coordinator.perform (.foreignDomain stage)).Triple
      (Quiet coordinator probing stage ⟨none, some device, clocks, false⟩ 0)
      (fun _ ↦ Quiet coordinator probing stage ⟨none, some device, clocks, false⟩ 0)
      (Ready coordinator probing stage) :=
    Script.triple_perform (fun _ _ h _ ↦ h.cons (fun _ hstage ↦ hstage) (add_zero _) le_rfl h.room h.sealed rfl)
      fun _ _ h _ ↦ h.idle_ready hsettled (fun _ ↦ rfl) rfl
  exact Script.triple_bind hforeign fun _ ↦
    Script.triple_bind (triple_dropClocks clocks rfl) fun _ ↦
      Script.triple_perform (fun _ _ h _ ↦ h.unregister) fun _ _ _ hfailed ↦ by cases hfailed

theorem triple_destroy :
    (coordinator.tclDisplayStageDestroy stage).Triple
      (Ready coordinator probing stage) (fun _ ↦ Sound coordinator probing stage .empty 0)
      (Ready coordinator probing stage) := by
  refine triple_of_ready fun stages hsettled ↦ ?_
  split
  next habsent =>
    rw [hsettled.absent (by simpa using habsent)]
    exact Script.triple_pure fun _ h ↦ h
  next hpresent =>
    obtain ⟨device, hdevice⟩ : ∃ device, (stages stage).pdev = some device :=
      Option.ne_none_iff_exists'.1 fun hnone ↦ hpresent (by rw [hnone]; rfl)
    have hquiesced : ∀ attached, ({ (stages stage).quiesced with domainAttached := attached } : DisplayStage) =
        ⟨none, some ⟨true, false⟩, (stages stage).clocks, attached⟩ := by
      intro attached
      simp [DisplayStage.quiesced, DisplayStage.setOverride, DisplayStage.setBound, hdevice,
        hsettled.allocated]
    have hquiesce : (coordinator.tclDisplayStageQuiesce stage).Triple
        (Sound coordinator probing stage (stages stage) 0)
        (fun _ ↦ Quiet coordinator probing stage (stages stage).quiesced 0)
        (Ready coordinator probing stage) := by
      refine Script.triple_consequence (triple_quiesce hsettled) (fun _ h ↦ h) (fun _ _ h ↦ ?_)
        fun _ h ↦ h
      exact h.resolve_left fun hnone ↦ by rw [hdevice] at hnone; cases hnone.2
    refine Script.triple_bind hquiesce fun _ ↦ ?_
    dsimp only
    split
    next hattached =>
      refine Script.triple_bind (triple_nonzero rfl (fun _ h ↦ h.removeDomain hattached)
        fun _ _ hne h ↦ ?_) fun _ ↦ ?_
      · exact h.idle_ready ((hsettled.setOverride _).setBound _) (fun _ ↦ if_neg hne) (if_neg hne)
      · rw [hquiesced]
        exact triple_dismantle
    next hattached =>
      have hoff : (stages stage).quiesced = { (stages stage).quiesced with domainAttached := false } := by
        rw [← Bool.eq_false_iff.2 hattached]
        rfl
      rw [hoff, hquiesced]
      exact triple_dismantle

/-! ## Whole lives -/

/-- Every function leaves a stage that any function can go on from, whether it succeeds or not. -/
theorem triple_script (operation : StageOp) :
    (operation.script coordinator stage).Triple (Ready coordinator probing stage)
      (fun _ ↦ Ready coordinator probing stage) (Ready coordinator probing stage) := by
  cases operation with
  | create name id resources => exact triple_create name id resources
  | clock provider source consumer => exact triple_clock provider source consumer
  | domain target => exact triple_domain target
  | activate => exact triple_activate
  | quiesce =>
    intro oracle trace h
    obtain ⟨current, hsound, hsettled⟩ := h
    refine Script.triple_consequence (triple_quiesce hsettled) (fun _ h ↦ h) (fun _ _ h ↦ ?_)
      (fun _ h ↦ h) oracle trace hsound
    rcases h with ⟨h, -⟩ | h
    · exact h.ready hsettled
    · exact h.toSound.ready ((hsettled.setOverride _).setBound _)
  | destroy =>
    exact Script.triple_consequence triple_destroy (fun _ h ↦ h)
      (fun _ _ h ↦ h.ready DisplayStage.settled_empty) fun _ h ↦ h

theorem ready_script (operation : StageOp) (answers : ℕ → Call Id Other → ℤ)
    (h : Ready coordinator probing stage trace) :
    Ready coordinator probing stage (operation.script coordinator stage answers trace).2 :=
  (triple_script operation).at_end answers h

theorem ready_lifeTrace (history : List (StageOp × (ℕ → Call Id Other → ℤ))) :
    Ready coordinator probing stage (lifeTrace coordinator stage history) := by
  suffices hrun : ∀ trace, Ready coordinator probing stage trace → Ready coordinator probing stage
      (history.foldl
        (fun trace operation ↦ (operation.1.script coordinator stage operation.2 trace).2) trace) from
    hrun [] (sound_nil.ready DisplayStage.settled_empty)
  induction history with
  | nil => exact fun _ h ↦ h
  | cons operation history ih => exact fun _ h ↦ ih _ (ready_script operation.1 operation.2 h)

/-- **The life of a stage.** At any time it has room for its clocks, nothing was given back that had not
been taken, and aliases and the domain went while no driver was bound.  A destruction that succeeds has
given back everything. -/
theorem stage_life (coordinator : Coordinator Other) (probing : Probing Id) (stage : Id)
    (history : List (StageOp × (ℕ → Call Id Other → ℤ))) :
    (∀ later event earlier, lifeTrace coordinator stage history = later ++ event :: earlier →
      (coordinator.interface.replay (event :: earlier) stage).clocks.length ≤ DisplayStage.maxClocks ∧
      0 ≤ total Call.change (event :: earlier) ∧
      (event.1.detaches = true → coordinator.bound probing earlier stage = false)) ∧
    total Call.change (lifeTrace coordinator stage history) =
      (coordinator.interface.replay (lifeTrace coordinator stage history) stage).inventory ∧
    ∀ answers, (coordinator.tclDisplayStageDestroy stage answers
        (lifeTrace coordinator stage history)).1 = .ok () →
      total Call.change (coordinator.tclDisplayStageDestroy stage answers
        (lifeTrace coordinator stage history)).2 = 0 := by
  have hready : Ready coordinator probing stage (lifeTrace coordinator stage history) :=
    ready_lifeTrace history
  have hdestroy := fun answers ↦ triple_destroy answers _ hready
  obtain ⟨current, hsound, -⟩ := hready
  refine ⟨fun later event earlier htrace ↦ ?_, ?_, fun answers hok ↦ ?_⟩
  · have hcareful := hsound.careful
    have hcovered := hsound.covered
    rw [htrace] at hcareful hcovered
    exact ⟨hcareful.of_append.1, hcovered.of_append.1, hcareful.of_append.2⟩
  · rw [hsound.balance, hsound.state, add_zero]
  · have hempty := hdestroy answers
    rw [hok] at hempty
    rw [hempty.balance, DisplayStage.inventory_empty, add_zero]

end

end TclB220G.Display
