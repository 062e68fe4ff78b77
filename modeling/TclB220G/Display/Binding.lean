import TclB220G.Display.Stage
import TclB220G.Lib.Triple

/-!
# Drivers of staged devices

A stage learns of a driver only when it attaches one or releases it.  But deferred and asynchronous
probing may bind a device at any time between two calls, unless the device carries the override that no
driver matches.  When such probing comes is a parameter here.
-/

namespace TclB220G.Display

open Lib

/-- Whether the device of a stage is probed behind the back of its coordinator, after so many calls. -/
abbrev Probing (Id : Type) := ℕ → Id → Bool

/-- The device is there and may be probed. -/
def DisplayStage.exposed (stage : DisplayStage) : Bool := stage.pdev.any fun device ↦ !device.blocked

section

variable {Id Other : Type} [DecidableEq Id]

/-- What a call does by itself to the driver of a stage. -/
def Call.binds (call : Call Id Other) (answer : ℤ) (stage : Id) (bound : Bool) : Bool :=
  match call with
  | .deviceAttach target => if target = stage ∧ 0 < answer then true else bound
  | .deviceReleaseDriver target | .platformDeviceUnregister target =>
    if target = stage then false else bound
  | .platformDeviceAdd target => if target = stage ∧ answer = 0 then false else bound
  | _ => bound

/-- Whether a stage has a driver after the calls of a trace. -/
def Coordinator.bound (coordinator : Coordinator Other) (probing : Probing Id) :
    List (Call Id Other × ℤ) → Id → Bool
  | [], _ => false
  | event :: earlier, stage =>
    event.1.binds event.2 stage (coordinator.bound probing earlier stage) ||
      (probing earlier.length stage &&
        (coordinator.interface.replay (event :: earlier) stage).exposed)

variable {coordinator : Coordinator Other} {probing : Probing Id} {event : Call Id Other × ℤ}
  {trace : List (Call Id Other × ℤ)} {stage : Id}

/-- A device that carries the override is not bound but by a call. -/
theorem bound_cons_of_not_exposed
    (h : (coordinator.interface.replay (event :: trace) stage).exposed = false) :
    coordinator.bound probing (event :: trace) stage =
      event.1.binds event.2 stage (coordinator.bound probing trace stage) := by
  rw [Coordinator.bound, h, Bool.and_false, Bool.or_false]

/-- A call that succeeds with zero and fails with anything else. -/
theorem triple_nonzero {call : Call Id Other} {before later failing : List (Call Id Other × ℤ) → Prop}
    (hverdict : coordinator.callVerdict call = .nonzero)
    (hafter : ∀ trace, before trace → later ((call, 0) :: trace))
    (hfailing : ∀ answer trace, answer ≠ 0 → before trace → failing ((call, answer) :: trace)) :
    (coordinator.perform call).Triple before (fun _ ↦ later) failing := by
  have hfailed : ∀ answer, coordinator.interface.failed call answer = decide (answer ≠ 0) := by
    intro answer
    change (coordinator.callVerdict call).failed answer = _
    rw [hverdict]
    rfl
  refine Script.triple_perform (fun answer trace hbefore hok ↦ ?_) fun answer trace hbefore hnot ↦ ?_
  · rw [hfailed, decide_eq_false_iff_not, not_not] at hok
    rw [hok]
    exact hafter trace hbefore
  · rw [hfailed, decide_eq_true_eq] at hnot
    exact hfailing answer trace hnot hbefore

end

end TclB220G.Display
