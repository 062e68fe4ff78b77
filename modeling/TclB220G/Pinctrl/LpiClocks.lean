import Mathlib.Algebra.Group.Pi.Lemmas
import TclB220G.Lib.RuntimePm

/-!
# The clocks of the LPI pin controller

On the board's ACPI path the driver of the pins enables its two clocks in the runtime resume and disables
them in the runtime suspend.  A managed action disables them when the driver goes away while the device
is active.  It is registered before runtime power management is enabled, so it runs after that has been
disabled, and the status no longer changes.
-/

namespace TclB220G.Pinctrl

open Lib

/-- The clocks in `acpi_clks`. -/
inductive LpiClock where
  | core | audio
  deriving DecidableEq, Repr

inductive LpiCall where
  | clkBulkPrepareEnable
  | clkBulkDisableUnprepare
  | pmClkSuspend
  | pmClkResume
  deriving DecidableEq, Repr

/-- What a call does to the enable counts.  `clk_bulk_prepare_enable` undoes itself if it fails.  The
clocks of a device tree node, which `pm_clk_suspend` and `pm_clk_resume` are for, are others. -/
def LpiCall.change : LpiCall → ℤ → LpiClock → ℤ
  | clkBulkPrepareEnable, answer => if answer = 0 then 1 else 0
  | clkBulkDisableUnprepare, _ => -1
  | pmClkSuspend, _ => 0
  | pmClkResume, _ => 0

/-- Every call but `clk_bulk_disable_unprepare`, which returns nothing, fails with any answer but zero. -/
def lpi : Interface LpiCall (LpiClock → ℤ) where
  initial := 0
  effect call answer counts := counts + call.change answer
  failed
    | .clkBulkDisableUnprepare, _ => false
    | _, answer => answer ≠ 0
  errno _ answer := answer
  errno_ne_zero
    | .clkBulkPrepareEnable, _, hfailed => of_decide_eq_true hfailed
    | .pmClkSuspend, _, hfailed => of_decide_eq_true hfailed
    | .pmClkResume, _, hfailed => of_decide_eq_true hfailed

def lpiPinctrlRuntimeSuspend (acpiPm : Bool) : Script LpiCall Unit :=
  if !acpiPm then Script.perform lpi .pmClkSuspend
  else do
    let _ ← Script.invoke .clkBulkDisableUnprepare

def lpiPinctrlRuntimeResume (acpiPm : Bool) : Script LpiCall Unit :=
  if !acpiPm then Script.perform lpi .pmClkResume
  else Script.perform lpi .clkBulkPrepareEnable

/-- The callbacks on the ACPI path.  A request comes with the answer of the call that it makes. -/
def lpiDriver : PmDriver LpiCall ℤ where
  suspend := lpiPinctrlRuntimeSuspend true
  resume := lpiPinctrlRuntimeResume true
  answers answer _ _ := answer

def lpiPinctrlPmCleanup (state : PmState LpiCall) : PmState LpiCall :=
  if !state.suspended then
    { state with trace := (lpiPinctrlRuntimeSuspend true (fun _ _ ↦ 0) state.trace).2 }
  else state

/-- What the calls of the probe return. -/
structure LpiProbe where
  devmClkBulkGet : ℤ
  devmAddAction : ℤ
  devmPmRuntimeEnable : ℤ
  -- The first error of the steps after those, or zero.
  remainder : ℤ

/-- A device starts suspended. -/
def lpiStart : PmState LpiCall := ⟨true, []⟩

/-- `lpi_pinctrl_probe` on the ACPI path from the clocks on, with the history of the device while runtime
power management is enabled in the probe.  `devm_add_action_or_reset` runs the action itself if it cannot
register it; later failures run it after runtime power management has been disabled again. -/
def lpiPinctrlProbe (probe : LpiProbe) (history : List (PmEvent ℤ)) : ℤ × PmState LpiCall :=
  if probe.devmClkBulkGet ≠ 0 then (probe.devmClkBulkGet, lpiStart)
  else if probe.devmAddAction ≠ 0 then (probe.devmAddAction, lpiPinctrlPmCleanup lpiStart)
  else
    let state := lpiDriver.run lpiStart history
    if probe.devmPmRuntimeEnable ≠ 0 then (probe.devmPmRuntimeEnable, lpiPinctrlPmCleanup state)
    else if probe.remainder ≠ 0 then (probe.remainder, lpiPinctrlPmCleanup state)
    else (0, state)

/-- The removal of the driver after a further history. -/
def lpiRemoved (state : PmState LpiCall) (history : List (PmEvent ℤ)) : PmState LpiCall :=
  lpiPinctrlPmCleanup (lpiDriver.run state history)

/-! ## The callbacks -/

/-- Both clocks are enabled once. -/
def bothEnabled : LpiClock → ℤ := 1

theorem tallies_suspend {counts : LpiClock → ℤ} (hheld : bothEnabled ≤ counts)
    (oracle : ℕ → LpiCall → ℤ) :
    (lpiPinctrlRuntimeSuspend true).Tallies LpiCall.change oracle (fun now ↦ now = counts)
      (fun _ now ↦ now = counts - bothEnabled) fun _ _ ↦ False := by
  have hchange : ∀ answer, counts + LpiCall.change .clkBulkDisableUnprepare answer = counts - bothEnabled :=
    fun _ ↦ (sub_eq_add_neg counts bothEnabled).symm
  have hinvoke : (Script.invoke .clkBulkDisableUnprepare).Tallies LpiCall.change oracle
      (fun now ↦ now = counts) (fun _ now ↦ now = counts - bothEnabled) fun _ _ ↦ False := by
    apply Script.tallies_invoke
    · rintro turn now rfl
      rw [hchange]
      exact sub_nonneg.2 hheld
    · rintro turn now rfl
      exact hchange _
  exact Script.tallies_bind hinvoke fun _ ↦ Script.tallies_pure fun _ hnow ↦ hnow

theorem tallies_resume {counts : LpiClock → ℤ} (hcounts : 0 ≤ counts) (oracle : ℕ → LpiCall → ℤ) :
    (lpiPinctrlRuntimeResume true).Tallies LpiCall.change oracle (fun now ↦ now = counts)
      (fun _ now ↦ now = counts + bothEnabled) fun _ now ↦ now = counts + 0 := by
  have hstep : (Script.step lpi .clkBulkPrepareEnable).Tallies LpiCall.change oracle
      (fun now ↦ now = counts) (fun _ now ↦ now = counts + bothEnabled) fun _ now ↦ now = counts + 0 := by
    apply Script.tallies_step
    · rintro turn now rfl
      refine add_nonneg hcounts ?_
      rw [LpiCall.change]
      split_ifs
      · exact zero_le_one
      · exact le_rfl
    · rintro turn now rfl hsucceeds
      have hzero : oracle turn .clkBulkPrepareEnable = 0 := not_not.1 (of_decide_eq_false hsucceeds)
      rw [LpiCall.change, if_pos hzero, bothEnabled]
    · rintro turn now rfl hfailed
      have hnonzero : oracle turn .clkBulkPrepareEnable ≠ 0 := of_decide_eq_true hfailed
      rw [LpiCall.change, if_neg hnonzero]
  exact Script.tallies_bind hstep fun _ ↦ Script.tallies_pure fun _ hnow ↦ hnow

/-- The clocks are enabled while the device is active, and a resume that fails leaves nothing behind. -/
theorem holds_lpiDriver : lpiDriver.Holds LpiCall.change bothEnabled fun _ ↦ 0 where
  leak_nonneg _ := le_rfl
  suspend _ _ hheld := tallies_suspend hheld _
  resume answer _ hcounts :=
    Script.tallies_consequence (tallies_resume hcounts (lpiDriver.answers answer)) (fun _ hnow ↦ hnow)
      fun _ _ hnow ↦ ⟨rfl, hnow⟩

/-! ## Histories -/

/-- The counts are those that the status accounts for, and none was ever below zero. -/
structure InStep (state : PmState LpiCall) : Prop where
  covered : Covered LpiCall.change state.trace
  total_eq : total LpiCall.change state.trace = PmDriver.holding bothEnabled state

theorem inStep_lpiStart : InStep lpiStart := ⟨trivial, rfl⟩

theorem InStep.run {state : PmState LpiCall} (hstate : InStep state) (history : List (PmEvent ℤ)) :
    InStep (lpiDriver.run state history) := by
  have haccounted : PmDriver.Accounted LpiCall.change bothEnabled state :=
    ⟨hstate.covered, hstate.total_eq.ge⟩
  have hrun := holds_lpiDriver.total_run haccounted history
  have hleaked : lpiDriver.leaked (fun _ ↦ (0 : LpiClock → ℤ)) state history = 0 :=
    (holds_lpiDriver.leaked_eq_zero_iff state history).2 fun _ _ _ _ _ ↦ rfl
  refine ⟨hrun.1.covered, sub_eq_zero.1 ?_⟩
  rw [hrun.2, hstate.total_eq, sub_self, hleaked, add_zero]

/-- No count was ever below zero, and all are zero in the end. -/
structure LpiBalanced (state : PmState LpiCall) : Prop where
  never_negative : ∀ later earlier, state.trace = later ++ earlier → 0 ≤ total LpiCall.change earlier
  restored : total LpiCall.change state.trace = 0

theorem lpiBalanced_of_covered {state : PmState LpiCall} (hcovered : Covered LpiCall.change state.trace)
    (htotal : total LpiCall.change state.trace = 0) : LpiBalanced state := by
  refine ⟨fun later earlier htrace ↦ ?_, htotal⟩
  rw [htrace] at hcovered
  exact hcovered.of_append.total_nonneg

theorem InStep.cleanup {state : PmState LpiCall} (hstate : InStep state) :
    LpiBalanced (lpiPinctrlPmCleanup state) := by
  have htotal := hstate.total_eq
  unfold lpiPinctrlPmCleanup
  cases hstatus : state.suspended with
  | true =>
    rw [PmDriver.holding, if_pos hstatus] at htotal
    exact lpiBalanced_of_covered hstate.covered htotal
  | false =>
    rw [PmDriver.holding, hstatus, if_neg Bool.false_ne_true] at htotal
    have hsuspend := tallies_suspend htotal.ge (fun _ _ ↦ 0) state.trace hstate.covered rfl
    rw [htotal, sub_self] at hsuspend
    exact lpiBalanced_of_covered hsuspend.1 hsuspend.2

/-- A resume that fails leaves the counts as they are.  No count is ever below zero, and all are zero
after a probe that fails at any point, and after the removal that follows a probe that succeeds. -/
theorem lpiClocks_balanced (probe : LpiProbe) (during later : List (PmEvent ℤ)) :
    (∀ earlier answer, (lpiDriver.run lpiStart earlier).suspended = true →
      (lpiDriver.run lpiStart (earlier ++ [.resume answer])).suspended = true →
        total LpiCall.change (lpiDriver.run lpiStart (earlier ++ [.resume answer])).trace =
          total LpiCall.change (lpiDriver.run lpiStart earlier).trace) ∧
    ((lpiPinctrlProbe probe during).1 ≠ 0 → LpiBalanced (lpiPinctrlProbe probe during).2) ∧
    ((lpiPinctrlProbe probe during).1 = 0 →
      LpiBalanced (lpiRemoved (lpiPinctrlProbe probe during).2 later)) := by
  have hduring := inStep_lpiStart.run during
  refine ⟨fun earlier answer hbefore hafter ↦ ?_, ?_⟩
  · rw [(inStep_lpiStart.run _).total_eq, (inStep_lpiStart.run _).total_eq, PmDriver.holding,
      PmDriver.holding, if_pos hbefore, if_pos hafter]
  · unfold lpiPinctrlProbe
    split_ifs with hclocks haction henable hremainder
    · exact ⟨fun _ ↦ lpiBalanced_of_covered trivial rfl, fun hzero ↦ absurd hzero hclocks⟩
    · exact ⟨fun _ ↦ inStep_lpiStart.cleanup, fun hzero ↦ absurd hzero haction⟩
    · exact ⟨fun _ ↦ hduring.cleanup, fun hzero ↦ absurd hzero henable⟩
    · exact ⟨fun _ ↦ hduring.cleanup, fun hzero ↦ absurd hzero hremainder⟩
    · exact ⟨fun hne ↦ absurd rfl hne, fun _ ↦ (hduring.run later).cleanup⟩

end TclB220G.Pinctrl
