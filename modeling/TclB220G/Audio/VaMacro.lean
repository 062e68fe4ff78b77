import Mathlib.Algebra.Group.Pi.Lemmas
import TclB220G.Lib.RuntimePm

/-!
# The clocks of the VA macro

The driver of the LPASS VA macro enables its clocks in the probe and in every runtime resume, and
disables them in every runtime suspend.  The removal disables them if the device is active.  The clock
`npl` is only there on some chips.

A resume that fails after the macro clock does not give back what it has enabled.  So the counts come
back to their values before the probe exactly in those histories in which no resume fails but at the
macro clock.
-/

namespace TclB220G.Audio

open Lib

inductive Clock where
  | macroClk | dcodec | mclk | npl
  deriving DecidableEq, Repr

inductive VaCall where
  | clkPrepareEnable (clock : Clock)
  | clkDisableUnprepare (clock : Clock)
  deriving DecidableEq, Repr

/-- What a call does to the enable counts. -/
def VaCall.change : VaCall → ℤ → Clock → ℤ
  | clkPrepareEnable clock, answer => if answer = 0 then Pi.single clock 1 else 0
  | clkDisableUnprepare clock, _ => -Pi.single clock 1

/-- `clk_prepare_enable` fails with any answer but zero. -/
def va : Interface VaCall (Clock → ℤ) where
  initial := 0
  effect call answer counts := counts + call.change answer
  failed
    | .clkPrepareEnable _, answer => answer ≠ 0
    | .clkDisableUnprepare _, _ => false
  errno _ answer := answer
  errno_ne_zero
    | .clkPrepareEnable _, _, hfailed => of_decide_eq_true hfailed
    | .clkDisableUnprepare _, _, hfailed => Bool.noConfusion hfailed

def enable (clock : Clock) : Script VaCall Unit := Script.perform va (.clkPrepareEnable clock)

def disable (clock : Clock) : Script VaCall Unit := do
  let _ ← Script.invoke (.clkDisableUnprepare clock)

variable (hasNplClk : Bool)

def vaMacroRuntimeSuspend : Script VaCall Unit := do
  if hasNplClk then disable .npl
  disable .mclk
  disable .dcodec
  disable .macroClk

def vaMacroRuntimeResume : Script VaCall Unit := do
  enable .macroClk
  enable .dcodec
  enable .mclk
  if hasNplClk then Script.onFailure (enable .npl) [.clkDisableUnprepare .mclk]

def vaMacroRemove (hasNplClk suspended : Bool) : Script VaCall Unit := do
  if !suspended then
    if hasNplClk then disable .npl
    disable .mclk
    disable .dcodec
    disable .macroClk

/-- The answers of the clocks when they are enabled. -/
def reply (answers : Clock → ℤ) (_ : ℕ) : VaCall → ℤ
  | .clkPrepareEnable clock => answers clock
  | .clkDisableUnprepare _ => 0

def vaDriver : PmDriver VaCall (Clock → ℤ) where
  suspend := vaMacroRuntimeSuspend hasNplClk
  resume := vaMacroRuntimeResume hasNplClk
  answers := reply

/-- The clocks that are enabled while the device is active, the last one first. -/
def clocks : List Clock :=
  (if hasNplClk then [.npl] else []) ++ [.mclk, .dcodec, .macroClk]

/-- The device after a successful probe. -/
def probed : PmState VaCall where
  suspended := false
  trace := (clocks hasNplClk).map fun clock ↦ (.clkPrepareEnable clock, 0)

/-- The device after a history of requests for suspends and resumes. -/
def runtime (history : List (PmEvent (Clock → ℤ))) : PmState VaCall :=
  (vaDriver hasNplClk).run (probed hasNplClk) history

/-- All calls up to the end of the removal. -/
def removed (history : List (PmEvent (Clock → ℤ))) : List (VaCall × ℤ) :=
  let state := runtime hasNplClk history
  (vaMacroRemove hasNplClk state.suspended (reply fun _ ↦ 0) state.trace).2

/-- The enable counts after the calls of a trace. -/
def counts (before : Clock → ℤ) (trace : List (VaCall × ℤ)) : Clock → ℤ :=
  before + total VaCall.change trace

/-! ## Clocks that are enabled one after another -/

/-- The counts of these clocks. -/
def enabled (clocks : List Clock) : Clock → ℤ := (clocks.map fun clock ↦ Pi.single clock 1).sum

theorem enabled_cons (clock : Clock) (clocks : List Clock) :
    enabled (clock :: clocks) = enabled clocks + Pi.single clock 1 := by
  rw [enabled, List.map_cons, List.sum_cons, add_comm, enabled]

theorem enabled_nonneg (clocks : List Clock) : 0 ≤ enabled clocks := by
  induction clocks with
  | nil => exact le_rfl
  | cons clock clocks ih =>
    rw [enabled_cons]
    exact add_nonneg ih (Pi.single_nonneg.2 Int.one_nonneg)

theorem total_map_enable (clocks : List Clock) :
    total VaCall.change (clocks.map fun clock ↦ (.clkPrepareEnable clock, 0)) = enabled clocks := by
  rw [total, enabled, List.map_map]
  rfl

theorem covered_map_enable (clocks : List Clock) :
    Covered VaCall.change (clocks.map fun clock ↦ (.clkPrepareEnable clock, 0)) := by
  induction clocks with
  | nil => trivial
  | cons clock clocks ih =>
    refine ⟨?_, ih⟩
    rw [← List.map_cons (f := fun clock ↦ (VaCall.clkPrepareEnable clock, (0 : ℤ))), total_map_enable]
    exact enabled_nonneg _

theorem change_enable_nonneg (clock : Clock) (answer : ℤ) :
    0 ≤ VaCall.change (.clkPrepareEnable clock) answer := by
  rw [VaCall.change]
  split
  · exact Pi.single_nonneg.2 Int.one_nonneg
  · exact le_rfl

/-- All these clocks have been enabled on top of the counts that a callback starts from. -/
structure Enabled (answers start : Clock → ℤ) (clocks : List Clock) (now : Clock → ℤ) : Prop where
  answered : ∀ clock ∈ clocks, answers clock = 0
  counted : now = start + enabled clocks

section

variable {answers start : Clock → ℤ} {failing : ℤ → (Clock → ℤ) → Prop} {clock : Clock}
  {clocks : List Clock}

theorem tallies_enable (hstart : 0 ≤ start)
    (hfailing : (∀ other ∈ clocks, answers other = 0) → answers clock ≠ 0 →
      failing (answers clock) (start + enabled clocks)) :
    (enable clock).Tallies VaCall.change (reply answers) (Enabled answers start clocks)
      (fun _ ↦ Enabled answers start (clock :: clocks)) failing := by
  have hstep : (Script.step va (.clkPrepareEnable clock)).Tallies VaCall.change (reply answers)
      (Enabled answers start clocks) (fun _ ↦ Enabled answers start (clock :: clocks)) failing := by
    apply Script.tallies_step
    · rintro _ now ⟨_, rfl⟩
      exact add_nonneg (add_nonneg hstart (enabled_nonneg clocks))
        (change_enable_nonneg clock (answers clock))
    · rintro _ now ⟨hanswered, rfl⟩ hsucceeds
      have hzero : answers clock = 0 := not_not.1 (of_decide_eq_false hsucceeds)
      refine ⟨List.forall_mem_cons.2 ⟨hzero, hanswered⟩, ?_⟩
      rw [enabled_cons, ← add_assoc]
      exact congrArg (start + enabled clocks + ·) (if_pos hzero)
    · rintro _ now ⟨hanswered, rfl⟩ hfailed
      have hnonzero : answers clock ≠ 0 := of_decide_eq_true hfailed
      have hchange : VaCall.change (.clkPrepareEnable clock) (answers clock) = 0 := if_neg hnonzero
      change failing (answers clock)
        (start + enabled clocks + VaCall.change (.clkPrepareEnable clock) (answers clock))
      rw [hchange, add_zero]
      exact hfailing hanswered hnonzero
  exact Script.tallies_bind hstep fun _ ↦ Script.tallies_pure fun _ hafter ↦ hafter

theorem enabled_cons_sub (start : Clock → ℤ) (clock : Clock) (clocks : List Clock) :
    start + enabled (clock :: clocks) + VaCall.change (.clkDisableUnprepare clock) 0 =
      start + enabled clocks := by
  rw [enabled_cons, VaCall.change, ← add_assoc, add_neg_cancel_right]

theorem tallies_disable (hstart : 0 ≤ start) :
    (disable clock).Tallies VaCall.change (reply answers)
      (fun now ↦ now = start + enabled (clock :: clocks)) (fun _ now ↦ now = start + enabled clocks)
      failing := by
  have hinvoke : (Script.invoke (.clkDisableUnprepare clock)).Tallies VaCall.change (reply answers)
      (fun now ↦ now = start + enabled (clock :: clocks)) (fun _ now ↦ now = start + enabled clocks)
      failing := by
    apply Script.tallies_invoke
    · rintro _ now rfl
      exact (add_nonneg hstart (enabled_nonneg clocks)).trans_eq
        (enabled_cons_sub start clock clocks).symm
    · rintro _ now rfl
      exact enabled_cons_sub start clock clocks
  exact Script.tallies_bind hinvoke fun _ ↦ Script.tallies_pure fun _ hafter ↦ hafter

end

/-! ## The callbacks -/

/-- The clocks that a resume with these answers leaves enabled though it fails. -/
def leftEnabled (answers : Clock → ℤ) : List Clock :=
  if answers .macroClk ≠ 0 then []
  else if answers .dcodec ≠ 0 then [.macroClk]
  else if answers .mclk ≠ 0 ∨ hasNplClk = true ∧ answers .npl ≠ 0 then [.dcodec, .macroClk]
  else []

section

variable (hasNplClk : Bool) (answers : Clock → ℤ) {start : Clock → ℤ} (hstart : 0 ≤ start)

include hstart

theorem tallies_vaMacroRuntimeSuspend :
    (vaMacroRuntimeSuspend hasNplClk).Tallies VaCall.change (reply answers)
      (fun now ↦ now = start + enabled (clocks hasNplClk)) (fun _ now ↦ now = start)
      fun _ _ ↦ False := by
  have hothers : (do disable .mclk; disable .dcodec; disable .macroClk).Tallies VaCall.change
      (reply answers) (fun now ↦ now = start + enabled [.mclk, .dcodec, .macroClk])
      (fun _ now ↦ now = start + enabled []) fun _ _ ↦ False :=
    Script.tallies_bind (tallies_disable hstart) fun _ ↦
      Script.tallies_bind (tallies_disable hstart) fun _ ↦ tallies_disable hstart
  have hall : (vaMacroRuntimeSuspend hasNplClk).Tallies VaCall.change (reply answers)
      (fun now ↦ now = start + enabled (clocks hasNplClk)) (fun _ now ↦ now = start + enabled [])
      fun _ _ ↦ False := by
    cases hasNplClk with
    | false => exact hothers
    | true => exact Script.tallies_bind (tallies_disable hstart) fun _ ↦ hothers
  exact Script.tallies_consequence hall (fun _ hnow ↦ hnow)
    fun _ _ hnow ↦ hnow.trans (add_zero start)

theorem tallies_vaMacroRuntimeResume :
    (vaMacroRuntimeResume hasNplClk).Tallies VaCall.change (reply answers) (fun now ↦ now = start)
      (fun _ now ↦ leftEnabled hasNplClk answers = [] ∧ now = start + enabled (clocks hasNplClk))
      fun _ now ↦ now = start + enabled (leftEnabled hasNplClk answers) := by
  have hnpl : hasNplClk = true → (Script.onFailure (enable .npl) [.clkDisableUnprepare .mclk]).Tallies
      VaCall.change (reply answers) (Enabled answers start [.mclk, .dcodec, .macroClk])
      (fun _ ↦ Enabled answers start [.npl, .mclk, .dcodec, .macroClk])
      fun _ now ↦ now = start + enabled (leftEnabled hasNplClk answers) := by
    intro hhas
    have henable : (enable .npl).Tallies VaCall.change (reply answers)
        (Enabled answers start [.mclk, .dcodec, .macroClk])
        (fun _ ↦ Enabled answers start [.npl, .mclk, .dcodec, .macroClk]) fun _ now ↦
          leftEnabled hasNplClk answers = [.dcodec, .macroClk] ∧
            now = start + enabled [.mclk, .dcodec, .macroClk] :=
      tallies_enable hstart fun hanswered hfailed ↦ ⟨by simp_all [leftEnabled], rfl⟩
    refine Script.tallies_onFailure henable ?_ ?_
    · rintro _ _ now ⟨_, rfl⟩
      exact (add_nonneg hstart (enabled_nonneg _)).trans_eq (enabled_cons_sub start _ _).symm
    · rintro _ _ now ⟨hleft, rfl⟩
      rw [hleft]
      exact enabled_cons_sub start _ _
  have hall : (vaMacroRuntimeResume hasNplClk).Tallies VaCall.change (reply answers)
      (Enabled answers start []) (fun _ ↦ Enabled answers start (clocks hasNplClk))
      fun _ now ↦ now = start + enabled (leftEnabled hasNplClk answers) := by
    refine Script.tallies_bind (tallies_enable hstart fun hanswered hfailed ↦ ?_) fun _ ↦
      Script.tallies_bind (tallies_enable hstart fun hanswered hfailed ↦ ?_) fun _ ↦
      Script.tallies_bind (tallies_enable hstart fun hanswered hfailed ↦ ?_) fun _ ↦ ?_
    · simp_all [leftEnabled]
    · simp_all [leftEnabled]
    · simp_all [leftEnabled]
    · cases hasNplClk with
      | false => exact Script.tallies_pure fun _ hnow ↦ hnow
      | true => exact hnpl rfl
  refine Script.tallies_consequence hall ?_ ?_
  · rintro now rfl
    exact ⟨fun _ h ↦ absurd h List.not_mem_nil, (add_zero now).symm⟩
  · rintro _ now ⟨hanswered, hnow⟩
    refine ⟨?_, hnow⟩
    cases hasNplClk <;> simp_all [leftEnabled, clocks]

end

theorem enabled_eq_zero_iff (clocks : List Clock) : enabled clocks = 0 ↔ clocks = [] := by
  constructor
  · intro hzero
    cases clocks with
    | nil => rfl
    | cons clock clocks =>
      have hclock : enabled clocks clock + 1 = 0 := by
        have happ := congrFun hzero clock
        rwa [enabled_cons, Pi.add_apply, Pi.single_eq_same] at happ
      have hnonneg : 0 ≤ enabled clocks clock := enabled_nonneg clocks clock
      omega
  · rintro rfl
    rfl

/-- While the device is active its clocks are enabled, and a failed resume leaves some of them so. -/
theorem holds_vaDriver (hasNplClk : Bool) :
    (vaDriver hasNplClk).Holds VaCall.change (enabled (clocks hasNplClk))
      fun answers ↦ enabled (leftEnabled hasNplClk answers) where
  leak_nonneg _ := enabled_nonneg _
  suspend answers start hheld := by
    refine Script.tallies_consequence (tallies_vaMacroRuntimeSuspend hasNplClk answers
      (sub_nonneg.2 hheld)) ?_ fun _ _ hnow ↦ hnow
    rintro now rfl
    exact (sub_add_cancel now _).symm
  resume answers start hstart := by
    refine Script.tallies_consequence (tallies_vaMacroRuntimeResume hasNplClk answers hstart)
      (fun _ hnow ↦ hnow) ?_
    rintro _ now ⟨hleft, hnow⟩
    exact ⟨(enabled_eq_zero_iff _).2 hleft, hnow⟩

/-! ## Histories -/

section

variable (hasNplClk : Bool) (history : List (PmEvent (Clock → ℤ)))

/-- All that the resumes of a history leave enabled. -/
def leaked : Clock → ℤ :=
  (vaDriver hasNplClk).leaked (fun answers ↦ enabled (leftEnabled hasNplClk answers))
    (probed hasNplClk) history

theorem accounted_probed :
    PmDriver.Accounted VaCall.change (enabled (clocks hasNplClk)) (probed hasNplClk) :=
  ⟨covered_map_enable _, le_of_eq (total_map_enable _).symm⟩

theorem accounted_runtime :
    PmDriver.Accounted VaCall.change (enabled (clocks hasNplClk)) (runtime hasNplClk history) :=
  ((holds_vaDriver hasNplClk).total_run (accounted_probed hasNplClk) history).1

theorem total_runtime :
    total VaCall.change (runtime hasNplClk history).trace -
        PmDriver.holding (enabled (clocks hasNplClk)) (runtime hasNplClk history) =
      leaked hasNplClk history := by
  have hrun := ((holds_vaDriver hasNplClk).total_run (accounted_probed hasNplClk) history).2
  have hprobed : total VaCall.change (probed hasNplClk).trace -
      PmDriver.holding (enabled (clocks hasNplClk)) (probed hasNplClk) = 0 :=
    sub_eq_zero.2 (total_map_enable _)
  rwa [hprobed, zero_add] at hrun

/-- After the removal just the clocks that failed resumes have left enabled are enabled. -/
theorem total_removed :
    Covered VaCall.change (removed hasNplClk history) ∧
      total VaCall.change (removed hasNplClk history) = leaked hasNplClk history := by
  have haccounted := accounted_runtime hasNplClk history
  have htotal := total_runtime hasNplClk history
  have hle := haccounted.holding_le
  unfold removed
  dsimp only
  cases hstatus : (runtime hasNplClk history).suspended with
  | true =>
    rw [PmDriver.holding, if_pos hstatus, sub_zero] at htotal
    exact ⟨haccounted.covered, htotal⟩
  | false =>
    rw [PmDriver.holding, hstatus, if_neg Bool.false_ne_true] at htotal hle
    have hremove := tallies_vaMacroRuntimeSuspend hasNplClk (fun _ ↦ 0) (sub_nonneg.2 hle) _
      haccounted.covered (sub_add_cancel _ _).symm
    rw [htotal] at hremove
    change Covered VaCall.change (vaMacroRuntimeSuspend hasNplClk _ _).2 ∧
      total VaCall.change (vaMacroRuntimeSuspend hasNplClk _ _).2 = _
    revert hremove
    rcases vaMacroRuntimeSuspend hasNplClk (reply fun _ ↦ 0) _ with ⟨outcome, trace⟩
    cases outcome with
    | ok _ => exact id
    | error _ => exact fun h ↦ h.2.elim

/-- The resume with these answers fails at the macro clock, or it succeeds. -/
def Clean (answers : Clock → ℤ) : Prop :=
  answers .macroClk ≠ 0 ∨
    answers .dcodec = 0 ∧ answers .mclk = 0 ∧ (hasNplClk = true → answers .npl = 0)

theorem enabled_leftEnabled_eq_zero_iff (answers : Clock → ℤ) :
    enabled (leftEnabled hasNplClk answers) = 0 ↔ Clean hasNplClk answers := by
  rw [enabled_eq_zero_iff, leftEnabled, Clean]
  split_ifs <;> grind

/-- The counts never drop below their values before the probe and come back to them with the removal,
and a failed resume changes none of them. -/
structure Balanced (before : Clock → ℤ) : Prop where
  never_below : ∀ later earlier, removed hasNplClk history = later ++ earlier →
    before ≤ counts before earlier
  restored : counts before (removed hasNplClk history) = before
  failed_resume : ∀ earlier answers later, history = earlier ++ .resume answers :: later →
    (runtime hasNplClk earlier).suspended = true →
    (runtime hasNplClk (earlier ++ [.resume answers])).suspended = true →
      counts before (runtime hasNplClk (earlier ++ [.resume answers])).trace =
        counts before (runtime hasNplClk earlier).trace

/-- A failed resume changes the counts by the clocks that it leaves enabled. -/
theorem total_failed_resume {earlier : List (PmEvent (Clock → ℤ))} {answers : Clock → ℤ}
    (hbefore : (runtime hasNplClk earlier).suspended = true)
    (hafter : (runtime hasNplClk (earlier ++ [.resume answers])).suspended = true) :
    total VaCall.change (runtime hasNplClk (earlier ++ [.resume answers])).trace =
      total VaCall.change (runtime hasNplClk earlier).trace +
        enabled (leftEnabled hasNplClk answers) := by
  have hstep := ((holds_vaDriver hasNplClk).total_resume (accounted_runtime hasNplClk earlier)
    hbefore answers).2
  have hrun : runtime hasNplClk (earlier ++ [.resume answers]) =
      (vaDriver hasNplClk).step (runtime hasNplClk earlier) (.resume answers) :=
    PmDriver.run_concat _ _ _ _
  rw [← hrun, PmDriver.holding, if_pos hafter, sub_zero] at hstep
  exact hstep

/-- The counts are balanced exactly if every resume that takes place fails at the macro clock or
succeeds. -/
theorem vaMacro_balanced_iff (before : Clock → ℤ) :
    Balanced hasNplClk history before ↔ ∀ earlier answers later,
      history = earlier ++ .resume answers :: later → (runtime hasNplClk earlier).suspended = true →
        Clean hasNplClk answers := by
  have hleaked : leaked hasNplClk history = 0 ↔ ∀ earlier answers later,
      history = earlier ++ .resume answers :: later → (runtime hasNplClk earlier).suspended = true →
        Clean hasNplClk answers := by
    simp only [← enabled_leftEnabled_eq_zero_iff]
    exact (holds_vaDriver hasNplClk).leaked_eq_zero_iff (probed hasNplClk) history
  have hremoved := total_removed hasNplClk history
  rw [← hleaked]
  constructor
  · intro hbalanced
    have hrestored : before + total VaCall.change (removed hasNplClk history) = before :=
      hbalanced.restored
    rwa [hremoved.2, add_eq_left] at hrestored
  · intro hzero
    refine ⟨fun later earlier htrace ↦ ?_, ?_, ?_⟩
    · have hcovered := hremoved.1
      rw [htrace] at hcovered
      exact le_add_of_nonneg_right hcovered.of_append.total_nonneg
    · rw [counts, hremoved.2, hzero, add_zero]
    · intro earlier answers later hhistory hbefore hafter
      have hclean := hleaked.1 hzero earlier answers later hhistory hbefore
      rw [counts, counts, total_failed_resume hasNplClk hbefore hafter,
        (enabled_leftEnabled_eq_zero_iff hasNplClk answers).2 hclean, add_zero]

end

/-- The clock `dcodec` cannot be enabled. -/
def withoutDcodec : Clock → ℤ
  | .dcodec => -5
  | _ => 0

theorem not_balanced_withoutDcodec :
    ¬Balanced false [.suspend 0, .resume withoutDcodec] 0 := by
  intro hbalanced
  have hmacro := congrFun hbalanced.restored .macroClk
  revert hmacro
  decide

end TclB220G.Audio
