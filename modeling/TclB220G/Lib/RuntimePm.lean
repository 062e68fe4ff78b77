import TclB220G.Lib.Ledger

/-!
# Runtime power management

A device is suspended and resumed by two scripts of its driver.  The core runs the one only while the
device is active and the other only while it is suspended, and a script that fails leaves the status
as it was.

A driver may hold counted resources while its device is active.  If a resume that fails does not give
everything back, what is left adds up: after any history the counts are what the status accounts for
and what the failed resumes have left.
-/

namespace TclB220G.Lib

structure PmDriver (Call Input : Type) where
  suspend : Script Call Unit
  resume : Script Call Unit
  answers : Input → ℕ → Call → ℤ

/-- A request to the core, with what determines the answers to the calls of the driver. -/
inductive PmEvent (Input : Type) where
  | suspend (input : Input)
  | resume (input : Input)

structure PmState (Call : Type) where
  suspended : Bool
  trace : List (Call × ℤ)

namespace PmDriver

variable {Call Input Resource : Type} (driver : PmDriver Call Input)

def step (state : PmState Call) : PmEvent Input → PmState Call
  | .suspend input =>
    if state.suspended then state
    else
      match driver.suspend (driver.answers input) state.trace with
      | (.ok _, trace) => ⟨true, trace⟩
      | (.error _, trace) => ⟨false, trace⟩
  | .resume input =>
    if state.suspended then
      match driver.resume (driver.answers input) state.trace with
      | (.ok _, trace) => ⟨false, trace⟩
      | (.error _, trace) => ⟨true, trace⟩
    else state

def run (state : PmState Call) (events : List (PmEvent Input)) : PmState Call :=
  events.foldl driver.step state

theorem run_cons (state : PmState Call) (event : PmEvent Input) (events : List (PmEvent Input)) :
    driver.run state (event :: events) = driver.run (driver.step state event) events :=
  rfl

theorem run_concat (state : PmState Call) (events : List (PmEvent Input)) (event : PmEvent Input) :
    driver.run state (events ++ [event]) = driver.step (driver.run state events) event :=
  List.foldl_concat ..

/-- What the status of the device accounts for. -/
def holding (held : Resource → ℤ) (state : PmState Call) : Resource → ℤ :=
  if state.suspended then 0 else held

/-- What one event leaves behind, if a resume leaves `leak` behind. -/
def lost (leak : Input → Resource → ℤ) (state : PmState Call) : PmEvent Input → Resource → ℤ
  | .suspend _ => 0
  | .resume input => if state.suspended then leak input else 0

/-- What all events of a history leave behind. -/
def leaked (leak : Input → Resource → ℤ) : PmState Call → List (PmEvent Input) → Resource → ℤ
  | _, [] => 0
  | state, event :: events =>
    lost leak state event + leaked leak (driver.step state event) events

/-- The driver holds `held` while the device is active, and a resume leaves `leak` behind: nothing if
it succeeds. -/
structure Holds (change : Call → ℤ → Resource → ℤ) (held : Resource → ℤ)
    (leak : Input → Resource → ℤ) : Prop where
  leak_nonneg : ∀ input, 0 ≤ leak input
  suspend : ∀ input counts, held ≤ counts →
    driver.suspend.Tallies change (driver.answers input) (fun now ↦ now = counts)
      (fun _ now ↦ now = counts - held) fun _ _ ↦ False
  resume : ∀ input counts, 0 ≤ counts →
    driver.resume.Tallies change (driver.answers input) (fun now ↦ now = counts)
      (fun _ now ↦ leak input = 0 ∧ now = counts + held) fun _ now ↦ now = counts + leak input

/-- The counts cover what the status accounts for. -/
structure Accounted (change : Call → ℤ → Resource → ℤ) (held : Resource → ℤ) (state : PmState Call) :
    Prop where
  covered : Covered change state.trace
  holding_le : holding held state ≤ total change state.trace

variable {driver} {change : Call → ℤ → Resource → ℤ} {held : Resource → ℤ}
  {leak : Input → Resource → ℤ} (hholds : driver.Holds change held leak)
include hholds

theorem Holds.lost_nonneg (state : PmState Call) (event : PmEvent Input) : 0 ≤ lost leak state event := by
  cases event with
  | suspend _ => exact le_rfl
  | resume input =>
    simp only [lost]
    split
    · exact hholds.leak_nonneg input
    · exact le_rfl

theorem Holds.leaked_nonneg (state : PmState Call) (events : List (PmEvent Input)) :
    0 ≤ driver.leaked leak state events := by
  induction events generalizing state with
  | nil => exact le_rfl
  | cons event events ih => exact add_nonneg (hholds.lost_nonneg state event) (ih _)

section

variable {state : PmState Call} (haccounted : Accounted change held state)
include haccounted

theorem Holds.total_suspend (hactive : state.suspended = false) (input : Input) :
    Covered change (driver.step state (.suspend input)).trace ∧
      total change (driver.step state (.suspend input)).trace -
          holding held (driver.step state (.suspend input)) =
        total change state.trace - held := by
  have hheld : held ≤ total change state.trace := by
    have hle := haccounted.holding_le
    rwa [holding, hactive, if_neg Bool.false_ne_true] at hle
  have hsuspend := hholds.suspend input _ hheld state.trace haccounted.covered rfl
  rw [step, hactive, if_neg Bool.false_ne_true]
  revert hsuspend
  rcases driver.suspend (driver.answers input) state.trace with ⟨outcome, trace⟩
  match outcome with
  | .ok _ =>
    rintro ⟨hcovered, hnow⟩
    exact ⟨hcovered, (sub_zero _).trans hnow⟩
  | .error _ => exact fun h ↦ h.2.elim

theorem Holds.total_resume (hsuspended : state.suspended = true) (input : Input) :
    Covered change (driver.step state (.resume input)).trace ∧
      total change (driver.step state (.resume input)).trace -
          holding held (driver.step state (.resume input)) =
        total change state.trace + leak input := by
  have hresume := hholds.resume input _ haccounted.covered.total_nonneg state.trace
    haccounted.covered rfl
  rw [step, hsuspended, if_pos rfl]
  revert hresume
  rcases driver.resume (driver.answers input) state.trace with ⟨outcome, trace⟩
  match outcome with
  | .ok _ =>
    rintro ⟨hcovered, hleak, hnow⟩
    refine ⟨hcovered, ?_⟩
    calc
      total change trace - held = total change state.trace + held - held := congrArg (· - held) hnow
      _ = total change state.trace + leak input := by rw [hleak, add_sub_cancel_right, add_zero]
  | .error _ =>
    rintro ⟨hcovered, hnow⟩
    exact ⟨hcovered, (sub_zero _).trans hnow⟩

/-- One event changes the counts by the change of status and by what it leaves behind. -/
theorem Holds.total_step (event : PmEvent Input) :
    Covered change (driver.step state event).trace ∧
      total change (driver.step state event).trace - holding held (driver.step state event) =
        total change state.trace - holding held state + lost leak state event := by
  match event, hstatus : state.suspended with
  | .suspend input, true =>
    rw [step, if_pos hstatus, lost, add_zero]
    exact ⟨haccounted.covered, rfl⟩
  | .suspend input, false =>
    have hsuspend := hholds.total_suspend haccounted hstatus input
    refine ⟨hsuspend.1, hsuspend.2.trans ?_⟩
    rw [lost, add_zero, holding, hstatus, if_neg Bool.false_ne_true]
  | .resume input, true =>
    have hresume := hholds.total_resume haccounted hstatus input
    refine ⟨hresume.1, hresume.2.trans ?_⟩
    rw [lost, holding, hstatus, if_pos rfl, if_pos rfl, sub_zero]
  | .resume input, false =>
    have hactive : ¬state.suspended = true := by rw [hstatus]; exact Bool.false_ne_true
    rw [step, if_neg hactive, lost, if_neg hactive, add_zero]
    exact ⟨haccounted.covered, rfl⟩

theorem Holds.accounted_step (event : PmEvent Input) :
    Accounted change held (driver.step state event) := by
  have hstep := hholds.total_step haccounted event
  refine ⟨hstep.1, sub_nonneg.1 ?_⟩
  rw [hstep.2]
  exact add_nonneg (sub_nonneg.2 haccounted.holding_le) (hholds.lost_nonneg state event)

/-- After any history the counts are what the status accounts for and what was left behind. -/
theorem Holds.total_run (events : List (PmEvent Input)) :
    Accounted change held (driver.run state events) ∧
      total change (driver.run state events).trace - holding held (driver.run state events) =
        total change state.trace - holding held state + driver.leaked leak state events := by
  induction events generalizing state with
  | nil => exact ⟨haccounted, (add_zero _).symm⟩
  | cons event events ih =>
    have hstep := hholds.total_step haccounted event
    have hrun := ih (hholds.accounted_step haccounted event)
    rw [run_cons]
    refine ⟨hrun.1, ?_⟩
    calc
      _ = total change (driver.step state event).trace - holding held (driver.step state event) +
          driver.leaked leak (driver.step state event) events := hrun.2
      _ = total change state.trace - holding held state +
          (lost leak state event + driver.leaked leak (driver.step state event) events) := by
        rw [hstep.2, add_assoc]

end

/-- Nothing is left behind exactly if no resume that takes place leaves anything. -/
theorem Holds.leaked_eq_zero_iff (state : PmState Call) (events : List (PmEvent Input)) :
    driver.leaked leak state events = 0 ↔ ∀ earlier input later,
      events = earlier ++ .resume input :: later → (driver.run state earlier).suspended = true →
        leak input = 0 := by
  induction events generalizing state with
  | nil => simp [leaked]
  | cons event events ih =>
    rw [leaked, add_eq_zero_iff_of_nonneg (hholds.lost_nonneg state event)
      (hholds.leaked_nonneg (driver.step state event) events), ih]
    constructor
    · rintro ⟨hlost, hlater⟩ (_ | ⟨first, earlier⟩) input later hevents hsuspended
      · cases hevents
        have hnow : state.suspended = true := hsuspended
        rwa [lost, if_pos hnow] at hlost
      · cases hevents
        exact hlater earlier input later rfl hsuspended
    · intro hall
      constructor
      · cases event with
        | suspend _ => rfl
        | resume input =>
          rw [lost]
          split
          · next hsuspended => exact hall [] input events rfl hsuspended
          · rfl
      · rintro earlier input later rfl hsuspended
        exact hall (event :: earlier) input later rfl hsuspended

end PmDriver

end TclB220G.Lib
