import Mathlib.Algebra.BigOperators.Group.List.Basic
import Mathlib.Algebra.Group.Pi.Basic
import Mathlib.Algebra.Order.Pi
import Mathlib.Algebra.Order.Ring.Int
import TclB220G.Lib.Script

/-!
# Counts of what a script takes and gives back

The calls of a script may raise and lower counts.  `total` adds up what the calls of a trace have done
to them, and a trace is covered if no count was ever below zero on the way.  `Tallies` says what a
script does to the counts under given answers.  Its rules go along the structure of the script.
-/

namespace TclB220G.Lib

variable {Call Resource State α β : Type} (change : Call → ℤ → Resource → ℤ)

/-- What the calls of a trace have done to the counts. -/
def total (trace : List (Call × ℤ)) : Resource → ℤ :=
  (trace.map fun event ↦ change event.1 event.2).sum

/-- No count was below zero after any call of the trace. -/
def Covered : List (Call × ℤ) → Prop
  | [] => True
  | event :: earlier => 0 ≤ total change (event :: earlier) ∧ Covered earlier

theorem total_cons (event : Call × ℤ) (trace : List (Call × ℤ)) :
    total change (event :: trace) = total change trace + change event.1 event.2 := by
  rw [total, List.map_cons, List.sum_cons, add_comm, total]

variable {change}

theorem Covered.total_nonneg {trace : List (Call × ℤ)} (hcovered : Covered change trace) :
    0 ≤ total change trace := by
  match trace, hcovered with
  | [], _ => exact le_of_eq rfl
  | _ :: _, hcovered => exact hcovered.1

theorem Covered.of_append {later earlier : List (Call × ℤ)}
    (hcovered : Covered change (later ++ earlier)) : Covered change earlier := by
  induction later with
  | nil => exact hcovered
  | cons event later ih => exact ih hcovered.2

theorem Covered.cons {event : Call × ℤ} {trace : List (Call × ℤ)} (hcovered : Covered change trace)
    (hnonneg : 0 ≤ total change trace + change event.1 event.2) : Covered change (event :: trace) :=
  ⟨(total_cons change event trace).symm ▸ hnonneg, hcovered⟩

/-- Under these answers the script takes counts with the fact `before` to counts with the fact `after`,
or `failing` if it fails, and no count is below zero on the way. -/
def Script.Tallies (change : Call → ℤ → Resource → ℤ) (oracle : ℕ → Call → ℤ)
    (before : (Resource → ℤ) → Prop) (script : Script Call α)
    (after : α → (Resource → ℤ) → Prop) (failing : ℤ → (Resource → ℤ) → Prop) : Prop :=
  ∀ trace, Covered change trace → before (total change trace) →
    Covered change (script oracle trace).2 ∧
      match (script oracle trace).1 with
      | .ok value => after value (total change (script oracle trace).2)
      | .error error => failing error (total change (script oracle trace).2)

namespace Script

variable {oracle : ℕ → Call → ℤ} {before : (Resource → ℤ) → Prop} {after : α → (Resource → ℤ) → Prop}
  {failing : ℤ → (Resource → ℤ) → Prop} {call : Call}

theorem tallies_pure {value : α} (hafter : ∀ counts, before counts → after value counts) :
    (pure value : Script Call α).Tallies change oracle before after failing :=
  fun _ hcovered hbefore ↦ ⟨hcovered, hafter _ hbefore⟩

theorem tallies_consequence {script : Script Call α} {stronger : (Resource → ℤ) → Prop}
    {weaker : α → (Resource → ℤ) → Prop} (hscript : script.Tallies change oracle before after failing)
    (hbefore : ∀ counts, stronger counts → before counts)
    (hafter : ∀ value counts, after value counts → weaker value counts) :
    script.Tallies change oracle stronger weaker failing := by
  intro trace hcovered hstronger
  have hfirst := hscript trace hcovered (hbefore _ hstronger)
  refine ⟨hfirst.1, ?_⟩
  revert hfirst
  rcases script oracle trace with ⟨outcome, trace⟩
  cases outcome with
  | error error => exact fun hfirst ↦ hfirst.2
  | ok value => exact fun hfirst ↦ hafter value _ hfirst.2

theorem tallies_bind {script : Script Call α} {next : α → Script Call β}
    {later : β → (Resource → ℤ) → Prop}
    (hscript : script.Tallies change oracle before after failing)
    (hnext : ∀ value, (next value).Tallies change oracle (after value) later failing) :
    (script >>= next).Tallies change oracle before later failing := by
  intro trace hcovered hbefore
  have hfirst := hscript trace hcovered hbefore
  rw [bind_apply]
  revert hfirst
  rcases script oracle trace with ⟨outcome, trace⟩
  cases outcome with
  | error error => exact id
  | ok value => exact fun hfirst ↦ hnext value trace hfirst.1 hfirst.2

theorem tallies_invoke {after : ℤ → (Resource → ℤ) → Prop}
    (hnonneg : ∀ turn counts, before counts → 0 ≤ counts + change call (oracle turn call))
    (hafter : ∀ turn counts, before counts →
      after (oracle turn call) (counts + change call (oracle turn call))) :
    (invoke call).Tallies change oracle before after failing := by
  intro trace hcovered hbefore
  refine ⟨hcovered.cons (hnonneg _ _ hbefore), ?_⟩
  change after _ (total change ((call, oracle trace.length call) :: trace))
  rw [total_cons]
  exact hafter _ _ hbefore

theorem tallies_step {interface : Interface Call State} {after : ℤ → (Resource → ℤ) → Prop}
    (hnonneg : ∀ turn counts, before counts → 0 ≤ counts + change call (oracle turn call))
    (hafter : ∀ turn counts, before counts → interface.failed call (oracle turn call) = false →
      after (oracle turn call) (counts + change call (oracle turn call)))
    (hfailing : ∀ turn counts, before counts → interface.failed call (oracle turn call) = true →
      failing (interface.errno call (oracle turn call)) (counts + change call (oracle turn call))) :
    (step interface call).Tallies change oracle before after failing := by
  intro trace hcovered hbefore
  refine ⟨hcovered.cons (hnonneg _ _ hbefore), ?_⟩
  simp only [step, total_cons]
  cases hfailed : interface.failed call (oracle trace.length call) with
  | false => exact hafter _ _ hbefore hfailed
  | true => exact hfailing _ _ hbefore hfailed

/-- A script that gives something back when it fails. -/
theorem tallies_onFailure {script : Script Call α} {between : ℤ → (Resource → ℤ) → Prop}
    (hscript : script.Tallies change oracle before after between)
    (hnonneg : ∀ turn error counts, between error counts → 0 ≤ counts + change call (oracle turn call))
    (hfailing : ∀ turn error counts, between error counts →
      failing error (counts + change call (oracle turn call))) :
    (script.onFailure [call]).Tallies change oracle before after failing := by
  intro trace hcovered hbefore
  have hfirst := hscript trace hcovered hbefore
  unfold onFailure
  revert hfirst
  rcases script oracle trace with ⟨outcome, trace⟩
  cases outcome with
  | error error =>
    intro hfirst
    refine ⟨hfirst.1.cons (hnonneg _ _ _ hfirst.2), ?_⟩
    simp only [dismiss, total_cons]
    exact hfailing _ _ _ hfirst.2
  | ok value => exact id

end Script

end TclB220G.Lib
