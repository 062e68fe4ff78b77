import Mathlib.Data.List.Basic
import Mathlib.Data.Int.Notation
import Mathlib.Data.Nat.Notation

/-!
# Scripts of calls that may fail

A script makes calls to its surroundings one after another.  An oracle answers each of them with a
number, so a statement about every oracle covers every pattern of failures and every value read.
The answered calls are kept in a trace, the newest first, and the state is what they add up to.

A discipline says which call is allowed after which calls.  A script follows it if no call but
those that clean up comes after one that failed, and every call is allowed where it is made.  The
rules below show this along the structure of the script, together with a fact about the trace that
the script starts from and one that it establishes.
-/

namespace TclB220G.Lib

/-- What the answer of a call does to the state, whether it is a failure, and the error number that
the caller makes of it. -/
structure Interface (Call State : Type) where
  initial : State
  effect : Call → ℤ → State → State
  failed : Call → ℤ → Bool
  errno : Call → ℤ → ℤ
  errno_ne_zero : ∀ call answer, failed call answer = true → errno call answer ≠ 0

/-- The calls that may be made after a failure, and those that may be made after given calls. -/
structure Discipline (Call : Type) where
  cleanup : Call → Bool
  allowed : Call → List (Call × ℤ) → Prop

def Script (Call α : Type) :=
  (ℕ → Call → ℤ) → List (Call × ℤ) → Except ℤ α × List (Call × ℤ)

variable {Call State α β : Type}

/-- The state after the calls of a trace. -/
def Interface.replay (interface : Interface Call State) (trace : List (Call × ℤ)) : State :=
  trace.foldr (fun event ↦ interface.effect event.1 event.2) interface.initial

theorem Interface.replay_cons (interface : Interface Call State) (event : Call × ℤ)
    (trace : List (Call × ℤ)) :
    interface.replay (event :: trace) = interface.effect event.1 event.2 (interface.replay trace) :=
  rfl

namespace Script

instance : Monad (Script Call) where
  pure value := fun _ trace ↦ (.ok value, trace)
  bind script next := fun oracle trace ↦
    match script oracle trace with
    | (.error error, trace) => (.error error, trace)
    | (.ok value, trace) => next value oracle trace

theorem bind_apply (script : Script Call α) (next : α → Script Call β) (oracle : ℕ → Call → ℤ)
    (trace : List (Call × ℤ)) :
    (script >>= next) oracle trace =
      match script oracle trace with
      | (.error error, trace) => (.error error, trace)
      | (.ok value, trace) => next value oracle trace :=
  rfl

/-- The state as it is. -/
def state (interface : Interface Call State) : Script Call State :=
  fun _ trace ↦ (.ok (interface.replay trace), trace)

/-- A call whose answer is left to the script. -/
def invoke (call : Call) : Script Call ℤ := fun oracle trace ↦
  (.ok (oracle trace.length call), (call, oracle trace.length call) :: trace)

/-- A call that ends the script if it fails. -/
def step (interface : Interface Call State) (call : Call) : Script Call ℤ := fun oracle trace ↦
  let answer := oracle trace.length call
  (if interface.failed call answer then .error (interface.errno call answer) else .ok answer,
    (call, answer) :: trace)

/-- A call that ends the script if it fails and whose answer is of no further use. -/
def perform (interface : Interface Call State) (call : Call) : Script Call Unit := do
  let _ ← step interface call

/-- A check of the script's own that ends it, kept in the trace as a call with that answer. -/
def refuse (interface : Interface Call State) (call : Call) (answer : ℤ) : Script Call α :=
  fun _ trace ↦ (.error (interface.errno call answer), (call, answer) :: trace)

/-- An error of the script's own. -/
def abort (error : ℤ) : Script Call α := fun _ trace ↦ (.error error, trace)

/-- Whether a call succeeds. -/
def succeeds (interface : Interface Call State) (call : Call) : Script Call Bool := do
  let answer ← invoke call
  pure !interface.failed call answer

/-- The trace after calls whose answers nobody looks at. -/
def dismiss (oracle : ℕ → Call → ℤ) : List Call → List (Call × ℤ) → List (Call × ℤ)
  | [], trace => trace
  | call :: calls, trace => dismiss oracle calls ((call, oracle trace.length call) :: trace)

variable (script : Script Call α)

/-- Makes the calls after the script in any case. -/
def ensuring (calls : List Call) : Script Call α := fun oracle trace ↦
  ((script oracle trace).1, dismiss oracle calls (script oracle trace).2)

/-- Makes the calls after the script has failed. -/
def onFailure (calls : List Call) : Script Call α := fun oracle trace ↦
  match script oracle trace with
  | (.ok value, trace) => (.ok value, trace)
  | (.error error, trace) => (.error error, dismiss oracle calls trace)

/-- The outcome of a script as a value. -/
def attempt : Script Call (Except ℤ α) := fun oracle trace ↦
  (.ok (script oracle trace).1, (script oracle trace).2)

/-- Runs the scripts one after another until one of them fails. -/
def inOrder : List (Script Call Unit) → Script Call Unit
  | [] => pure ()
  | script :: scripts => do
    script
    inOrder scripts

end Script

/-! ## Disciplines -/

section

variable (interface : Interface Call State) (discipline : Discipline Call)

/-- Some call in the trace failed. -/
def Interface.Failed (trace : List (Call × ℤ)) : Prop :=
  ∃ event ∈ trace, interface.failed event.1 event.2 = true

/-- Every call was allowed after the calls before it, and cleaned up if one of those had failed. -/
def Interface.Respects : List (Call × ℤ) → Prop
  | [] => True
  | event :: earlier =>
    ((interface.Failed earlier → discipline.cleanup event.1 = true) ∧
      discipline.allowed event.1 earlier) ∧ Interface.Respects earlier

/-- A call that cleans up, cannot fail and is always allowed. -/
structure Interface.Harmless (call : Call) : Prop where
  cleanup : discipline.cleanup call = true
  succeeds : ∀ answer, interface.failed call answer = false
  allowed : ∀ trace, discipline.allowed call trace

/-- A fact about a trace that no further call takes away. -/
def Lasting (fact : List (Call × ℤ) → Prop) : Prop :=
  ∀ event trace, fact trace → fact (event :: trace)

/-- From a trace without a failure that has the fact `before`, the script either succeeds without a
failure and has established `after`, or fails with an error number; it respects the discipline. -/
def Script.Follows (before : List (Call × ℤ) → Prop) (script : Script Call α)
    (after : α → List (Call × ℤ) → Prop) : Prop :=
  ∀ oracle trace, ¬interface.Failed trace → interface.Respects discipline trace → before trace →
    interface.Respects discipline (script oracle trace).2 ∧
      match (script oracle trace).1 with
      | .ok value =>
        ¬interface.Failed (script oracle trace).2 ∧ after value (script oracle trace).2
      | .error error => interface.Failed (script oracle trace).2 ∧ error ≠ 0

/-- The script keeps a fact while it follows the discipline. -/
def Script.Keeps (fact : List (Call × ℤ) → Prop) (script : Script Call α) : Prop :=
  script.Follows interface discipline fact fun _ ↦ fact

end

variable {interface : Interface Call State} {discipline : Discipline Call}

@[simp] theorem Interface.not_failed_nil : ¬interface.Failed [] := by
  simp [Interface.Failed]

@[simp] theorem Interface.failed_cons (event : Call × ℤ) (trace : List (Call × ℤ)) :
    interface.Failed (event :: trace) ↔
      interface.failed event.1 event.2 = true ∨ interface.Failed trace := by
  simp [Interface.Failed]

variable {trace : List (Call × ℤ)}

theorem Interface.Respects.cons (hrespects : interface.Respects discipline trace) {event : Call × ℤ}
    (hcleanup : interface.Failed trace → discipline.cleanup event.1 = true)
    (hallowed : discipline.allowed event.1 trace) :
    interface.Respects discipline (event :: trace) :=
  ⟨⟨hcleanup, hallowed⟩, hrespects⟩

/-- Every call of a trace that respects the discipline was allowed where it was made. -/
theorem Interface.Respects.allowed {later earlier : List (Call × ℤ)} {event : Call × ℤ}
    (hrespects : interface.Respects discipline (later ++ event :: earlier)) :
    (interface.Failed earlier → discipline.cleanup event.1 = true) ∧
      discipline.allowed event.1 earlier := by
  induction later with
  | nil => exact hrespects.1
  | cons first later ih => exact ih hrespects.2

namespace Script

/-! ## Calls that clean up -/

variable {calls : List Call}

theorem respects_dismiss (oracle : ℕ → Call → ℤ)
    (hharmless : ∀ call ∈ calls, interface.Harmless discipline call)
    (hrespects : interface.Respects discipline trace) :
    interface.Respects discipline (dismiss oracle calls trace) := by
  induction calls generalizing trace with
  | nil => exact hrespects
  | cons call calls ih =>
    rw [List.forall_mem_cons] at hharmless
    apply ih hharmless.2
    exact hrespects.cons (fun _ ↦ hharmless.1.cleanup) (hharmless.1.allowed trace)

theorem failed_dismiss (oracle : ℕ → Call → ℤ)
    (hharmless : ∀ call ∈ calls, interface.Harmless discipline call) (trace : List (Call × ℤ)) :
    interface.Failed (dismiss oracle calls trace) ↔ interface.Failed trace := by
  induction calls generalizing trace with
  | nil => rfl
  | cons call calls ih =>
    rw [List.forall_mem_cons] at hharmless
    rw [dismiss, ih hharmless.2, Interface.failed_cons, hharmless.1.succeeds]
    simp

theorem lasting_dismiss {fact : List (Call × ℤ) → Prop} (hlasting : Lasting fact)
    (oracle : ℕ → Call → ℤ) (calls : List Call) (hfact : fact trace) :
    fact (dismiss oracle calls trace) := by
  induction calls generalizing trace with
  | nil => exact hfact
  | cons call calls ih => exact ih (hlasting _ _ hfact)

/-! ## Rules -/

variable {before fact : List (Call × ℤ) → Prop} {call : Call}

variable {after : α → List (Call × ℤ) → Prop}

theorem follows_pure {value : α} (hafter : ∀ trace, before trace → after value trace) :
    (pure value : Script Call α).Follows interface discipline before after :=
  fun _ trace hclean hrespects hbefore ↦ ⟨hrespects, hclean, hafter trace hbefore⟩

variable {script : Script Call α}

theorem follows_weaken (hbefore : ∀ trace, fact trace → before trace)
    (hscript : script.Follows interface discipline before after) :
    script.Follows interface discipline fact after :=
  fun oracle trace hclean hrespects hfact ↦
    hscript oracle trace hclean hrespects (hbefore trace hfact)

theorem follows_mono {after weaker : α → List (Call × ℤ) → Prop}
    (hscript : script.Follows interface discipline before after)
    (hafter : ∀ value trace, after value trace → weaker value trace) :
    script.Follows interface discipline before weaker := by
  intro oracle trace hclean hrespects hbefore
  have hfirst := hscript oracle trace hclean hrespects hbefore
  refine ⟨hfirst.1, ?_⟩
  revert hfirst
  rcases script oracle trace with ⟨outcome, final⟩
  cases outcome with
  | error error => exact fun hfirst ↦ hfirst.2
  | ok value => exact fun hfirst ↦ ⟨hfirst.2.1, hafter value final hfirst.2.2⟩

theorem follows_state :
    (state interface).Follows interface discipline before fun _ ↦ before :=
  fun _ _ hclean hrespects hbefore ↦ ⟨hrespects, hclean, hbefore⟩

theorem follows_bind {next : α → Script Call β} {between : α → List (Call × ℤ) → Prop}
    {after : β → List (Call × ℤ) → Prop}
    (hscript : script.Follows interface discipline before between)
    (hnext : ∀ value, (next value).Follows interface discipline (between value) after) :
    (script >>= next).Follows interface discipline before after := by
  intro oracle trace hclean hrespects hbefore
  have hfirst := hscript oracle trace hclean hrespects hbefore
  rw [bind_apply]
  revert hfirst
  rcases script oracle trace with ⟨outcome, trace⟩
  cases outcome with
  | error error => exact id
  | ok value => exact fun hfirst ↦ hnext value oracle trace hfirst.2.1 hfirst.1 hfirst.2.2

/-- What a call establishes may depend on its success. -/
theorem follows_step_of_success {after : ℤ → List (Call × ℤ) → Prop}
    (hallowed : ∀ trace, before trace → discipline.allowed call trace)
    (hafter : ∀ answer trace, interface.failed call answer = false → before trace →
      after answer ((call, answer) :: trace)) :
    (step interface call).Follows interface discipline before after := by
  intro oracle trace hclean hrespects hbefore
  refine ⟨hrespects.cons (fun hfailed ↦ absurd hfailed hclean) (hallowed trace hbefore), ?_⟩
  simp only [step]
  split_ifs with hfailed
  · exact ⟨(Interface.failed_cons _ _).2 (.inl hfailed), interface.errno_ne_zero _ _ hfailed⟩
  · exact ⟨by simp [hfailed, hclean], hafter _ trace (Bool.eq_false_iff.2 hfailed) hbefore⟩

theorem follows_step {after : ℤ → List (Call × ℤ) → Prop}
    (hallowed : ∀ trace, before trace → discipline.allowed call trace)
    (hafter : ∀ answer trace, before trace → after answer ((call, answer) :: trace)) :
    (step interface call).Follows interface discipline before after :=
  follows_step_of_success hallowed fun answer trace _ ↦ hafter answer trace

theorem follows_invoke {after : ℤ → List (Call × ℤ) → Prop}
    (hsucceeds : ∀ answer, interface.failed call answer = false)
    (hallowed : ∀ trace, before trace → discipline.allowed call trace)
    (hafter : ∀ answer trace, before trace → after answer ((call, answer) :: trace)) :
    (invoke call).Follows interface discipline before after := by
  intro oracle trace hclean hrespects hbefore
  refine ⟨hrespects.cons (fun hfailed ↦ absurd hfailed hclean) (hallowed trace hbefore), ?_⟩
  exact ⟨by simp [invoke, hsucceeds, hclean], hafter _ trace hbefore⟩

theorem follows_refuse {answer : ℤ} (hfailed : interface.failed call answer = true)
    (hallowed : ∀ trace, before trace → discipline.allowed call trace) :
    (refuse interface call answer : Script Call α).Follows interface discipline before after := by
  intro oracle trace hclean hrespects hbefore
  refine ⟨hrespects.cons (fun hfailed ↦ absurd hfailed hclean) (hallowed trace hbefore), ?_⟩
  exact ⟨(Interface.failed_cons _ _).2 (.inl hfailed), interface.errno_ne_zero _ _ hfailed⟩

theorem follows_ensuring (hscript : script.Follows interface discipline before after)
    (hharmless : ∀ call ∈ calls, interface.Harmless discipline call)
    (hlasting : ∀ value, Lasting (after value)) :
    (script.ensuring calls).Follows interface discipline before after := by
  intro oracle trace hclean hrespects hbefore
  have hfirst := hscript oracle trace hclean hrespects hbefore
  refine ⟨respects_dismiss oracle hharmless hfirst.1, ?_⟩
  unfold ensuring
  revert hfirst
  rcases script oracle trace with ⟨outcome, trace⟩
  simp only [failed_dismiss oracle hharmless]
  cases outcome with
  | error error => exact fun hfirst ↦ hfirst.2
  | ok value =>
    exact fun hfirst ↦ ⟨hfirst.2.1, lasting_dismiss (hlasting value) oracle calls hfirst.2.2⟩

theorem follows_onFailure (hscript : script.Follows interface discipline before after)
    (hharmless : ∀ call ∈ calls, interface.Harmless discipline call) :
    (script.onFailure calls).Follows interface discipline before after := by
  intro oracle trace hclean hrespects hbefore
  have hfirst := hscript oracle trace hclean hrespects hbefore
  unfold onFailure
  revert hfirst
  rcases script oracle trace with ⟨outcome, trace⟩
  cases outcome with
  | error error =>
    intro hfirst
    refine ⟨respects_dismiss oracle hharmless hfirst.1, ?_⟩
    exact ⟨(failed_dismiss oracle hharmless trace).2 hfirst.2.1, hfirst.2.2⟩
  | ok value => exact id

theorem keeps_step (hlasting : Lasting fact)
    (hallowed : ∀ trace, fact trace → discipline.allowed call trace) :
    (step interface call).Keeps interface discipline fact :=
  follows_step hallowed fun answer trace ↦ hlasting (call, answer) trace

theorem keeps_perform (hlasting : Lasting fact)
    (hallowed : ∀ trace, fact trace → discipline.allowed call trace) :
    (perform interface call).Keeps interface discipline fact :=
  follows_bind (keeps_step hlasting hallowed) fun _ ↦ follows_pure fun _ hfact ↦ hfact

theorem keeps_inOrder {scripts : List (Script Call Unit)}
    (hscripts : ∀ script ∈ scripts, script.Keeps interface discipline fact) :
    (inOrder scripts).Keeps interface discipline fact := by
  induction scripts with
  | nil => exact follows_pure fun _ hfact ↦ hfact
  | cons script scripts ih =>
    rw [List.forall_mem_cons] at hscripts
    exact follows_bind hscripts.1 fun _ ↦ ih hscripts.2

end Script

end TclB220G.Lib
