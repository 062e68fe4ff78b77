import TclB220G.Lib.Script

/-!
# Triples of scripts

A triple says what a script makes of a trace: from any trace with the fact `before`, whatever the answers
are, the trace has the fact `after` if the script succeeds and `failing` if it fails.  In contrast to a
discipline, a triple says nothing about failures before the script, so it serves for scripts that are run
one after another whatever became of them.
-/

namespace TclB220G.Lib

variable {Call State α β : Type}

namespace Script

def Triple (before : List (Call × ℤ) → Prop) (script : Script Call α)
    (after : α → List (Call × ℤ) → Prop) (failing : List (Call × ℤ) → Prop) : Prop :=
  ∀ oracle trace, before trace →
    match (script oracle trace).1 with
    | .ok value => after value (script oracle trace).2
    | .error _ => failing (script oracle trace).2

variable {interface : Interface Call State} {call : Call} {before failing : List (Call × ℤ) → Prop}
  {after : α → List (Call × ℤ) → Prop}

variable {script : Script Call α}

/-- A fact that holds whether the script succeeds or fails. -/
theorem Triple.at_end {fact : List (Call × ℤ) → Prop}
    (hscript : script.Triple before (fun _ ↦ fact) fact) (oracle : ℕ → Call → ℤ)
    {trace : List (Call × ℤ)} (hbefore : before trace) : fact (script oracle trace).2 := by
  have hend := hscript oracle trace hbefore
  revert hend
  cases (script oracle trace).1 with
  | error error => exact id
  | ok value => exact id

theorem triple_pure {value : α} (hafter : ∀ trace, before trace → after value trace) :
    (pure value : Script Call α).Triple before after failing :=
  fun _ trace hbefore ↦ hafter trace hbefore

theorem triple_consequence {stronger worse : List (Call × ℤ) → Prop}
    {weaker : α → List (Call × ℤ) → Prop} (hscript : script.Triple before after failing)
    (hbefore : ∀ trace, stronger trace → before trace)
    (hafter : ∀ value trace, after value trace → weaker value trace)
    (hfailing : ∀ trace, failing trace → worse trace) : script.Triple stronger weaker worse := by
  intro oracle trace hstronger
  have hfirst := hscript oracle trace (hbefore trace hstronger)
  revert hfirst
  rcases script oracle trace with ⟨outcome, final⟩
  cases outcome with
  | error error => exact hfailing final
  | ok value => exact hafter value final

/-- A fact that does not depend on the trace. -/
theorem triple_given {fact : Prop} (hscript : fact → script.Triple before after failing) :
    script.Triple (fun trace ↦ fact ∧ before trace) after failing :=
  fun oracle trace hbefore ↦ hscript hbefore.1 oracle trace hbefore.2

theorem triple_exists {ι : Type} {before : ι → List (Call × ℤ) → Prop}
    (hscript : ∀ index, script.Triple (before index) after failing) :
    script.Triple (fun trace ↦ ∃ index, before index trace) after failing := by
  rintro oracle trace ⟨index, hbefore⟩
  exact hscript index oracle trace hbefore

theorem triple_or {other : List (Call × ℤ) → Prop} (hscript : script.Triple before after failing)
    (hother : script.Triple other after failing) :
    script.Triple (fun trace ↦ before trace ∨ other trace) after failing :=
  fun oracle trace hbefore ↦ hbefore.elim (hscript oracle trace) (hother oracle trace)

variable {later : β → List (Call × ℤ) → Prop}

theorem triple_bind {next : α → Script Call β} (hscript : script.Triple before after failing)
    (hnext : ∀ value, (next value).Triple (after value) later failing) :
    (script >>= next).Triple before later failing := by
  intro oracle trace hbefore
  have hfirst := hscript oracle trace hbefore
  rw [bind_apply]
  revert hfirst
  rcases script oracle trace with ⟨outcome, final⟩
  cases outcome with
  | error error => exact id
  | ok value => exact hnext value oracle final

/-- A script that goes by the state as it is. -/
theorem triple_state {next : State → Script Call β}
    (hnext : ∀ current, (next current).Triple
      (fun trace ↦ before trace ∧ interface.replay trace = current) later failing) :
    (state interface >>= next).Triple before later failing :=
  fun oracle trace hbefore ↦ hnext _ oracle trace ⟨hbefore, rfl⟩

/-- A script that takes one of two ways by the state, either of which will do. -/
theorem triple_state_ite {condition : State → Bool} {yes no : Script Call β}
    (hyes : yes.Triple before later failing) (hno : no.Triple before later failing) :
    (state interface >>= fun current ↦ if condition current then yes else no).Triple before later failing := by
  refine triple_state fun current oracle trace hbefore ↦ ?_
  cases condition current with
  | true => exact hyes oracle trace hbefore.1
  | false => exact hno oracle trace hbefore.1

theorem triple_invoke {after : ℤ → List (Call × ℤ) → Prop}
    (hafter : ∀ answer trace, before trace → after answer ((call, answer) :: trace)) :
    (invoke call).Triple before after failing :=
  fun _ trace hbefore ↦ hafter _ trace hbefore

theorem triple_step {after : ℤ → List (Call × ℤ) → Prop}
    (hafter : ∀ answer trace, before trace → interface.failed call answer = false →
      after answer ((call, answer) :: trace))
    (hfailing : ∀ answer trace, before trace → interface.failed call answer = true →
      failing ((call, answer) :: trace)) :
    (step interface call).Triple before after failing := by
  intro oracle trace hbefore
  simp only [step]
  cases hfailed : interface.failed call (oracle trace.length call) with
  | false => exact hafter _ trace hbefore hfailed
  | true => exact hfailing _ trace hbefore hfailed

theorem triple_perform {later : List (Call × ℤ) → Prop}
    (hafter : ∀ answer trace, before trace → interface.failed call answer = false →
      later ((call, answer) :: trace))
    (hfailing : ∀ answer trace, before trace → interface.failed call answer = true →
      failing ((call, answer) :: trace)) :
    (perform interface call).Triple before (fun _ ↦ later) failing :=
  triple_bind (triple_step hafter hfailing) fun _ ↦ triple_pure fun _ hlater ↦ hlater

theorem triple_refuse {answer : ℤ} (hfailing : ∀ trace, before trace → failing ((call, answer) :: trace)) :
    (refuse interface call answer : Script Call α).Triple before after failing :=
  fun _ trace hbefore ↦ hfailing trace hbefore

theorem triple_abort {error : ℤ} (hfailing : ∀ trace, before trace → failing trace) :
    (abort error : Script Call α).Triple before after failing :=
  fun _ trace hbefore ↦ hfailing trace hbefore

theorem triple_succeeds {after : Bool → List (Call × ℤ) → Prop}
    (hafter : ∀ answer trace, before trace → after (!interface.failed call answer) ((call, answer) :: trace)) :
    (succeeds interface call).Triple before after failing :=
  fun _ trace hbefore ↦ hafter _ trace hbefore

/-- A script that makes one more call when it fails. -/
theorem triple_onFailure {between : List (Call × ℤ) → Prop}
    (hscript : script.Triple before after between)
    (hfailing : ∀ answer trace, between trace → failing ((call, answer) :: trace)) :
    (script.onFailure [call]).Triple before after failing := by
  intro oracle trace hbefore
  have hfirst := hscript oracle trace hbefore
  unfold onFailure
  revert hfirst
  rcases script oracle trace with ⟨outcome, final⟩
  cases outcome with
  | error error => exact hfailing _ final
  | ok value => exact id

/-- A script that goes on by the outcome of another one. -/
theorem triple_attempt {next : Except ℤ α → Script Call β} {between : List (Call × ℤ) → Prop}
    (hscript : script.Triple before after between)
    (hok : ∀ value, (next (.ok value)).Triple (after value) later failing)
    (herror : ∀ error, (next (.error error)).Triple between later failing) :
    (script.attempt >>= next).Triple before later failing := by
  intro oracle trace hbefore
  have hfirst := hscript oracle trace hbefore
  rw [bind_apply]
  simp only [attempt]
  revert hfirst
  rcases script oracle trace with ⟨outcome, final⟩
  cases outcome with
  | error error => exact herror error oracle final
  | ok value => exact hok value oracle final

theorem triple_inOrder_nil {later : List (Call × ℤ) → Prop}
    (hlater : ∀ trace, before trace → later trace) :
    (inOrder [] : Script Call Unit).Triple before (fun _ ↦ later) failing :=
  triple_pure hlater

theorem triple_inOrder_cons {script : Script Call Unit} {scripts : List (Script Call Unit)}
    {between later : List (Call × ℤ) → Prop} (hscript : script.Triple before (fun _ ↦ between) failing)
    (hscripts : (inOrder scripts).Triple between (fun _ ↦ later) failing) :
    (inOrder (script :: scripts)).Triple before (fun _ ↦ later) failing :=
  triple_bind hscript fun _ ↦ hscripts

/-- A fact that every script of a list keeps. -/
theorem triple_inOrder {scripts : List (Script Call Unit)}
    (hscripts : ∀ script ∈ scripts, script.Triple before (fun _ ↦ before) failing) :
    (inOrder scripts).Triple before (fun _ ↦ before) failing := by
  induction scripts with
  | nil => exact triple_inOrder_nil fun _ hbefore ↦ hbefore
  | cons script scripts ih =>
    rw [List.forall_mem_cons] at hscripts
    exact triple_inOrder_cons hscripts.1 (ih hscripts.2)

end Script

end TclB220G.Lib
