import TclB220G.Lib.Triple

/-!
# Triples about the state

What a script does to the state is often all that matters, together with a condition that may not fail at
any moment on the way.  `Takes` is the triple for such facts.
-/

namespace TclB220G.Lib

variable {Call State α β : Type}

/-- A condition held at every moment of a trace, and the state after it has a property. -/
structure Interface.Meets (interface : Interface Call State) (always fact : State → Prop)
    (trace : List (Call × ℤ)) : Prop where
  throughout : ∀ earlier, earlier <:+ trace → always (interface.replay earlier)
  fact : fact (interface.replay trace)

namespace Interface.Meets

variable {interface : Interface Call State} {always fact next : State → Prop} {trace : List (Call × ℤ)}

theorem imp (h : interface.Meets always fact trace) (himp : ∀ state, fact state → next state) :
    interface.Meets always next trace :=
  ⟨h.throughout, himp _ h.fact⟩

theorem cons (h : interface.Meets always fact trace) {call : Call} {answer : ℤ}
    (halways : always (interface.effect call answer (interface.replay trace)))
    (hnext : next (interface.effect call answer (interface.replay trace))) :
    interface.Meets always next ((call, answer) :: trace) := by
  refine ⟨fun earlier hearlier ↦ ?_, hnext⟩
  obtain rfl | hearlier := List.suffix_cons_iff.1 hearlier
  · exact halways
  · exact h.throughout earlier hearlier

end Interface.Meets

namespace Script

/-- Runs a script that cleans up if another one fails. -/
def guarding (cleanup : Script Call Unit) (script : Script Call α) : Script Call α := do
  match ← attempt script with
  | .ok value => pure value
  | .error error =>
    cleanup
    abort error

/-- The script takes states with one property to states with another, or to states with a third if it
fails, and the condition holds all the way. -/
def Takes (interface : Interface Call State) (always before : State → Prop) (script : Script Call α)
    (after : α → State → Prop) (failing : State → Prop) : Prop :=
  script.Triple (interface.Meets always before) (fun value ↦ interface.Meets always (after value))
    (interface.Meets always failing)

variable {interface : Interface Call State} {always before failing : State → Prop}
  {after : α → State → Prop} {call : Call}

variable {script : Script Call α}

theorem takes_consequence {stronger worse : State → Prop} {weaker : α → State → Prop}
    (hscript : script.Takes interface always before after failing)
    (hbefore : ∀ state, stronger state → before state)
    (hafter : ∀ value state, after value state → weaker value state)
    (hfailing : ∀ state, failing state → worse state) :
    script.Takes interface always stronger weaker worse :=
  triple_consequence hscript (fun _ h ↦ h.imp hbefore) (fun value _ h ↦ h.imp (hafter value))
    fun _ h ↦ h.imp hfailing

theorem takes_before {stronger : State → Prop}
    (hscript : script.Takes interface always before after failing)
    (hbefore : ∀ state, stronger state → before state) :
    script.Takes interface always stronger after failing :=
  takes_consequence hscript hbefore (fun _ _ h ↦ h) fun _ h ↦ h

theorem takes_after {weaker : α → State → Prop}
    (hscript : script.Takes interface always before after failing)
    (hafter : ∀ value state, after value state → weaker value state) :
    script.Takes interface always before weaker failing :=
  takes_consequence hscript (fun _ h ↦ h) hafter fun _ h ↦ h

theorem takes_pure {value : α} (hafter : ∀ state, before state → after value state) :
    (pure value : Script Call α).Takes interface always before after failing :=
  triple_pure fun _ h ↦ h.imp hafter

variable {later : β → State → Prop}

theorem takes_bind {next : α → Script Call β}
    (hscript : script.Takes interface always before after failing)
    (hnext : ∀ value, (next value).Takes interface always (after value) later failing) :
    (script >>= next).Takes interface always before later failing :=
  triple_bind hscript hnext

theorem takes_abort {error : ℤ} (hfailing : ∀ state, before state → failing state) :
    (abort error : Script Call α).Takes interface always before after failing :=
  triple_abort fun _ h ↦ h.imp hfailing

theorem takes_state {next : State → Script Call β}
    (hnext : ∀ current, (next current).Takes interface always
      (fun state ↦ before state ∧ state = current) later failing) :
    (state interface >>= next).Takes interface always before later failing :=
  triple_state fun current ↦
    triple_consequence (hnext current) (fun _ h ↦ ⟨h.1.throughout, h.1.fact, h.2⟩) (fun _ _ h ↦ h) fun _ h ↦ h

theorem takes_given {fact : Prop}
    (hscript : fact → script.Takes interface always before after failing) :
    script.Takes interface always (fun state ↦ fact ∧ before state) after failing := by
  intro oracle trace hbefore
  exact hscript hbefore.fact.1 oracle trace (hbefore.imp fun _ h ↦ h.2)

theorem takes_perform {later : State → Prop}
    (halways : ∀ answer state, before state → always (interface.effect call answer state))
    (hafter : ∀ answer state, before state → interface.failed call answer = false →
      later (interface.effect call answer state))
    (hfailing : ∀ answer state, before state → interface.failed call answer = true →
      failing (interface.effect call answer state)) :
    (perform interface call).Takes interface always before (fun _ ↦ later) failing :=
  triple_perform (fun answer _ h hfailed ↦ h.cons (halways answer _ h.fact) (hafter answer _ h.fact hfailed))
    fun answer _ h hfailed ↦ h.cons (halways answer _ h.fact) (hfailing answer _ h.fact hfailed)

theorem takes_invoke {after : ℤ → State → Prop}
    (halways : ∀ answer state, before state → always (interface.effect call answer state))
    (hafter : ∀ answer state, before state → after answer (interface.effect call answer state)) :
    (invoke call).Takes interface always before after failing :=
  triple_invoke fun answer _ h ↦ h.cons (halways answer _ h.fact) (hafter answer _ h.fact)

theorem takes_succeeds {after : Bool → State → Prop}
    (halways : ∀ answer state, before state → always (interface.effect call answer state))
    (hafter : ∀ answer state, before state →
      after (!interface.failed call answer) (interface.effect call answer state)) :
    (succeeds interface call).Takes interface always before after failing :=
  triple_succeeds fun answer _ h ↦ h.cons (halways answer _ h.fact) (hafter answer _ h.fact)

theorem takes_attempt {next : Except ℤ α → Script Call β} {between : State → Prop}
    (hscript : script.Takes interface always before after between)
    (hok : ∀ value, (next (.ok value)).Takes interface always (after value) later failing)
    (herror : ∀ error, (next (.error error)).Takes interface always between later failing) :
    (script.attempt >>= next).Takes interface always before later failing :=
  triple_attempt hscript hok herror

theorem takes_guarding {cleanup : Script Call Unit} {between : State → Prop}
    (hscript : script.Takes interface always before after between)
    (hcleanup : cleanup.Takes interface always between (fun _ ↦ failing) failing) :
    (guarding cleanup script).Takes interface always before after failing :=
  takes_attempt hscript (fun _ ↦ takes_pure fun _ h ↦ h) fun _ ↦
    takes_bind hcleanup fun _ ↦ takes_abort fun _ h ↦ h

/-- A property that every script of a list keeps. -/
theorem takes_inOrder {scripts : List (Script Call Unit)}
    (hscripts : ∀ script ∈ scripts, script.Takes interface always before (fun _ ↦ before) failing) :
    (inOrder scripts).Takes interface always before (fun _ ↦ before) failing :=
  triple_inOrder hscripts

end Script

end TclB220G.Lib
