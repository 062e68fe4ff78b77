import Mathlib.Data.List.Count
import Mathlib.Logic.Function.Basic
import TclB220G.Lib.Lifetime
import TclB220G.Lib.Triple

/-!
# Custody of resources

A slot is a place for one resource, which may be acquired and released many times.  A log records, the
latest event first, when this happens.  It is orderly if a slot is acquired only while it is not held and
while everything it rests on is held, and released only while it is held and nothing that rests on it is
held.

The answered calls of a script have such a log.  The rules below show that it is orderly along the
structure of the script, with facts about the state and about what is held.
-/

namespace TclB220G.Lib

variable {Call State Slot α : Type}

inductive CustodyEvent (Slot : Type) where
  | acquired (slot : Slot)
  | released (slot : Slot)
  deriving DecidableEq, Repr

/-- What an event asks of what is held. -/
def CustodyEvent.Orderly (restsOn : Slot → Slot → Prop) (held : Slot → Bool) : CustodyEvent Slot → Prop
  | .acquired slot => held slot = false ∧ ∀ base, restsOn slot base → held base = true
  | .released slot => held slot = true ∧ ∀ user, restsOn user slot → held user = false

variable [DecidableEq Slot]

/-- What is held after an event. -/
def CustodyEvent.apply : CustodyEvent Slot → (Slot → Bool) → Slot → Bool
  | .acquired slot, held => Function.update held slot true
  | .released slot, held => Function.update held slot false

def held : List (CustodyEvent Slot) → Slot → Bool
  | [] => fun _ ↦ false
  | event :: log => event.apply (held log)

def Orderly (restsOn : Slot → Slot → Prop) (log : List (CustodyEvent Slot)) : Prop :=
  Along (fun event earlier ↦ event.Orderly restsOn (held earlier)) log

section

variable {restsOn : Slot → Slot → Prop} {log : List (CustodyEvent Slot)} {slot other : Slot}

theorem held_acquired : held (.acquired slot :: log) other =
    if other = slot then true else held log other := by
  rw [held, CustodyEvent.apply, Function.update_apply]

theorem held_released : held (.released slot :: log) other =
    if other = slot then false else held log other := by
  rw [held, CustodyEvent.apply, Function.update_apply]

/-- A slot is released as often as it is acquired, and once less while it is held. -/
theorem Orderly.count (h : Orderly restsOn log) (slot : Slot) :
    log.count (.acquired slot) = log.count (.released slot) + if held log slot then 1 else 0 := by
  induction log with
  | nil => rfl
  | cons event log ih =>
    have ih := ih h.2
    have hevent := h.1
    cases event with
    | acquired other =>
      by_cases heq : slot = other
      · subst heq
        rw [hevent.1] at ih
        simp_all [held_acquired]
      · simpa [held_acquired, List.count_cons, heq, Ne.symm heq] using ih
    | released other =>
      by_cases heq : slot = other
      · subst heq
        rw [hevent.1] at ih
        simp_all [held_released]
      · simpa [held_released, List.count_cons, heq, Ne.symm heq] using ih

/-- Every slot is released exactly as often as it is acquired if nothing is held. -/
theorem Orderly.balanced_iff (h : Orderly restsOn log) :
    (∀ slot, log.count (.acquired slot) = log.count (.released slot)) ↔ ∀ slot, held log slot = false := by
  refine forall_congr' fun slot ↦ ?_
  rw [h.count slot]
  cases held log slot <;> simp

/-- A slot that is never released is held from its first acquisition on. -/
theorem held_iff_of_kept (hkept : .released slot ∉ log) : held log slot = true ↔ .acquired slot ∈ log := by
  induction log with
  | nil => simp [held]
  | cons event log ih =>
    rw [List.mem_cons, not_or] at hkept
    obtain ⟨hevent, hlog⟩ := hkept
    cases event with
    | acquired other => by_cases heq : slot = other <;> simp [held_acquired, heq, ih hlog]
    | released other =>
      have hne : slot ≠ other := fun heq ↦ hevent (heq ▸ rfl)
      simp [held_released, hne, ih hlog]

end

/-- What the answers of calls do to slots, which slots rest on others, and which calls may be made after
given calls. -/
structure Custody (Call State Slot : Type) extends Interface Call State where
  event : Call → ℤ → Option (CustodyEvent Slot)
  restsOn : Slot → Slot → Prop
  permits : Call → List (Call × ℤ) → Prop

namespace Custody

variable (custody : Custody Call State Slot)

def log (trace : List (Call × ℤ)) : List (CustodyEvent Slot) :=
  trace.filterMap fun answered ↦ custody.event answered.1 answered.2

/-- The log of a trace is orderly, every call of it was permitted, and a fact holds of the state and of
what is held. -/
structure Accounts (fact : State → (Slot → Bool) → Prop) (trace : List (Call × ℤ)) : Prop where
  orderly : Orderly custody.restsOn (custody.log trace)
  permitted : Along (fun answered earlier ↦ custody.permits answered.1 earlier) trace
  fact : fact (custody.replay trace) (held (custody.log trace))

/-- An answered call is orderly where a fact holds, and establishes another one. -/
def Turns (call : Call) (answer : ℤ) (fact next : State → (Slot → Bool) → Prop) : Prop :=
  ∀ state held, fact state held →
    match custody.event call answer with
    | none => next (custody.effect call answer state) held
    | some event =>
      event.Orderly custody.restsOn held ∧ next (custody.effect call answer state) (event.apply held)

variable {custody} {call : Call} {answer : ℤ} {fact next failing : State → (Slot → Bool) → Prop}
  {slot : Slot} {trace : List (Call × ℤ)}

theorem Accounts.imp (h : custody.Accounts fact trace) (himp : ∀ state held, fact state held → next state held) :
    custody.Accounts next trace :=
  ⟨h.orderly, h.permitted, himp _ _ h.fact⟩

theorem Accounts.turn (h : custody.Accounts fact trace) (hpermits : custody.permits call trace)
    (hcall : custody.Turns call answer fact next) : custody.Accounts next ((call, answer) :: trace) := by
  have hturn := hcall _ _ h.fact
  cases hevent : custody.event call answer with
  | none =>
    have hlog : custody.log ((call, answer) :: trace) = custody.log trace := List.filterMap_cons_none hevent
    rw [hevent] at hturn
    exact ⟨hlog ▸ h.orderly, ⟨hpermits, h.permitted⟩, hlog ▸ hturn⟩
  | some event =>
    have hlog : custody.log ((call, answer) :: trace) = event :: custody.log trace :=
      List.filterMap_cons_some hevent
    rw [hevent] at hturn
    exact ⟨hlog ▸ ⟨hturn.1, h.orderly⟩, ⟨hpermits, h.permitted⟩, hlog ▸ hturn.2⟩

theorem Turns.of_imp {stronger : State → (Slot → Bool) → Prop} (h : custody.Turns call answer fact next)
    (himp : ∀ state held, stronger state held → fact state held) : custody.Turns call answer stronger next :=
  fun state held hstronger ↦ h state held (himp state held hstronger)

theorem Turns.imp {weaker : State → (Slot → Bool) → Prop} (h : custody.Turns call answer fact next)
    (himp : ∀ state held, next state held → weaker state held) : custody.Turns call answer fact weaker := by
  intro state held hfact
  have hturn := h state held hfact
  revert hturn
  cases custody.event call answer with
  | none => exact himp _ _
  | some event => exact fun hturn ↦ ⟨hturn.1, himp _ _ hturn.2⟩

theorem turns_of_none (hevent : custody.event call answer = none)
    (hnext : ∀ state held, fact state held → next (custody.effect call answer state) held) :
    custody.Turns call answer fact next := by
  intro state held hfact
  rw [hevent]
  exact hnext state held hfact

theorem turns_of_acquired (hevent : custody.event call answer = some (.acquired slot))
    (hfree : ∀ state held, fact state held → held slot = false)
    (hbase : ∀ state held, fact state held → ∀ base, custody.restsOn slot base → held base = true)
    (hnext : ∀ state held, fact state held →
      next (custody.effect call answer state) (Function.update held slot true)) :
    custody.Turns call answer fact next := by
  intro state held hfact
  rw [hevent]
  exact ⟨⟨hfree state held hfact, hbase state held hfact⟩, hnext state held hfact⟩

theorem turns_of_released (hevent : custody.event call answer = some (.released slot))
    (hheld : ∀ state held, fact state held → held slot = true)
    (huser : ∀ state held, fact state held → ∀ user, custody.restsOn user slot → held user = false)
    (hnext : ∀ state held, fact state held →
      next (custody.effect call answer state) (Function.update held slot false)) :
    custody.Turns call answer fact next := by
  intro state held hfact
  rw [hevent]
  exact ⟨⟨hheld state held hfact, huser state held hfact⟩, hnext state held hfact⟩

/-! ## Rules -/

open Script

section

variable (hpermits : ∀ trace, custody.permits call trace)
include hpermits

theorem accounts_step {after : ℤ → State → (Slot → Bool) → Prop}
    (hafter : ∀ answer, custody.failed call answer = false → custody.Turns call answer fact (after answer))
    (hfailing : ∀ answer, custody.failed call answer = true → custody.Turns call answer fact failing) :
    (step custody.toInterface call).Triple (custody.Accounts fact)
      (fun answer ↦ custody.Accounts (after answer)) (custody.Accounts failing) :=
  triple_step (fun answer trace h hfailed ↦ h.turn (hpermits trace) (hafter answer hfailed))
    fun answer trace h hfailed ↦ h.turn (hpermits trace) (hfailing answer hfailed)

theorem accounts_perform
    (hafter : ∀ answer, custody.failed call answer = false → custody.Turns call answer fact next)
    (hfailing : ∀ answer, custody.failed call answer = true → custody.Turns call answer fact failing) :
    (perform custody.toInterface call).Triple (custody.Accounts fact) (fun _ ↦ custody.Accounts next)
      (custody.Accounts failing) :=
  triple_bind (accounts_step hpermits hafter hfailing) fun _ ↦ triple_pure fun _ h ↦ h

/-- A call that keeps a fact, whether it fails or not. -/
theorem accounts_look (hturns : ∀ answer, custody.Turns call answer fact fact)
    (hfailing : ∀ state held, fact state held → failing state held) :
    (step custody.toInterface call).Triple (custody.Accounts fact) (fun _ ↦ custody.Accounts fact)
      (custody.Accounts failing) :=
  accounts_step hpermits (fun answer _ ↦ hturns answer) fun answer _ ↦ (hturns answer).imp hfailing

theorem accounts_check (hturns : ∀ answer, custody.Turns call answer fact fact)
    (hfailing : ∀ state held, fact state held → failing state held) :
    (perform custody.toInterface call).Triple (custody.Accounts fact) (fun _ ↦ custody.Accounts fact)
      (custody.Accounts failing) :=
  triple_bind (accounts_look hpermits hturns hfailing) fun _ ↦ triple_pure fun _ h ↦ h

/-- A call that cannot fail. -/
theorem accounts_perform_sure {failing : List (Call × ℤ) → Prop}
    (hsucceeds : ∀ answer, custody.failed call answer = false)
    (hafter : ∀ answer, custody.Turns call answer fact next) :
    (perform custody.toInterface call).Triple (custody.Accounts fact) (fun _ ↦ custody.Accounts next)
      failing :=
  triple_perform (fun answer trace h _ ↦ h.turn (hpermits trace) (hafter answer)) fun answer _ _ hfailed ↦
    absurd ((hsucceeds answer).symm.trans hfailed) Bool.false_ne_true

theorem accounts_invoke {failing : List (Call × ℤ) → Prop} {after : ℤ → State → (Slot → Bool) → Prop}
    (hafter : ∀ answer, custody.Turns call answer fact (after answer)) :
    (invoke call).Triple (custody.Accounts fact) (fun answer ↦ custody.Accounts (after answer)) failing :=
  triple_invoke fun answer trace h ↦ h.turn (hpermits trace) (hafter answer)

theorem accounts_succeeds {failing : List (Call × ℤ) → Prop} {after : Bool → State → (Slot → Bool) → Prop}
    (hyes : ∀ answer, custody.failed call answer = false → custody.Turns call answer fact (after true))
    (hno : ∀ answer, custody.failed call answer = true → custody.Turns call answer fact (after false)) :
    (succeeds custody.toInterface call).Triple (custody.Accounts fact)
      (fun succeeded ↦ custody.Accounts (after succeeded)) failing := by
  refine triple_succeeds fun answer trace h ↦ ?_
  cases hfailed : custody.failed call answer with
  | false => exact h.turn (hpermits trace) (hyes answer hfailed)
  | true => exact h.turn (hpermits trace) (hno answer hfailed)

end

theorem accounts_consequence {script : Script Call α} {stronger worse : State → (Slot → Bool) → Prop}
    {after weaker : α → State → (Slot → Bool) → Prop}
    (hscript : script.Triple (custody.Accounts fact) (fun value ↦ custody.Accounts (after value))
      (custody.Accounts failing))
    (hbefore : ∀ state held, stronger state held → fact state held)
    (hafter : ∀ value state held, after value state held → weaker value state held)
    (hfailing : ∀ state held, failing state held → worse state held) :
    script.Triple (custody.Accounts stronger) (fun value ↦ custody.Accounts (weaker value))
      (custody.Accounts worse) :=
  triple_consequence hscript (fun _ h ↦ h.imp hbefore) (fun value _ h ↦ h.imp (hafter value))
    fun _ h ↦ h.imp hfailing

/-! ## Releases that go by variables

A script that cleans up looks at its variables one after another, and releases what they stand for. -/

section

variable (custody) (tracked : Slot → Bool) (stands : State → Slot → Bool)
  (extra : State → (Slot → Bool) → Prop)

/-- Of the tracked slots those are held that are certain to be, and those still to be looked at whose
variable is set. -/
def Owed (certain rest : List Slot) (state : State) (held : Slot → Bool) : Prop :=
  (∀ slot, tracked slot = true →
    held slot = (decide (slot ∈ certain) || stands state slot && decide (slot ∈ rest))) ∧ extra state held

/-- A call releases a tracked slot, and leaves the variables of other slots as they are. -/
structure Releases (call : Call) (slot : Slot) : Prop where
  permits : ∀ trace, custody.permits call trace
  tracked : tracked slot = true
  event : ∀ answer, custody.event call answer = some (.released slot)
  succeeds : ∀ answer, custody.failed call answer = false
  stands : ∀ answer state other, other ≠ slot →
    stands (custody.effect call answer state) other = stands state other
  extra : ∀ answer state held, extra state held →
    extra (custody.effect call answer state) (Function.update held slot false)

/-- No slot of a list rests on a later one, and everything that rests on a slot of the list is tracked. -/
def Downward (restsOn : Slot → Slot → Prop) (tracked : Slot → Bool) : List Slot → Prop
  | [] => True
  | slot :: rest =>
    (∀ user, restsOn user slot → tracked user = true ∧ user ∉ slot :: rest) ∧ Downward restsOn tracked rest

variable {custody tracked stands extra} {certain rest : List Slot}

variable {restsOn : Slot → Slot → Prop}

omit [DecidableEq Slot] in
theorem Downward.of_append {group : List Slot} (h : Downward restsOn tracked (group ++ rest)) :
    Downward restsOn tracked rest := by
  induction group with
  | nil => exact h
  | cons slot group ih => exact ih h.2

omit [DecidableEq Slot] in
theorem downward_of_none (hnone : ∀ user slot, ¬ restsOn user slot) (slots : List Slot) :
    Downward restsOn tracked slots := by
  induction slots with
  | nil => trivial
  | cons slot slots ih => exact ⟨fun user huser ↦ absurd huser (hnone user slot), ih⟩

omit [DecidableEq Slot] in
/-- Slots in the order of falling ranks, if whatever rests on a slot is of a higher rank. -/
theorem downward_of_rank (rank : Slot → ℕ)
    (hrests : ∀ user slot, restsOn user slot → tracked user = true ∧ rank slot < rank user)
    {slots : List Slot} (hsorted : slots.Pairwise fun slot later ↦ rank later < rank slot) :
    Downward restsOn tracked slots := by
  induction slots with
  | nil => trivial
  | cons slot slots ih =>
    rw [List.pairwise_cons] at hsorted
    refine ⟨fun user huser ↦ ⟨(hrests user slot huser).1, fun hmem ↦ ?_⟩, ih hsorted.2⟩
    have hlt := (hrests user slot huser).2
    rcases List.mem_cons.1 hmem with rfl | hmem
    · exact Nat.lt_irrefl _ hlt
    · exact Nat.lt_asymm hlt (hsorted.1 user hmem)

theorem accounts_release {slot : Slot} (hreleases : custody.Releases tracked stands extra call slot)
    (hnodup : (slot :: (certain ++ rest)).Nodup)
    (husers : ∀ user, custody.restsOn user slot → tracked user = true ∧ user ∉ slot :: (certain ++ rest)) :
    (perform custody.toInterface call).Triple
      (custody.Accounts (Owed tracked stands extra (slot :: certain) rest))
      (fun _ ↦ custody.Accounts (Owed tracked stands extra certain rest)) (custody.Accounts failing) := by
  refine accounts_perform_sure hreleases.permits hreleases.succeeds fun answer ↦
    turns_of_released (hreleases.event answer) ?_ ?_ ?_
  · rintro state held ⟨howed, -⟩
    rw [howed slot hreleases.tracked]
    simp
  · rintro state held ⟨howed, -⟩ user huser
    obtain ⟨htracked, hnot⟩ := husers user huser
    rw [howed user htracked]
    simp_all
  · rintro state held ⟨howed, hextra⟩
    refine ⟨fun other htracked ↦ ?_, hreleases.extra answer state held hextra⟩
    rw [Function.update_apply]
    split_ifs with heq
    · subst heq
      simp_all
    · rw [howed other htracked, hreleases.stands answer state other heq]
      simp [heq]

/-- The slots of a list are released one after another. -/
theorem accounts_releases {group : List (Slot × Call)}
    (hreleases : ∀ part ∈ group, custody.Releases tracked stands extra part.2 part.1)
    (hnodup : (group.map Prod.fst ++ rest).Nodup)
    (hdownward : Downward custody.restsOn tracked (group.map Prod.fst ++ rest)) :
    (inOrder (group.map fun part ↦ perform custody.toInterface part.2)).Triple
      (custody.Accounts (Owed tracked stands extra (group.map Prod.fst) rest))
      (fun _ ↦ custody.Accounts (Owed tracked stands extra [] rest)) (custody.Accounts failing) := by
  induction group with
  | nil => exact triple_inOrder_nil fun _ h ↦ h
  | cons part group ih =>
    rw [List.forall_mem_cons] at hreleases
    refine triple_inOrder_cons (accounts_release hreleases.1 hnodup hdownward.1) ?_
    exact ih hreleases.2 (List.nodup_cons.1 hnodup).2 hdownward.2

/-- If a variable is set, the slots that it stands for are released by the calls given with them. -/
def releaseGroup (custody : Custody Call State Slot) (stands : State → Slot → Bool) (name : Slot)
    (group : List (Slot × Call)) : Script Call Unit := do
  let current ← state custody.toInterface
  if stands current name then inOrder (group.map fun part ↦ perform custody.toInterface part.2)
  else pure ()

theorem accounts_releaseGroup {name : Slot} {group : List (Slot × Call)}
    (hreleases : ∀ part ∈ group, custody.Releases tracked stands extra part.2 part.1)
    (hname : ∀ part ∈ group, ∀ state, stands state part.1 = stands state name)
    (hnodup : (group.map Prod.fst ++ rest).Nodup)
    (hdownward : Downward custody.restsOn tracked (group.map Prod.fst ++ rest)) :
    (custody.releaseGroup stands name group).Triple
      (custody.Accounts (Owed tracked stands extra [] (group.map Prod.fst ++ rest)))
      (fun _ ↦ custody.Accounts (Owed tracked stands extra [] rest)) (custody.Accounts failing) := by
  have hsame : ∀ slot ∈ group.map Prod.fst, ∀ state, stands state slot = stands state name := by
    rw [List.forall_mem_map]
    exact hname
  unfold releaseGroup
  refine triple_state fun current ↦ ?_
  split_ifs with hset
  · refine triple_consequence (accounts_releases hreleases hnodup hdownward) ?_ (fun _ _ h ↦ h) fun _ h ↦ h
    rintro trace ⟨⟨horderly, hpermitted, howed, hextra⟩, hcurrent⟩
    refine ⟨horderly, hpermitted, fun slot htracked ↦ ?_, hextra⟩
    rw [howed slot htracked]
    by_cases hgroup : slot ∈ group.map Prod.fst
    · simp [-List.mem_map, hgroup, hcurrent, hsame slot hgroup, hset]
    · simp [-List.mem_map, hgroup]
  · refine triple_pure ?_
    rintro trace ⟨⟨horderly, hpermitted, howed, hextra⟩, hcurrent⟩
    refine ⟨horderly, hpermitted, fun slot htracked ↦ ?_, hextra⟩
    rw [howed slot htracked]
    by_cases hgroup : slot ∈ group.map Prod.fst
    · simp [hcurrent, hsame slot hgroup, hset]
    · simp [-List.mem_map, hgroup]

/-- The slots that a list of groups releases. -/
def slotsOf (groups : List (Slot × List (Slot × Call))) : List Slot :=
  groups.flatMap fun group ↦ group.2.map Prod.fst

/-- A script that looks at one variable after another. -/
theorem accounts_releaseGroups {groups : List (Slot × List (Slot × Call))}
    (hreleases : ∀ group ∈ groups, ∀ part ∈ group.2, custody.Releases tracked stands extra part.2 part.1)
    (hname : ∀ group ∈ groups, ∀ part ∈ group.2, ∀ state, stands state part.1 = stands state group.1)
    (hnodup : (slotsOf groups ++ rest).Nodup)
    (hdownward : Downward custody.restsOn tracked (slotsOf groups ++ rest)) :
    (inOrder (groups.map fun group ↦ custody.releaseGroup stands group.1 group.2)).Triple
      (custody.Accounts (Owed tracked stands extra [] (slotsOf groups ++ rest)))
      (fun _ ↦ custody.Accounts (Owed tracked stands extra [] rest)) (custody.Accounts failing) := by
  induction groups with
  | nil => exact triple_inOrder_nil fun _ h ↦ h
  | cons group groups ih =>
    rw [List.forall_mem_cons] at hreleases hname
    have hslots : slotsOf (group :: groups) ++ rest = group.2.map Prod.fst ++ (slotsOf groups ++ rest) :=
      List.append_assoc ..
    rw [hslots] at hnodup hdownward ⊢
    refine triple_inOrder_cons (accounts_releaseGroup hreleases.1 hname.1 hnodup hdownward) ?_
    exact ih hreleases.2 hname.2 (List.nodup_append.1 hnodup).2.1 hdownward.of_append

end

end Custody

end TclB220G.Lib
