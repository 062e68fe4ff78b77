import Mathlib.Data.Finset.Card
import Mathlib.Logic.Relation

/-!
# Sets that are enlarged until they are stable

A pass over a finite set may add elements that some step leads to from an element of the set.  Passes are
repeated until one of them adds nothing.  If a set that is left alone is closed under the steps, the result
is what can be reached from the first set.  There is always a result if all that can be reached is finite.
-/

namespace TclB220G.Lib

open Relation

section

variable {α : Type*}

/-- No step leads out of a set. -/
def ClosedUnder (step : α → α → Prop) (set : Finset α) : Prop :=
  ∀ before ∈ set, ∀ after, step before after → after ∈ set

theorem ClosedUnder.mem_of_reach {step : α → α → Prop} {set : Finset α} (hclosed : ClosedUnder step set)
    {before after : α} (hbefore : before ∈ set) (hreach : ReflTransGen step before after) : after ∈ set := by
  induction hreach with
  | refl => exact hbefore
  | tail _ hstep ih => exact hclosed _ ih _ hstep

/-- A pass only adds what can be reached by steps, and adds something unless the set is closed. -/
structure Saturates (pass : Finset α → Finset α) (step : α → α → Prop) : Prop where
  subset : ∀ set, set ⊆ pass set
  sound : ∀ set, ∀ after ∈ pass set, ∃ before ∈ set, ReflTransGen step before after
  closed : ∀ set, pass set = set → ClosedUnder step set

end

variable {α : Type*} [DecidableEq α]

/-- Repeats a pass until it adds nothing, so many times at most. -/
def saturate (pass : Finset α → Finset α) : ℕ → Finset α → Option (Finset α)
  | 0, _ => none
  | fuel + 1, set => if pass set = set then some set else saturate pass fuel (pass set)

variable {pass : Finset α → Finset α} {step : α → α → Prop}

theorem Saturates.mem_saturate (h : Saturates pass step) {fuel : ℕ} {set final : Finset α}
    (hfinal : saturate pass fuel set = some final) (after : α) :
    after ∈ final ↔ ∃ before ∈ set, ReflTransGen step before after := by
  induction fuel generalizing set with
  | zero => exact absurd hfinal (Option.some_ne_none final).symm
  | succ fuel ih =>
    rw [saturate] at hfinal
    split_ifs at hfinal with hstable
    · obtain rfl := Option.some.inj hfinal
      constructor
      · intro hafter
        exact ⟨after, hafter, .refl⟩
      · rintro ⟨before, hbefore, hreach⟩
        exact (h.closed set hstable).mem_of_reach hbefore hreach
    · rw [ih hfinal]
      constructor
      · rintro ⟨between, hbetween, hreach⟩
        obtain ⟨before, hbefore, hfirst⟩ := h.sound set between hbetween
        exact ⟨before, hbefore, hfirst.trans hreach⟩
      · rintro ⟨before, hbefore, hreach⟩
        exact ⟨before, h.subset set hbefore, hreach⟩

/-- The passes come to an end inside of a finite set that no step leads out of. -/
theorem Saturates.isSome_saturate (h : Saturates pass step) {domain set : Finset α}
    (hdomain : ClosedUnder step domain) (hset : set ⊆ domain) {fuel : ℕ}
    (hfuel : domain.card < fuel + set.card) : (saturate pass fuel set).isSome = true := by
  induction fuel generalizing set with
  | zero =>
    rw [Nat.zero_add] at hfuel
    exact absurd (Finset.card_le_card hset) (not_le.2 hfuel)
  | succ fuel ih =>
    rw [saturate]
    split_ifs with hstable
    · rfl
    · have hgrows : set ⊂ pass set := (h.subset set).ssubset_of_ne (Ne.symm hstable)
      apply ih
      · intro after hafter
        obtain ⟨before, hbefore, hreach⟩ := h.sound set after hafter
        exact hdomain.mem_of_reach (hset hbefore) hreach
      · have hcard := Finset.card_lt_card hgrows
        omega

end TclB220G.Lib
