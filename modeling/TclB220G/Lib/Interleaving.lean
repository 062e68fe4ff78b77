import Mathlib.Logic.Function.Basic
import Mathlib.Logic.Relation

/-!
# Actors that interleave over a shared state

A system of actors is given by what one actor at a program counter may do to the shared state.  A
run interleaves the moves of all actors, one at a time.

A proof outline assigns an assertion to every program counter.  Each actor's own moves keep its
assertion, and they keep the assertions of the others through a guarantee on the shared state: a
relation that all moves of the actor meet and under which the others' assertions are stable.  The
outline then holds throughout every run.
-/

namespace TclB220G.Lib.Interleaving

section

variable {Actor Shared Pc : Type}

/-- What an actor may do at a program counter in a shared state. -/
abbrev Moves (Actor Shared Pc : Type) := Actor → Shared → Pc → Shared → Pc → Prop

structure System (Actor Shared Pc : Type) where
  shared : Shared
  pc : Actor → Pc

variable [DecidableEq Actor]

/-- One actor makes one move. -/
def Step (moves : Moves Actor Shared Pc) (before after : System Actor Shared Pc) : Prop :=
  ∃ actor shared pc, moves actor before.shared (before.pc actor) shared pc ∧
    after = ⟨shared, Function.update before.pc actor pc⟩

/-- A run of any length. -/
def Run (moves : Moves Actor Shared Pc) : System Actor Shared Pc → System Actor Shared Pc → Prop :=
  Relation.ReflTransGen (Step moves)

variable {moves : Moves Actor Shared Pc}

theorem Run.move {start : System Actor Shared Pc} {shared pc} (hrun : Run moves start ⟨shared, pc⟩)
    (actor : Actor) {shared' pc'} (hmove : moves actor shared (pc actor) shared' pc') :
    Run moves start ⟨shared', Function.update pc actor pc'⟩ :=
  hrun.tail ⟨actor, shared', pc', hmove, rfl⟩

/-- A run all of whose steps meet a condition. -/
def RunWhere (moves : Moves Actor Shared Pc)
    (condition : System Actor Shared Pc → System Actor Shared Pc → Prop) :
    System Actor Shared Pc → System Actor Shared Pc → Prop :=
  Relation.ReflTransGen fun before after ↦ Step moves before after ∧ condition before after

theorem RunWhere.run {condition : System Actor Shared Pc → System Actor Shared Pc → Prop}
    {start system : System Actor Shared Pc} (hrun : RunWhere moves condition start system) :
    Run moves start system := by
  induction hrun with
  | refl => exact Relation.ReflTransGen.refl
  | tail _ hstep ih => exact Relation.ReflTransGen.tail ih hstep.1

theorem RunWhere.move {condition : System Actor Shared Pc → System Actor Shared Pc → Prop}
    {start : System Actor Shared Pc} {shared pc}
    (hrun : RunWhere moves condition start ⟨shared, pc⟩) (actor : Actor) {shared' pc'}
    (hmove : moves actor shared (pc actor) shared' pc')
    (hcondition : condition ⟨shared, pc⟩ ⟨shared', Function.update pc actor pc'⟩) :
    RunWhere moves condition start ⟨shared', Function.update pc actor pc'⟩ :=
  hrun.tail ⟨⟨actor, shared', pc', hmove, rfl⟩, hcondition⟩

/-- A run with the events that its moves are seen as, the latest first. -/
inductive Traced {Event : Type} (moves : Moves Actor Shared Pc)
    (event : Actor → Shared → Pc → Pc → Option Event) (start : System Actor Shared Pc) :
    System Actor Shared Pc → List Event → Prop
  | refl : Traced moves event start start []
  | move {shared : Shared} {pc : Actor → Pc} {events : List Event}
    (htraced : Traced moves event start ⟨shared, pc⟩ events) (actor : Actor) {shared' : Shared} {pc' : Pc}
    (hmove : moves actor shared (pc actor) shared' pc') :
    Traced moves event start ⟨shared', Function.update pc actor pc'⟩
      ((event actor shared (pc actor) pc').toList ++ events)

theorem Traced.run {Event : Type} {event : Actor → Shared → Pc → Pc → Option Event}
    {start system : System Actor Shared Pc} {events : List Event}
    (htraced : Traced moves event start system events) : Run moves start system := by
  induction htraced with
  | refl => exact Relation.ReflTransGen.refl
  | move _ actor hmove ih => exact ih.move actor hmove

omit [DecidableEq Actor] in
/-- A proof outline: an invariant of the shared state, an assertion at each program counter, and
what the moves of an actor guarantee to the others. -/
structure Outline (moves : Moves Actor Shared Pc) where
  invariant : Shared → Prop
  asserts : Actor → Shared → Pc → Prop
  guarantee : Actor → Shared → Shared → Prop
  keeps : ∀ {actor shared pc shared' pc'}, invariant shared → asserts actor shared pc →
    moves actor shared pc shared' pc' →
    invariant shared' ∧ asserts actor shared' pc' ∧ guarantee actor shared shared'
  stable : ∀ {actor other shared shared' pc}, other ≠ actor → asserts other shared pc →
    guarantee actor shared shared' → asserts other shared' pc

namespace Outline

variable {moves : Moves Actor Shared Pc} (outline : Outline moves)

/-- The outline holds in a system. -/
def Holds (system : System Actor Shared Pc) : Prop :=
  outline.invariant system.shared ∧
    ∀ actor, outline.asserts actor system.shared (system.pc actor)

theorem holds_step {before after : System Actor Shared Pc} (hholds : outline.Holds before)
    (hstep : Step moves before after) : outline.Holds after := by
  obtain ⟨actor, shared, pc, hmove, rfl⟩ := hstep
  have hkeeps := outline.keeps hholds.1 (hholds.2 actor) hmove
  refine ⟨hkeeps.1, fun other ↦ ?_⟩
  dsimp only
  by_cases hother : other = actor
  · subst hother
    rw [Function.update_self]
    exact hkeeps.2.1
  · rw [Function.update_of_ne hother]
    exact outline.stable hother (hholds.2 other) hkeeps.2.2

theorem holds_run {before after : System Actor Shared Pc} (hholds : outline.Holds before)
    (hrun : Run moves before after) : outline.Holds after := by
  induction hrun with
  | refl => exact hholds
  | tail _ hstep ih => exact outline.holds_step ih hstep

/-- What the outline says of the event of every move holds of all events of a run. -/
theorem forall_events {Event : Type} {event : Actor → Shared → Pc → Pc → Option Event}
    {property : Event → Prop} {start system : System Actor Shared Pc} {events : List Event}
    (hproperty : ∀ {actor shared pc shared' pc' seen}, outline.invariant shared →
      outline.asserts actor shared pc → moves actor shared pc shared' pc' →
      event actor shared pc pc' = some seen → property seen)
    (hholds : outline.Holds start) (htraced : Traced moves event start system events) :
    ∀ seen ∈ events, property seen := by
  induction htraced with
  | refl => exact fun _ hseen ↦ absurd hseen List.not_mem_nil
  | move htraced actor hmove ih =>
    intro seen hseen
    rcases List.mem_append.1 hseen with hseen | hseen
    · have hbefore := outline.holds_run hholds htraced.run
      exact hproperty hbefore.1 (hbefore.2 actor) hmove (Option.mem_toList.1 hseen)
    · exact ih seen hseen

end Outline

end

end TclB220G.Lib.Interleaving
