import Mathlib.Data.List.Count
import Mathlib.Data.List.Induction
import Mathlib.Logic.Function.Basic

/-!
# Lifetimes of resources

A log records, the latest event first, when resources are created, used and released.  It is sound if a
resource is created once, and used and released only while it is live.  In a sound log the stage that a
resource has reached in its life says how often it was created and released.
-/

namespace TclB220G.Lib

variable {Event Resource : Type}

/-- Every event of a log has a property after the events before it. -/
def Along (property : Event → List Event → Prop) : List Event → Prop
  | [] => True
  | event :: earlier => property event earlier ∧ Along property earlier

instance Along.decidable {property : Event → List Event → Prop}
    [∀ event earlier, Decidable (property event earlier)] : ∀ log, Decidable (Along property log)
  | [] => isTrue trivial
  | event :: earlier =>
    have : Decidable (Along property earlier) := Along.decidable earlier
    inferInstanceAs (Decidable (property event earlier ∧ Along property earlier))

theorem Along.of_append {property : Event → List Event → Prop} {later earlier : List Event}
    {event : Event} (h : Along property (later ++ event :: earlier)) : property event earlier := by
  induction later with
  | nil => exact h.1
  | cons first later ih => exact ih h.2

theorem Along.earlier {property : Event → List Event → Prop} {later earlier : List Event}
    (h : Along property (later ++ earlier)) : Along property earlier := by
  induction later with
  | nil => exact h
  | cons first later ih => exact ih h.2

/-- Every operation of a history, the earliest of them first, has a property after the operations before
it. -/
def Throughout (property : List Event → Event → Prop) (history : List Event) : Prop :=
  ∀ earlier event later, history = earlier ++ event :: later → property earlier event

variable {property : List Event → Event → Prop}

theorem Throughout.nil : Throughout property [] :=
  fun _ _ _ h ↦ absurd h (by simp)

theorem Throughout.earlier {earlier later : List Event} (h : Throughout property (earlier ++ later)) :
    Throughout property earlier := by
  intro first event rest hsplit
  refine h first event (rest ++ later) ?_
  rw [hsplit, List.append_assoc, List.cons_append]

variable {history : List Event}

theorem throughout_concat {event : Event} :
    Throughout property (history ++ [event]) ↔ Throughout property history ∧ property history event := by
  constructor
  · intro h
    exact ⟨h.earlier, h history event [] rfl⟩
  · rintro ⟨hhistory, hevent⟩ earlier other later hsplit
    rcases later.eq_nil_or_concat with rfl | ⟨later, last, rfl⟩
    · obtain ⟨rfl, hother⟩ := List.append_inj' hsplit rfl
      obtain rfl := List.head_eq_of_cons_eq hother
      exact hevent
    · rw [List.concat_eq_append, ← List.cons_append, ← List.append_assoc] at hsplit
      exact hhistory earlier other later (List.append_inj' hsplit rfl).1

/-- Some operation of a history has a property after the operations before it. -/
def Sometime (property : List Event → Event → Prop) (history : List Event) : Prop :=
  ∃ earlier event later, history = earlier ++ event :: later ∧ property earlier event

theorem not_throughout_not :
    ¬Throughout (fun earlier event ↦ ¬property earlier event) history ↔ Sometime property history := by
  simp only [Throughout, Sometime, not_forall, not_not, exists_prop]

theorem sometime_concat {event : Event} :
    Sometime property (history ++ [event]) ↔ Sometime property history ∨ property history event := by
  rw [← not_throughout_not, ← not_throughout_not, throughout_concat, not_and_or, not_not]

/-- If after good prefixes an operation leads to a good prefix exactly when it is admissible, then all
prefixes of a history are good exactly when its operations are admissible throughout. -/
theorem prefixes_iff_throughout {good : List Event → Prop} {admissible : List Event → Event → Prop}
    (hnil : good [])
    (hstep : ∀ earlier event, good earlier → (good (earlier ++ [event]) ↔ admissible earlier event))
    (history : List Event) :
    (∀ earlier, earlier <+: history → good earlier) ↔ Throughout admissible history := by
  induction history using List.reverseRecOn with
  | nil =>
    constructor
    · intro _
      exact Throughout.nil
    · intro _ earlier hearlier
      rw [List.prefix_nil.1 hearlier]
      exact hnil
  | append_singleton history event ih =>
    rw [throughout_concat, ← ih]
    constructor
    · intro hgood
      have hbefore : ∀ earlier, earlier <+: history → good earlier := fun earlier hearlier ↦
        hgood earlier (hearlier.trans (List.prefix_append history [event]))
      exact ⟨hbefore, (hstep history event (hbefore history List.prefix_rfl)).1
        (hgood _ List.prefix_rfl)⟩
    · rintro ⟨hbefore, hevent⟩ earlier hearlier
      rcases List.prefix_concat_iff.1 hearlier with rfl | hearlier
      · exact (hstep history event (hbefore history List.prefix_rfl)).2 hevent
      · exact hbefore earlier hearlier

inductive LifeEvent (Resource : Type) where
  | created (resource : Resource)
  | used (resource : Resource)
  | released (resource : Resource)
  deriving DecidableEq, Repr

/-- How far a resource has come. -/
inductive LifeStage where
  | absent | live | gone
  deriving DecidableEq, Repr

variable [DecidableEq Resource]

/-- The stages that the resources have reached after a log. -/
def lifeStage : List (LifeEvent Resource) → Resource → LifeStage
  | [] => fun _ ↦ .absent
  | .created resource :: log => Function.update (lifeStage log) resource .live
  | .released resource :: log => Function.update (lifeStage log) resource .gone
  | .used _ :: log => lifeStage log

/-- What an event asks of the log before it. -/
def LifeEvent.Sound (log : List (LifeEvent Resource)) : LifeEvent Resource → Prop
  | .created resource => lifeStage log resource = .absent
  | .used resource => lifeStage log resource = .live
  | .released resource => lifeStage log resource = .live

instance (log : List (LifeEvent Resource)) : ∀ event : LifeEvent Resource, Decidable (event.Sound log)
  | .created _ => inferInstanceAs (Decidable (_ = _))
  | .used _ => inferInstanceAs (Decidable (_ = _))
  | .released _ => inferInstanceAs (Decidable (_ = _))

def SoundLives (log : List (LifeEvent Resource)) : Prop :=
  Along (fun event earlier ↦ event.Sound earlier) log

instance (log : List (LifeEvent Resource)) : Decidable (SoundLives log) :=
  inferInstanceAs (Decidable (Along _ log))

section

variable {log : List (LifeEvent Resource)} {resource other : Resource}

theorem lifeStage_created : lifeStage (.created resource :: log) other =
    if other = resource then .live else lifeStage log other := by
  rw [lifeStage, Function.update_apply]

theorem lifeStage_released : lifeStage (.released resource :: log) other =
    if other = resource then .gone else lifeStage log other := by
  rw [lifeStage, Function.update_apply]

@[simp] theorem lifeStage_used : lifeStage (.used resource :: log) = lifeStage log := rfl

/-- What has been there does not become new again. -/
theorem lifeStage_ne_absent {later : List (LifeEvent Resource)} (h : lifeStage log resource ≠ .absent) :
    lifeStage (later ++ log) resource ≠ .absent := by
  induction later with
  | nil => exact h
  | cons event later ih =>
    rw [List.cons_append]
    cases event with
    | created other =>
      rw [lifeStage_created]
      split_ifs
      · exact LifeStage.noConfusion
      · exact ih
    | used other => exact ih
    | released other =>
      rw [lifeStage_released]
      split_ifs
      · exact LifeStage.noConfusion
      · exact ih

theorem SoundLives.created (h : SoundLives log) (habsent : lifeStage log resource = .absent) :
    SoundLives (.created resource :: log) :=
  ⟨habsent, h⟩

theorem SoundLives.used (h : SoundLives log) (hlive : lifeStage log resource = .live) :
    SoundLives (.used resource :: log) :=
  ⟨hlive, h⟩

theorem SoundLives.released (h : SoundLives log) (hlive : lifeStage log resource = .live) :
    SoundLives (.released resource :: log) :=
  ⟨hlive, h⟩

/-- How often a resource at a stage has been created and released. -/
def LifeStage.counts : LifeStage → ℕ × ℕ
  | absent => (0, 0)
  | live => (1, 0)
  | gone => (1, 1)

/-- The stages count the events. -/
theorem SoundLives.counts (h : SoundLives log) (resource : Resource) :
    (log.count (.created resource), log.count (.released resource)) =
      (lifeStage log resource).counts := by
  induction log with
  | nil => rfl
  | cons event log ih =>
    have ih := ih h.2
    have hevent := h.1
    cases event with
    | created other =>
      rw [lifeStage_created]
      split_ifs with heq
      · rw [← heq] at hevent ⊢
        rw [show lifeStage log resource = .absent from hevent] at ih
        simp_all [LifeStage.counts]
      · simpa [List.count_cons, Ne.symm heq] using ih
    | used other => simpa [List.count_cons] using ih
    | released other =>
      rw [lifeStage_released]
      split_ifs with heq
      · rw [← heq] at hevent ⊢
        rw [show lifeStage log resource = .live from hevent] at ih
        simp_all [LifeStage.counts]
      · simpa [List.count_cons, Ne.symm heq] using ih

/-- A resource that is no longer live was released exactly once. -/
theorem SoundLives.released_once (h : SoundLives log) (hcreated : .created resource ∈ log)
    (hnot : lifeStage log resource ≠ .live) : log.count (.released resource) = 1 := by
  have hcounts := h.counts resource
  have hpositive : 0 < log.count (.created resource) := List.count_pos_iff.2 hcreated
  cases hstage : lifeStage log resource with
  | absent => simp_all [LifeStage.counts]
  | live => exact absurd hstage hnot
  | gone => simp_all [LifeStage.counts]

/-- What an event asks if some resources rest on others: these come before them and go after them. -/
def LifeEvent.Nested (restsOn : Resource → Resource → Prop) (log : List (LifeEvent Resource)) :
    LifeEvent Resource → Prop
  | .created resource => ∀ lower, restsOn resource lower → lifeStage log lower = .live
  | .used _ => True
  | .released resource => ∀ upper, restsOn upper resource → lifeStage log upper ≠ .live

def NestedLives (restsOn : Resource → Resource → Prop) (log : List (LifeEvent Resource)) : Prop :=
  Along (fun event earlier ↦ event.Nested restsOn earlier) log

end

end TclB220G.Lib
