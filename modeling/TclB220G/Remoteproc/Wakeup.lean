import TclB220G.Remoteproc.Removal

/-!
# The wakeup source of a remote processor

A crash report keeps the system awake, and the crash handler lets it sleep again at its end.  If the
handler finds the processor crashed already, it returns at once and releases nothing.  So a second crash
of a processor that is not recovered leaves the wakeup source held, and `rproc_del`, which releases it
only for a handler that it has cancelled, returns with it still held.
-/

namespace TclB220G.Remoteproc

open Lib.Interleaving

/-- What happens to the wakeup source after a report: it is released, or a run of the crash handler
returns early while it is held. -/
inductive WakeEvent where
  | relaxed
  | skipped
  deriving DecidableEq, Repr

section

variable {Tid : Type}

def wakeEvent (_ : Actor Tid) (s : Rproc Tid) : Pc → Pc → Option WakeEvent
  | .work .checkState, .work .unlockReturn => if s.awake then some .skipped else none
  | .work .relax, _ => some .relaxed
  | .del .relax, _ => some .relaxed
  | _, _ => none

/-- The actor will release the wakeup source, or decide about it: a report that is about to queue the
crash handler, a run of the handler, and a removal that has cancelled it. -/
@[simp] def Actor.due : Actor Tid → Pc → Bool
  | .task _, .report .queue => true
  | .task _, _ => false
  | .worker, .idle => false
  | .worker, .work .unlockReturn => false
  | .worker, .work .finish => false
  | .worker, _ => true
  | .remover, .del (.flush pending) => pending
  | .remover, .del .relax => true
  | .remover, _ => false

/-- What a move may do to the wakeup source, and the event that it is seen as. -/
inductive WakeEffect (actor : Actor Tid) (s : Rproc Tid) (pc : Pc) (s' : Rproc Tid) (pc' : Pc) :
    Option WakeEvent → Prop
  | kept (hawake : s'.awake = s.awake) (hqueued : s'.queued = s.queued)
    (hdue : actor.due pc = true → actor.due pc' = true) : WakeEffect actor s pc s' pc' none
  | owed (hawake : s.awake = true → s'.awake = true)
    (hdue : s'.queued = true ∨ actor.due pc' = true) : WakeEffect actor s pc s' pc' none
  | idle (hawake : s.awake = false) (hawake' : s'.awake = false) : WakeEffect actor s pc s' pc' none
  | relaxed (hawake' : s'.awake = false) : WakeEffect actor s pc s' pc' (some .relaxed)
  | skipped (hawake' : s'.awake = true) : WakeEffect actor s pc s' pc' (some .skipped)

section

variable {actor : Actor Tid} {tid : Tid} {s s' : Rproc Tid} {pc' : Pc}

theorem report_wakeEffect {pc : ReportPc} (hmove : ReportMove (.task tid) s pc s' pc') :
    WakeEffect (.task tid) s (.report pc) s' pc' (wakeEvent (.task tid) s (.report pc) pc') := by
  cases hmove with
  | stayAwake => exact .owed (fun _ ↦ rfl) (.inr rfl)
  | queue => exact .owed id (.inl rfl)
  | _ => exact .kept rfl rfl (by simp)

theorem work_wakeEffect {pc : WorkPc} (hmove : WorkMove .worker s pc s' pc') :
    WakeEffect .worker s (.work pc) s' pc' (wakeEvent .worker s (.work pc) pc') := by
  cases hmove with
  | crashed =>
    cases hawake : s.awake with
    | false =>
      simp only [wakeEvent, hawake]
      exact .idle hawake hawake
    | true =>
      simp only [wakeEvent, hawake]
      exact .skipped hawake
  | relax => exact .relaxed rfl
  | _ => exact .kept rfl rfl (by simp)

@[simp] theorem awake_stopSubdevices (s : Rproc Tid) : s.stopSubdevices.awake = s.awake := by
  rw [Rproc.stopSubdevices_eq]

@[simp] theorem queued_stopSubdevices (s : Rproc Tid) : s.stopSubdevices.queued = s.queued := by
  rw [Rproc.stopSubdevices_eq]

theorem due_afterRecovery (actor : Actor Tid) (pc : RecoveryPc) :
    actor.due (.recovery pc) = true → actor.due actor.afterRecovery = true := by
  cases actor <;> simp [Actor.afterRecovery]

theorem recovery_wakeEffect {pc : RecoveryPc} (hmove : RecoveryMove actor s pc s' pc') :
    WakeEffect actor s (.recovery pc) s' pc' (wakeEvent actor s (.recovery pc) pc') := by
  cases hmove with
  | interrupted | unlock => exact .kept rfl rfl (due_afterRecovery actor _)
  | _ => exact .kept (by simp) (by simp) (by cases actor <;> simp)

theorem start_wakeEffect {boot : Bool} {pc : StartPc} (hmove : StartMove s boot pc s' pc') :
    WakeEffect actor s (.start boot pc) s' pc' (wakeEvent actor s (.start boot pc) pc') := by
  cases hmove <;>
    exact .kept rfl rfl (by cases actor <;> cases boot <;> simp [Pc.startFailed, Pc.started])

theorem shutdown_wakeEffect {force : Bool} {pc : ShutdownPc} (hmove : ShutdownMove actor s force pc s' pc')
    (hactor : actor ≠ .worker) :
    WakeEffect actor s (.shutdown force pc) s' pc' (wakeEvent actor s (.shutdown force pc) pc') := by
  have hnot : actor.due (.shutdown force pc) = true → actor.due pc' = true := by
    cases actor <;> simp at hactor ⊢
  cases hmove <;> exact .kept (by simp) (by simp) hnot

theorem del_wakeEffect {pc : DelPc} (hmove : DelMove .remover s pc s' pc') :
    WakeEffect .remover s (.del pc) s' pc' (wakeEvent .remover s (.del pc) pc') := by
  cases hmove with
  | cancel =>
    cases hqueued : s.queued with
    | false => exact .kept rfl hqueued.symm (by simp)
    | true => exact .owed id (.inr rfl)
  | relax => exact .relaxed rfl
  | _ => exact .kept rfl rfl (by simp)

end

theorem move_wakeEffect {actor : Actor Tid} {s s' : Rproc Tid} {pc pc' : Pc}
    (hmove : Move actor s pc s' pc') : WakeEffect actor s pc s' pc' (wakeEvent actor s pc pc') := by
  cases hmove with
  | call | signal | remove => exact .kept rfl rfl (by simp)
  | run => exact .owed id (.inr rfl)
  | report h => exact report_wakeEffect h
  | work h => exact work_wakeEffect h
  | recovery h => exact recovery_wakeEffect h
  | boot h => cases h <;> exact .kept rfl rfl (by simp)
  | start h => exact start_wakeEffect h
  | shutdown h | shutdownForced h => exact shutdown_wakeEffect h nofun
  | del h => exact del_wakeEffect h

/-! ## Whole runs -/

/-- Someone will release the wakeup source or decide about it. -/
def Owed (system : System (Actor Tid) (Rproc Tid) Pc) : Prop :=
  system.shared.queued = true ∨ ∃ actor : Actor Tid, actor.due (system.pc actor) = true

/-- The wakeup source is held since a run of the crash handler has returned early, or someone still owes
its release. -/
structure Watched (system : System (Actor Tid) (Rproc Tid) Pc) (events : List WakeEvent) : Prop where
  skipped : events.head? = some .skipped → system.shared.awake = true
  awake : system.shared.awake = true → events.head? = some .skipped ∨ Owed system

variable [DecidableEq Tid]

/-- What an actor owes, and what others owe, in a system in which it has moved. -/
theorem owed_update {shared shared' : Rproc Tid} {pc : Actor Tid → Pc} {actor : Actor Tid} {pc' : Pc}
    (howed : Owed ⟨shared, pc⟩) (hqueued : shared'.queued = shared.queued)
    (hdue : actor.due (pc actor) = true → actor.due pc' = true) :
    Owed ⟨shared', Function.update pc actor pc'⟩ := by
  rcases howed with hold | ⟨other, hother⟩
  · exact .inl (hqueued.trans hold)
  · refine .inr ⟨other, ?_⟩
    dsimp only at hother ⊢
    by_cases hsame : other = actor
    · subst hsame
      rw [Function.update_self]
      exact hdue hother
    · rwa [Function.update_of_ne hsame]

theorem Watched.move {shared shared' : Rproc Tid} {pc : Actor Tid → Pc} {actor : Actor Tid} {pc' : Pc}
    {events : List WakeEvent} (hwatched : Watched ⟨shared, pc⟩ events)
    (hmove : Move actor shared (pc actor) shared' pc') :
    Watched ⟨shared', Function.update pc actor pc'⟩
      ((wakeEvent actor shared (pc actor) pc').toList ++ events) := by
  have heffect := move_wakeEffect hmove
  revert heffect
  generalize wakeEvent actor shared (pc actor) pc' = event
  intro heffect
  cases heffect with
  | kept hawake hqueued hdue =>
    refine ⟨fun hhead ↦ hawake.trans (hwatched.skipped hhead), fun hheld ↦ ?_⟩
    exact (hwatched.awake (hawake.symm.trans hheld)).imp_right fun howed ↦ owed_update howed hqueued hdue
  | owed hawake hdue =>
    refine ⟨fun hhead ↦ hawake (hwatched.skipped hhead), fun _ ↦ .inr ?_⟩
    refine hdue.imp_right fun hactor ↦ ⟨actor, ?_⟩
    dsimp only
    rwa [Function.update_self]
  | idle hawake hawake' =>
    refine ⟨fun hhead ↦ ?_, fun hheld ↦ absurd (hawake'.symm.trans hheld) Bool.false_ne_true⟩
    exact absurd (hawake.symm.trans (hwatched.skipped hhead)) Bool.false_ne_true
  | relaxed hawake' =>
    exact ⟨nofun, fun hheld ↦ absurd (hawake'.symm.trans hheld) Bool.false_ne_true⟩
  | skipped hawake' => exact ⟨fun _ ↦ hawake', fun _ ↦ .inl rfl⟩

theorem Traced.watched {initial system : System (Actor Tid) (Rproc Tid) Pc} {events : List WakeEvent}
    (hinitial : initial.shared.awake = false) (htraced : Traced Move wakeEvent initial system events) :
    Watched system events := by
  induction htraced with
  | refl => exact ⟨nofun, fun h ↦ absurd (hinitial.symm.trans h) Bool.false_ne_true⟩
  | move _ actor hmove ih => exact ih.move hmove

omit [DecidableEq Tid] in
theorem admitted_of_due {tid : Tid} {pc : Pc} (hdue : (Actor.task tid).due pc = true) :
    pc.admitted = true := by
  cases pc with
  | report pc => cases pc <;> simp_all
  | _ => simp at hdue

omit [DecidableEq Tid] in
/-- Nobody owes anything once `rproc_del` has returned. -/
theorem not_owed_of_returned {system : System (Actor Tid) (Rproc Tid) Pc} (hholds : outline.Holds system)
    (hreturned : system.pc .remover = .del .returned) : ¬Owed system := by
  obtain ⟨hqueued, hworker, -⟩ := returned_quiet hholds hreturned
  rintro (hold | ⟨actor, hdue⟩)
  · exact absurd (hqueued.symm.trans hold) Bool.false_ne_true
  · cases actor with
    | worker => simp [hworker] at hdue
    | remover => simp [hreturned] at hdue
    | task tid =>
      -- A report queues the handler only before the removal has announced itself.
      have hmarked : system.shared.deleting = true :=
        (hholds.2 .remover).marked (by rw [hreturned]; rfl)
      have hadmitted : system.shared.deleting = false :=
        (hholds.2 (.task tid)).admitted (admitted_of_due hdue)
      exact absurd (hadmitted.symm.trans hmarked) Bool.false_ne_true

/-- When `rproc_del` has returned, the wakeup source is not held exactly if no run of the crash handler has
returned early, with the wakeup source held, since it was last released. -/
theorem rprocDel_relaxed_iff {initial system : System (Actor Tid) (Rproc Tid) Pc} {events : List WakeEvent}
    (hinitial : Initial initial) (hrelaxed : initial.shared.awake = false)
    (htraced : Traced Move wakeEvent initial system events)
    (hreturned : system.pc .remover = .del .returned) :
    system.shared.awake = false ↔ events.head? ≠ some .skipped := by
  have hwatched := Traced.watched hrelaxed htraced
  have hholds := outline.holds_run (outline_initial hinitial) htraced.run
  have howed := not_owed_of_returned hholds hreturned
  rw [← Bool.not_eq_true, not_iff_not]
  exact ⟨fun hheld ↦ (hwatched.awake hheld).resolve_right howed, hwatched.skipped⟩

end

/-- The processor has crashed once, and the handler has released the wakeup source without recovering
it. -/
def crashedSystem : System (Actor ℕ) (Rproc ℕ) Pc := ⟨{ runningRproc with state := .crashed }, fun _ ↦ .idle⟩

theorem traced_crash : Traced Move wakeEvent runningSystem crashedSystem [.relaxed] := by
  have hstart : Traced Move wakeEvent runningSystem runningSystem [] := .refl
  have hadmitted := ((hstart.move (.task 0) (.call .report)).move (.task 0) (.report (.lock rfl))).move
    (.task 0) (.report (.proceed rfl))
  have hreported := ((hadmitted.move (.task 0) (.report .stayAwake)).move (.task 0)
    (.report .queue)).move (.task 0) (.report .unlock)
  have hmarked := ((((hreported.move .worker (.run rfl)).move .worker (.work (.lock rfl))).move .worker
    (.work (.proceed rfl))).move .worker (.work (.first (by decide)))).move .worker (.work .mark)
  have hhandled := ((hmarked.move .worker (.work .recoveryDisabled)).move .worker (.work .relax)).move
    .worker (.work .finish)
  have hidle : ∀ pc : Actor ℕ → Pc, (∀ actor, pc actor = .idle) →
      Traced Move wakeEvent runningSystem ⟨{ runningRproc with state := .crashed }, pc⟩ [.relaxed] →
      Traced Move wakeEvent runningSystem crashedSystem [.relaxed] := by
    intro pc hpc htraced
    rwa [show pc = fun _ ↦ .idle from funext hpc] at htraced
  refine hidle _ (fun actor ↦ ?_) hhandled
  simp [Function.update_apply]

/-- A removal that nobody interferes with neither takes nor releases the wakeup source. -/
theorem traced_removal {awake : Bool} {pc : Actor ℕ → Pc} {events : List WakeEvent}
    (htraced : Traced Move wakeEvent runningSystem
      ⟨{ runningRproc with state := .crashed, awake := awake }, pc⟩ events)
    (hidle : pc .remover = .idle) :
    ∃ system, Traced Move wakeEvent runningSystem system events ∧
      system.pc .remover = .del .returned ∧ system.shared.awake = awake := by
  have hremove : Move .remover { runningRproc with state := .crashed, awake := awake } (pc .remover)
      { runningRproc with state := .crashed, awake := awake } (.del .lockCrash) := by
    rw [hidle]
    exact .remove
  have hcalled := htraced.move .remover hremove
  rw [hidle] at hcalled
  have hmarked := ((hcalled.move .remover (.del (.lockCrash rfl))).move .remover (.del .mark)).move
    .remover (.del .unlockCrash)
  have hdrained := (hmarked.move .remover (.del .cancel)).move .remover (.del (.flush rfl))
  have hstopping := ((hdrained.move .remover (.shutdownForced (.lock rfl))).move .remover
    (.shutdownForced (.proceed (.inr (.inr rfl))))).move .remover (.shutdownForced (.last (.inr rfl)))
  have hstopped := ((hstopping.move .remover (.shutdownForced .stopSubdevices)).move .remover
    (.shutdownForced .stopped)).move .remover (.shutdownForced .unlock)
  have hreturned := ((hstopped.move .remover (.del (.lock rfl))).move .remover (.del .setDeleted)).move
    .remover (.del .unlock)
  exact ⟨_, hreturned, rfl, rfl⟩

/-- After one crash the removal finds nothing to release. -/
theorem rprocDel_relaxed_iff_crashedSystem : ∃ system events,
    Traced Move wakeEvent runningSystem system events ∧ system.pc .remover = .del .returned ∧
      system.shared.awake = false := by
  obtain ⟨system, htraced, hreturned, -⟩ := traced_removal traced_crash rfl
  have hiff := rprocDel_relaxed_iff initial_runningSystem rfl htraced hreturned
  exact ⟨system, _, htraced, hreturned, hiff.2 (by decide)⟩

/-- The processor crashes once more.  The handler returns early, and the wakeup source is still held when
`rproc_del` has returned. -/
theorem rprocDel_awake : ∃ system events, Initial runningSystem ∧ runningSystem.shared.awake = false ∧
    Traced Move wakeEvent runningSystem system events ∧ system.pc .remover = .del .returned ∧
      system.shared.awake = true := by
  have hadmitted := ((traced_crash.move (.task 0) (.call .report)).move (.task 0) (.report (.lock rfl))).move
    (.task 0) (.report (.proceed rfl))
  have hreported := ((hadmitted.move (.task 0) (.report .stayAwake)).move (.task 0)
    (.report .queue)).move (.task 0) (.report .unlock)
  have hchecked := ((hreported.move .worker (.run rfl)).move .worker (.work (.lock rfl))).move .worker
    (.work (.proceed rfl))
  have hskipped := ((hchecked.move .worker (.work (.crashed rfl))).move .worker (.work .unlockReturn)).move
    .worker (.work .finish)
  obtain ⟨system, htraced, hreturned, hawake⟩ := traced_removal hskipped rfl
  exact ⟨system, _, initial_runningSystem, rfl, htraced, hreturned, hawake⟩

end TclB220G.Remoteproc
