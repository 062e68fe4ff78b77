import TclB220G.Remoteproc.Lifecycle
import Mathlib.Tactic.MkIffOfInductiveProp

/-!
# Removal of a remote processor

The proof outline of the life cycle.  It rests on three facts.  A report queues the crash handler
only while it holds the lock under which the removal announces itself, so that nothing is queued
once the removal has drained the handler.  A boot or a recovery checks for the announcement and
starts the processor without letting go of `rproc->lock`, so that once the removal has held that
lock nobody is about to start.  Started subdevices belong to a processor in a state that a shutdown
stops, unless its lock holder is just about to enter that state.

Every move has one of a few effects on the shared state, under the lock that guards what it changes.
The invariant and the guarantee follow from the effects; what remains for each procedure is the
knowledge that its program counters stand for.

After `rproc_del` has returned, therefore, the crash handler is neither queued nor running and the
processor is not started again.  The subdevices are stopped as well, unless a signal made the forced
shutdown give up while it waited for the lock: `rproc_del` ignores that and goes on.
-/

namespace TclB220G.Remoteproc

open Lib.Interleaving

namespace Pc

/-- The actor holds `rproc->lock`. -/
@[simp] def holdsLock : Pc → Bool
  | .work pc =>
    match pc with
    | .lock | .relax | .finish => false
    | _ => true
  | .recovery pc => pc != .lock
  | .boot pc => pc != .lock
  | .start _ _ => true
  | .shutdown _ pc => pc != .lock
  | .del pc => pc == .setDeleted || pc == .unlock
  | _ => false

/-- The actor holds `rproc->crash_handler_lock`. -/
@[simp] def holdsCrashLock : Pc → Bool
  | .report pc => pc != .lock
  | .del pc => pc == .mark || pc == .unlockCrash
  | _ => false

/-- A report that has found the processor not being deleted. -/
@[simp] def admitted : Pc → Bool
  | .report pc => pc == .stayAwake || pc == .queue
  | _ => false

/-- A boot or a recovery that has found the processor not being deleted and may start it. -/
@[simp] def mayStart : Pc → Bool
  | .recovery pc => pc == .checkState || pc == .stopSubdevices || pc == .stop
  | .boot pc => pc == .checkDeleted || pc == .get
  | .start _ _ => true
  | _ => false

/-- The subdevices are stopped and the processor is not yet. -/
@[simp] def stopping : Pc → Bool
  | .recovery pc => pc == .stop
  | .shutdown _ pc => pc == .stop
  | _ => false

/-- The removal has announced itself. -/
@[simp] def pastMark : Pc → Bool
  | .shutdown force _ => force
  | .del pc => pc != .lockCrash && pc != .mark
  | _ => false

/-- The removal has cancelled the crash handler and waits for it. -/
@[simp] def flushing : Pc → Bool
  | .del (.flush _) => true
  | _ => false

/-- The removal has waited for the crash handler. -/
@[simp] def pastFlush : Pc → Bool
  | .shutdown force _ => force
  | .del pc => pc == .relax || pc == .lock || pc == .setDeleted || pc == .unlock || pc == .returned
  | _ => false

/-- The removal has held `rproc->lock` since then. -/
@[simp] def pastLock : Pc → Bool
  | .shutdown force pc => force && pc != .lock
  | .del pc => pc == .setDeleted || pc == .unlock || pc == .returned
  | _ => false

/-- The removal has stopped the subdevices, unless it was interrupted. -/
@[simp] def pastStop : Pc → Bool
  | .shutdown force pc => force && (pc == .stop || pc == .unlock)
  | .del pc => pc == .lock || pc == .setDeleted || pc == .unlock || pc == .returned
  | _ => false

end Pc

section

variable {Tid : Type}

/-- Started subdevices belong to a processor that a shutdown stops. -/
def Rproc.Settled (s : Rproc Tid) : Prop :=
  s.subdevsStarted = true → s.interrupted = true ∨ s.state.Stoppable

/-- The invariant of the shared state. -/
structure Rproc.Sound (s : Rproc Tid) : Prop where
  drained : s.drained = true → s.queued = false ∧ s.running = false ∧ s.deleting = true
  fenced : s.fenced = true → s.deleting = true
  settled : s.lock = none → s.Settled
  fresh : s.subdevsStarted = true → s.stopPasses = 0
  once : s.stopPasses ≤ 1

/-- What an actor knows at a program counter. -/
@[mk_iff]
structure Asserts (actor : Actor Tid) (s : Rproc Tid) (pc : Pc) : Prop where
  lock : s.lock = some actor ↔ pc.holdsLock = true
  crashLock : s.crashLock = some actor ↔ pc.holdsCrashLock = true
  admitted : pc.admitted = true → s.deleting = false
  mayStart : pc.mayStart = true → s.fenced = false
  running : actor = .worker → (s.running = true ↔ pc ≠ .idle)
  marked : pc.pastMark = true → s.deleting = true
  flushing : pc.flushing = true → s.queued = false
  drained : pc.pastFlush = true → s.drained = true
  fenced : pc.pastLock = true → s.fenced = true
  stopping : pc.stopping = true → s.subdevsStarted = false
  settled : pc.holdsLock = true → (∀ boot, pc ≠ .start boot .setState) → s.Settled
  stopped : pc.pastStop = true → s.interrupted = false →
    s.subdevsStarted = false ∧ s.fenced = true

/-- What the moves of an actor guarantee to the others. -/
@[mk_iff]
structure Guarantee (actor : Actor Tid) (s s' : Rproc Tid) : Prop where
  lock : ∀ other ≠ actor, (s'.lock = some other ↔ s.lock = some other)
  crashLock : ∀ other ≠ actor, (s'.crashLock = some other ↔ s.crashLock = some other)
  deleting : s.crashLock ≠ some actor → s'.deleting = s.deleting
  marked : s.deleting = true → s'.deleting = true
  queued : s.deleting = true → s.queued = false → s'.queued = false
  running : actor ≠ .worker → s'.running = s.running
  drained : s.drained = true → s'.drained = true
  fenced : s.fenced = true → s'.fenced = true
  fences : s.lock ≠ none → s'.fenced = s.fenced
  interrupted : s.interrupted = true → s'.interrupted = true
  guarded : s.lock ≠ some actor → s'.state = s.state ∧ s'.subdevsStarted = s.subdevsStarted
  stopped : s.fenced = true → s.subdevsStarted = false → s'.subdevsStarted = false
  starts : s.fenced = true → s'.starts = s.starts

/-- What a move to `s'` and `pc'` has to show. -/
def Keeps (actor : Actor Tid) (s s' : Rproc Tid) (pc' : Pc) : Prop :=
  s'.Sound ∧ Asserts actor s' pc' ∧ Guarantee actor s s'

/-! ## What a move does to the shared state -/

/-- What a move does to the shared state, and under which lock. -/
inductive Effect (actor : Actor Tid) (s : Rproc Tid) : Rproc Tid → Prop
  | unguarded (awake signal : Bool) : Effect actor s { s with awake := awake, signal := signal }
  | lock (fenced : Bool) (hfree : s.lock = none) (hkept : s.fenced = true → fenced = true)
    (hdeleting : fenced = true → s.deleting = true) :
    Effect actor s { s with lock := some actor, fenced := fenced }
  | unlock (hheld : s.lock = some actor) (hsettled : s.Settled) :
    Effect actor s { s with lock := none }
  | guarded (state : RprocState) (power : ℤ) (hheld : s.lock = some actor) :
    Effect actor s { s with state := state, power := power }
  | stopSubdevices (hheld : s.lock = some actor) : Effect actor s s.stopSubdevices
  | start (hheld : s.lock = some actor) (hfenced : s.fenced = false) :
    Effect actor s { s with starts := s.starts + 1 }
  | startSubdevices (hheld : s.lock = some actor) (hfenced : s.fenced = false) :
    Effect actor s { s with subdevsStarted := true, stopPasses := 0 }
  | giveUp (interrupted : Bool) (hkept : s.interrupted = true → interrupted = true) :
    Effect actor s { s with interrupted := interrupted }
  | lockCrash (hfree : s.crashLock = none) : Effect actor s { s with crashLock := some actor }
  | unlockCrash (hheld : s.crashLock = some actor) : Effect actor s { s with crashLock := none }
  | queue (hheld : s.crashLock = some actor) (hdeleting : s.deleting = false) :
    Effect actor s { s with queued := true }
  | mark (hheld : s.crashLock = some actor) : Effect actor s { s with deleting := true }
  | cancel : Effect actor s { s with queued := false }
  | drain (hdeleting : s.deleting = true) (hqueued : s.queued = false) (hidle : s.running = false) :
    Effect actor s { s with drained := true }
  | run (hworker : actor = .worker) (hqueued : s.queued = true) :
    Effect actor s { s with queued := false, running := true }
  | finish (hworker : actor = .worker) : Effect actor s { s with running := false }

theorem Rproc.stopSubdevices_eq (s : Rproc Tid) :
    s.stopSubdevices = { s with
      subdevsStarted := false
      stopPasses := if s.subdevsStarted then s.stopPasses + 1 else s.stopPasses } := by
  unfold Rproc.stopSubdevices
  split
  · rfl
  · rename_i hstopped
    rw [Bool.not_eq_true] at hstopped
    rw [← hstopped]

variable {actor : Actor Tid} {s s' : Rproc Tid}

theorem Effect.sound (heffect : Effect actor s s') (hsound : s.Sound) : s'.Sound := by
  obtain ⟨hdrained, hfenced, hsettled, hfresh, honce⟩ := hsound
  cases heffect with
  | unguarded awake signal => exact ⟨hdrained, hfenced, hsettled, hfresh, honce⟩
  | lock fenced hfree hkept hdeleting =>
    exact ⟨hdrained, hdeleting, fun h ↦ absurd h (Option.some_ne_none actor), hfresh, honce⟩
  | unlock hheld hunlocked => exact ⟨hdrained, hfenced, fun _ ↦ hunlocked, hfresh, honce⟩
  | guarded state power hheld =>
    refine ⟨hdrained, hfenced, fun h ↦ ?_, hfresh, honce⟩
    exact absurd (h.symm.trans hheld) (Option.some_ne_none actor).symm
  | stopSubdevices hheld =>
    rw [Rproc.stopSubdevices_eq]
    refine ⟨hdrained, hfenced, fun _ h ↦ absurd h Bool.false_ne_true,
      fun h ↦ absurd h Bool.false_ne_true, ?_⟩
    dsimp only
    split
    · rename_i hstarted
      have hzero : s.stopPasses = 0 := hfresh hstarted
      omega
    · exact honce
  | start hheld hunfenced => exact ⟨hdrained, hfenced, hsettled, hfresh, honce⟩
  | startSubdevices hheld hunfenced =>
    refine ⟨hdrained, hfenced, fun h ↦ ?_, fun _ ↦ rfl, Nat.zero_le 1⟩
    exact absurd (h.symm.trans hheld) (Option.some_ne_none actor).symm
  | giveUp interrupted hkept =>
    exact ⟨hdrained, hfenced, fun h hstarted ↦ (hsettled h hstarted).imp_left hkept, hfresh, honce⟩
  | lockCrash hfree => exact ⟨hdrained, hfenced, hsettled, hfresh, honce⟩
  | unlockCrash hheld => exact ⟨hdrained, hfenced, hsettled, hfresh, honce⟩
  | queue hheld hdeleting =>
    refine ⟨fun h ↦ ?_, hfenced, hsettled, hfresh, honce⟩
    exact absurd (hdeleting.symm.trans (hdrained h).2.2) Bool.false_ne_true
  | mark hheld =>
    exact ⟨fun h ↦ ⟨(hdrained h).1, (hdrained h).2.1, rfl⟩, fun _ ↦ rfl, hsettled, hfresh, honce⟩
  | cancel => exact ⟨fun h ↦ ⟨rfl, (hdrained h).2⟩, hfenced, hsettled, hfresh, honce⟩
  | drain hdeleting hqueued hidle =>
    exact ⟨fun _ ↦ ⟨hqueued, hidle, hdeleting⟩, hfenced, hsettled, hfresh, honce⟩
  | run hworker hqueued =>
    refine ⟨fun h ↦ ?_, hfenced, hsettled, hfresh, honce⟩
    exact absurd ((hdrained h).1.symm.trans hqueued) Bool.false_ne_true
  | finish hworker =>
    exact ⟨fun h ↦ ⟨(hdrained h).1, rfl, (hdrained h).2.2⟩, hfenced, hsettled, hfresh, honce⟩

theorem Effect.guarantee (heffect : Effect actor s s') :
    Guarantee actor s s' := by
  have hother : ∀ other, ¬other = actor → ¬actor = other := fun _ h ↦ Ne.symm h
  rw [guarantee_iff]
  cases heffect with
  | unguarded awake signal => simp
  | lock fenced hfree hkept hdeleting => simpa [hfree] using ⟨hother, hkept⟩
  | unlock hheld hsettled => simpa [hheld] using hother
  | guarded state power hheld => simp [hheld]
  | stopSubdevices hheld => simp [Rproc.stopSubdevices_eq, hheld]
  | start hheld hfenced => simp [hfenced]
  | startSubdevices hheld hfenced => simp [hheld, hfenced]
  | giveUp interrupted hkept => simpa using hkept
  | lockCrash hfree => simpa [hfree] using hother
  | unlockCrash hheld => simpa [hheld] using hother
  | queue hheld hdeleting => simp [hdeleting]
  | mark hheld => simp [hheld]
  | cancel => simp
  | drain hdeleting hqueued hidle => simp
  | run hworker hqueued => simp [hworker]
  | finish hworker => simp [hworker]

/-- Taking the lock on behalf of anyone but the removal. -/
theorem Effect.take {s : Rproc Tid} (actor : Actor Tid) (hsound : s.Sound) (hfree : s.lock = none) :
    Effect actor s { s with lock := some actor } :=
  .lock s.fenced hfree id hsound.fenced

/-! ## The procedures -/

section

variable {actor : Actor Tid} {tid : Tid} {s s' : Rproc Tid} {pc' : Pc}

theorem report_effect {pc : ReportPc} (hasserts : Asserts actor s (.report pc))
    (hmove : ReportMove actor s pc s' pc') : Effect actor s s' := by
  cases hmove with
  | lock hfree => exact .lockCrash hfree
  | deleting | proceed => exact .unguarded s.awake s.signal
  | stayAwake => exact .unguarded true s.signal
  | queue => exact .queue (hasserts.crashLock.2 rfl) (hasserts.admitted rfl)
  | unlock => exact .unlockCrash (hasserts.crashLock.2 rfl)

theorem report_asserts {pc : ReportPc} (hasserts : Asserts (.task tid) s (.report pc))
    (hmove : ReportMove (.task tid) s pc s' pc') : Asserts (.task tid) s' pc' := by
  rw [asserts_iff] at hasserts ⊢
  cases hmove <;> simp at hasserts ⊢ <;> grind -ring -linarith

theorem work_effect {pc : WorkPc} (hsound : s.Sound) (hasserts : Asserts .worker s (.work pc))
    (hmove : WorkMove .worker s pc s' pc') : Effect .worker s s' := by
  cases hmove with
  | lock hfree => exact .take .worker hsound hfree
  | deleting | proceed | crashed | first | leave => exact .unguarded s.awake s.signal
  | mark => exact .guarded .crashed s.power (hasserts.lock.2 rfl)
  | unlockReturn | unlockOut | recover | recoveryDisabled =>
    exact .unlock (hasserts.lock.2 rfl) (hasserts.settled rfl nofun)
  | relax => exact .unguarded false s.signal
  | finish => exact .finish rfl

theorem work_asserts {pc : WorkPc} (hsound : s.Sound) (hasserts : Asserts .worker s (.work pc))
    (hmove : WorkMove .worker s pc s' pc') : Asserts .worker s' pc' := by
  have hsettled := hsound.settled
  rw [asserts_iff] at hasserts ⊢
  cases hmove <;>
    simp [Rproc.Settled, RprocState.Stoppable] at hsettled hasserts ⊢ <;>
    grind -ring -linarith

theorem recovery_effect {pc : RecoveryPc} (hsound : s.Sound)
    (hasserts : Asserts actor s (.recovery pc)) (hmove : RecoveryMove actor s pc s' pc') :
    Effect actor s s' := by
  cases hmove with
  | lock hfree => exact .take actor hsound hfree
  | interrupted | deleting | proceed | changed | crashed | stopFailed =>
    exact .unguarded s.awake s.signal
  | stopSubdevices => exact .stopSubdevices (hasserts.lock.2 rfl)
  | stopped => exact .guarded .offline s.power (hasserts.lock.2 rfl)
  | detached => exact .guarded .detached s.power (hasserts.lock.2 rfl)
  | unlock => exact .unlock (hasserts.lock.2 rfl) (hasserts.settled rfl nofun)

theorem asserts_afterRecovery (hasserts : Asserts actor s (.recovery .lock)) :
    Asserts actor s actor.afterRecovery := by
  rw [asserts_iff] at hasserts ⊢
  cases actor <;> simpa [Actor.afterRecovery] using hasserts

theorem recovery_asserts {pc : RecoveryPc} (hsound : s.Sound)
    (hasserts : Asserts actor s (.recovery pc)) (hmove : RecoveryMove actor s pc s' pc') :
    Asserts actor s' pc' := by
  have hfenced := hsound.fenced
  have hsettled := hsound.settled
  cases hmove with
  | interrupted => exact asserts_afterRecovery hasserts
  | unlock =>
    apply asserts_afterRecovery
    rw [asserts_iff] at hasserts ⊢
    simp at hasserts ⊢
    grind -ring -linarith
  | _ =>
    rw [asserts_iff] at hasserts ⊢
    simp [Rproc.Settled, RprocState.Stoppable, Rproc.stopSubdevices_eq] at hsettled hasserts ⊢
    grind -ring -linarith

theorem boot_effect {pc : BootPc} (hsound : s.Sound) (hasserts : Asserts actor s (.boot pc))
    (hmove : BootMove actor s pc s' pc') : Effect actor s s' := by
  cases hmove with
  | lock hfree => exact .take actor hsound hfree
  | interrupted | deleting | proceed | deleted | present => exact .unguarded s.awake s.signal
  | shared | first | put => exact .guarded s.state _ (hasserts.lock.2 rfl)
  | unlock => exact .unlock (hasserts.lock.2 rfl) (hasserts.settled rfl nofun)

theorem boot_asserts {pc : BootPc} (hsound : s.Sound) (hasserts : Asserts (.task tid) s (.boot pc))
    (hmove : BootMove (.task tid) s pc s' pc') : Asserts (.task tid) s' pc' := by
  have hfenced := hsound.fenced
  have hsettled := hsound.settled
  rw [asserts_iff] at hasserts ⊢
  cases hmove <;> simp [Rproc.Settled] at hsettled hasserts ⊢ <;> grind -ring -linarith

theorem start_effect {boot : Bool} {pc : StartPc} (hasserts : Asserts actor s (.start boot pc))
    (hmove : StartMove s boot pc s' pc') : Effect actor s s' := by
  have hheld : s.lock = some actor := hasserts.lock.2 rfl
  have hfenced : s.fenced = false := hasserts.mayStart rfl
  cases hmove with
  | unprepared | subdevicesFailed => exact .unguarded s.awake s.signal
  | start | startFailed => exact .start hheld hfenced
  | startSubdevices => exact .startSubdevices hheld hfenced
  | running => exact .guarded .running s.power hheld
  | attached => exact .guarded .attached s.power hheld

theorem start_asserts {boot : Bool} {pc : StartPc} (hasserts : Asserts actor s (.start boot pc))
    (hmove : StartMove s boot pc s' pc') : Asserts actor s' pc' := by
  rw [asserts_iff] at hasserts ⊢
  cases hmove <;> cases boot <;>
    simp [Rproc.Settled, RprocState.Stoppable, Pc.started, Pc.startFailed] at hasserts ⊢ <;>
    grind -ring -linarith

theorem shutdown_effect {force : Bool} {pc : ShutdownPc} (hsound : s.Sound)
    (hasserts : Asserts actor s (.shutdown force pc))
    (hmove : ShutdownMove actor s force pc s' pc') : Effect actor s s' := by
  cases hmove with
  | lock hfree =>
    refine .lock (s.fenced || force) hfree (fun h ↦ ?_) (fun h ↦ ?_)
    · rw [h, Bool.true_or]
    · rw [Bool.or_eq_true] at h
      exact h.elim hsound.fenced hasserts.marked
  | interrupted =>
    refine .giveUp (s.interrupted || force) fun h ↦ ?_
    rw [h, Bool.true_or]
  | refused | proceed => exact .unguarded s.awake s.signal
  | needed | last | stopFailed => exact .guarded s.state _ (hasserts.lock.2 rfl)
  | stopSubdevices => exact .stopSubdevices (hasserts.lock.2 rfl)
  | stopped => exact .guarded .offline s.power (hasserts.lock.2 rfl)
  | unlock => exact .unlock (hasserts.lock.2 rfl) (hasserts.settled rfl nofun)

theorem shutdown_asserts {force : Bool} {pc : ShutdownPc} (hactor : actor ≠ .worker)
    (hsound : s.Sound) (hasserts : Asserts actor s (.shutdown force pc))
    (hmove : ShutdownMove actor s force pc s' pc') : Asserts actor s' pc' := by
  have hsettled := hsound.settled
  rw [asserts_iff] at hasserts ⊢
  cases hmove <;> cases force <;>
    simp [hactor, Rproc.Settled, Rproc.stopSubdevices_eq, Pc.afterShutdown]
      at hsettled hasserts ⊢ <;>
    grind -ring -linarith

theorem del_effect {pc : DelPc} (hasserts : Asserts actor s (.del pc))
    (hmove : DelMove actor s pc s' pc') : Effect actor s s' := by
  cases hmove with
  | lockCrash hfree => exact .lockCrash hfree
  | mark => exact .mark (hasserts.crashLock.2 rfl)
  | unlockCrash => exact .unlockCrash (hasserts.crashLock.2 rfl)
  | cancel => exact .cancel
  | flushPending hidle | flush hidle =>
    exact .drain (hasserts.marked rfl) (hasserts.flushing rfl) hidle
  | relax => exact .unguarded false s.signal
  | lock hfree => exact .lock true hfree (fun _ ↦ rfl) fun _ ↦ hasserts.marked rfl
  | setDeleted => exact .guarded .deleted s.power (hasserts.lock.2 rfl)
  | unlock => exact .unlock (hasserts.lock.2 rfl) (hasserts.settled rfl nofun)

theorem del_asserts {pc : DelPc} (hsound : s.Sound) (hasserts : Asserts .remover s (.del pc))
    (hmove : DelMove .remover s pc s' pc') : Asserts .remover s' pc' := by
  have hsettled := hsound.settled
  rw [asserts_iff] at hasserts ⊢
  cases hmove <;> simp [Rproc.Settled] at hsettled hasserts ⊢ <;> grind -ring -linarith

end

section

variable {pc pc' : Pc} (hsound : s.Sound) (hasserts : Asserts actor s pc) (hmove : Move actor s pc s' pc')
include hsound hasserts hmove

/-- Every move has one of the effects. -/
theorem move_effect : Effect actor s s' := by
  cases hmove with
  | call | remove => exact .unguarded s.awake s.signal
  | signal => exact .unguarded s.awake true
  | run hqueued => exact .run rfl hqueued
  | report h => exact report_effect hasserts h
  | work h => exact work_effect hsound hasserts h
  | recovery h => exact recovery_effect hsound hasserts h
  | boot h => exact boot_effect hsound hasserts h
  | start h => exact start_effect hasserts h
  | shutdown h | shutdownForced h => exact shutdown_effect hsound hasserts h
  | del h => exact del_effect hasserts h

/-- After every move the actor knows what its new program counter asserts. -/
theorem move_asserts : Asserts actor s' pc' := by
  cases hmove with
  | call hcall =>
    rw [asserts_iff] at hasserts ⊢
    cases hcall <;> simpa using hasserts
  | signal | remove =>
    rw [asserts_iff] at hasserts ⊢
    simpa using hasserts
  | run =>
    rw [asserts_iff] at hasserts ⊢
    simp at hasserts ⊢
    exact ⟨hasserts.1, hasserts.2.1⟩
  | report h => exact report_asserts hasserts h
  | work h => exact work_asserts hsound hasserts h
  | recovery h => exact recovery_asserts hsound hasserts h
  | boot h => exact boot_asserts hsound hasserts h
  | start h => exact start_asserts hasserts h
  | shutdown h | shutdownForced h => exact shutdown_asserts nofun hsound hasserts h
  | del h => exact del_asserts hsound hasserts h

theorem move_keeps : Keeps actor s s' pc' := by
  have heffect := move_effect hsound hasserts hmove
  exact ⟨heffect.sound hsound, move_asserts hsound hasserts hmove, heffect.guarantee⟩

end

theorem Pc.holdsCrashLock_of_admitted (pc : Pc) (hadmitted : pc.admitted = true) :
    pc.holdsCrashLock = true := by
  cases pc with
  | report pc => cases pc <;> simp_all
  | _ => simp at hadmitted

theorem Pc.holdsLock_of_mayStart (pc : Pc) (hstart : pc.mayStart = true) :
    pc.holdsLock = true := by
  cases pc with
  | recovery pc => cases pc <;> simp_all
  | boot pc => cases pc <;> simp_all
  | start boot pc => rfl
  | _ => simp at hstart

theorem Pc.holdsLock_of_stopping (pc : Pc) (hstopping : pc.stopping = true) :
    pc.holdsLock = true := by
  cases pc with
  | recovery pc => cases pc <;> simp_all
  | shutdown force pc => cases pc <;> simp_all
  | _ => simp at hstopping

theorem Pc.pastMark_of_flushing (pc : Pc) (hflushing : pc.flushing = true) :
    pc.pastMark = true := by
  cases pc with
  | del pc => cases pc <;> simp_all
  | _ => simp at hflushing

/-- What an actor knows survives the moves of the others. -/
theorem asserts_stable {actor other : Actor Tid} {pc : Pc} (hother : other ≠ actor)
    (hasserts : Asserts other s pc) (hguarantee : Guarantee actor s s') :
    Asserts other s' pc := by
  have hheld : pc.holdsLock = true → s.lock ≠ none ∧ s.lock ≠ some actor := by
    intro hlock
    rw [hasserts.lock.2 hlock]
    exact ⟨Option.some_ne_none other, fun h ↦ hother (Option.some.inj h)⟩
  have hguarded := fun hlock ↦ hguarantee.guarded (hheld hlock).2
  constructor
  · exact (hguarantee.lock other hother).trans hasserts.lock
  · exact (hguarantee.crashLock other hother).trans hasserts.crashLock
  · intro hadmitted
    have hcrashLock : s.crashLock = some other :=
      hasserts.crashLock.2 (pc.holdsCrashLock_of_admitted hadmitted)
    rw [hguarantee.deleting]
    · exact hasserts.admitted hadmitted
    · rw [hcrashLock]
      exact fun h ↦ hother (Option.some.inj h)
  · intro hstart
    rw [hguarantee.fences (hheld (pc.holdsLock_of_mayStart hstart)).1]
    exact hasserts.mayStart hstart
  · intro hworker
    rw [hguarantee.running fun hactor ↦ hother (hworker.trans hactor.symm)]
    exact hasserts.running hworker
  · exact fun hmarked ↦ hguarantee.marked (hasserts.marked hmarked)
  · intro hflushing
    apply hguarantee.queued (hasserts.marked (pc.pastMark_of_flushing hflushing))
    exact hasserts.flushing hflushing
  · exact fun hdrained ↦ hguarantee.drained (hasserts.drained hdrained)
  · exact fun hfenced ↦ hguarantee.fenced (hasserts.fenced hfenced)
  · intro hstopping
    rw [(hguarded (pc.holdsLock_of_stopping hstopping)).2]
    exact hasserts.stopping hstopping
  · intro hlock hpc hstarted
    rw [(hguarded hlock).2] at hstarted
    rw [(hguarded hlock).1]
    exact (hasserts.settled hlock hpc hstarted).imp_left hguarantee.interrupted
  · intro hstopped hinterrupted
    have hbefore : s.interrupted = false := by
      rw [← Bool.not_eq_true] at hinterrupted ⊢
      exact fun h ↦ hinterrupted (hguarantee.interrupted h)
    obtain ⟨hsubdevs, hfenced⟩ := hasserts.stopped hstopped hbefore
    exact ⟨hguarantee.stopped hfenced hsubdevs, hguarantee.fenced hfenced⟩

/-- The proof outline of the life cycle. -/
def outline : Outline (@Move Tid) where
  invariant := Rproc.Sound
  asserts := Asserts
  guarantee := Guarantee
  keeps := move_keeps
  stable := asserts_stable

theorem outline_initial {system : System (Actor Tid) (Rproc Tid) Pc} (hinitial : Initial system) :
    outline.Holds system := by
  refine ⟨?_, fun actor ↦ ?_⟩
  · constructor
    · rw [hinitial.drained]
      exact fun h ↦ absurd h Bool.false_ne_true
    · rw [hinitial.fenced]
      exact fun h ↦ absurd h Bool.false_ne_true
    · exact fun _ hstarted ↦ .inr (hinitial.subdevs hstarted)
    · exact fun _ ↦ hinitial.stopPasses
    · rw [hinitial.stopPasses]
      exact Nat.zero_le 1
  · change Asserts actor system.shared (system.pc actor)
    rw [hinitial.idle, asserts_iff, hinitial.lock, hinitial.crashLock, hinitial.running]
    simp

/-- What holds once `rproc_del` has returned. -/
theorem returned_quiet {system : System (Actor Tid) (Rproc Tid) Pc}
    (hholds : outline.Holds system) (hreturned : system.pc .remover = .del .returned) :
    system.shared.queued = false ∧ system.pc .worker = .idle ∧ system.shared.fenced = true := by
  have hremover : Asserts .remover system.shared (system.pc .remover) := hholds.2 .remover
  have hworker : Asserts .worker system.shared (system.pc .worker) := hholds.2 .worker
  rw [hreturned] at hremover
  obtain ⟨hqueued, hrunning, -⟩ := hholds.1.drained (hremover.drained rfl)
  refine ⟨hqueued, ?_, hremover.fenced rfl⟩
  by_contra hbusy
  rw [(hworker.running rfl).2 hbusy] at hrunning
  exact Bool.noConfusion hrunning

section Removal

variable [DecidableEq Tid]

variable {before after : System (Actor Tid) (Rproc Tid) Pc}

/-- Nothing follows the return of `rproc_del`. -/
theorem returned_step (hreturned : before.pc .remover = .del .returned)
    (hstep : Step Move before after) :
    after.pc .remover = .del .returned := by
  obtain ⟨actor, shared, pc, hmove, rfl⟩ := hstep
  dsimp only
  by_cases hactor : .remover = actor
  · subst hactor
    rw [hreturned] at hmove
    cases hmove with
    | del h => cases h
  · rw [Function.update_of_ne hactor, hreturned]

theorem fenced_step (hholds : outline.Holds before) (hfenced : before.shared.fenced = true)
    (hstep : Step Move before after) : after.shared.starts = before.shared.starts := by
  obtain ⟨actor, shared, pc, hmove, rfl⟩ := hstep
  exact (move_keeps hholds.1 (hholds.2 actor) hmove).2.2.starts hfenced

/-- After `rproc_del` has returned, in every continuation of the run, the crash handler is neither
queued nor running and the processor is not started. -/
theorem rprocDel_quiesces {initial system later : System (Actor Tid) (Rproc Tid) Pc}
    (hinitial : Initial initial) (hrun : Run Move initial system)
    (hreturned : system.pc .remover = .del .returned) (hlater : Run Move system later) :
    later.shared.queued = false ∧ later.pc .worker = .idle ∧
      later.shared.starts = system.shared.starts := by
  have hholds := outline.holds_run (outline_initial hinitial) hrun
  suffices h : later.pc .remover = .del .returned ∧ outline.Holds later ∧
      later.shared.starts = system.shared.starts by
    obtain ⟨hlaterReturned, hlaterHolds, hstarts⟩ := h
    obtain ⟨hqueued, hworker, -⟩ := returned_quiet hlaterHolds hlaterReturned
    exact ⟨hqueued, hworker, hstarts⟩
  induction hlater with
  | refl => exact ⟨hreturned, hholds, rfl⟩
  | tail _ hstep ih =>
    obtain ⟨hmiddle, hmiddleHolds, hstarts⟩ := ih
    refine ⟨returned_step hmiddle hstep, outline.holds_step hmiddleHolds hstep, ?_⟩
    rw [fenced_step hmiddleHolds (returned_quiet hmiddleHolds hmiddle).2.2 hstep, hstarts]

/-- A signal makes the forced shutdown give up while it waits for the lock. -/
def GivesUp (before after : System (Actor Tid) (Rproc Tid) Pc) : Prop :=
  before.pc .remover = .shutdown true .lock ∧ after.pc .remover = .del .lock

omit [DecidableEq Tid] in
instance (before after : System (Actor Tid) (Rproc Tid) Pc) : Decidable (GivesUp before after) :=
  inferInstanceAs (Decidable (_ ∧ _))

omit [DecidableEq Tid] in
@[simp] theorem interrupted_stopSubdevices (s : Rproc Tid) :
    s.stopSubdevices.interrupted = s.interrupted := by
  rw [Rproc.stopSubdevices_eq]

theorem interrupted_step (hinterrupted : before.shared.interrupted = false)
    (hstep : Step Move before after) (hgivesUp : ¬GivesUp before after) :
    after.shared.interrupted = false := by
  obtain ⟨actor, shared, pc, hmove, rfl⟩ := hstep
  dsimp only
  generalize hpc : before.pc actor = current at hmove
  cases hmove with
  | report h => cases h <;> exact hinterrupted
  | work h => cases h <;> exact hinterrupted
  | recovery h => cases h <;> simpa using hinterrupted
  | boot h => cases h <;> exact hinterrupted
  | start h => cases h <;> exact hinterrupted
  | shutdown h => cases h <;> simpa using hinterrupted
  | shutdownForced h =>
    cases h with
    | interrupted =>
      refine absurd ⟨hpc, ?_⟩ hgivesUp
      exact Function.update_self Actor.remover (Pc.del .lock) before.pc
    | stopSubdevices => simpa using hinterrupted
    | _ => exact hinterrupted
  | del h => cases h <;> exact hinterrupted
  | _ => exact hinterrupted

/-- In every run in which no signal makes the forced shutdown give up, each start of the subdevices
is followed by at most one stop pass before the next start, and the subdevices are not left started
when `rproc_del` returns. -/
theorem rprocDel_stops_subdevices {initial system : System (Actor Tid) (Rproc Tid) Pc}
    (hinitial : Initial initial)
    (hrun : RunWhere Move (fun before after ↦ ¬GivesUp before after) initial system) :
    system.shared.stopPasses ≤ 1 ∧
      (system.pc .remover = .del .returned → system.shared.subdevsStarted = false) := by
  suffices h : outline.Holds system ∧ system.shared.interrupted = false by
    obtain ⟨hholds, hinterrupted⟩ := h
    refine ⟨hholds.1.once, fun hreturned ↦ ?_⟩
    have hremover : Asserts .remover system.shared (system.pc .remover) := hholds.2 .remover
    rw [hreturned] at hremover
    exact (hremover.stopped rfl hinterrupted).1
  induction hrun with
  | refl => exact ⟨outline_initial hinitial, hinitial.interrupted⟩
  | tail _ hstep ih =>
    obtain ⟨hholds, hinterrupted⟩ := ih
    exact ⟨outline.holds_step hholds hstep.1, interrupted_step hinterrupted hstep.1 hstep.2⟩

end Removal

end

/-- A running processor with started subdevices. -/
def runningRproc : Rproc ℕ where
  state := .running
  power := 1
  subdevsStarted := true
  deleting := false
  queued := false
  running := false
  awake := false
  signal := false
  crashLock := none
  lock := none
  starts := 1
  stopPasses := 0
  drained := false
  fenced := false
  interrupted := false

/-- Nobody has called anything yet. -/
def runningSystem : System (Actor ℕ) (Rproc ℕ) Pc := ⟨runningRproc, fun _ ↦ .idle⟩

theorem initial_runningSystem : Initial runningSystem :=
  ⟨fun _ ↦ rfl, rfl, rfl, rfl, rfl, rfl, fun _ ↦ .inl rfl, rfl, rfl, rfl, rfl⟩

/-- A removal that is called while the worker recovers the processor from a crash that a task has
reported.  Another task has called for a boot by then and gets the lock before the removal does.  After
the removal has returned, a crash is reported and a boot is under way once more. -/
theorem run_removal : ∃ system later,
    RunWhere Move (fun before after ↦ ¬GivesUp before after) runningSystem system ∧
    system.pc .remover = .del .returned ∧ system.shared.starts = 2 ∧
    Run Move system later ∧ later.pc (.task 1) = .boot .unlock := by
  have hstart : RunWhere Move (fun before after ↦ ¬GivesUp before after) runningSystem
    runningSystem := Relation.ReflTransGen.refl
  have hreported := ((((hstart.move (.task 0) (.call .report) (by decide)).move (.task 0)
    (.report (.lock rfl)) (by decide)).move (.task 0) (.report (.proceed rfl)) (by decide)).move
    (.task 0) (.report .stayAwake) (by decide)).move (.task 0) (.report .queue) (by decide)
  have hcrashed := (((((hreported.move (.task 0) (.report .unlock) (by decide)).move .worker
    (.run rfl) (by decide)).move .worker (.work (.lock rfl)) (by decide)).move .worker
    (.work (.proceed rfl)) (by decide)).move .worker (.work (.first (by decide))) (by decide)).move
    .worker (.work .mark) (by decide)
  have hrecovering := ((((hcrashed.move .worker (.work .recover) (by decide)).move .worker
    (.recovery (.lock rfl)) (by decide)).move .worker (.recovery (.proceed rfl)) (by decide)).move
    .worker (.recovery (.crashed rfl)) (by decide)).move .worker (.recovery .stopSubdevices)
    (by decide)
  have hstarting := ((hrecovering.move .worker (.recovery .stopped) (by decide)).move .worker
    (.start .start) (by decide)).move (.task 1) (.call .boot) (by decide)
  have hmarked := (((hstarting.move .remover .remove (by decide)).move .remover
    (.del (.lockCrash rfl)) (by decide)).move .remover (.del .mark) (by decide)).move .remover
    (.del .unlockCrash) (by decide)
  have hrecovered := (((hmarked.move .remover (.del .cancel) (by decide)).move .worker
    (.start .startSubdevices) (by decide)).move .worker (.start .running) (by decide)).move .worker
    (.recovery .unlock) (by decide)
  have hdrained := ((hrecovered.move .worker (.work .relax) (by decide)).move .worker
    (.work .finish) (by decide)).move .remover (.del (.flush rfl)) (by decide)
  have hrefused := ((hdrained.move (.task 1) (.boot (.lock rfl)) (by decide)).move (.task 1)
    (.boot (.deleting rfl)) (by decide)).move (.task 1) (.boot .unlock) (by decide)
  have hstopping := ((hrefused.move .remover (.shutdownForced (.lock rfl)) (by decide)).move
    .remover (.shutdownForced (.proceed (.inl rfl))) (by decide)).move .remover
    (.shutdownForced (.last (.inl rfl))) (by decide)
  have hstopped := ((hstopping.move .remover (.shutdownForced .stopSubdevices) (by decide)).move
    .remover (.shutdownForced .stopped) (by decide)).move .remover (.shutdownForced .unlock)
    (by decide)
  have hreturned := ((hstopped.move .remover (.del (.lock rfl)) (by decide)).move .remover
    (.del .setDeleted) (by decide)).move .remover (.del .unlock) (by decide)
  -- The empty run from the end of a run on.
  have hstays {system} (_ : RunWhere Move (fun before after ↦ ¬GivesUp before after) runningSystem
    system) : Run Move system system := Relation.ReflTransGen.refl
  have hreport := (((hstays hreturned).move (.task 0) (.call .report)).move (.task 0)
    (.report (.lock rfl))).move (.task 0) (.report (.deleting rfl))
  have hbooting := (((hreport.move (.task 0) (.report .unlock)).move (.task 1) (.call .boot)).move
    (.task 1) (.boot (.lock rfl))).move (.task 1) (.boot (.deleting rfl))
  exact ⟨_, _, hreturned, rfl, rfl, hbooting, rfl⟩

theorem rprocDel_quiesces_runningSystem : ∃ system later, Run Move runningSystem system ∧
    system.pc .remover = .del .returned ∧ system.shared.starts = 2 ∧ Run Move system later ∧
    later.pc (.task 1) = .boot .unlock ∧ later.shared.queued = false ∧ later.pc .worker = .idle ∧
    later.shared.starts = 2 := by
  obtain ⟨system, later, hrun, hreturned, hstarts, hlater, hbooting⟩ := run_removal
  have hquiet := rprocDel_quiesces initial_runningSystem hrun.run hreturned hlater
  exact ⟨system, later, hrun.run, hreturned, hstarts, hlater, hbooting, hquiet.1, hquiet.2.1,
    hquiet.2.2.trans hstarts⟩

theorem rprocDel_stops_subdevices_runningSystem : ∃ system, Run Move runningSystem system ∧
    system.pc .remover = .del .returned ∧ system.shared.subdevsStarted = false := by
  obtain ⟨system, -, hrun, hreturned, -⟩ := run_removal
  exact ⟨system, hrun.run, hreturned,
    (rprocDel_stops_subdevices initial_runningSystem hrun).2 hreturned⟩

/-- A task boots the running processor once more and holds the lock when the removal, for which a
signal is pending, wants to shut the processor down.  The removal returns and the subdevices are
still started. -/
theorem rprocDel_interrupted : ∃ system, Initial runningSystem ∧ Run Move runningSystem system ∧
    system.pc .remover = .del .returned ∧ system.shared.subdevsStarted = true := by
  have hstart : Run Move runningSystem runningSystem := Relation.ReflTransGen.refl
  have hbooting := (hstart.move (.task 0) (.call .boot)).move (.task 0) (.boot (.lock rfl))
  have hmarked := (((hbooting.move .remover .remove).move .remover (.del (.lockCrash rfl))).move
    .remover (.del .mark)).move .remover (.del .unlockCrash)
  have hdrained := (hmarked.move .remover (.del .cancel)).move .remover (.del (.flush rfl))
  have hgaveUp := (hdrained.move (.task 1) .signal).move .remover
    (.shutdownForced (.interrupted (Option.some_ne_none _) fun _ ↦ rfl))
  have hbooted := (hgaveUp.move (.task 0) (.boot (.deleting rfl))).move (.task 0) (.boot .unlock)
  have hreturned := ((hbooted.move .remover (.del (.lock rfl))).move .remover
    (.del .setDeleted)).move .remover (.del .unlock)
  exact ⟨_, initial_runningSystem, hreturned, rfl, rfl⟩

end TclB220G.Remoteproc
