import TclB220G.Lib.Interleaving
import Mathlib.Data.Int.Notation
import Mathlib.Data.Nat.Notation

/-!
# The life cycle of a remote processor

Any number of tasks report crashes, trigger recovery, boot and shut down one remote processor, one
worker runs its crash handler, and one task removes it.  Each procedure is cut at its lock
operations and at every access to a field that another lock protects, so that all interleavings of
the source appear.

The patched part of each procedure is as in the source.  Its unpatched callees appear as choices:
starting a processor may fail at any point, stopping it stops the subdevices first and may then
fail, and the crash handler may leave alone a processor that it does not find crashed.
-/

namespace TclB220G.Remoteproc

open Lib.Interleaving

/-- The values of `enum rproc_state`. -/
inductive RprocState
  | offline | suspended | running | crashed | deleted | attached | detached
  deriving DecidableEq, Repr

/-- The states that `__rproc_shutdown` stops a processor in. -/
def RprocState.Stoppable (state : RprocState) : Prop :=
  state = .running ∨ state = .attached ∨ state = .crashed

/-- A task, the worker that runs the crash handler, or the task that removes the processor. -/
inductive Actor (Tid : Type)
  | task (tid : Tid)
  | worker
  | remover
  deriving DecidableEq

/-- The fields of `struct rproc` that the procedures read and write, its two locks, its work item
and the wakeup source of its parent.  A signal may be pending for the task that removes the
processor.  The last five fields record what has happened and no procedure reads them: how often
the processor was started, how many stop passes followed the last start of the subdevices, whether
the removal has drained the crash handler, whether it has held the lock since then, and whether a
signal has made it give up its shutdown. -/
structure Rproc (Tid : Type) where
  state : RprocState
  power : ℤ
  subdevsStarted : Bool
  deleting : Bool
  queued : Bool
  running : Bool
  awake : Bool
  signal : Bool
  crashLock : Option (Actor Tid)
  lock : Option (Actor Tid)
  starts : ℕ
  stopPasses : ℕ
  drained : Bool
  fenced : Bool
  interrupted : Bool

inductive ReportPc
  | lock | check | stayAwake | queue | unlock
  deriving DecidableEq

inductive WorkPc
  | lock | checkDeleting | checkState | mark | unlockReturn | unlockOut | unlockRecover | relax
  | finish
  deriving DecidableEq

inductive RecoveryPc
  | lock | checkDeleting | checkState | stopSubdevices | stop | unlock
  deriving DecidableEq

inductive BootPc
  | lock | checkDeleting | checkDeleted | get | put | unlock
  deriving DecidableEq

inductive StartPc
  | start | startSubdevices | setState
  deriving DecidableEq

inductive ShutdownPc
  | lock | checkState | put | stopSubdevices | stop | unlock
  deriving DecidableEq

inductive DelPc
  | lockCrash | mark | unlockCrash | cancel | flush (pending : Bool) | relax | lock | setDeleted
  | unlock | returned
  deriving DecidableEq

/-- Where an actor is.  The processor is started on behalf of a boot or of a recovery, and shut down
by force on behalf of the removal only. -/
inductive Pc
  | idle
  | report (pc : ReportPc)
  | work (pc : WorkPc)
  | recovery (pc : RecoveryPc)
  | boot (pc : BootPc)
  | start (boot : Bool) (pc : StartPc)
  | shutdown (force : Bool) (pc : ShutdownPc)
  | del (pc : DelPc)
  deriving DecidableEq

/-- Where `rproc_trigger_recovery` returns to. -/
def Actor.afterRecovery {Tid : Type} : Actor Tid → Pc
  | .worker => .work .relax
  | _ => .idle

/-- Where `__rproc_shutdown` returns to. -/
def Pc.afterShutdown (force : Bool) : Pc := if force then .del .lock else .idle

/-- Where a start returns to. -/
def Pc.started (boot : Bool) : Pc := if boot then .boot .unlock else .recovery .unlock

/-- Where a start that failed returns to. -/
def Pc.startFailed (boot : Bool) : Pc := if boot then .boot .put else .recovery .unlock

section

variable {Tid : Type}

/-- One pass of `rproc_stop_subdevices`. -/
def Rproc.stopSubdevices (rproc : Rproc Tid) : Rproc Tid :=
  if rproc.subdevsStarted then
    { rproc with subdevsStarted := false, stopPasses := rproc.stopPasses + 1 }
  else rproc

/-- The steps of `rproc_report_crash`. -/
inductive ReportMove (actor : Actor Tid) (s : Rproc Tid) : ReportPc → Rproc Tid → Pc → Prop
  | lock (hfree : s.crashLock = none) :
    ReportMove actor s .lock { s with crashLock := some actor } (.report .check)
  | deleting (hdeleting : s.deleting = true) : ReportMove actor s .check s (.report .unlock)
  | proceed (hdeleting : s.deleting = false) : ReportMove actor s .check s (.report .stayAwake)
  | stayAwake : ReportMove actor s .stayAwake { s with awake := true } (.report .queue)
  | queue : ReportMove actor s .queue { s with queued := true } (.report .unlock)
  | unlock : ReportMove actor s .unlock { s with crashLock := none } .idle

/-- The steps of `rproc_crash_handler_work`. -/
inductive WorkMove (actor : Actor Tid) (s : Rproc Tid) : WorkPc → Rproc Tid → Pc → Prop
  | lock (hfree : s.lock = none) :
    WorkMove actor s .lock { s with lock := some actor } (.work .checkDeleting)
  | deleting (hdeleting : s.deleting = true) :
    WorkMove actor s .checkDeleting s (.work .unlockOut)
  | proceed (hdeleting : s.deleting = false) : WorkMove actor s .checkDeleting s (.work .checkState)
  | crashed (hstate : s.state = .crashed) :
    WorkMove actor s .checkState s (.work .unlockReturn)
  | first (hstate : s.state ≠ .crashed) : WorkMove actor s .checkState s (.work .mark)
  | mark : WorkMove actor s .mark { s with state := .crashed } (.work .unlockRecover)
  | leave : WorkMove actor s .mark s (.work .unlockOut)
  | unlockReturn : WorkMove actor s .unlockReturn { s with lock := none } (.work .finish)
  | unlockOut : WorkMove actor s .unlockOut { s with lock := none } (.work .relax)
  | recover : WorkMove actor s .unlockRecover { s with lock := none } (.recovery .lock)
  | recoveryDisabled : WorkMove actor s .unlockRecover { s with lock := none } (.work .relax)
  | relax : WorkMove actor s .relax { s with awake := false } (.work .finish)
  | finish : WorkMove actor s .finish { s with running := false } .idle

/-- The steps of `rproc_trigger_recovery`, up to the start of the processor. -/
inductive RecoveryMove (actor : Actor Tid) (s : Rproc Tid) : RecoveryPc → Rproc Tid → Pc → Prop
  | lock (hfree : s.lock = none) :
    RecoveryMove actor s .lock { s with lock := some actor } (.recovery .checkDeleting)
  | interrupted (hheld : s.lock ≠ none) : RecoveryMove actor s .lock s actor.afterRecovery
  | deleting (hdeleting : s.deleting = true) :
    RecoveryMove actor s .checkDeleting s (.recovery .unlock)
  | proceed (hdeleting : s.deleting = false) :
    RecoveryMove actor s .checkDeleting s (.recovery .checkState)
  | changed (hstate : s.state ≠ .crashed) :
    RecoveryMove actor s .checkState s (.recovery .unlock)
  | crashed (hstate : s.state = .crashed) :
    RecoveryMove actor s .checkState s (.recovery .stopSubdevices)
  | stopSubdevices :
    RecoveryMove actor s .stopSubdevices s.stopSubdevices (.recovery .stop)
  | stopFailed : RecoveryMove actor s .stop s (.recovery .unlock)
  | stopped : RecoveryMove actor s .stop { s with state := .offline } (.start false .start)
  | detached : RecoveryMove actor s .stop { s with state := .detached } (.start false .start)
  | unlock : RecoveryMove actor s .unlock { s with lock := none } actor.afterRecovery

/-- The steps of `rproc_boot`, up to the start of the processor. -/
inductive BootMove (actor : Actor Tid) (s : Rproc Tid) : BootPc → Rproc Tid → Pc → Prop
  | lock (hfree : s.lock = none) :
    BootMove actor s .lock { s with lock := some actor } (.boot .checkDeleting)
  | interrupted (hheld : s.lock ≠ none) : BootMove actor s .lock s .idle
  | deleting (hdeleting : s.deleting = true) : BootMove actor s .checkDeleting s (.boot .unlock)
  | proceed (hdeleting : s.deleting = false) :
    BootMove actor s .checkDeleting s (.boot .checkDeleted)
  | deleted (hstate : s.state = .deleted) : BootMove actor s .checkDeleted s (.boot .unlock)
  | present (hstate : s.state ≠ .deleted) : BootMove actor s .checkDeleted s (.boot .get)
  | shared (hpower : 1 < s.power + 1) :
    BootMove actor s .get { s with power := s.power + 1 } (.boot .unlock)
  | first (hpower : s.power + 1 ≤ 1) :
    BootMove actor s .get { s with power := s.power + 1 } (.start true .start)
  | put : BootMove actor s .put { s with power := s.power - 1 } (.boot .unlock)
  | unlock : BootMove actor s .unlock { s with lock := none } .idle

/-- Starting or attaching to the processor, with its lock held. -/
inductive StartMove (s : Rproc Tid) (boot : Bool) : StartPc → Rproc Tid → Pc → Prop
  | unprepared : StartMove s boot .start s (Pc.startFailed boot)
  | start :
    StartMove s boot .start { s with starts := s.starts + 1 } (.start boot .startSubdevices)
  | startFailed :
    StartMove s boot .start { s with starts := s.starts + 1 } (Pc.startFailed boot)
  | startSubdevices :
    StartMove s boot .startSubdevices { s with subdevsStarted := true, stopPasses := 0 }
      (.start boot .setState)
  | subdevicesFailed : StartMove s boot .startSubdevices s (Pc.startFailed boot)
  | running : StartMove s boot .setState { s with state := .running } (Pc.started boot)
  | attached : StartMove s boot .setState { s with state := .attached } (Pc.started boot)

/-- The steps of `__rproc_shutdown`.  A task may be interrupted whenever it has to wait for the lock. -/
inductive ShutdownMove (actor : Actor Tid) (s : Rproc Tid) (force : Bool) :
    ShutdownPc → Rproc Tid → Pc → Prop
  | lock (hfree : s.lock = none) :
    ShutdownMove actor s force .lock { s with lock := some actor, fenced := s.fenced || force }
      (.shutdown force .checkState)
  | interrupted (hheld : s.lock ≠ none) (hsignal : force = true → s.signal = true) :
    ShutdownMove actor s force .lock { s with interrupted := s.interrupted || force }
      (Pc.afterShutdown force)
  | refused (hstate : ¬s.state.Stoppable) :
    ShutdownMove actor s force .checkState s (.shutdown force .unlock)
  | proceed (hstate : s.state.Stoppable) :
    ShutdownMove actor s force .checkState s (.shutdown force .put)
  | needed (hpower : s.power - 1 ≠ 0) (hforce : force = false) :
    ShutdownMove actor s force .put { s with power := s.power - 1 } (.shutdown force .unlock)
  | last (hlast : s.power - 1 = 0 ∨ force = true) :
    ShutdownMove actor s force .put { s with power := s.power - 1 }
      (.shutdown force .stopSubdevices)
  | stopSubdevices :
    ShutdownMove actor s force .stopSubdevices s.stopSubdevices (.shutdown force .stop)
  | stopFailed :
    ShutdownMove actor s force .stop { s with power := s.power + 1 } (.shutdown force .unlock)
  | stopped :
    ShutdownMove actor s force .stop { s with state := .offline } (.shutdown force .unlock)
  | unlock :
    ShutdownMove actor s force .unlock { s with lock := none } (Pc.afterShutdown force)

/-- The steps of `rproc_del`, around the forced shutdown. -/
inductive DelMove (actor : Actor Tid) (s : Rproc Tid) : DelPc → Rproc Tid → Pc → Prop
  | lockCrash (hfree : s.crashLock = none) :
    DelMove actor s .lockCrash { s with crashLock := some actor } (.del .mark)
  | mark : DelMove actor s .mark { s with deleting := true } (.del .unlockCrash)
  | unlockCrash : DelMove actor s .unlockCrash { s with crashLock := none } (.del .cancel)
  | cancel : DelMove actor s .cancel { s with queued := false } (.del (.flush s.queued))
  | flushPending (hidle : s.running = false) :
    DelMove actor s (.flush true) { s with drained := true } (.del .relax)
  | flush (hidle : s.running = false) :
    DelMove actor s (.flush false) { s with drained := true } (.shutdown true .lock)
  | relax : DelMove actor s .relax { s with awake := false } (.shutdown true .lock)
  | lock (hfree : s.lock = none) :
    DelMove actor s .lock { s with lock := some actor, fenced := true } (.del .setDeleted)
  | setDeleted : DelMove actor s .setDeleted { s with state := .deleted } (.del .unlock)
  | unlock : DelMove actor s .unlock { s with lock := none } (.del .returned)

/-- A procedure that a task may call. -/
inductive Pc.Call : Pc → Prop
  | report : Pc.Call (.report .lock)
  | recovery : Pc.Call (.recovery .lock)
  | boot : Pc.Call (.boot .lock)
  | shutdown : Pc.Call (.shutdown false .lock)

/-- What an actor may do.  Tasks make calls and send the signal, the worker starts on queued work,
and the removal is called once. -/
inductive Move : Actor Tid → Rproc Tid → Pc → Rproc Tid → Pc → Prop
  | call {tid s pc} (hcall : Pc.Call pc) : Move (.task tid) s .idle s pc
  | signal {tid s} : Move (.task tid) s .idle { s with signal := true } .idle
  | run {s} (hqueued : s.queued = true) :
    Move .worker s .idle { s with queued := false, running := true } (.work .lock)
  | remove {s} : Move .remover s .idle s (.del .lockCrash)
  | report {tid s pc s' pc'} (h : ReportMove (.task tid) s pc s' pc') :
    Move (.task tid) s (.report pc) s' pc'
  | work {s pc s' pc'} (h : WorkMove .worker s pc s' pc') : Move .worker s (.work pc) s' pc'
  | recovery {actor s pc s' pc'} (h : RecoveryMove actor s pc s' pc') :
    Move actor s (.recovery pc) s' pc'
  | boot {tid s pc s' pc'} (h : BootMove (.task tid) s pc s' pc') :
    Move (.task tid) s (.boot pc) s' pc'
  | start {actor s boot pc s' pc'} (h : StartMove s boot pc s' pc') :
    Move actor s (.start boot pc) s' pc'
  | shutdown {tid s pc s' pc'} (h : ShutdownMove (.task tid) s false pc s' pc') :
    Move (.task tid) s (.shutdown false pc) s' pc'
  | shutdownForced {s pc s' pc'} (h : ShutdownMove .remover s true pc s' pc') :
    Move .remover s (.shutdown true pc) s' pc'
  | del {s pc s' pc'} (h : DelMove .remover s pc s' pc') : Move .remover s (.del pc) s' pc'

/-- A processor that has been registered and that nothing happens to.  Its subdevices are started
only in a state that a shutdown stops. -/
structure Initial (system : System (Actor Tid) (Rproc Tid) Pc) : Prop where
  idle : ∀ actor, system.pc actor = .idle
  lock : system.shared.lock = none
  crashLock : system.shared.crashLock = none
  deleting : system.shared.deleting = false
  queued : system.shared.queued = false
  running : system.shared.running = false
  subdevs : system.shared.subdevsStarted = true → system.shared.state.Stoppable
  stopPasses : system.shared.stopPasses = 0
  drained : system.shared.drained = false
  fenced : system.shared.fenced = false
  interrupted : system.shared.interrupted = false

end

end TclB220G.Remoteproc
