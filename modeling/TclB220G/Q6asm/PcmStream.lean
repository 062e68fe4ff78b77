import Mathlib.Algebra.BigOperators.Group.List.Basic
import Mathlib.Algebra.Order.Ring.Int
import Mathlib.Tactic.Ring
import TclB220G.Lib.Lifetime
import TclB220G.Q6asm.Client

/-!
# PCM streams of the audio DSP

A PCM stream is opened, set up, prepared, triggered and closed by its users while the DSP reports what it
has done with earlier commands.  The stream keeps one word of state, and goes by it when it decides
whether a session of the DSP is open that has to be closed first.

Any of the commands of a stream may fail.  The log of a stream holds them, the latest first, so that the
sessions that are open at the DSP can be counted and compared with the word of state.  The result of a
command that closes a session is ignored, so a stream counts a session as closed that may still be open.
-/

namespace TclB220G.Q6asm

open Kernel Kernel.Errno Lib

/-- `enum stream_state` -/
inductive StreamState where
  | idle | stopped | running
  deriving DecidableEq, Repr

/-- What a stream does to its surroundings.  A fault is the use of a client that has been freed. -/
inductive AsmCall where
  | openStream (ret : ℤ)
  | routingOpen (ret : ℤ)
  | routingClose
  | format (ret : ℤ)
  | close (ret : ℤ)
  | eos | pause | run
  | data (command : DataCommand)
  | elapsed
  | fault
  deriving DecidableEq, Repr

/-- The fields of `struct q6asm_dai_rtd` that a PCM stream uses, with the bytes of a period as the runtime
of the substream has them. -/
structure Prtd where
  stream : PcmDirection
  phys : ℕ
  periodBytes : ℕ
  pcmSize : ℕ
  pcmCount : ℕ
  pcmIrqPos : ℕ
  periods : ℕ
  bitsPerSample : ℕ
  audioClient : Option AudioClient
  state : StreamState

/-- A substream: its private data while it is open, and its log. -/
structure Substream where
  prtd : Option Prtd
  log : List AsmCall

/-! ## Setting up -/

/-- `q6asm_dai_open` with a client of its own. -/
def q6asmDaiOpen (stream : PcmDirection) (phys : ℕ) : Substream :=
  ⟨some ⟨stream, phys, 0, 0, 0, 0, 0, 0, some AudioClient.zeroed, .idle⟩, []⟩

/-- Parameters of the hardware.  A format that is neither of 16 nor of 24 bits has no number. -/
structure HwParams where
  bufferBytes : ℕ
  periodBytes : ℕ
  periods : ℕ
  bits : Option ℕ

/-- `q6asm_dai_hw_params` -/
def q6asmDaiHwParams (params : HwParams) (prtd : Prtd) : Prtd :=
  { prtd with
    pcmSize := params.bufferBytes
    periods := params.periods
    periodBytes := params.periodBytes
    bitsPerSample := params.bits.getD prtd.bitsPerSample }

/-- What the calls of `q6asm_dai_prepare` come to. -/
structure PrepareAnswers where
  close : ℤ
  unmap : ℤ
  map : MapAnswer
  openStream : ℤ
  routing : ℤ
  /-- The result of closing the session again if there is no route. -/
  undo : ℤ
  format : ℤ
  packets : ℕ → Bool

/-- Clears the previous setup, if there is one. -/
def clearPrevious (answers : PrepareAnswers) (prtd : Prtd) (client : AudioClient) (log : List AsmCall) :
    AudioClient × List AsmCall :=
  if prtd.state = .idle then (client, log)
  else (client.unmapMemoryRegions prtd.stream answers.unmap, .routingClose :: .close answers.close :: log)

def logData (commands : List DataCommand) (log : List AsmCall) : List AsmCall :=
  commands.map AsmCall.data ++ log

/-- The loop that queues a read for each period. -/
def queueReads (packets : ℕ → Bool) : ℕ → AudioClient → List AsmCall → AudioClient × List AsmCall
  | 0, client, log => (client, log)
  | count + 1, client, log =>
    let sent := client.read (packets count)
    queueReads packets count sent.1 (logData sent.2 log)

/-- Sends the format.  A capture then queues its reads, whether or not the format was taken. -/
def sendFormat (answers : PrepareAnswers) (prtd : Prtd) (client : AudioClient) (log : List AsmCall) :
    AudioClient × List AsmCall :=
  match prtd.stream with
  | .playback => (client, .format answers.format :: log)
  | .capture => queueReads answers.packets prtd.periods client (.format answers.format :: log)

/-- The part of `q6asm_dai_prepare` after the memory was mapped. -/
def openSession (answers : PrepareAnswers) (prtd : Prtd) (client : AudioClient) (log : List AsmCall) :
    Substream × ℤ :=
  let log := .openStream answers.openStream :: log
  if answers.openStream < 0 then
    (⟨some { prtd with audioClient := none }, log⟩, answers.openStream)
  else
    let log := .routingOpen answers.routing :: log
    if answers.routing ≠ 0 then
      (⟨some { prtd with audioClient := none }, .close answers.undo :: log⟩, answers.routing)
    else
      let sent := sendFormat answers prtd client log
      if answers.format < 0 then
        -- The session stays open and the state stays idle.
        (⟨some { prtd with audioClient := some sent.1 }, sent.2⟩, answers.format)
      else
        (⟨some { prtd with audioClient := some sent.1, state := .running }, sent.2⟩, answers.format)

/-- A stream that starts from the beginning of a period again and has no session. -/
def Prtd.reset (prtd : Prtd) : Prtd :=
  { prtd with pcmCount := prtd.periodBytes, pcmIrqPos := 0, state := .idle }

/-- `q6asm_dai_prepare` -/
def q6asmDaiPrepare (answers : PrepareAnswers) (prtd : Prtd) (log : List AsmCall) : Substream × ℤ :=
  match prtd.audioClient with
  | none => (⟨some prtd, log⟩, EINVAL.ret)
  | some client =>
    let cleared := clearPrevious answers prtd client log
    let mapped := cleared.1.mapMemoryRegions prtd.stream prtd.phys (prtd.pcmSize / prtd.periods)
      prtd.periods answers.map
    if mapped.2 < 0 then (⟨some { prtd.reset with audioClient := some mapped.1 }, cleared.2⟩, ENOMEM.ret)
    else openSession answers prtd.reset mapped.1 cleared.2

/-! ## Running -/

inductive Trigger where
  | start | resume | pauseRelease | stop | suspend | pausePush | other
  deriving DecidableEq, Repr

/-- A command through the client, which is a fault if there is none. -/
def command (call : AsmCall) (prtd : Prtd) (log : List AsmCall) : Substream :=
  ⟨some prtd, (if prtd.audioClient.isSome then call else .fault) :: log⟩

/-- `q6asm_dai_trigger` -/
def q6asmDaiTrigger (trigger : Trigger) (prtd : Prtd) (log : List AsmCall) : Substream :=
  match trigger with
  | .start | .resume | .pauseRelease => command .run prtd log
  | .stop => command .eos { prtd with state := .stopped } log
  | .suspend | .pausePush => command .pause prtd log
  | .other => ⟨some prtd, log⟩

/-- `q6asm_dai_pointer` -/
def q6asmDaiPointer (prtd : Prtd) : Prtd :=
  { prtd with pcmIrqPos := if prtd.pcmSize ≤ prtd.pcmIrqPos then 0 else prtd.pcmIrqPos }

/-- A message of the DSP to the client.  The completion of a data command names the entry that it was made
from.  `packet` says whether there is memory for a packet in reply, and `asked` whether the elapsed period
makes the core ask for the position, as it does while the substream is running. -/
inductive AsmEvent where
  | runDone (packet : Bool)
  | eosDone
  | writeDone (token address : ℕ) (asked packet : Bool)
  | readDone (token address : ℕ) (asked packet : Bool)
  | other

/-- `snd_pcm_period_elapsed` after the position was moved on. -/
def periodElapsed (asked : Bool) (prtd : Prtd) : Prtd :=
  let prtd := { prtd with pcmIrqPos := (prtd.pcmIrqPos + prtd.pcmCount) % 2 ^ 32 }
  if asked then q6asmDaiPointer prtd else prtd

/-- A completion is passed on if it names the address of an entry of the table. -/
def Completes (client : AudioClient) (dir : PcmDirection) (token address : ℕ) : Prop :=
  ((client dir).buf.bind fun table ↦ table[token]?.map AudioBuffer.phys) = some address

instance (client : AudioClient) (dir : PcmDirection) (token address : ℕ) :
    Decidable (Completes client dir token address) :=
  inferInstanceAs (Decidable (_ = _))

/-- The stream after a completion, which a running stream answers with the next data command. -/
def completed (asked : Bool) (next : AudioClient → AudioClient × List DataCommand) (prtd : Prtd)
    (client : AudioClient) (log : List AsmCall) : Substream :=
  let prtd := periodElapsed asked prtd
  if prtd.state = .running then
    let sent := next client
    ⟨some { prtd with audioClient := some sent.1 }, logData sent.2 (.elapsed :: log)⟩
  else ⟨some prtd, .elapsed :: log⟩

/-- `event_handler`, after the checks of `q6asm_stream_callback` on completions. -/
def eventHandler (message : AsmEvent) (prtd : Prtd) (client : AudioClient) (log : List AsmCall) : Substream :=
  match message with
  | .runDone packet =>
    if prtd.stream = .playback then
      let sent := client.writeAsync prtd.pcmCount packet
      ⟨some { prtd with audioClient := some sent.1 }, logData sent.2 log⟩
    else ⟨some prtd, log⟩
  | .eosDone => ⟨some { prtd with state := .stopped }, log⟩
  | .writeDone token address asked packet =>
    if Completes client .playback token address then
      completed asked (fun client ↦ client.writeAsync prtd.pcmCount packet) prtd client log
    else ⟨some prtd, log⟩
  | .readDone token address asked packet =>
    if Completes client .capture token address then
      completed asked (fun client ↦ client.read packet) prtd client log
    else ⟨some prtd, log⟩
  | .other => ⟨some prtd, log⟩

/-- `q6asm_stream_callback`, which drops a message for a client that is gone. -/
def q6asmStreamCallback (message : AsmEvent) (prtd : Prtd) (log : List AsmCall) : Substream :=
  match prtd.audioClient with
  | none => ⟨some prtd, log⟩
  | some client => eventHandler message prtd client log

/-- `q6asm_dai_close` -/
def q6asmDaiClose (ret : ℤ) (prtd : Prtd) (log : List AsmCall) : Substream :=
  ⟨none, .routingClose ::
    if prtd.audioClient.isSome ∧ prtd.state ≠ .idle then .close ret :: log else log⟩

/-- What happens to an open stream. -/
inductive PcmOp where
  | hwParams (params : HwParams)
  | prepare (answers : PrepareAnswers)
  | trigger (cmd : Trigger)
  | event (message : AsmEvent)
  | pointer
  | close (ret : ℤ)

def PcmOp.apply (op : PcmOp) (prtd : Prtd) (log : List AsmCall) : Substream :=
  match op with
  | .hwParams params => ⟨some (q6asmDaiHwParams params prtd), log⟩
  | .prepare answers => (q6asmDaiPrepare answers prtd log).1
  | .trigger cmd => q6asmDaiTrigger cmd prtd log
  | .event message => q6asmStreamCallback message prtd log
  | .pointer => ⟨some (q6asmDaiPointer prtd), log⟩
  | .close ret => q6asmDaiClose ret prtd log

/-- Nothing happens to a stream that has been closed. -/
def Substream.step (substream : Substream) (op : PcmOp) : Substream :=
  match substream.prtd with
  | none => substream
  | some prtd => op.apply prtd substream.log

def Substream.run (substream : Substream) (ops : List PcmOp) : Substream :=
  ops.foldl Substream.step substream

/-! ## Sessions of the DSP -/

/-- What a call does to the number of open sessions. -/
def AsmCall.sessions : AsmCall → ℤ
  | .openStream ret => if ret < 0 then 0 else 1
  | .close ret => if ret < 0 then 0 else -1
  | _ => 0

/-- The sessions that are open after the calls of a log. -/
def openSessions (log : List AsmCall) : ℤ := (log.map AsmCall.sessions).sum

def AsmCall.closeFails : AsmCall → Bool
  | .close ret => ret < 0
  | _ => false

/-- What the stream takes a call to do to the number of open sessions. -/
def AsmCall.assumed : AsmCall → ℤ
  | .openStream ret => if ret < 0 then 0 else 1
  | .close _ => -1
  | _ => 0

/-- The sessions that are open if every close succeeds. -/
def assumedSessions (log : List AsmCall) : ℤ := (log.map AsmCall.assumed).sum

@[simp] theorem assumedSessions_cons (call : AsmCall) (log : List AsmCall) :
    assumedSessions (call :: log) = assumedSessions log + call.assumed := by
  rw [assumedSessions, List.map_cons, List.sum_cons, add_comm, assumedSessions]

theorem AsmCall.sessions_eq (call : AsmCall) :
    call.sessions = call.assumed + if call.closeFails then 1 else 0 := by
  cases call with
  | close ret => by_cases hfails : ret < 0 <;> simp [sessions, assumed, closeFails, hfails]
  | _ => exact (add_zero _).symm

/-- Every close that fails leaves a session open. -/
theorem openSessions_eq (log : List AsmCall) :
    openSessions log = assumedSessions log + log.countP AsmCall.closeFails := by
  induction log with
  | nil => rfl
  | cons call log ih =>
    calc openSessions (call :: log)
        = call.sessions + openSessions log := by rw [openSessions, List.map_cons, List.sum_cons, openSessions]
      _ = assumedSessions (call :: log) + (call :: log).countP AsmCall.closeFails := by
        rw [ih, call.sessions_eq, assumedSessions_cons, List.countP_cons]
        push_cast
        ring

/-- The sessions that the word of state accounts for. -/
def Prtd.accounted (prtd : Prtd) : ℤ := if prtd.state = .idle then 0 else 1

/-- The open sessions that the word of state does not account for. -/
def Substream.surplus (substream : Substream) : ℤ :=
  assumedSessions substream.log - (substream.prtd.map Prtd.accounted).getD 0

/-- Whether a preparation opens its session and then fails to set the format. -/
def PrepareAnswers.formatFails (answers : PrepareAnswers) (prtd : Prtd) : Bool :=
  match prtd.audioClient with
  | none => false
  | some client =>
    decide (0 ≤ ((clearPrevious answers prtd client []).1.mapMemoryRegions prtd.stream prtd.phys
      (prtd.pcmSize / prtd.periods) prtd.periods answers.map).2) &&
    decide (0 ≤ answers.openStream) && decide (answers.routing = 0) && decide (answers.format < 0)

/-- Whether an operation marks a stream as stopped that is idle. -/
def PcmOp.stopsIdle (op : PcmOp) (prtd : Prtd) : Bool :=
  match op with
  | .trigger .stop => decide (prtd.state = .idle)
  | .event .eosDone => prtd.audioClient.isSome && decide (prtd.state = .idle)
  | _ => false

def PcmOp.formatFails (op : PcmOp) (prtd : Prtd) : Bool :=
  match op with
  | .prepare answers => answers.formatFails prtd
  | _ => false

/-- How many operations of a history do something to the open stream that they find. -/
def Substream.times (does : PcmOp → Prtd → Bool) (substream : Substream) : List PcmOp → ℕ
  | [] => 0
  | op :: ops =>
    (if (substream.prtd.map (does op)).getD false then 1 else 0) + (substream.step op).times does ops

/-- A stream whose client is gone is idle. -/
def Prtd.Owned (prtd : Prtd) : Prop := prtd.audioClient = none → prtd.state = .idle

/-- A longer log with the same sessions and no new fault. -/
structure Silent (log later : List AsmCall) : Prop where
  suffix : log <:+ later
  sessions : assumedSessions later = assumedSessions log
  fault : .fault ∈ later ↔ .fault ∈ log

theorem Silent.refl (log : List AsmCall) : Silent log log := ⟨List.suffix_rfl, rfl, Iff.rfl⟩

theorem Silent.trans {log between later : List AsmCall} (h : Silent log between)
    (h' : Silent between later) : Silent log later :=
  ⟨h.suffix.trans h'.suffix, h'.sessions.trans h.sessions, h'.fault.trans h.fault⟩

theorem silent_cons {call : AsmCall} (hsessions : call.assumed = 0) (hfault : call ≠ .fault)
    (log : List AsmCall) : Silent log (call :: log) := by
  refine ⟨List.suffix_cons .., ?_, ?_⟩
  · rw [assumedSessions_cons, hsessions, add_zero]
  · rw [List.mem_cons, or_iff_right (Ne.symm hfault)]

theorem silent_logData (commands : List DataCommand) (log : List AsmCall) :
    Silent log (logData commands log) := by
  induction commands with
  | nil => exact .refl log
  | cons command commands ih => exact ih.trans (silent_cons rfl AsmCall.noConfusion _)

theorem silent_queueReads (packets : ℕ → Bool) (count : ℕ) (client : AudioClient) (log : List AsmCall) :
    Silent log (queueReads packets count client log).2 := by
  induction count generalizing client log with
  | zero => exact .refl log
  | succ count ih => exact (silent_logData _ log).trans (ih _ _)

variable (answers : PrepareAnswers) (prtd : Prtd) (client : AudioClient) (log : List AsmCall)

theorem silent_sendFormat :
    Silent log (sendFormat answers prtd client log).2 := by
  unfold sendFormat
  have hformat : Silent log (.format answers.format :: log) := silent_cons rfl AsmCall.noConfusion log
  cases prtd.stream with
  | playback => exact hformat
  | capture => exact hformat.trans (silent_queueReads _ _ _ _)

theorem suffix_openSession :
    log <:+ (openSession answers prtd client log).1.log := by
  have hopen : log <:+ .openStream answers.openStream :: log := List.suffix_cons ..
  have hroute := hopen.trans (List.suffix_cons (.routingOpen answers.routing) _)
  unfold openSession
  dsimp only
  split_ifs
  · exact hopen
  · exact hroute.trans (List.suffix_cons ..)
  · exact hroute.trans (silent_sendFormat ..).suffix
  · exact hroute.trans (silent_sendFormat ..).suffix

theorem suffix_clearPrevious :
    log <:+ (clearPrevious answers prtd client log).2 := by
  unfold clearPrevious
  split_ifs
  · exact List.suffix_rfl
  · exact (List.suffix_cons ..).trans (List.suffix_cons ..)

theorem surplus_some :
    Substream.surplus ⟨some prtd, log⟩ = assumedSessions log - prtd.accounted := rfl

theorem Prtd.accounted_of_idle {prtd : Prtd} (h : prtd.state = .idle) : prtd.accounted = 0 := if_pos h

theorem Prtd.accounted_of_active {prtd : Prtd} (h : prtd.state ≠ .idle) : prtd.accounted = 1 := if_neg h

theorem surplus_of_idle {prtd : Prtd} {log : List AsmCall} (h : prtd.state = .idle) :
    Substream.surplus ⟨some prtd, log⟩ = assumedSessions log := by
  rw [surplus_some, Prtd.accounted_of_idle h, sub_zero]

/-- Clearing the previous setup closes the session that the state accounts for. -/
theorem assumedSessions_clearPrevious :
    assumedSessions (clearPrevious answers prtd client log).2 = assumedSessions log - prtd.accounted := by
  unfold clearPrevious
  split_ifs with hidle
  · rw [Prtd.accounted_of_idle hidle, sub_zero]
  · rw [Prtd.accounted_of_active hidle, assumedSessions_cons, assumedSessions_cons]
    exact add_zero _

theorem fst_clearPrevious :
    (clearPrevious answers prtd client log).1 = (clearPrevious answers prtd client []).1 := by
  unfold clearPrevious
  split_ifs <;> rfl

/-- A session that is opened stays open beyond the account exactly if its format is not taken. -/
theorem surplus_openSession {prtd : Prtd} (hidle : prtd.state = .idle) (client : AudioClient)
    (log : List AsmCall) :
    (openSession answers prtd client log).1.surplus = assumedSessions log +
      if 0 ≤ answers.openStream ∧ answers.routing = 0 ∧ answers.format < 0 then 1 else 0 := by
  have hsent := (silent_sendFormat answers prtd client
    (.routingOpen answers.routing :: .openStream answers.openStream :: log)).sessions
  rw [assumedSessions_cons, assumedSessions_cons] at hsent
  unfold openSession
  by_cases hopen : answers.openStream < 0
  · rw [if_pos hopen, if_neg (fun h ↦ absurd h.1 (not_le.2 hopen))]
    calc
      _ = assumedSessions (.openStream answers.openStream :: log) := surplus_of_idle hidle
      _ = assumedSessions log + 0 := by rw [assumedSessions_cons, AsmCall.assumed, if_pos hopen]
  · have hcount : (AsmCall.openStream answers.openStream).assumed = 1 := if_neg hopen
    rw [hcount, show (AsmCall.routingOpen answers.routing).assumed = 0 from rfl, add_zero] at hsent
    rw [if_neg hopen]
    dsimp only
    by_cases hrouting : answers.routing = 0
    · rw [if_neg (not_not.2 hrouting)]
      split_ifs with hformat hall hall
      · exact (surplus_of_idle hidle).trans hsent
      · exact absurd ⟨not_lt.1 hopen, hrouting, hformat⟩ hall
      · exact absurd hall.2.2 hformat
      · rw [surplus_some, Prtd.accounted_of_active StreamState.noConfusion, hsent, add_sub_cancel_right,
          add_zero]
    · rw [if_pos hrouting, if_neg (fun h ↦ hrouting h.2.1)]
      refine (surplus_of_idle hidle).trans ?_
      rw [assumedSessions_cons, assumedSessions_cons, assumedSessions_cons, hcount]
      change assumedSessions log + 1 + 0 + -1 = assumedSessions log + 0
      rw [add_zero, add_neg_cancel_right, add_zero]

theorem surplus_prepare (prtd : Prtd) (log : List AsmCall) :
    (q6asmDaiPrepare answers prtd log).1.surplus = Substream.surplus ⟨some prtd, log⟩ +
      if answers.formatFails prtd then 1 else 0 := by
  unfold q6asmDaiPrepare PrepareAnswers.formatFails
  cases prtd.audioClient with
  | none => exact (add_zero _).symm
  | some client =>
    dsimp only
    rw [fst_clearPrevious]
    split_ifs with hmap hfails hfails
    · rw [Bool.and_eq_true, Bool.and_eq_true, Bool.and_eq_true, decide_eq_true_iff] at hfails
      exact absurd hfails.1.1.1 (not_le.2 hmap)
    · rw [add_zero, surplus_some prtd, ← assumedSessions_clearPrevious answers prtd client log]
      exact surplus_of_idle rfl
    · rw [surplus_openSession answers rfl, assumedSessions_clearPrevious, surplus_some, if_pos]
      simpa [and_assoc, not_lt.1 hmap] using hfails
    · rw [surplus_openSession answers rfl, assumedSessions_clearPrevious, surplus_some, if_neg]
      simpa [and_assoc, not_lt.1 hmap] using hfails

variable {prtd next : Prtd} {log later : List AsmCall}

theorem surplus_eq_of_silent (hstate : next.state = prtd.state) (hlog : Silent log later) :
    Substream.surplus ⟨some next, later⟩ = Substream.surplus ⟨some prtd, log⟩ := by
  rw [surplus_some, surplus_some, hlog.sessions, Prtd.accounted, Prtd.accounted, hstate]

/-- A stream that is marked as stopped, with a silent log. -/
theorem surplus_stopped (prtd : Prtd) (hlog : Silent log later) :
    Substream.surplus ⟨some { prtd with state := .stopped }, later⟩ =
      Substream.surplus ⟨some prtd, log⟩ - if prtd.state = .idle then 1 else 0 := by
  rw [surplus_some, surplus_some, hlog.sessions, Prtd.accounted_of_active StreamState.noConfusion,
    Prtd.accounted]
  split_ifs
  · rw [sub_zero]
  · rw [sub_zero]

theorem state_periodElapsed (asked : Bool) (prtd : Prtd) : (periodElapsed asked prtd).state = prtd.state := by
  cases asked <;> rfl

theorem audioClient_periodElapsed (asked : Bool) (prtd : Prtd) :
    (periodElapsed asked prtd).audioClient = prtd.audioClient := by
  cases asked <;> rfl

/-- What an operation leaves of a stream that has its client, unless there is a fault. -/
structure Leaves (prtd : Prtd) (log : List AsmCall) (change : ℤ) (after : Substream) : Prop where
  suffix : log <:+ after.log
  surplus : prtd.Owned → .fault ∉ after.log →
    after.surplus = Substream.surplus ⟨some prtd, log⟩ + change
  owned : prtd.Owned → .fault ∉ after.log → ∀ next, after.prtd = some next → next.Owned

theorem owned_openSession {prtd : Prtd} (hidle : prtd.state = .idle) (client : AudioClient)
    (log : List AsmCall) {next : Prtd}
    (hnext : (openSession answers prtd client log).1.prtd = some next) : next.Owned := by
  unfold openSession at hnext
  dsimp only at hnext
  split_ifs at hnext
  · obtain rfl := Option.some.inj hnext
    exact fun _ ↦ hidle
  · obtain rfl := Option.some.inj hnext
    exact fun _ ↦ hidle
  · obtain rfl := Option.some.inj hnext
    exact fun _ ↦ hidle
  · obtain rfl := Option.some.inj hnext
    exact fun h ↦ absurd h (Option.some_ne_none _)

theorem leaves_prepare (prtd : Prtd) (log : List AsmCall) :
    Leaves prtd log (if answers.formatFails prtd then 1 else 0) (q6asmDaiPrepare answers prtd log).1 := by
  refine ⟨?_, fun _ _ ↦ surplus_prepare answers prtd log, fun howned _ next hnext ↦ ?_⟩
  · unfold q6asmDaiPrepare
    cases prtd.audioClient with
    | none => exact List.suffix_rfl
    | some client =>
      dsimp only
      split_ifs
      · exact suffix_clearPrevious ..
      · exact (suffix_clearPrevious ..).trans (suffix_openSession ..)
  · unfold q6asmDaiPrepare at hnext
    cases hclient : prtd.audioClient with
    | none =>
      rw [hclient] at hnext
      obtain rfl := Option.some.inj hnext
      exact howned
    | some client =>
      rw [hclient] at hnext
      dsimp only at hnext
      split_ifs at hnext
      · obtain rfl := Option.some.inj hnext
        exact fun _ ↦ rfl
      · exact owned_openSession answers rfl _ _ hnext

/-- A command through the client, which a stream without a client cannot give. -/
theorem leaves_command {call : AsmCall} (hsessions : call.assumed = 0) (hfault : call ≠ .fault)
    {log : List AsmCall} {change : ℤ}
    (hsurplus : ∀ later, Silent log later →
      Substream.surplus ⟨some next, later⟩ = Substream.surplus ⟨some prtd, log⟩ + change) :
    Leaves prtd log change (command call next log) := by
  have hsome (hnone : .fault ∉ (command call next log).log) : next.audioClient.isSome = true := by
    by_contra hgone
    rw [command, if_neg hgone] at hnone
    exact hnone List.mem_cons_self
  refine ⟨List.suffix_cons .., fun _ hnone ↦ ?_, fun _ hnone other hother hgone ↦ ?_⟩
  · rw [command, if_pos (hsome hnone)]
    exact hsurplus _ (silent_cons hsessions hfault log)
  · obtain rfl := Option.some.inj hother
    exact absurd (hsome hnone) (by rw [hgone]; exact Bool.false_ne_true)

/-- A stream that keeps its client and its word of state. -/
theorem leaves_of_silent (hnext : prtd.Owned → next.Owned) (hstate : next.state = prtd.state)
    (hlog : Silent log later) : Leaves prtd log 0 ⟨some next, later⟩ := by
  refine ⟨hlog.suffix, fun _ _ ↦ ?_, fun howned _ other hother ↦ ?_⟩
  · rw [add_zero]
    exact surplus_eq_of_silent hstate hlog
  · obtain rfl := Option.some.inj hother
    exact hnext howned

variable {client : AudioClient}

theorem Prtd.owned_of_some {prtd : Prtd} (h : prtd.audioClient = some client) :
    prtd.Owned :=
  fun hgone ↦ absurd (h.symm.trans hgone) (Option.some_ne_none client)

theorem leaves_same (prtd : Prtd) (log : List AsmCall) : Leaves prtd log 0 ⟨some prtd, log⟩ :=
  leaves_of_silent id rfl (.refl log)

theorem leaves_trigger (cmd : Trigger) (prtd : Prtd) (log : List AsmCall) :
    Leaves prtd log (-if PcmOp.stopsIdle (.trigger cmd) prtd then 1 else 0)
      (q6asmDaiTrigger cmd prtd log) := by
  have hsame (later : List AsmCall) (hlater : Silent log later) :
      Substream.surplus ⟨some prtd, later⟩ = Substream.surplus ⟨some prtd, log⟩ + -0 := by
    rw [neg_zero, add_zero]
    exact surplus_eq_of_silent rfl hlater
  cases cmd with
  | start => exact leaves_command rfl AsmCall.noConfusion hsame
  | resume => exact leaves_command rfl AsmCall.noConfusion hsame
  | pauseRelease => exact leaves_command rfl AsmCall.noConfusion hsame
  | stop =>
    refine leaves_command rfl AsmCall.noConfusion fun later hlater ↦ ?_
    rw [surplus_stopped prtd hlater, sub_eq_add_neg, PcmOp.stopsIdle]
    simp only [decide_eq_true_eq]
  | suspend => exact leaves_command rfl AsmCall.noConfusion hsame
  | pausePush => exact leaves_command rfl AsmCall.noConfusion hsame
  | other => exact leaves_same prtd log

theorem leaves_completed (asked : Bool) (next : AudioClient → AudioClient × List DataCommand)
    {prtd : Prtd} (hclient : prtd.audioClient = some client) (log : List AsmCall) :
    Leaves prtd log 0 (completed asked next prtd client log) := by
  have helapsed : Silent log (.elapsed :: log) := silent_cons rfl AsmCall.noConfusion log
  have hstate := state_periodElapsed asked prtd
  unfold completed
  dsimp only
  split_ifs
  · exact leaves_of_silent (fun _ ↦ Prtd.owned_of_some rfl) hstate
      (helapsed.trans (silent_logData ..))
  · exact leaves_of_silent (fun _ ↦ Prtd.owned_of_some ((audioClient_periodElapsed asked prtd).trans hclient))
      hstate helapsed

theorem leaves_eventHandler (message : AsmEvent) {prtd : Prtd}
    (hclient : prtd.audioClient = some client) (log : List AsmCall) :
    Leaves prtd log (-if PcmOp.stopsIdle (.event message) prtd then 1 else 0)
      (eventHandler message prtd client log) := by
  cases message with
  | runDone packet =>
    change Leaves prtd log 0 _
    unfold eventHandler
    dsimp only
    split_ifs
    · exact leaves_of_silent (fun _ ↦ Prtd.owned_of_some rfl) rfl (silent_logData ..)
    · exact leaves_same prtd log
  | eosDone =>
    refine ⟨List.suffix_rfl, fun _ _ ↦ ?_, fun _ _ other hother ↦ ?_⟩
    · rw [eventHandler, surplus_stopped prtd (.refl log), sub_eq_add_neg, PcmOp.stopsIdle, hclient]
      simp only [Option.isSome_some, Bool.true_and, decide_eq_true_eq]
    · obtain rfl := Option.some.inj hother
      exact Prtd.owned_of_some hclient
  | writeDone token address asked packet =>
    change Leaves prtd log 0 _
    unfold eventHandler
    dsimp only
    split_ifs
    · exact leaves_completed asked _ hclient log
    · exact leaves_same prtd log
  | readDone token address asked packet =>
    change Leaves prtd log 0 _
    unfold eventHandler
    dsimp only
    split_ifs
    · exact leaves_completed asked _ hclient log
    · exact leaves_same prtd log
  | other => exact leaves_same prtd log

theorem leaves_event (message : AsmEvent) (prtd : Prtd) (log : List AsmCall) :
    Leaves prtd log (-if PcmOp.stopsIdle (.event message) prtd then 1 else 0)
      (q6asmStreamCallback message prtd log) := by
  rw [q6asmStreamCallback]
  cases hclient : prtd.audioClient with
  | none =>
    have hnot : PcmOp.stopsIdle (.event message) prtd = false := by
      cases message <;> simp [PcmOp.stopsIdle, hclient]
    rw [hnot]
    exact leaves_same prtd log
  | some client => exact leaves_eventHandler message hclient log

theorem leaves_close (ret : ℤ) (prtd : Prtd) (log : List AsmCall) :
    Leaves prtd log 0 (q6asmDaiClose ret prtd log) := by
  unfold q6asmDaiClose
  refine ⟨?_, fun howned _ ↦ ?_, fun _ _ next hnext ↦ absurd hnext (Option.some_ne_none next).symm⟩
  · refine List.IsSuffix.trans ?_ (List.suffix_cons ..)
    split_ifs
    · exact List.suffix_cons ..
    · exact List.suffix_rfl
  · rw [surplus_some, Substream.surplus, Option.map_none, Option.getD_none, sub_zero, add_zero,
      assumedSessions_cons]
    split_ifs with hactive
    · rw [assumedSessions_cons, Prtd.accounted_of_active hactive.2]
      exact add_zero _
    · have hidle : prtd.state = .idle := by
        by_contra hstate
        refine hactive ⟨?_, hstate⟩
        rw [Option.isSome_iff_ne_none]
        exact fun hgone ↦ hstate (howned hgone)
      rw [Prtd.accounted_of_idle hidle, sub_zero]
      exact add_zero _

/-- What one operation does to the open sessions that the state does not account for. -/
def PcmOp.excess (op : PcmOp) (prtd : Prtd) : ℤ :=
  (if op.formatFails prtd then 1 else 0) - if op.stopsIdle prtd then 1 else 0

theorem leaves_apply (op : PcmOp) (prtd : Prtd) (log : List AsmCall) :
    Leaves prtd log (op.excess prtd) (op.apply prtd log) := by
  unfold PcmOp.excess
  cases op with
  | hwParams params => exact leaves_of_silent id rfl (.refl log)
  | prepare answers =>
    rw [show (PcmOp.prepare answers).stopsIdle prtd = false from rfl, if_neg Bool.false_ne_true, sub_zero]
    exact leaves_prepare answers prtd log
  | trigger cmd =>
    rw [show (PcmOp.trigger cmd).formatFails prtd = false from rfl, if_neg Bool.false_ne_true, zero_sub]
    exact leaves_trigger cmd prtd log
  | event message =>
    rw [show (PcmOp.event message).formatFails prtd = false from rfl, if_neg Bool.false_ne_true, zero_sub]
    exact leaves_event message prtd log
  | pointer => exact leaves_of_silent id rfl (.refl log)
  | close ret => exact leaves_close ret prtd log

variable (substream : Substream)

theorem suffix_step (op : PcmOp) : substream.log <:+ (substream.step op).log := by
  obtain ⟨prtd, log⟩ := substream
  cases prtd with
  | none => exact List.suffix_rfl
  | some prtd => exact (leaves_apply op prtd log).suffix

theorem suffix_run (ops : List PcmOp) : substream.log <:+ (substream.run ops).log := by
  induction ops generalizing substream with
  | nil => exact List.suffix_rfl
  | cons op ops ih => exact (suffix_step substream op).trans (ih _)

/-- The stream is closed, or has its client as long as it is not idle. -/
def Substream.Owned (substream : Substream) : Prop := ∀ prtd, substream.prtd = some prtd → prtd.Owned

theorem surplus_step {substream : Substream} (howned : substream.Owned) (op : PcmOp)
    (hfault : .fault ∉ (substream.step op).log) :
    (substream.step op).Owned ∧
      (substream.step op).surplus = substream.surplus + (substream.prtd.map op.excess).getD 0 := by
  obtain ⟨prtd, log⟩ := substream
  cases prtd with
  | none => exact ⟨howned, (add_zero _).symm⟩
  | some prtd =>
    have hleaves := leaves_apply op prtd log
    exact ⟨hleaves.owned (howned prtd rfl) hfault, hleaves.surplus (howned prtd rfl) hfault⟩

theorem excess_eq_times (op : PcmOp) :
    (substream.prtd.map op.excess).getD 0 =
      (substream.times PcmOp.formatFails [op] : ℤ) - substream.times PcmOp.stopsIdle [op] := by
  obtain ⟨prtd, log⟩ := substream
  cases prtd <;> simp [Substream.times, PcmOp.excess]

/-- Over a history the excess adds up. -/
theorem surplus_run {substream : Substream} (howned : substream.Owned) (ops : List PcmOp)
    (hfault : .fault ∉ (substream.run ops).log) :
    (substream.run ops).surplus =
      substream.surplus + (substream.times PcmOp.formatFails ops - substream.times PcmOp.stopsIdle ops) := by
  induction ops generalizing substream with
  | nil => exact (add_zero _).symm
  | cons op ops ih =>
    have hnext : .fault ∉ (substream.step op).log := fun h ↦ hfault ((suffix_run _ ops).subset h)
    obtain ⟨hkept, hstep⟩ := surplus_step howned op hnext
    have hrun := ih hkept hfault
    rw [hstep, excess_eq_times] at hrun
    simp only [Substream.times, Nat.add_zero, Nat.cast_add] at hrun ⊢
    exact hrun.trans (by ring)

/-- Answers without a failure but the given result of the format. -/
def PrepareAnswers.mapped (format : ℤ) : PrepareAnswers :=
  ⟨0, 0, ⟨true, 1, some 1⟩, 0, 0, 0, format, fun _ ↦ true⟩

end TclB220G.Q6asm
