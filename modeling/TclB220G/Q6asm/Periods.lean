import TclB220G.Q6asm.PcmStream

/-!
# The periods of a PCM stream

The data commands of a stream take the periods of its buffer in turn.  Since preparing a stream again does
not move the place of the next data command, the turn goes on where the stream was stopped, while the
position that the stream reports starts again from zero.
-/

namespace TclB220G.Q6asm

open Lib Kernel.Errno

/-- The data commands of a direction, the latest first. -/
def dataOf (dir : PcmDirection) : List AsmCall → List DataCommand
  | [] => []
  | .data command :: log => if command.direction = dir then command :: dataOf dir log else dataOf dir log
  | _ :: log => dataOf dir log

def AsmCall.isData : AsmCall → Bool
  | .data _ => true
  | _ => false

variable (phys size periods : ℕ)

/-- A data command that came after others reads the period whose turn it is. -/
def DataCommand.InTurn (command : DataCommand) (earlier : List DataCommand) : Prop :=
  command.seqId = earlier.length % periods ∧ command.buffer = some ⟨phys + command.seqId * size, size⟩

def InTurn (phys size periods : ℕ) (log : List AsmCall) : Prop :=
  ∀ dir, Along (DataCommand.InTurn phys size periods) (dataOf dir log)

def AsmCall.isMapped : AsmCall → Bool
  | .data command => command.table.isSome
  | _ => true

/-- Every data command was made from a table. -/
def Mapped (log : List AsmCall) : Prop := ∀ call ∈ log, call.isMapped = true

instance (log : List AsmCall) : Decidable (Mapped log) := inferInstanceAs (Decidable (∀ call ∈ log, _))

/-- The ports of a client fit the data commands before. -/
structure Aligned (client : AudioClient) (log : List AsmCall) : Prop where
  table : ∀ dir table, (client dir).buf = some table → table = periodTable phys size periods
  next : ∀ dir, (client dir).dspBuf = (dataOf dir log).length % periods
  inTurn : InTurn phys size periods log

variable {call : AsmCall} {table : List AudioBuffer} {dir : PcmDirection}

section

variable {phys size periods : ℕ} {client : AudioClient} {log later : List AsmCall}

theorem Mapped.of_suffix (h : Mapped later) (hsuffix : log <:+ later) : Mapped log :=
  fun call hcall ↦ h call (hsuffix.subset hcall)

theorem dataOf_cons (hcall : call.isData = false) (dir : PcmDirection) (log : List AsmCall) :
    dataOf dir (call :: log) = dataOf dir log := by
  cases call with
  | data command => exact absurd hcall Bool.true_eq_false_eq_False
  | _ => rfl

theorem InTurn.cons (h : InTurn phys size periods log) (hcall : call.isData = false) :
    InTurn phys size periods (call :: log) := by
  intro dir
  rw [dataOf_cons hcall]
  exact h dir

variable (h : Aligned phys size periods client log)

include h

theorem Aligned.cons (hcall : call.isData = false) :
    Aligned phys size periods client (call :: log) := by
  refine ⟨h.table, fun dir ↦ ?_, h.inTurn.cons hcall⟩
  rw [dataOf_cons hcall, h.next]

/-- A port whose next place is the same may have another table. -/
theorem Aligned.update {port : AudioPort}
    (htable : ∀ table, port.buf = some table → table = periodTable phys size periods)
    (hnext : port.dspBuf = (client dir).dspBuf) :
    Aligned phys size periods (Function.update client dir port) log := by
  refine ⟨fun other ↦ ?_, fun other ↦ ?_, h.inTurn⟩
  · by_cases hother : other = dir
    · subst hother
      rwa [Function.update_self]
    · rw [Function.update_of_ne hother]
      exact h.table other
  · rw [← h.next]
    by_cases hother : other = dir
    · subst hother
      rw [Function.update_self, hnext]
    · rw [Function.update_of_ne hother]

theorem Aligned.unmap (dir : PcmDirection) (rc : ℤ) :
    Aligned phys size periods (client.unmapMemoryRegions dir rc) log := by
  refine h.update (fun table hbuf ↦ ?_) (AudioPort.dspBuf_unmapMemoryRegions _ rc)
  rcases (client dir).buf_unmapMemoryRegions rc with heq | heq
  · exact h.table dir table (heq.symm.trans hbuf)
  · exact absurd (heq.symm.trans hbuf) (Option.some_ne_none table).symm

theorem Aligned.map (dir : PcmDirection) (answer : MapAnswer) :
    Aligned phys size periods (client.mapMemoryRegions dir phys size periods answer).1 log := by
  refine h.update (fun table hbuf ↦ ?_) (AudioPort.dspBuf_mapMemoryRegions _ phys size periods answer)
  rcases (client dir).buf_mapMemoryRegions phys size periods answer with heq | heq | heq
  · exact h.table dir table (heq.symm.trans hbuf)
  · exact absurd (heq.symm.trans hbuf) (Option.some_ne_none table).symm
  · exact Option.some.inj (hbuf.symm.trans heq)

theorem Aligned.numPeriods (hbuf : (client dir).buf = some table) : (client dir).numPeriods = periods := by
  rw [(client dir).numPeriods_eq, hbuf, Option.map_some, Option.getD_some, h.table dir table hbuf,
    AudioPort.length_periodTable]

section

variable (hsize : 0 < size) (hperiods : 0 < periods)

include hsize hperiods

/-- The command that a mapped port sends next is in turn. -/
theorem Aligned.send_inTurn (dir : PcmDirection) {length : ℕ} (hbuf : (client dir).buf = some table) :
    (⟨dir, (client dir).buf, (client dir).dspBuf, length, (client dir).memMapHandle⟩ : DataCommand).InTurn
      phys size periods (dataOf dir log) := by
  obtain rfl := h.table dir table hbuf
  refine ⟨h.next dir, ?_⟩
  have hlt : (client dir).dspBuf < periods := by
    rw [h.next]
    exact Nat.mod_lt _ hperiods
  rw [DataCommand.buffer, hbuf]
  exact AudioPort.getElem?_periodTable hlt hsize

omit hsize in
theorem Aligned.advance (hbuf : (client dir).buf = some table) {command : DataCommand}
    (hdir : command.direction = dir) (hturn : command.InTurn phys size periods (dataOf dir log)) :
    Aligned phys size periods (Function.update client dir (client dir).advance) (.data command :: log) := by
  have hself : dataOf dir (.data command :: log) = command :: dataOf dir log := if_pos hdir
  have hne {other : PcmDirection} (hother : other ≠ dir) :
      dataOf other (.data command :: log) = dataOf other log :=
    if_neg fun heq ↦ hother (heq.symm.trans hdir)
  have hnum := h.numPeriods hbuf
  refine ⟨fun other ↦ ?_, fun other ↦ ?_, fun other ↦ ?_⟩
  · by_cases hother : other = dir
    · subst hother
      rw [Function.update_self, AudioPort.buf_advance]
      exact h.table other
    · rw [Function.update_of_ne hother]
      exact h.table other
  · by_cases hother : other = dir
    · subst hother
      have hlt : (client other).dspBuf < (client other).numPeriods := by
        rw [hnum, h.next]
        exact Nat.mod_lt _ hperiods
      rw [Function.update_self, AudioPort.dspBuf_advance hlt, hself, List.length_cons, hnum, h.next,
        Nat.mod_add_mod]
    · rw [Function.update_of_ne hother, hne hother, h.next]
  · by_cases hother : other = dir
    · subst hother
      rw [hself]
      exact ⟨hturn, h.inTurn other⟩
    · rw [hne hother]
      exact h.inTurn other

theorem Aligned.send (dir : PcmDirection) (length : ℕ) (allocated : Bool)
    (hmapped : Mapped (logData (client.send dir length allocated).2 log)) :
    Aligned phys size periods (client.send dir length allocated).1
      (logData (client.send dir length allocated).2 log) := by
  cases allocated with
  | false => exact h
  | true =>
    have hbuf : (client dir).buf.isSome = true := hmapped _ List.mem_cons_self
    obtain ⟨table, htable⟩ := Option.isSome_iff_exists.1 hbuf
    exact h.advance hperiods htable rfl (h.send_inTurn hsize hperiods dir htable)

theorem Aligned.writeAsync (len : ℕ) (allocated : Bool)
    (hmapped : Mapped (logData (client.writeAsync len allocated).2 log)) :
    Aligned phys size periods (client.writeAsync len allocated).1
      (logData (client.writeAsync len allocated).2 log) :=
  h.send hsize hperiods .playback len allocated hmapped

theorem Aligned.read (allocated : Bool) (hmapped : Mapped (logData (client.read allocated).2 log)) :
    Aligned phys size periods (client.read allocated).1 (logData (client.read allocated).2 log) :=
  h.send hsize hperiods .capture _ allocated hmapped

theorem Aligned.queueReads (packets : ℕ → Bool) (count : ℕ)
    (hmapped : Mapped (queueReads packets count client log).2) :
    Aligned phys size periods (queueReads packets count client log).1
      (Q6asm.queueReads packets count client log).2 := by
  induction count generalizing client log with
  | zero => exact h
  | succ count ih =>
    refine ih (h.read hsize hperiods (packets count) ?_) hmapped
    exact hmapped.of_suffix (silent_queueReads ..).suffix

theorem Aligned.sendFormat (answers : PrepareAnswers) (prtd : Prtd)
    (hmapped : Mapped (Q6asm.sendFormat answers prtd client log).2) :
    Aligned phys size periods (Q6asm.sendFormat answers prtd client log).1
      (Q6asm.sendFormat answers prtd client log).2 := by
  have hformat : Aligned phys size periods client (.format answers.format :: log) := h.cons rfl
  revert hmapped
  unfold Q6asm.sendFormat
  cases prtd.stream with
  | playback => exact fun _ ↦ hformat
  | capture => exact hformat.queueReads hsize hperiods _ _

end

end

/-- A stream that has been set up for a number of periods: while it has a client, that is aligned. -/
structure Prtd.Periodic (prtd : Prtd) (log : List AsmCall) : Prop where
  phys_eq : prtd.phys = phys
  periods_eq : prtd.periods = periods
  size_eq : prtd.pcmSize / prtd.periods = size
  client : ∀ client, prtd.audioClient = some client → Aligned phys size periods client log
  inTurn : InTurn phys size periods log

def Substream.Periodic (phys size periods : ℕ) (substream : Substream) : Prop :=
  match substream.prtd with
  | none => InTurn phys size periods substream.log
  | some prtd => prtd.Periodic phys size periods substream.log

/-- An operation that sets up a stream sets it up for this number of periods of this size. -/
def PcmOp.Periodic (size periods : ℕ) : PcmOp → Prop
  | .hwParams params => params.periods = periods ∧ params.bufferBytes / params.periods = size
  | _ => True

variable {later : List AsmCall}

section

variable {phys size periods : ℕ} {prtd : Prtd} {log : List AsmCall}

variable {client : AudioClient}

/-- The stream after clearing its previous setup. -/
theorem Aligned.clearPrevious (h : Aligned phys size periods client log) (answers : PrepareAnswers)
    (prtd : Prtd) :
    Aligned phys size periods (Q6asm.clearPrevious answers prtd client log).1
      (Q6asm.clearPrevious answers prtd client log).2 := by
  unfold Q6asm.clearPrevious
  split_ifs
  · exact h
  · exact ((h.unmap prtd.stream answers.unmap).cons rfl).cons rfl

/-- A stream that keeps its set-up. -/
theorem Prtd.Periodic.keep (h : prtd.Periodic phys size periods log) {next : Prtd}
    (hphys : next.phys = prtd.phys) (hperiods : next.periods = prtd.periods)
    (hsize : next.pcmSize = prtd.pcmSize)
    (hclient : ∀ client, next.audioClient = some client → Aligned phys size periods client later)
    (hturn : InTurn phys size periods later) : next.Periodic phys size periods later :=
  ⟨hphys.trans h.phys_eq, hperiods.trans h.periods_eq, by rw [hsize, hperiods, h.size_eq], hclient, hturn⟩

/-- A stream whose client is aligned. -/
theorem Prtd.Periodic.keep_some (h : prtd.Periodic phys size periods log) {next : Prtd}
    (hclient : Aligned phys size periods client later) (hphys : next.phys = prtd.phys)
    (hperiods : next.periods = prtd.periods) (hsize : next.pcmSize = prtd.pcmSize)
    (hnext : next.audioClient = some client) :
    next.Periodic phys size periods later := by
  refine h.keep hphys hperiods hsize (fun other hother ↦ ?_) hclient.inTurn
  obtain rfl := Option.some.inj (hnext.symm.trans hother)
  exact hclient

section

variable (hpos : 0 < size) (hperiods : 0 < periods)

include hpos hperiods

theorem periodic_openSession (answers : PrepareAnswers) (h : prtd.Periodic phys size periods log)
    {client : AudioClient} (hclient : Aligned phys size periods client later)
    (hmapped : Mapped (openSession answers prtd client later).1.log) :
    (openSession answers prtd client later).1.Periodic phys size periods := by
  have hopen : Aligned phys size periods client (.openStream answers.openStream :: later) := hclient.cons rfl
  have hroute : Aligned phys size periods client
      (.routingOpen answers.routing :: .openStream answers.openStream :: later) := hopen.cons rfl
  have hgone {final : List AsmCall} (hturn : InTurn phys size periods final) :
      Prtd.Periodic phys size periods { prtd with audioClient := none } final :=
    h.keep rfl rfl rfl (fun _ hsome ↦ absurd hsome (Option.some_ne_none _).symm) hturn
  unfold openSession at hmapped ⊢
  dsimp only at hmapped ⊢
  split_ifs at hmapped ⊢
  · exact hgone hopen.inTurn
  · exact hgone (hroute.inTurn.cons rfl)
  · exact h.keep_some (hroute.sendFormat hpos hperiods answers prtd hmapped) rfl rfl rfl rfl
  · exact h.keep_some (hroute.sendFormat hpos hperiods answers prtd hmapped) rfl rfl rfl rfl

theorem periodic_prepare (answers : PrepareAnswers)
    (h : prtd.Periodic phys size periods log) (hmapped : Mapped (q6asmDaiPrepare answers prtd log).1.log) :
    (q6asmDaiPrepare answers prtd log).1.Periodic phys size periods := by
  revert hmapped
  have hreset : prtd.reset.Periodic phys size periods log := h.keep rfl rfl rfl h.client h.inTurn
  obtain ⟨rfl, rfl, rfl, hclients, -⟩ := id h
  unfold q6asmDaiPrepare
  cases hclient : prtd.audioClient with
  | none => exact fun _ ↦ h
  | some client =>
    have hcleared := (hclients client hclient).clearPrevious answers prtd
    have hmap := hcleared.map prtd.stream answers.map
    dsimp only
    split_ifs
    · exact fun _ ↦ h.keep_some hmap rfl rfl rfl rfl
    · exact periodic_openSession hpos hperiods answers hreset hmap

end

variable (asked : Bool)

theorem phys_periodElapsed (prtd : Prtd) : (periodElapsed asked prtd).phys = prtd.phys := by
  cases asked <;> rfl

theorem periods_periodElapsed (prtd : Prtd) :
    (periodElapsed asked prtd).periods = prtd.periods := by
  cases asked <;> rfl

theorem pcmSize_periodElapsed (prtd : Prtd) :
    (periodElapsed asked prtd).pcmSize = prtd.pcmSize := by
  cases asked <;> rfl

theorem periodic_completed {next : AudioClient → AudioClient × List DataCommand}
    (h : prtd.Periodic phys size periods log) (hclient : prtd.audioClient = some client)
    (hnext : Mapped (logData (next client).2 (.elapsed :: log)) →
      Aligned phys size periods client (.elapsed :: log) →
      Aligned phys size periods (next client).1 (logData (next client).2 (.elapsed :: log)))
    (hmapped : Mapped (completed asked next prtd client log).log) :
    (completed asked next prtd client log).Periodic phys size periods := by
  have helapsed : Aligned phys size periods client (.elapsed :: log) := (h.client client hclient).cons rfl
  have hphys := phys_periodElapsed asked prtd
  have hperiods := periods_periodElapsed asked prtd
  have hsize := pcmSize_periodElapsed asked prtd
  unfold completed at hmapped ⊢
  dsimp only at hmapped ⊢
  split_ifs at hmapped ⊢
  · exact h.keep_some (hnext hmapped helapsed) hphys hperiods hsize rfl
  · exact h.keep_some helapsed hphys hperiods hsize ((audioClient_periodElapsed asked prtd).trans hclient)

section

variable (hpos : 0 < size) (hperiods : 0 < periods)

include hpos hperiods

theorem periodic_eventHandler (message : AsmEvent)
    (h : prtd.Periodic phys size periods log) {client : AudioClient} (hclient : prtd.audioClient = some client)
    (hmapped : Mapped (eventHandler message prtd client log).log) :
    (eventHandler message prtd client log).Periodic phys size periods := by
  unfold eventHandler at hmapped ⊢
  cases message with
  | runDone packet =>
    dsimp only at hmapped ⊢
    split_ifs at hmapped ⊢
    · exact h.keep_some ((h.client client hclient).writeAsync hpos hperiods _ packet hmapped) rfl rfl rfl rfl
    · exact h
  | eosDone => exact h.keep rfl rfl rfl h.client h.inTurn
  | writeDone token address asked packet =>
    dsimp only at hmapped ⊢
    split_ifs at hmapped ⊢
    · exact periodic_completed asked h hclient
        (fun hdata helapsed ↦ helapsed.writeAsync hpos hperiods _ packet hdata) hmapped
    · exact h
  | readDone token address asked packet =>
    dsimp only at hmapped ⊢
    split_ifs at hmapped ⊢
    · exact periodic_completed asked h hclient (fun hdata helapsed ↦ helapsed.read hpos hperiods packet hdata)
        hmapped
    · exact h
  | other => exact h

theorem periodic_callback (message : AsmEvent) (h : prtd.Periodic phys size periods log)
    (hmapped : Mapped (q6asmStreamCallback message prtd log).log) :
    (q6asmStreamCallback message prtd log).Periodic phys size periods := by
  rw [q6asmStreamCallback] at hmapped ⊢
  cases hclient : prtd.audioClient with
  | none => exact h
  | some client =>
    rw [hclient] at hmapped
    exact periodic_eventHandler hpos hperiods message h hclient hmapped

end

/-- A command, which is no data command and no fault but for a stream without a client. -/
theorem periodic_command (hcall : call.isData = false) {next : Prtd}
    (h : next.Periodic phys size periods log) : (command call next log).Periodic phys size periods := by
  have hlogged : (if next.audioClient.isSome then call else .fault).isData = false := by
    split_ifs
    · exact hcall
    · rfl
  exact h.keep rfl rfl rfl (fun client hclient ↦ (h.client client hclient).cons hlogged)
    (h.inTurn.cons hlogged)

theorem periodic_trigger (cmd : Trigger) (h : prtd.Periodic phys size periods log) :
    (q6asmDaiTrigger cmd prtd log).Periodic phys size periods := by
  cases cmd with
  | stop => exact periodic_command rfl (h.keep rfl rfl rfl h.client h.inTurn)
  | other => exact h
  | _ => exact periodic_command rfl h

theorem periodic_apply (hpos : 0 < size) (hperiods : 0 < periods) {op : PcmOp} (hop : op.Periodic size periods)
    (h : prtd.Periodic phys size periods log) (hmapped : Mapped (op.apply prtd log).log) :
    (op.apply prtd log).Periodic phys size periods := by
  cases op with
  | hwParams params => exact ⟨h.phys_eq, hop.1, hop.2, h.client, h.inTurn⟩
  | prepare answers => exact periodic_prepare hpos hperiods answers h hmapped
  | trigger cmd => exact periodic_trigger cmd h
  | event message => exact periodic_callback hpos hperiods message h hmapped
  | pointer => exact h.keep rfl rfl rfl h.client h.inTurn
  | close ret =>
    change InTurn phys size periods (.routingClose :: if _ then .close ret :: log else log)
    apply InTurn.cons _ rfl
    split_ifs
    · exact h.inTurn.cons rfl
    · exact h.inTurn

end

theorem Substream.Periodic.run {phys size periods : ℕ} (hpos : 0 < size) (hperiods : 0 < periods)
    {substream : Substream}
    (h : substream.Periodic phys size periods) {ops : List PcmOp} (hops : ∀ op ∈ ops, op.Periodic size periods)
    (hmapped : Mapped (substream.run ops).log) : (substream.run ops).Periodic phys size periods := by
  induction ops generalizing substream with
  | nil => exact h
  | cons op ops ih =>
    rw [List.forall_mem_cons] at hops
    refine ih ?_ hops.2 hmapped
    have hstep : Mapped (substream.step op).log := hmapped.of_suffix (suffix_run _ ops)
    obtain ⟨prtd, log⟩ := substream
    cases prtd with
    | none => exact h
    | some prtd => exact periodic_apply hpos hperiods hops.1 h hstep

theorem Substream.Periodic.inTurn {phys size periods : ℕ} {substream : Substream}
    (h : substream.Periodic phys size periods) : InTurn phys size periods substream.log := by
  obtain ⟨prtd, log⟩ := substream
  cases prtd with
  | none => exact h
  | some prtd => exact Prtd.Periodic.inTurn h

/-- A stream of four periods that is stopped after the first one and prepared again. -/
def repreparedOps : List PcmOp :=
  [.prepare (.mapped 0), .trigger .start, .event (.runDone true), .trigger .stop, .prepare (.mapped 0),
    .trigger .start, .event (.runDone true)]

/-- If the unmapping fails and the stream is then set up for longer periods, the old table is still used. -/
example : ((dataOf .playback ((q6asmDaiOpen .playback 64).run [.hwParams ⟨8, 2, 4, some 16⟩,
    .prepare (.mapped 0), .event (.runDone true), .trigger .stop, .hwParams ⟨16, 4, 4, some 16⟩,
    .prepare { PrepareAnswers.mapped 0 with unmap := -22 }, .event (.runDone true)]).log).head?.bind
      DataCommand.buffer) = some ⟨66, 2⟩ := by decide

/-- Set up for no more periods than have been played, a stream reads outside of its table. -/
example : ((dataOf .playback ((q6asmDaiOpen .playback 64).run [.hwParams ⟨8, 2, 4, some 16⟩,
    .prepare (.mapped 0), .event (.runDone true), .event (.runDone true), .trigger .stop,
    .hwParams ⟨8, 4, 2, some 16⟩, .prepare (.mapped 0), .event (.runDone true)]).log).head?.bind
      DataCommand.buffer) = none := by decide

/-! ## The position -/

/-- What may happen to a playback stream that keeps running: any command but a stop, and messages of the
DSP after which the stream gets its packets. -/
def PcmOp.KeepsPlaying : PcmOp → Prop
  | .trigger cmd => cmd ≠ .stop
  | .event (.runDone packet) => packet = true
  | .event (.writeDone _ _ _ packet) => packet = true
  | .event .other => True
  | .pointer => True
  | _ => False

def PcmOp.isRunDone : PcmOp → Bool
  | .event (.runDone _) => true
  | _ => false

/-- A completion after which the core does not ask for the position, as during a pause. -/
def PcmOp.isUnasked : PcmOp → Bool
  | .event (.writeDone _ _ asked _) => !asked
  | _ => false

/-- No completion after which the core does not ask is the one that ends the buffer, where so many periods
had elapsed before. -/
def Substream.EndsAsked (count size before : ℕ) (substream : Substream) : List PcmOp → Prop
  | [] => True
  | op :: ops =>
    (op.isUnasked = true → ¬size ∣ (substream.log.count .elapsed - before + 1) * count) ∧
      (substream.step op).EndsAsked count size before ops

/-- A playback stream that is running, with what it has done since it was prepared. -/
structure Playing (count size : ℕ) (base during : List AsmCall) (runs : ℕ) (prtd : Prtd)
    (substream : Substream) : Prop where
  prtd_eq : substream.prtd = some prtd
  log_eq : substream.log = during ++ base
  client : ∃ client, prtd.audioClient = some client
  stream : prtd.stream = .playback
  state : prtd.state = .running
  count_eq : prtd.pcmCount = count
  size_eq : prtd.pcmSize = size
  pos : prtd.pcmIrqPos = during.count .elapsed * count % size
  data : (dataOf .playback during).length = runs + during.count .elapsed

section

variable {count size : ℕ} {base during : List AsmCall} {runs : ℕ} {prtd : Prtd} {substream : Substream}

/-- One more period of a buffer that they fill exactly. -/
theorem pos_elapsed (hdvd : count ∣ size) (hsize : 0 < size)
    (hsmall : size + count ≤ 2 ^ 32) (elapsed : ℕ) :
    (if size ≤ (elapsed * count % size + count) % 2 ^ 32 then 0
      else (elapsed * count % size + count) % 2 ^ 32) = (elapsed + 1) * count % size := by
  have hlt : elapsed * count % size < size := Nat.mod_lt _ hsize
  have hmod : (elapsed * count % size + count) % 2 ^ 32 = elapsed * count % size + count :=
    Nat.mod_eq_of_lt (by omega)
  have hle : elapsed * count % size + count ≤ size := by
    obtain ⟨periods, rfl⟩ := hdvd
    rw [mul_comm elapsed count, Nat.mul_mod_mul_left] at hlt ⊢
    rw [← Nat.mul_succ]
    exact Nat.mul_le_mul_left count (Nat.lt_of_mul_lt_mul_left hlt)
  rw [hmod, Nat.succ_mul, ← Nat.mod_add_mod]
  split_ifs with hwrap
  · rw [le_antisymm hle hwrap, Nat.mod_self]
  · rw [Nat.mod_eq_of_lt (not_le.1 hwrap)]

theorem count_elapsed_logData (commands : List DataCommand) (log : List AsmCall) :
    (logData commands log).count .elapsed = log.count .elapsed := by
  induction commands with
  | nil => rfl
  | cons command commands ih => exact (List.count_cons_of_ne AsmCall.noConfusion).trans ih

theorem length_dataOf_writeAsync (client : AudioClient) (len : ℕ) (log : List AsmCall) :
    (dataOf .playback (logData (client.writeAsync len true).2 log)).length =
      (dataOf .playback log).length + 1 := by
  simp [AudioClient.writeAsync, AudioClient.send, logData, dataOf]

theorem logData_append (commands : List DataCommand) (log base : List AsmCall) :
    logData commands (log ++ base) = logData commands log ++ base :=
  (List.append_assoc ..).symm

section

variable (h : Playing count size base during runs prtd substream)
include h

/-- The stream with the data of its own. -/
theorem Playing.self : Playing count size base during runs prtd ⟨some prtd, substream.log⟩ :=
  ⟨rfl, h.log_eq, h.client, h.stream, h.state, h.count_eq, h.size_eq, h.pos, h.data⟩

/-- A call that is neither a data command nor an elapsed period. -/
theorem Playing.cons (hdata : call.isData = false) (helapsed : call ≠ .elapsed) :
    Playing count size base (call :: during) runs prtd ⟨some prtd, call :: substream.log⟩ := by
  refine ⟨rfl, by rw [h.log_eq, List.cons_append], h.client, h.stream, h.state, h.count_eq, h.size_eq, ?_, ?_⟩
  · rw [List.count_cons_of_ne helapsed, h.pos]
  · rw [List.count_cons_of_ne helapsed, dataOf_cons hdata, h.data]

/-- A command of a stream that has its client. -/
theorem Playing.command (hdata : call.isData = false) (helapsed : call ≠ .elapsed) :
    Playing count size base (call :: during) runs prtd (Q6asm.command call prtd substream.log) := by
  obtain ⟨client, hclient⟩ := h.client
  have hsome : prtd.audioClient.isSome = true := by rw [hclient]; rfl
  rw [Q6asm.command, if_pos hsome]
  exact h.cons hdata helapsed

theorem Playing.trigger {cmd : Trigger} (hcmd : cmd ≠ .stop) :
    ∃ during' prtd', Playing count size base during' runs prtd' (q6asmDaiTrigger cmd prtd substream.log) := by
  cases cmd with
  | stop => exact absurd rfl hcmd
  | other => exact ⟨_, _, h.self⟩
  | start => exact ⟨_, _, h.command rfl AsmCall.noConfusion⟩
  | resume => exact ⟨_, _, h.command rfl AsmCall.noConfusion⟩
  | pauseRelease => exact ⟨_, _, h.command rfl AsmCall.noConfusion⟩
  | suspend => exact ⟨_, _, h.command rfl AsmCall.noConfusion⟩
  | pausePush => exact ⟨_, _, h.command rfl AsmCall.noConfusion⟩

/-- A completed run is answered with one more data command. -/
theorem Playing.runDone (client : AudioClient) :
    ∃ during' prtd', Playing count size base during' (runs + 1) prtd'
      (eventHandler (.runDone true) prtd client substream.log) := by
  rw [eventHandler, if_pos h.stream]
  refine ⟨logData (client.writeAsync prtd.pcmCount true).2 during, _, rfl, ?_, ⟨_, rfl⟩, h.stream, h.state,
    h.count_eq, h.size_eq, ?_, ?_⟩
  · rw [h.log_eq]
    exact logData_append ..
  · rw [count_elapsed_logData]
    exact h.pos
  · rw [count_elapsed_logData, length_dataOf_writeAsync, h.data, Nat.add_right_comm]

theorem Playing.pointer (hsize : 0 < size) :
    Playing count size base during runs (q6asmDaiPointer prtd) ⟨some (q6asmDaiPointer prtd), substream.log⟩ := by
  have hlt : ¬prtd.pcmSize ≤ prtd.pcmIrqPos := by
    rw [h.size_eq, h.pos, not_le]
    exact Nat.mod_lt _ hsize
  have hsame : q6asmDaiPointer prtd = prtd := by
    rw [q6asmDaiPointer, if_neg hlt]
  rw [hsame]
  exact h.self

variable (hdvd : count ∣ size) (hsize : 0 < size) (hsmall : size + count ≤ 2 ^ 32)
include hdvd hsize hsmall

/-- The position after a completed period, unless it ends the buffer and the core does not ask. -/
theorem periodElapsed_pos {asked : Bool}
    (hend : asked = false → ¬size ∣ (during.count .elapsed + 1) * count) :
    (periodElapsed asked prtd).pcmIrqPos = (during.count .elapsed + 1) * count % size := by
  have hpos := pos_elapsed hdvd hsize hsmall (during.count .elapsed)
  rw [← h.pos, ← h.count_eq, ← h.size_eq] at hpos
  rw [← h.count_eq, ← h.size_eq] at hend ⊢
  cases asked with
  | true => exact hpos
  | false =>
    split_ifs at hpos with hwrap
    · exact absurd (Nat.dvd_of_mod_eq_zero hpos.symm) (hend rfl)
    · exact hpos

/-- A completed period is answered with one more data command. -/
theorem Playing.completed (client : AudioClient) {asked : Bool}
    (hend : asked = false → ¬size ∣ (during.count .elapsed + 1) * count) :
    ∃ during' prtd', Playing count size base during' runs prtd'
      (Q6asm.completed asked (fun client ↦ client.writeAsync prtd.pcmCount true) prtd client
        substream.log) := by
  have hrunning : (periodElapsed asked prtd).state = .running :=
    (state_periodElapsed asked prtd).trans h.state
  have hpos := periodElapsed_pos h hdvd hsize hsmall hend
  have hcount : (AsmCall.elapsed :: during).count .elapsed = during.count .elapsed + 1 := List.count_cons_self
  rw [Q6asm.completed, if_pos hrunning]
  refine ⟨logData (client.writeAsync prtd.pcmCount true).2 (.elapsed :: during), _, rfl, ?_, ⟨_, rfl⟩, ?_,
    hrunning, ?_, ?_, ?_, ?_⟩
  · rw [h.log_eq]
    exact logData_append _ (.elapsed :: during) base
  · cases asked <;> exact h.stream
  · cases asked <;> exact h.count_eq
  · exact (pcmSize_periodElapsed asked prtd).trans h.size_eq
  · rw [count_elapsed_logData, hcount]
    exact hpos
  · rw [count_elapsed_logData, hcount, length_dataOf_writeAsync, dataOf_cons rfl, h.data, Nat.add_assoc]

theorem Playing.step {op : PcmOp} (hop : op.KeepsPlaying)
    (hend : op.isUnasked = true → ¬size ∣ (during.count .elapsed + 1) * count) :
    ∃ during' prtd', Playing count size base during' (runs + if op.isRunDone then 1 else 0) prtd'
      (substream.step op) := by
  obtain ⟨client, hclient⟩ := h.client
  rw [Substream.step, h.prtd_eq]
  have hcallback (message : AsmEvent) :
      (PcmOp.event message).apply prtd substream.log = eventHandler message prtd client substream.log := by
    rw [PcmOp.apply, q6asmStreamCallback, hclient]
  cases op with
  | trigger cmd => exact h.trigger hop
  | pointer => exact ⟨_, _, h.pointer hsize⟩
  | event message =>
    dsimp only
    rw [hcallback]
    cases message with
    | runDone packet =>
      obtain rfl : packet = true := hop
      exact h.runDone client
    | writeDone token address asked packet =>
      obtain rfl : packet = true := hop
      change ∃ during' prtd', Playing count size base during' runs prtd' (eventHandler _ prtd client _)
      rw [eventHandler]
      split_ifs
      · exact h.completed hdvd hsize hsmall client fun hasked ↦ hend (by rw [PcmOp.isUnasked, hasked]; rfl)
      · exact ⟨_, _, h.self⟩
    | other => exact ⟨_, _, h.self⟩
    | eosDone => exact hop.elim
    | readDone token address asked packet => exact hop.elim
  | hwParams params => exact hop.elim
  | prepare answers => exact hop.elim
  | close ret => exact hop.elim

theorem Playing.run {ops : List PcmOp} (hops : ∀ op ∈ ops, op.KeepsPlaying)
    (hend : substream.EndsAsked count size (base.count .elapsed) ops) :
    ∃ during' prtd', Playing count size base during' (runs + ops.countP PcmOp.isRunDone) prtd'
      (substream.run ops) := by
  induction ops generalizing during runs prtd substream with
  | nil => exact ⟨_, _, h⟩
  | cons op ops ih =>
    rw [List.forall_mem_cons] at hops
    have helapsed : substream.log.count .elapsed - base.count .elapsed = during.count .elapsed := by
      rw [h.log_eq, List.count_append, Nat.add_sub_cancel]
    obtain ⟨hask, hend⟩ := hend
    rw [helapsed] at hask
    obtain ⟨during', prtd', hstep⟩ := h.step hdvd hsize hsmall hops.1 hask
    have hrun := ih hstep hops.2 hend
    rwa [List.countP_cons, Nat.add_comm (List.countP _ _), ← Nat.add_assoc]

end

/-- A preparation that succeeds leaves a stream that runs and has not played anything. -/
theorem playing_of_prepare {answers : PrepareAnswers} {log : List AsmCall} (hstream : prtd.stream = .playback)
    (hprepare : (q6asmDaiPrepare answers prtd log).2 = 0) :
    ∃ next, Playing prtd.periodBytes prtd.pcmSize (q6asmDaiPrepare answers prtd log).1.log [] 0 next
      (q6asmDaiPrepare answers prtd log).1 := by
  unfold q6asmDaiPrepare at hprepare ⊢
  cases hclient : prtd.audioClient with
  | none =>
    rw [hclient] at hprepare
    exact absurd hprepare EINVAL.ret_ne_zero
  | some client =>
    rw [hclient] at hprepare
    dsimp only at hprepare ⊢
    split_ifs at hprepare ⊢
    · exact absurd hprepare ENOMEM.ret_ne_zero
    · unfold openSession at hprepare ⊢
      dsimp only at hprepare ⊢
      split_ifs at hprepare ⊢ with hopen hrouting hformat
      · exact absurd hprepare (ne_of_lt hopen)
      · exact absurd hprepare hrouting
      · exact absurd hprepare (ne_of_lt hformat)
      · have hpos : 0 = ([] : List AsmCall).count .elapsed * prtd.periodBytes % prtd.pcmSize := by simp
        exact ⟨_, rfl, rfl, ⟨_, rfl⟩, hstream, rfl, rfl, rfl, hpos, rfl⟩

end

/-- A stream of four periods of two octets. -/
def fourPeriods : Prtd :=
  q6asmDaiHwParams ⟨8, 2, 4, some 16⟩ ⟨.playback, 64, 0, 0, 0, 0, 0, 0, some AudioClient.zeroed, .idle⟩

/-- The stream plays four periods and is paused once, and the second period is completed in the pause. -/
def pausedOps : List PcmOp :=
  [.trigger .start, .event (.runDone true), .event (.writeDone 0 64 true true), .trigger .pausePush,
    .event (.writeDone 1 66 false true), .trigger .pauseRelease, .event (.runDone true),
    .event (.writeDone 2 68 true true), .event (.writeDone 3 70 true true)]

/-- If the fourth period and the first one again are completed in a pause, the position is zero where it
should be two. -/
example : ((q6asmDaiPrepare (.mapped 0) fourPeriods []).1.run (.trigger .start :: .event (.runDone true) ::
    .event (.writeDone 0 64 true true) :: .event (.writeDone 1 66 true true) ::
    .event (.writeDone 2 68 true true) :: .trigger .pausePush :: .event (.writeDone 3 70 false true) ::
    [.event (.writeDone 0 64 false true), .pointer])).prtd.map Prtd.pcmIrqPos = some 0 := by decide

end TclB220G.Q6asm
