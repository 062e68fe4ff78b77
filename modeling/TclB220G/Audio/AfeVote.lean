import TclB220G.Kernel.Errno
import TclB220G.Lib.Interleaving
import TclB220G.Lib.TracedRead

/-!
# Votes for the LPASS hardware

A vote sends a packet to the DSP and waits for the reply, which carries the handle that the vote is later
taken back with.  The callback leaves replies in fields that all commands share, and the waiting command
reads them there.  Commands take `afe->lock` for the whole transaction, and a vote keeps it until it has
copied the handle.  The callback does not take the lock.  It stores what a vote waits for last.

The fields are read and written one at a time, and the accesses of all callers and of the callback
interleave.
-/

namespace TclB220G.Audio

open Kernel Kernel.Errno Lib Lib.TracedRead Lib.Interleaving

def APR_BASIC_RSP_RESULT : ℕ := 0x110e8
def AFE_PORT_CMD_DEVICE_START : ℕ := 0x100e5
def AFE_PORT_CMD_DEVICE_STOP : ℕ := 0x100e6
def AFE_PORT_CMD_SET_PARAM_V2 : ℕ := 0x100ef
def AFE_SVC_CMD_SET_PARAM : ℕ := 0x100f3
def AFE_CMD_RSP_REMOTE_LPASS_CORE_HW_VOTE_REQUEST : ℕ := 0x100f5
def AFE_CLK_TOKEN : ℕ := 1024

/-! ## The callback -/

/-- A packet from the DSP.  The payload ends somewhere in memory; what follows it is arbitrary. -/
structure AprMessage where
  opcode : ℕ
  token : ℕ
  payloadSize : ℕ
  payload : Memory

/-- A store of the callback.  A result belongs to a port, or to the driver if there is none. -/
inductive AfeStore where
  | opcode (port : Option ℕ) (value : ℕ)
  | status (port : Option ℕ) (value : ℕ)
  | handle (value : ℕ)
  deriving DecidableEq, Repr

/-- The commands whose basic results are kept. -/
def keptResults : List ℕ :=
  [AFE_PORT_CMD_SET_PARAM_V2, AFE_PORT_CMD_DEVICE_STOP, AFE_PORT_CMD_DEVICE_START, AFE_SVC_CMD_SET_PARAM]

/-- What `APR_BASIC_RSP_RESULT` leads to.  `found` says whether the driver has a port for the token. -/
def basicStores (token : ℕ) (found : Bool) (opcode status : ℕ) : List AfeStore :=
  if opcode ∈ keptResults then
    if found then [.opcode (some token) opcode, .status (some token) status]
    else if token = AFE_CLK_TOKEN then [.opcode none opcode, .status none status]
    else []
  else []

/-- The status of a reply to a vote, which is zero if the reply is too short for it. -/
def voteStatus (message : AprMessage) : TracedRead Empty ℕ :=
  if 8 ≤ message.payloadSize then word 4 4 else pure 0

/-- The reads of `q6afe_callback` in the payload, and the stores that it then makes in this order. -/
def q6afeCallback (message : AprMessage) (found : Bool) : TracedRead Empty (List AfeStore) :=
  if message.payloadSize = 0 then pure []
  else if message.opcode = APR_BASIC_RSP_RESULT then
    if message.payloadSize < 8 then pure []
    else do
      let status ← word 4 4
      let opcode ← word 4 0
      pure (basicStores message.token found opcode status)
  else if message.opcode = AFE_CMD_RSP_REMOTE_LPASS_CORE_HW_VOTE_REQUEST then
    if message.payloadSize < 4 then pure []
    else do
      -- The first word is the handle.
      let handle ← word 4 0
      let status ← voteStatus message
      pure [.handle handle, .status none status, .opcode none message.opcode]
  else pure []

namespace AprMessage

/-- The stores that a message leads to. -/
def stores (message : AprMessage) (found : Bool) : List AfeStore :=
  match (q6afeCallback message found).result message.payload with
  | .ok stores => stores
  | .error error => error.elim

/-- A reply to a vote that is long enough for a handle. -/
def IsVote (message : AprMessage) : Prop :=
  message.opcode = AFE_CMD_RSP_REMOTE_LPASS_CORE_HW_VOTE_REQUEST ∧ 4 ≤ message.payloadSize

/-- The handle that a reply to a vote carries. -/
def handle (message : AprMessage) : ℕ := message.payload.littleEndian 4 0

/-- A message without the words that its kind needs. -/
def TooShort (message : AprMessage) : Prop :=
  message.opcode = APR_BASIC_RSP_RESULT ∧ message.payloadSize < 8 ∨
    message.opcode = AFE_CMD_RSP_REMOTE_LPASS_CORE_HW_VOTE_REQUEST ∧ message.payloadSize < 4

end AprMessage

/-! ## Commands -/

/-- A command that takes the lock: the port whose result it waits on, if any, and the opcode that it waits
for there, which is not the zero that stands for no reply. -/
structure AfeCommand where
  port : Option ℕ
  rspOpcode : ℕ
  awaited : rspOpcode ≠ 0

def voteCommand : AfeCommand := ⟨none, AFE_CMD_RSP_REMOTE_LPASS_CORE_HW_VOTE_REQUEST, by decide⟩

/-- A call of `q6afe_vote_lpass_core_hw`, with a pointer for the handle or without, or of
`afe_apr_send_pkt`. -/
inductive AfeRequest where
  | vote (wanted : Bool)
  | other (command : AfeCommand)

def AfeRequest.command : AfeRequest → AfeCommand
  | vote _ => voteCommand
  | other command => command

/-- A call, with the value of the caller's handle when it was made. -/
structure AfeCall where
  request : AfeRequest
  before : ℕ

abbrev AfeCall.command (call : AfeCall) : AfeCommand := call.request.command

/-- A vote that has returned: the number of the packet that it sent, if it sent one, the result, and the
caller's handle before and after it. -/
structure AfeVote where
  wanted : Bool
  number : Option ℕ
  ret : ℤ
  before : ℕ
  after : ℕ

/-- How far a caller has come. -/
inductive AfePc where
  | idle
  | entered (call : AfeCall)
  | locked (call : AfeCall)
  | opcodeCleared (call : AfeCall)
  | statusCleared (call : AfeCall)
  | waiting (call : AfeCall) (number : ℕ)
  | woken (call : AfeCall) (number : ℕ)
  | returned (call : AfeCall) (number : Option ℕ) (ret : ℤ)
  | unlocking (call : AfeCall) (number : Option ℕ) (ret : ℤ)

/-- The fields of `struct q6afe` and of its ports, the callers' handles, and what happened so far: the
number of packets sent, the command that is waiting, those that have timed out, the replies by the numbers
of their commands, and the votes that have returned, the latest first.  `callback` is the reply being
handled with the stores left to make. -/
structure AfeShared (Caller : Type) where
  lock : Option Caller
  opcode : Option ℕ → ℕ
  status : Option ℕ → ℕ
  rspClientHandle : ℕ
  handle : Caller → ℕ
  callback : Option (ℕ × List AfeStore)
  sent : ℕ
  waiting : Option (ℕ × AfeCommand)
  timedOut : ℕ → Bool
  reply : ℕ → Option AprMessage
  votes : List AfeVote

section

variable {Caller : Type}

def AfeStore.perform : AfeStore → AfeShared Caller → AfeShared Caller
  | opcode port value, s => { s with opcode := Function.update s.opcode port value }
  | status port value, s => { s with status := Function.update s.status port value }
  | handle value, s => { s with rspClientHandle := value }

/-- The record of a call that returns, if it is a vote. -/
def AfeCall.record (call : AfeCall) (number : Option ℕ) (ret : ℤ) (after : ℕ) : Option AfeVote :=
  match call.request with
  | .vote wanted => some ⟨wanted, number, ret, call.before, after⟩
  | .other _ => none

variable [DecidableEq Caller]

/-- The steps of a call: those of `afe_apr_send_pkt_locked` under the lock, and then the copy of the
handle for a vote that succeeded. -/
inductive AfeCallerMove (caller : Caller) (s : AfeShared Caller) : AfePc → AfeShared Caller → AfePc → Prop
  | enter (request : AfeRequest) : AfeCallerMove caller s .idle s (.entered ⟨request, s.handle caller⟩)
  | lock {call : AfeCall} (hfree : s.lock = none) :
    AfeCallerMove caller s (.entered call) { s with lock := some caller } (.locked call)
  | clearOpcode {call : AfeCall} : AfeCallerMove caller s (.locked call)
      { s with opcode := Function.update s.opcode call.command.port 0 } (.opcodeCleared call)
  | clearStatus {call : AfeCall} : AfeCallerMove caller s (.opcodeCleared call)
      { s with status := Function.update s.status call.command.port 0 } (.statusCleared call)
  | unsent {call : AfeCall} {ret : ℤ} (hret : ret < 0) :
    AfeCallerMove caller s (.statusCleared call) s (.returned call none ret)
  | send {call : AfeCall} : AfeCallerMove caller s (.statusCleared call)
      { s with sent := s.sent + 1, waiting := some (s.sent, call.command) } (.waiting call s.sent)
  | wake {call : AfeCall} {number : ℕ} (hopcode : s.opcode call.command.port = call.command.rspOpcode) :
    AfeCallerMove caller s (.waiting call number) { s with waiting := none } (.woken call number)
  | timeOut {call : AfeCall} {number : ℕ} (hopcode : s.opcode call.command.port ≠ call.command.rspOpcode) :
    AfeCallerMove caller s (.waiting call number)
      { s with waiting := none, timedOut := Function.update s.timedOut number true }
      (.returned call (some number) ETIMEDOUT.ret)
  | refuse {call : AfeCall} {number : ℕ} (hstatus : s.status call.command.port ≠ 0) :
    AfeCallerMove caller s (.woken call number) s (.returned call (some number) EINVAL.ret)
  | accept {call : AfeCall} {number : ℕ} (hstatus : s.status call.command.port = 0) :
    AfeCallerMove caller s (.woken call number) s (.returned call (some number) 0)
  | copy {call : AfeCall} {number : Option ℕ} (hvote : call.request = .vote true) :
    AfeCallerMove caller s (.returned call number 0)
      { s with handle := Function.update s.handle caller s.rspClientHandle } (.unlocking call number 0)
  | leave {call : AfeCall} {number : Option ℕ} {ret : ℤ} (hnone : ret ≠ 0 ∨ call.request ≠ .vote true) :
    AfeCallerMove caller s (.returned call number ret) s (.unlocking call number ret)
  | unlock {call : AfeCall} {number : Option ℕ} {ret : ℤ} : AfeCallerMove caller s (.unlocking call number ret)
      { s with lock := none, votes := (call.record number ret (s.handle caller)).toList ++ s.votes } .idle

/-- The steps of the callback.  A packet that was sent is answered at most once, and replies are handled
one after another. -/
inductive AfeCallbackMove (s : AfeShared Caller) : AfeShared Caller → Prop
  | deliver (number : ℕ) (message : AprMessage) (found : Bool) (hidle : s.callback = none)
    (hsent : number < s.sent) (hreply : s.reply number = none) :
    AfeCallbackMove s { s with
      callback := some (number, message.stores found)
      reply := Function.update s.reply number (some message) }
  | store {number : ℕ} {store : AfeStore} {rest : List AfeStore}
    (hcallback : s.callback = some (number, store :: rest)) :
    AfeCallbackMove s { store.perform s with callback := some (number, rest) }
  | finish {number : ℕ} (hcallback : s.callback = some (number, [])) :
    AfeCallbackMove s { s with callback := none }

inductive AfeActor (Caller : Type) where
  | caller (caller : Caller)
  | callback
  deriving DecidableEq, Repr

inductive AfeMove : Moves (AfeActor Caller) (AfeShared Caller) AfePc
  | caller {caller : Caller} {s s' : AfeShared Caller} {pc pc' : AfePc}
    (hmove : AfeCallerMove caller s pc s' pc') : AfeMove (.caller caller) s pc s' pc'
  | callback {s s' : AfeShared Caller} {pc : AfePc} (hmove : AfeCallbackMove s s') :
    AfeMove .callback s pc s' pc

omit [DecidableEq Caller] in
/-- Replies arrive before their commands time out: none is being handled whose command has. -/
def AfeShared.Punctual (s : AfeShared Caller) : Prop :=
  ∀ number rest, s.callback = some (number, rest) → s.timedOut number = false

/-- The moves that keep replies punctual. -/
def PunctualMove : Moves (AfeActor Caller) (AfeShared Caller) AfePc :=
  fun actor s pc s' pc' ↦ AfeMove actor s pc s' pc' ∧ s'.Punctual

/-- Nothing has been sent yet, and nobody calls.  The fields and the handles are arbitrary. -/
structure AfeInitial (system : System (AfeActor Caller) (AfeShared Caller) AfePc) : Prop where
  idle : ∀ actor, system.pc actor = .idle
  lock : system.shared.lock = none
  callback : system.shared.callback = none
  sent : system.shared.sent = 0
  waiting : system.shared.waiting = none
  timedOut : ∀ number, system.shared.timedOut number = false
  reply : ∀ number, system.shared.reply number = none
  votes : system.shared.votes = []

end

/-! ## What is asked of votes -/

/-- A vote that succeeded returns the handle of the reply to its packet; one that failed leaves the
caller's handle as it was. -/
structure AfeVote.Faithful (vote : AfeVote) (reply : ℕ → Option AprMessage) : Prop where
  succeeded : vote.ret = 0 → ∃ number message, vote.number = some number ∧ reply number = some message ∧
    message.IsVote ∧ vote.after = if vote.wanted then message.handle else vote.before
  failed : vote.ret ≠ 0 → vote.after = vote.before

/-- The votes that have returned are faithful, and no two of them go by the same packet. -/
structure VotesKept (votes : List AfeVote) (reply : ℕ → Option AprMessage) : Prop where
  faithful : ∀ vote ∈ votes, vote.Faithful reply
  distinct : votes.Pairwise fun vote earlier ↦
    ∀ number, vote.number = some number → earlier.number ≠ some number

/-- The callback reads a payload within its size, and makes nothing of one that is too short. -/
structure PayloadKept (message : AprMessage) (found : Bool) : Prop where
  within : ∀ span ∈ (q6afeCallback message found message.payload).2,
    span.offset + span.length ≤ message.payloadSize
  ignored : message.TooShort → message.stores found = []

/-! ## Facts about the callback -/

section

variable {message : AprMessage} {found : Bool}

/-- A store that a waiting command looks for, or that carries a handle. -/
def AfeStore.loud : AfeStore → Bool
  | status _ _ => false
  | _ => true

theorem stores_basic (hopcode : message.opcode = APR_BASIC_RSP_RESULT) : message.stores found =
    if message.payloadSize < 8 then []
    else basicStores message.token found (message.payload.littleEndian 4 0)
      (message.payload.littleEndian 4 4) := by
  unfold AprMessage.stores q6afeCallback
  rw [if_pos hopcode]
  split_ifs
  · rfl
  · omega
  · rfl
  · rfl

theorem stores_vote (hopcode : message.opcode = AFE_CMD_RSP_REMOTE_LPASS_CORE_HW_VOTE_REQUEST) :
    message.stores found =
      if message.payloadSize < 4 then []
      else [.handle message.handle,
        .status none (if 8 ≤ message.payloadSize then message.payload.littleEndian 4 4 else 0),
        .opcode none AFE_CMD_RSP_REMOTE_LPASS_CORE_HW_VOTE_REQUEST] := by
  have hbasic : message.opcode ≠ APR_BASIC_RSP_RESULT := by
    rw [hopcode]
    decide
  unfold AprMessage.stores q6afeCallback voteStatus
  rw [if_neg hbasic, if_pos hopcode, hopcode]
  split_ifs <;> first | rfl | omega

theorem stores_other (hbasic : message.opcode ≠ APR_BASIC_RSP_RESULT)
    (hvote : message.opcode ≠ AFE_CMD_RSP_REMOTE_LPASS_CORE_HW_VOTE_REQUEST) :
    message.stores found = [] := by
  unfold AprMessage.stores q6afeCallback
  rw [if_neg hbasic, if_neg hvote, ite_self]
  rfl

theorem payloadKept (message : AprMessage) (found : Bool) : PayloadKept message found := by
  constructor
  · unfold q6afeCallback voteStatus
    -- The reads on each path are literal spans.
    split_ifs
    · exact fun span hspan ↦ absurd hspan List.not_mem_nil
    · exact fun span hspan ↦ absurd hspan List.not_mem_nil
    · change ∀ span ∈ [Span.mk 4 4, Span.mk 0 4], _
      simp
      omega
    · exact fun span hspan ↦ absurd hspan List.not_mem_nil
    · change ∀ span ∈ [Span.mk 0 4, Span.mk 4 4], _
      simp
      omega
    · change ∀ span ∈ [Span.mk 0 4], _
      simp
      omega
    · exact fun span hspan ↦ absurd hspan List.not_mem_nil
  · rintro (⟨hopcode, hshort⟩ | ⟨hopcode, hshort⟩)
    · rw [stores_basic hopcode, if_pos hshort]
    · rw [stores_vote hopcode, if_pos hshort]

theorem basicStores_cases (token : ℕ) (found : Bool) (opcode status : ℕ) :
    basicStores token found opcode status = [] ∨ opcode ∈ keptResults ∧
      ∃ port, basicStores token found opcode status = [.opcode port opcode, .status port status] := by
  unfold basicStores
  split_ifs with hkept hfound htoken
  · exact .inr ⟨hkept, some token, rfl⟩
  · exact .inr ⟨hkept, none, rfl⟩
  · exact .inl rfl
  · exact .inl rfl

/-- A message leads to nothing, to the result of a command, or to the reply to a vote. -/
theorem stores_cases (message : AprMessage) (found : Bool) : message.stores found = [] ∨
    (∃ port opcode status, opcode ∈ keptResults ∧
      message.stores found = [.opcode port opcode, .status port status]) ∨
    message.IsVote ∧ ∃ status, message.stores found = [.handle message.handle, .status none status,
      .opcode none AFE_CMD_RSP_REMOTE_LPASS_CORE_HW_VOTE_REQUEST] := by
  by_cases hbasic : message.opcode = APR_BASIC_RSP_RESULT
  · rw [stores_basic hbasic]
    split_ifs
    · exact .inl rfl
    · rcases basicStores_cases message.token found (message.payload.littleEndian 4 0)
        (message.payload.littleEndian 4 4) with hnone | ⟨hkept, port, hstores⟩
      · exact .inl hnone
      · exact .inr (.inl ⟨port, _, _, hkept, hstores⟩)
  · by_cases hvote : message.opcode = AFE_CMD_RSP_REMOTE_LPASS_CORE_HW_VOTE_REQUEST
    · rw [stores_vote hvote]
      split_ifs with hshort
      · exact .inl rfl
      · exact .inr (.inr ⟨⟨hvote, Nat.le_of_not_lt hshort⟩, _, rfl⟩)
      · exact .inr (.inr ⟨⟨hvote, Nat.le_of_not_lt hshort⟩, _, rfl⟩)
    · exact .inl (stores_other hbasic hvote)

/-- No store comes before a handle, and after an opcode there is only a status. -/
def AfeStore.mayPrecede : AfeStore → AfeStore → Bool
  | _, handle _ => false
  | opcode _ _, opcode _ _ => false
  | _, _ => true

theorem stores_ordered (message : AprMessage) (found : Bool) :
    (message.stores found).Pairwise fun first second ↦ first.mayPrecede second = true := by
  rcases stores_cases message found with hstores | ⟨port, opcode, status, -, hstores⟩ | ⟨-, status, hstores⟩
  · rw [hstores]
    exact .nil
  · rw [hstores]
    simp [AfeStore.mayPrecede]
  · rw [hstores]
    simp [AfeStore.mayPrecede]

variable {done rest : List AfeStore} {port : Option ℕ} {value : ℕ}

/-- Only the reply to a vote stores what a vote waits for, and it stores its handle. -/
theorem stores_vote_of_mem
    (h : .opcode port AFE_CMD_RSP_REMOTE_LPASS_CORE_HW_VOTE_REQUEST ∈ message.stores found) :
    message.IsVote ∧ .handle message.handle ∈ message.stores found := by
  rcases stores_cases message found with hstores | ⟨port', opcode, status, hkept, hstores⟩ |
    ⟨hvote, status, hstores⟩
  · rw [hstores] at h
    exact absurd h List.not_mem_nil
  · rw [hstores] at h
    obtain ⟨-, rfl⟩ : port = port' ∧ AFE_CMD_RSP_REMOTE_LPASS_CORE_HW_VOTE_REQUEST = opcode := by simpa using h
    exact absurd hkept (by decide)
  · rw [hstores]
    exact ⟨hvote, List.mem_cons_self⟩

/-- After the opcode nothing but a status is stored. -/
theorem quiet_after_opcode (h : message.stores found = done ++ .opcode port value :: rest) :
    ∀ store ∈ rest, store.loud = false := by
  intro store hstore
  have hordered := stores_ordered message found
  rw [h, List.pairwise_append, List.pairwise_cons] at hordered
  have hprecedes := hordered.2.1.1 store hstore
  cases store with
  | status port value => rfl
  | _ => exact absurd hprecedes Bool.false_ne_true

/-- The handle of a vote is stored before the opcode. -/
theorem handle_before_opcode
    (h : message.stores found = done ++ .opcode port AFE_CMD_RSP_REMOTE_LPASS_CORE_HW_VOTE_REQUEST :: rest) :
    message.IsVote ∧ .handle message.handle ∈ done := by
  have hmem : .opcode port AFE_CMD_RSP_REMOTE_LPASS_CORE_HW_VOTE_REQUEST ∈ message.stores found := by
    rw [h]
    simp
  obtain ⟨hvote, hhandle⟩ := stores_vote_of_mem hmem
  refine ⟨hvote, ?_⟩
  rw [h, List.mem_append, List.mem_cons] at hhandle
  rcases hhandle with hdone | heq | hrest
  · exact hdone
  · exact AfeStore.noConfusion heq
  · exact absurd (quiet_after_opcode h _ hrest) (by simp [AfeStore.loud])

/-- The handle is stored first. -/
theorem handle_first (h : message.stores found = done ++ .handle value :: rest) : done = [] := by
  have hordered := stores_ordered message found
  rw [h, List.pairwise_append] at hordered
  refine List.eq_nil_iff_forall_not_mem.2 fun store hstore ↦ ?_
  have hprecedes := hordered.2.2 store hstore _ List.mem_cons_self
  cases store <;> exact Bool.false_ne_true hprecedes

end

end TclB220G.Audio
