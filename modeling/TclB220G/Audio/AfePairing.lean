import TclB220G.Audio.AfeVote

/-!
# Replies and votes belong together

The proof outline of the votes.  It rests on two facts.  What a command waits for is stored only by the
reply to it: the opcode is cleared before the packet is sent, and a reply that is in time is handled while
its command waits.  Once the opcode is there, the callback has at most a status left to store, so that the
handle stays as it is until the vote has copied it.
-/

namespace TclB220G.Audio

open Kernel Kernel.Errno Lib Lib.Interleaving

/-! ## The invariant -/

variable {command : AfeCommand} {vote : AfeVote} {message : AprMessage}

section

variable {Caller : Type}

namespace AfeShared

variable (s : AfeShared Caller)

/-- No store is left that a waiting command looks for. -/
def Quiet : Prop := ∀ number rest, s.callback = some (number, rest) → ∀ store ∈ rest, store.loud = false

/-- The reply to a packet has left its handle for a vote. -/
def Paired (number : ℕ) : Prop :=
  ∃ message, s.reply number = some message ∧ message.IsVote ∧ s.rspClientHandle = message.handle

/-- A reply is handled in order, and stores what matters only while its command waits. -/
def Handling (number : ℕ) (rest : List AfeStore) : Prop :=
  (∃ message found done, s.reply number = some message ∧ message.stores found = done ++ rest ∧
    ∀ value, .handle value ∈ done → s.rspClientHandle = value) ∧
  ((∃ store ∈ rest, store.loud = true) → ∃ command, s.waiting = some (number, command))

/-- A command that finds an opcode has had its reply. -/
def Answered (number : ℕ) (command : AfeCommand) : Prop :=
  s.opcode command.port ≠ 0 → s.reply number ≠ none ∧ s.Quiet ∧
    (s.opcode command.port = AFE_CMD_RSP_REMOTE_LPASS_CORE_HW_VOTE_REQUEST → s.Paired number)

structure Sound : Prop where
  handling : ∀ number rest, s.callback = some (number, rest) → s.Handling number rest
  answered : ∀ number command, s.waiting = some (number, command) → s.Answered number command
  pending : ∀ number < s.sent, s.reply number = none →
    s.timedOut number = true ∨ ∃ command, s.waiting = some (number, command)
  votes : VotesKept s.votes s.reply
  numbered : ∀ vote ∈ s.votes, ∀ number, vote.number = some number → number < s.sent
  free : s.lock = none → s.waiting = none

/-- A caller is in a transaction, with a given command waiting, and its handle is as it was. -/
def Inside (caller : Caller) (call : AfeCall) (waiting : Option (ℕ × AfeCommand)) : Prop :=
  s.lock = some caller ∧ s.waiting = waiting ∧ s.handle caller = call.before

/-- The number of a packet that no vote has returned with. -/
def Fresh (number : ℕ) : Prop := number < s.sent ∧ ∀ vote ∈ s.votes, vote.number ≠ some number

/-- What a caller knows. -/
def Asserts (caller : Caller) : AfePc → Prop
  | .idle => True
  | .entered call => s.handle caller = call.before
  | .locked call => s.Inside caller call none
  | .opcodeCleared call | .statusCleared call =>
    s.Inside caller call none ∧ s.opcode call.command.port = 0
  | .waiting call number => s.Inside caller call (some (number, call.command)) ∧ s.Fresh number
  | .woken call number => s.Inside caller call none ∧ s.Fresh number ∧
    (call.command.rspOpcode = AFE_CMD_RSP_REMOTE_LPASS_CORE_HW_VOTE_REQUEST → s.Paired number)
  | .returned call number ret => s.Inside caller call none ∧ (∀ sent, number = some sent → s.Fresh sent) ∧
    (call.command.rspOpcode = AFE_CMD_RSP_REMOTE_LPASS_CORE_HW_VOTE_REQUEST → ret = 0 →
      ∃ sent, number = some sent ∧ s.Paired sent)
  | .unlocking call number ret => s.lock = some caller ∧ s.waiting = none ∧
    (∀ sent, number = some sent → s.Fresh sent) ∧
    ∀ vote, call.record number ret (s.handle caller) = some vote → vote.Faithful s.reply

/-- What the others leave alone during a transaction, and while no command waits. -/
structure Undisturbed (s s' : AfeShared Caller) : Prop where
  lock : s'.lock = s.lock
  waiting : s'.waiting = s.waiting
  votes : s'.votes = s.votes
  sent : s'.sent = s.sent
  answer : s.waiting = none → s'.opcode = s.opcode ∧ s'.rspClientHandle = s.rspClientHandle

structure Guarantee (actor : AfeActor Caller) (s s' : AfeShared Caller) : Prop where
  handle : ∀ caller, actor ≠ .caller caller → s'.handle caller = s.handle caller
  holder : ∀ caller, actor ≠ .caller caller → s.lock = some caller → Undisturbed s s'
  reply : ∀ number message, s.reply number = some message → s'.reply number = some message

end AfeShared

variable {s s' : AfeShared Caller} {caller : Caller} {actor : AfeActor Caller} {call : AfeCall} {number : ℕ}

theorem AfeVote.Faithful.mono {reply reply' : ℕ → Option AprMessage} (h : vote.Faithful reply)
    (hreply : ∀ number message, reply number = some message → reply' number = some message) :
    vote.Faithful reply' := by
  refine ⟨fun hret ↦ ?_, h.failed⟩
  obtain ⟨number, message, hnumber, hmessage, hrest⟩ := h.succeeded hret
  exact ⟨number, message, hnumber, hreply number message hmessage, hrest⟩

theorem VotesKept.mono {votes : List AfeVote} {reply reply' : ℕ → Option AprMessage} (h : VotesKept votes reply)
    (hreply : ∀ number message, reply number = some message → reply' number = some message) :
    VotesKept votes reply' :=
  ⟨fun vote hvote ↦ (h.faithful vote hvote).mono hreply, h.distinct⟩

namespace AfeShared

/-- One command waits at a time. -/
theorem waiting_unique {other : ℕ} {command command' : AfeCommand} (h : s.waiting = some (number, command))
    (hother : s.waiting = some (other, command')) : number = other ∧ command = command' :=
  Prod.mk.inj (Option.some.inj (h.symm.trans hother))

/-! ## What others do -/

theorem Undisturbed.inside {waiting : Option (ℕ × AfeCommand)} (h : Undisturbed s s')
    (hhandle : s'.handle caller = s.handle caller) (hinside : s.Inside caller call waiting) :
    s'.Inside caller call waiting :=
  ⟨h.lock.trans hinside.1, h.waiting.trans hinside.2.1, hhandle.trans hinside.2.2⟩

theorem Undisturbed.fresh (h : Undisturbed s s') (hfresh : s.Fresh number) : s'.Fresh number := by
  rw [Fresh, h.sent, h.votes]
  exact hfresh

theorem Undisturbed.paired (h : Undisturbed s s') (hwaiting : s.waiting = none)
    (hreply : ∀ number message, s.reply number = some message → s'.reply number = some message)
    (hpaired : s.Paired number) : s'.Paired number := by
  obtain ⟨message, hmessage, hvote, hhandle⟩ := hpaired
  exact ⟨message, hreply number message hmessage, hvote, (h.answer hwaiting).2.trans hhandle⟩

/-- What a caller knows stays true while others move. -/
theorem Asserts.stable {pc : AfePc} (hasserts : s.Asserts caller pc) (hother : actor ≠ .caller caller)
    (h : Guarantee actor s s') : s'.Asserts caller pc := by
  have hhandle := h.handle caller hother
  cases pc with
  | idle => trivial
  | entered call => exact hhandle.trans hasserts
  | locked call => exact (h.holder caller hother hasserts.1).inside hhandle hasserts
  | opcodeCleared call | statusCleared call =>
    obtain ⟨hinside, hopcode⟩ := hasserts
    have hundisturbed := h.holder caller hother hinside.1
    refine ⟨hundisturbed.inside hhandle hinside, ?_⟩
    rw [(hundisturbed.answer hinside.2.1).1]
    exact hopcode
  | waiting call number =>
    obtain ⟨hinside, hfresh⟩ := hasserts
    have hundisturbed := h.holder caller hother hinside.1
    exact ⟨hundisturbed.inside hhandle hinside, hundisturbed.fresh hfresh⟩
  | woken call number =>
    obtain ⟨hinside, hfresh, hpaired⟩ := hasserts
    have hundisturbed := h.holder caller hother hinside.1
    exact ⟨hundisturbed.inside hhandle hinside, hundisturbed.fresh hfresh, fun hvote ↦
      hundisturbed.paired hinside.2.1 h.reply (hpaired hvote)⟩
  | returned call number ret =>
    obtain ⟨hinside, hfresh, hpaired⟩ := hasserts
    have hundisturbed := h.holder caller hother hinside.1
    refine ⟨hundisturbed.inside hhandle hinside, fun sent hsent ↦ hundisturbed.fresh (hfresh sent hsent),
      fun hvote hret ↦ ?_⟩
    obtain ⟨sent, hsent, hown⟩ := hpaired hvote hret
    exact ⟨sent, hsent, hundisturbed.paired hinside.2.1 h.reply hown⟩
  | unlocking call number ret =>
    obtain ⟨hlock, hwaiting, hfresh, hrecord⟩ := hasserts
    have hundisturbed := h.holder caller hother hlock
    refine ⟨hundisturbed.lock.trans hlock, hundisturbed.waiting.trans hwaiting,
      fun sent hsent ↦ hundisturbed.fresh (hfresh sent hsent), fun vote hvote ↦ ?_⟩
    rw [hhandle] at hvote
    exact (hrecord vote hvote).mono h.reply

/-! ## The callback -/

/-- A command without a reply that has not timed out is waiting, so its reply finds it so. -/
theorem Sound.waiting_of_deliver {found : Bool} (hsound : s.Sound) (hsent : number < s.sent)
    (hreply : s.reply number = none) (hpunctual : AfeShared.Punctual { s with
      callback := some (number, message.stores found)
      reply := Function.update s.reply number (some message) }) :
    ∃ command, s.waiting = some (number, command) := by
  rcases hsound.pending number hsent hreply with hlate | hwaiting
  · exact absurd (hlate.symm.trans (hpunctual number _ rfl)) (by simp)
  · exact hwaiting

variable {rest : List AfeStore}

/-- A command that waits for its reply has found no opcode. -/
theorem Sound.opcode_zero_of_loud {store : AfeStore} (hsound : s.Sound)
    (hcallback : s.callback = some (number, rest)) (hstore : store ∈ rest)
    (hloud : store.loud = true) (hwaiting : s.waiting = some (number, command)) :
    s.opcode command.port = 0 := by
  by_contra hopcode
  have hquiet := (hsound.answered number command hwaiting hopcode).2.1 number rest hcallback store hstore
  exact Bool.false_ne_true (hquiet.symm.trans hloud)

theorem update_reply (hreply : s.reply number = none) (other : ℕ) (earlier : AprMessage)
    (hother : s.reply other = some earlier) :
    Function.update s.reply number (some message) other = some earlier := by
  have hne : other ≠ number := by
    rintro rfl
    exact Option.some_ne_none earlier (hother.symm.trans hreply)
  rw [Function.update_of_ne hne]
  exact hother

theorem Sound.deliver {found : Bool} (hsound : s.Sound) (hsent : number < s.sent)
    (hreply : s.reply number = none) (hpunctual : AfeShared.Punctual { s with
      callback := some (number, message.stores found)
      reply := Function.update s.reply number (some message) }) :
    AfeShared.Sound { s with
      callback := some (number, message.stores found)
      reply := Function.update s.reply number (some message) } := by
  obtain ⟨command, hwaiting⟩ := hsound.waiting_of_deliver hsent hreply hpunctual
  refine ⟨?_, ?_, ?_, ?_, hsound.numbered, hsound.free⟩
  · intro other rest hcallback
    obtain ⟨rfl, rfl⟩ := Prod.mk.inj (Option.some.inj hcallback)
    exact ⟨⟨message, found, [], Function.update_self .., rfl, by simp⟩, fun _ ↦ ⟨command, hwaiting⟩⟩
  · intro other command' hother hopcode
    -- The waiting command is the one that is answered, and it has not found an opcode yet.
    obtain ⟨rfl, -⟩ := waiting_unique hwaiting hother
    exact absurd hreply (hsound.answered _ command' hother hopcode).1
  · intro other hlt hnone
    have hne : other ≠ number := by
      rintro rfl
      simp at hnone
    exact hsound.pending other hlt (by simpa [hne] using hnone)
  · exact hsound.votes.mono (update_reply hreply)

theorem quiet_of_rest (hcallback : s.callback = some (number, rest))
    (hrest : ∀ store ∈ rest, store.loud = false) : s.Quiet := by
  intro other rest' hother
  obtain ⟨-, rfl⟩ := Prod.mk.inj (Option.some.inj (hcallback.symm.trans hother))
  exact hrest

/-- The stores of a reply that are left after one of them. -/
theorem Handling.next {store : AfeStore} (h : s.Handling number (store :: rest)) :
    AfeShared.Handling { store.perform s with callback := some (number, rest) } number rest := by
  obtain ⟨⟨message, found, done, hreply, hstores, hdone⟩, hloud⟩ := h
  have hsplit : message.stores found = (done ++ [store]) ++ rest := by
    rw [hstores, List.append_assoc]
    rfl
  have hrest : (∃ store ∈ rest, store.loud = true) → ∃ command, s.waiting = some (number, command) := by
    rintro ⟨other, hmem, hother⟩
    exact hloud ⟨other, List.mem_cons_of_mem _ hmem, hother⟩
  cases store with
  | opcode port value =>
    exact ⟨⟨message, found, _, hreply, hsplit, by simpa [AfeStore.perform] using hdone⟩, hrest⟩
  | status port value =>
    exact ⟨⟨message, found, _, hreply, hsplit, by simpa [AfeStore.perform] using hdone⟩, hrest⟩
  | handle value =>
    have hnone := handle_first hstores
    refine ⟨⟨message, found, _, hreply, hsplit, fun other hother ↦ ?_⟩, hrest⟩
    rw [hnone, List.nil_append, List.mem_singleton] at hother
    exact (AfeStore.handle.inj hother).symm

/-- A waiting command after a store of the callback. -/
theorem Sound.answered_store {store : AfeStore} {waiting : ℕ} (hsound : s.Sound)
    (hcallback : s.callback = some (number, store :: rest))
    (hwaiting : s.waiting = some (waiting, command)) :
    AfeShared.Answered { store.perform s with callback := some (number, rest) } waiting command := by
  obtain ⟨⟨message, found, done, hreply, hstores, hdone⟩, hloud⟩ := hsound.handling number _ hcallback
  -- A store that matters belongs to the reply to the waiting command.
  have hown : store.loud = true → waiting = number ∧ s.opcode command.port = 0 := by
    intro hstore
    obtain ⟨command', hnumber⟩ := hloud ⟨store, List.mem_cons_self, hstore⟩
    obtain ⟨rfl, rfl⟩ := waiting_unique hwaiting hnumber
    exact ⟨rfl, hsound.opcode_zero_of_loud hcallback List.mem_cons_self hstore hwaiting⟩
  cases store with
  | status port value =>
    intro hopcode
    obtain ⟨hreplied, hquiet, hpaired⟩ := hsound.answered waiting command hwaiting hopcode
    refine ⟨hreplied, quiet_of_rest rfl fun store hstore ↦ ?_, hpaired⟩
    exact hquiet number _ hcallback store (List.mem_cons_of_mem _ hstore)
  | handle value => exact fun hopcode ↦ absurd (hown rfl).2 hopcode
  | opcode port value =>
    obtain ⟨rfl, hzero⟩ := hown rfl
    intro hopcode
    refine ⟨?_, quiet_of_rest rfl (quiet_after_opcode hstores), fun hvote ↦ ?_⟩
    · change s.reply waiting ≠ none
      rw [hreply]
      exact Option.some_ne_none message
    · change Function.update s.opcode port value command.port = _ at hvote
      have hport : command.port = port := by
        by_contra hne
        rw [Function.update_of_ne hne, hzero] at hvote
        exact absurd hvote (by decide)
      rw [hport, Function.update_self] at hvote
      subst hvote
      obtain ⟨hisVote, hhandle⟩ := handle_before_opcode hstores
      exact ⟨message, hreply, hisVote, hdone _ hhandle⟩

theorem Sound.store {store : AfeStore} (hsound : s.Sound)
    (hcallback : s.callback = some (number, store :: rest)) :
    AfeShared.Sound { store.perform s with callback := some (number, rest) } := by
  have hhandling := (hsound.handling number _ hcallback).next
  have hanswered := fun waiting command (hwaiting : s.waiting = some (waiting, command)) ↦
    hsound.answered_store hcallback hwaiting
  refine ⟨?_, ?_, ?_, ?_, ?_, ?_⟩
  · intro other rest' hother
    obtain ⟨rfl, rfl⟩ := Prod.mk.inj (Option.some.inj hother)
    exact hhandling
  · cases store <;> exact hanswered
  · cases store <;> exact hsound.pending
  · cases store <;> exact hsound.votes
  · cases store <;> exact hsound.numbered
  · cases store <;> exact hsound.free

theorem Sound.finish (hsound : s.Sound) : AfeShared.Sound { s with callback := none } := by
  refine ⟨fun _ _ h ↦ absurd h (by simp), fun number command hwaiting hopcode ↦ ?_, hsound.pending, hsound.votes,
    hsound.numbered, hsound.free⟩
  obtain ⟨hreplied, -, hpaired⟩ := hsound.answered number command hwaiting hopcode
  exact ⟨hreplied, fun _ _ h ↦ absurd h (by simp), hpaired⟩

/-- While no command waits, the callback changes a status at most. -/
theorem Sound.undisturbed_store {store : AfeStore} (hsound : s.Sound)
    (hcallback : s.callback = some (number, store :: rest)) :
    Undisturbed s { store.perform s with callback := some (number, rest) } := by
  have hwaits : store.loud = true → s.waiting ≠ none := by
    intro hloud hnone
    obtain ⟨command, hwaiting⟩ := (hsound.handling number _ hcallback).2 ⟨store, List.mem_cons_self, hloud⟩
    exact Option.some_ne_none _ (hwaiting.symm.trans hnone)
  cases store with
  | opcode port value => exact ⟨rfl, rfl, rfl, rfl, fun hnone ↦ absurd hnone (hwaits rfl)⟩
  | status port value => exact ⟨rfl, rfl, rfl, rfl, fun _ ↦ ⟨rfl, rfl⟩⟩
  | handle value => exact ⟨rfl, rfl, rfl, rfl, fun hnone ↦ absurd hnone (hwaits rfl)⟩

theorem Sound.callbackMove (hsound : s.Sound) (hmove : AfeCallbackMove s s') (hpunctual : s'.Punctual) :
    s'.Sound ∧ Guarantee .callback s s' := by
  cases hmove with
  | deliver number message found hidle hsent hreply =>
    refine ⟨hsound.deliver hsent hreply hpunctual, fun _ _ ↦ rfl, fun _ _ _ ↦ ?_, update_reply hreply⟩
    exact ⟨rfl, rfl, rfl, rfl, fun _ ↦ ⟨rfl, rfl⟩⟩
  | @store number store rest hcallback =>
    refine ⟨hsound.store hcallback, fun _ _ ↦ ?_, fun _ _ _ ↦ hsound.undisturbed_store hcallback, fun _ _ h ↦ ?_⟩
    · cases store <;> rfl
    · cases store <;> exact h
  | finish hcallback =>
    exact ⟨hsound.finish, fun _ _ ↦ rfl, fun _ _ _ ↦ ⟨rfl, rfl, rfl, rfl, fun _ ↦ ⟨rfl, rfl⟩⟩, fun _ _ h ↦ h⟩

/-! ## The callers -/

/-- The holder of the lock may change everything that is not another caller's. -/
theorem guarantee_of_holder (hlock : s.lock = some caller)
    (hhandle : ∀ other, other ≠ caller → s'.handle other = s.handle other) (hreply : s'.reply = s.reply) :
    Guarantee (.caller caller) s s' := by
  refine ⟨fun other hother ↦ hhandle other fun h ↦ hother (h ▸ rfl), fun other hother hholder ↦ ?_, ?_⟩
  · obtain rfl := Option.some.inj (hlock.symm.trans hholder)
    exact absurd rfl hother
  · rw [hreply]
    exact fun _ _ h ↦ h

/-- Nothing waits for the reply that is being handled, so that it has nothing left to say. -/
theorem Sound.quiet_of_not_waiting (hsound : s.Sound) (hwaiting : s.waiting = none) : s.Quiet := by
  intro number rest hcallback store hstore
  by_contra hloud
  obtain ⟨command, hcommand⟩ := (hsound.handling number rest hcallback).2
    ⟨store, hstore, Bool.eq_true_of_not_eq_false hloud⟩
  exact Option.some_ne_none _ (hcommand.symm.trans hwaiting)

/-- What is handled while nothing matters in it, whatever command waits. -/
theorem Sound.handling_of_quiet {waiting : Option (ℕ × AfeCommand)} (hsound : s.Sound)
    (hquiet : s.Quiet) (hcallback : s.callback = some (number, rest)) :
    AfeShared.Handling { s with waiting := waiting } number rest := by
  refine ⟨(hsound.handling number rest hcallback).1, ?_⟩
  rintro ⟨store, hstore, hloud⟩
  exact absurd ((hquiet number rest hcallback store hstore).symm.trans hloud) Bool.false_ne_true

theorem Sound.send (hsound : s.Sound) (hlock : s.lock = some caller) (hwaiting : s.waiting = none)
    (hopcode : s.opcode command.port = 0) :
    AfeShared.Sound { s with sent := s.sent + 1, waiting := some (s.sent, command) } := by
  have hquiet := hsound.quiet_of_not_waiting hwaiting
  refine ⟨fun number rest ↦ hsound.handling_of_quiet hquiet, ?_, ?_, hsound.votes, ?_, fun hfree ↦
    absurd (hlock.symm.trans hfree) (Option.some_ne_none _)⟩
  · intro number command' hcommand hfound
    obtain ⟨-, rfl⟩ := Prod.mk.inj (Option.some.inj hcommand)
    exact absurd hopcode hfound
  · intro number hlt hreply
    rcases Nat.lt_succ_iff_lt_or_eq.1 hlt with hlt | rfl
    · rcases hsound.pending number hlt hreply with hlate | ⟨command', hcommand⟩
      · exact .inl hlate
      · exact absurd (hcommand.symm.trans hwaiting) (Option.some_ne_none _)
    · exact .inr ⟨command, rfl⟩
  · exact fun vote hvote number hnumber ↦ Nat.lt_succ_of_lt (hsound.numbered vote hvote number hnumber)

theorem Sound.wake (hsound : s.Sound) (hwaiting : s.waiting = some (number, command))
    (hopcode : s.opcode command.port = command.rspOpcode) :
    AfeShared.Sound { s with waiting := none } := by
  have hfound : s.opcode command.port ≠ 0 := hopcode ▸ command.awaited
  obtain ⟨hreplied, hquiet, -⟩ := hsound.answered number command hwaiting hfound
  refine ⟨fun number rest ↦ hsound.handling_of_quiet hquiet, fun _ _ h ↦ absurd h (by simp), ?_, hsound.votes,
    hsound.numbered, fun _ ↦ rfl⟩
  intro other hlt hreply
  rcases hsound.pending other hlt hreply with hlate | ⟨command', hcommand⟩
  · exact .inl hlate
  · obtain ⟨rfl, -⟩ := waiting_unique hwaiting hcommand
    exact absurd hreply hreplied

theorem Sound.timeOut (hsound : s.Sound) (hwaiting : s.waiting = some (number, command))
    (hpunctual : AfeShared.Punctual { s with
      waiting := none
      timedOut := Function.update s.timedOut number true }) :
    AfeShared.Sound { s with waiting := none, timedOut := Function.update s.timedOut number true } := by
  refine ⟨fun other rest hcallback ↦ ⟨(hsound.handling other rest hcallback).1, fun hloud ↦ ?_⟩,
    fun _ _ h ↦ absurd h (by simp), fun other hlt hreply ↦ .inl ?_, hsound.votes, hsound.numbered,
    fun _ ↦ rfl⟩
  · -- The reply being handled would be to the command that has just timed out.
    obtain ⟨command', hcommand⟩ := (hsound.handling other rest hcallback).2 hloud
    obtain ⟨rfl, -⟩ := waiting_unique hwaiting hcommand
    have hlate : Function.update s.timedOut number true number = false := hpunctual number rest hcallback
    rw [Function.update_self] at hlate
    exact absurd hlate (by simp)
  · change Function.update s.timedOut number true other = true
    rw [Function.update_apply]
    split_ifs with hother
    · rfl
    · rcases hsound.pending other hlt hreply with hlate | ⟨command', hcommand⟩
      · exact hlate
      · exact absurd (waiting_unique hwaiting hcommand).1.symm hother

variable {number : Option ℕ}

theorem Sound.unlock {votes : Option AfeVote} (hsound : s.Sound) (hwaiting : s.waiting = none)
    (hnumber : ∀ vote, votes = some vote → vote.number = number)
    (hfresh : ∀ sent, number = some sent → s.Fresh sent)
    (hrecord : ∀ vote, votes = some vote → vote.Faithful s.reply) :
    AfeShared.Sound { s with lock := none, votes := votes.toList ++ s.votes } := by
  cases votes with
  | none =>
    exact ⟨hsound.handling, hsound.answered, hsound.pending, hsound.votes, hsound.numbered, fun _ ↦ hwaiting⟩
  | some vote =>
    refine ⟨hsound.handling, hsound.answered, hsound.pending, ⟨?_, ?_⟩, ?_, fun _ ↦ hwaiting⟩
    · exact List.forall_mem_cons.2 ⟨hrecord vote rfl, hsound.votes.faithful⟩
    · refine List.pairwise_cons.2 ⟨fun earlier hearlier sent hsent ↦ ?_, hsound.votes.distinct⟩
      exact (hfresh sent ((hnumber vote rfl).symm.trans hsent)).2 earlier hearlier
    · refine List.forall_mem_cons.2 ⟨fun sent hsent ↦ ?_, hsound.numbered⟩
      exact (hfresh sent ((hnumber vote rfl).symm.trans hsent)).1

theorem record_number {ret : ℤ} {after : ℕ} (h : call.record number ret after = some vote) :
    vote.number = number := by
  unfold AfeCall.record at h
  split at h
  · exact congrArg AfeVote.number (Option.some.inj h).symm
  · exact absurd h.symm (Option.some_ne_none vote)

/-- A vote whose handle is not copied, because it failed or because there is no pointer for it. -/
theorem faithful_of_leave {ret : ℤ} (hnone : ret ≠ 0 ∨ call.request ≠ .vote true)
    (hpaired : call.command.rspOpcode = AFE_CMD_RSP_REMOTE_LPASS_CORE_HW_VOTE_REQUEST →
      ret = 0 → ∃ sent, number = some sent ∧ s.Paired sent)
    (h : call.record number ret call.before = some vote) : vote.Faithful s.reply := by
  obtain ⟨request, before⟩ := call
  cases request with
  | other command => exact absurd h.symm (Option.some_ne_none vote)
  | vote wanted =>
    obtain rfl := Option.some.inj h
    refine ⟨fun hret ↦ ?_, fun _ ↦ rfl⟩
    obtain ⟨sent, hsent, message, hreply, hvote, -⟩ := hpaired rfl hret
    refine ⟨sent, message, hsent, hreply, hvote, ?_⟩
    have hunwanted : wanted = false := by
      rcases hnone with hfailed | hother
      · exact absurd hret hfailed
      · exact Bool.eq_false_iff.2 fun hwanted ↦ hother (by rw [hwanted])
    simp [hunwanted]

theorem faithful_of_copy (hrequest : call.request = .vote true)
    (hpaired : ∃ sent, number = some sent ∧ s.Paired sent)
    (h : call.record number 0 s.rspClientHandle = some vote) : vote.Faithful s.reply := by
  obtain ⟨request, before⟩ := call
  obtain rfl : request = .vote true := hrequest
  obtain rfl := Option.some.inj h
  obtain ⟨sent, hsent, message, hreply, hvote, hhandle⟩ := hpaired
  exact ⟨fun _ ↦ ⟨sent, message, hsent, hreply, hvote, hhandle⟩, fun hret ↦ absurd rfl hret⟩

variable [DecidableEq Caller]

theorem Sound.callerMove {pc pc' : AfePc} (hsound : s.Sound) (hasserts : s.Asserts caller pc)
    (hmove : AfeCallerMove caller s pc s' pc') (hpunctual : s'.Punctual) :
    s'.Sound ∧ s'.Asserts caller pc' ∧ Guarantee (.caller caller) s s' := by
  cases hmove with
  | enter request =>
    exact ⟨hsound, rfl, fun _ _ ↦ rfl, fun _ _ _ ↦ ⟨rfl, rfl, rfl, rfl, fun _ ↦ ⟨rfl, rfl⟩⟩, fun _ _ h ↦ h⟩
  | lock hfree =>
    refine ⟨⟨hsound.handling, hsound.answered, hsound.pending, hsound.votes, hsound.numbered, fun _ ↦
      hsound.free hfree⟩, ⟨rfl, hsound.free hfree, hasserts⟩, fun _ _ ↦ rfl,
      fun other _ hheld ↦ ?_, fun _ _ h ↦ h⟩
    exact absurd (hheld.symm.trans hfree) (Option.some_ne_none other)
  | clearOpcode =>
    have hwaits : ∀ number command, s.waiting ≠ some (number, command) := by
      intro number command hwaiting
      exact Option.some_ne_none _ (hwaiting.symm.trans hasserts.2.1)
    refine ⟨⟨hsound.handling, fun number command h ↦ absurd h (hwaits number command), hsound.pending,
      hsound.votes, hsound.numbered, hsound.free⟩, ⟨hasserts, Function.update_self ..⟩, ?_⟩
    exact guarantee_of_holder hasserts.1 (fun _ _ ↦ rfl) rfl
  | clearStatus =>
    exact ⟨⟨hsound.handling, hsound.answered, hsound.pending, hsound.votes, hsound.numbered, hsound.free⟩,
      hasserts, guarantee_of_holder hasserts.1.1 (fun _ _ ↦ rfl) rfl⟩
  | unsent hret =>
    refine ⟨hsound, ⟨hasserts.1, fun _ h ↦ absurd h.symm (Option.some_ne_none _), fun _ hzero ↦ ?_⟩,
      guarantee_of_holder hasserts.1.1 (fun _ _ ↦ rfl) rfl⟩
    exact absurd hzero (Int.ne_of_lt hret)
  | send =>
    obtain ⟨⟨hlock, hwaiting, hhandle⟩, hopcode⟩ := hasserts
    refine ⟨hsound.send hlock hwaiting hopcode,
      ⟨⟨hlock, rfl, hhandle⟩, Nat.lt_succ_self _, fun vote hvote hnumber ↦ ?_⟩,
      guarantee_of_holder hlock (fun _ _ ↦ rfl) rfl⟩
    exact Nat.lt_irrefl _ (hsound.numbered vote hvote _ hnumber)
  | @wake call number hopcode =>
    obtain ⟨⟨hlock, hwaiting, hhandle⟩, hfresh⟩ := hasserts
    refine ⟨hsound.wake hwaiting hopcode, ⟨⟨hlock, rfl, hhandle⟩, hfresh, fun hvote ↦ ?_⟩,
      guarantee_of_holder hlock (fun _ _ ↦ rfl) rfl⟩
    have hfound : s.opcode call.command.port ≠ 0 := hopcode ▸ call.command.awaited
    exact (hsound.answered number _ hwaiting hfound).2.2 (hopcode.trans hvote)
  | timeOut hopcode =>
    obtain ⟨⟨hlock, hwaiting, hhandle⟩, hfresh⟩ := hasserts
    refine ⟨hsound.timeOut hwaiting hpunctual, ⟨⟨hlock, rfl, hhandle⟩, fun sent hsent ↦ ?_, fun _ hret ↦ ?_⟩,
      guarantee_of_holder hlock (fun _ _ ↦ rfl) rfl⟩
    · exact Option.some.inj hsent ▸ hfresh
    · exact absurd hret (ret_ne_zero _)
  | refuse hstatus =>
    obtain ⟨hinside, hfresh, -⟩ := hasserts
    refine ⟨hsound, ⟨hinside, fun sent hsent ↦ ?_, fun _ hret ↦ ?_⟩,
      guarantee_of_holder hinside.1 (fun _ _ ↦ rfl) rfl⟩
    · exact Option.some.inj hsent ▸ hfresh
    · exact absurd hret (ret_ne_zero _)
  | accept hstatus =>
    obtain ⟨hinside, hfresh, hpaired⟩ := hasserts
    refine ⟨hsound, ⟨hinside, fun sent hsent ↦ ?_, fun hvote _ ↦ ⟨_, rfl, hpaired hvote⟩⟩,
      guarantee_of_holder hinside.1 (fun _ _ ↦ rfl) rfl⟩
    exact Option.some.inj hsent ▸ hfresh
  | @copy call number hvote =>
    obtain ⟨⟨hlock, hwaiting, -⟩, hfresh, hpaired⟩ := hasserts
    have hcommand : call.command.rspOpcode = AFE_CMD_RSP_REMOTE_LPASS_CORE_HW_VOTE_REQUEST := by
      rw [AfeCall.command, hvote]
      rfl
    refine ⟨⟨hsound.handling, hsound.answered, hsound.pending, hsound.votes, hsound.numbered, hsound.free⟩,
      ⟨hlock, hwaiting, hfresh, fun vote hrecord ↦ ?_⟩, guarantee_of_holder hlock (fun other hother ↦ ?_) rfl⟩
    · dsimp only at hrecord
      rw [Function.update_self] at hrecord
      exact faithful_of_copy hvote (hpaired hcommand rfl) hrecord
    · exact Function.update_of_ne hother ..
  | leave hnone =>
    obtain ⟨⟨hlock, hwaiting, hhandle⟩, hfresh, hpaired⟩ := hasserts
    refine ⟨hsound, ⟨hlock, hwaiting, hfresh, fun vote hrecord ↦ ?_⟩,
      guarantee_of_holder hlock (fun _ _ ↦ rfl) rfl⟩
    rw [hhandle] at hrecord
    exact faithful_of_leave hnone hpaired hrecord
  | unlock =>
    obtain ⟨hlock, hwaiting, hfresh, hrecord⟩ := hasserts
    exact ⟨hsound.unlock hwaiting (fun _ ↦ record_number) hfresh hrecord, trivial,
      guarantee_of_holder hlock (fun _ _ ↦ rfl) rfl⟩

end AfeShared

/-! ## Whole runs -/

variable [DecidableEq Caller]

/-- The proof outline.  The callback has no program counter of its own. -/
def afeOutline : Outline (PunctualMove : Moves (AfeActor Caller) (AfeShared Caller) AfePc) where
  invariant := AfeShared.Sound
  asserts actor s pc := ∀ caller, actor = .caller caller → s.Asserts caller pc
  guarantee := AfeShared.Guarantee
  keeps := by
    rintro actor s pc s' pc' hsound hasserts ⟨hmove, hpunctual⟩
    cases hmove with
    | @caller caller _ _ _ _ hmove =>
      obtain ⟨hsound', hasserts', hguarantee⟩ := hsound.callerMove (hasserts caller rfl) hmove hpunctual
      refine ⟨hsound', fun other hother ↦ ?_, hguarantee⟩
      obtain rfl := AfeActor.caller.inj hother
      exact hasserts'
    | callback hmove =>
      obtain ⟨hsound', hguarantee⟩ := hsound.callbackMove hmove hpunctual
      exact ⟨hsound', fun _ hother ↦ absurd hother (by simp), hguarantee⟩
  stable := by
    intro actor other s s' pc hother hasserts hguarantee caller hcaller
    refine (hasserts caller hcaller).stable ?_ hguarantee
    rw [← hcaller]
    exact hother.symm

theorem AfeInitial.holds {system : System (AfeActor Caller) (AfeShared Caller) AfePc}
    (h : AfeInitial system) : afeOutline.Holds system := by
  refine ⟨⟨?_, ?_, ?_, ?_, ?_, fun _ ↦ h.waiting⟩, fun actor caller _ ↦ ?_⟩
  · intro number rest hcallback
    exact absurd (hcallback.symm.trans h.callback) (Option.some_ne_none _)
  · intro number command hwaiting
    exact absurd (hwaiting.symm.trans h.waiting) (Option.some_ne_none _)
  · intro number hlt
    exact absurd (h.sent ▸ hlt) (Nat.not_lt_zero number)
  · rw [h.votes]
    exact ⟨fun _ hvote ↦ absurd hvote List.not_mem_nil, .nil⟩
  · rw [h.votes]
    exact fun _ hvote ↦ absurd hvote List.not_mem_nil
  · rw [h.idle actor]
    trivial

/-- However votes and other commands interleave, and whatever the DSP replies in time. -/
theorem q6afe_votes {start system : System (AfeActor Caller) (AfeShared Caller) AfePc}
    (hstart : AfeInitial start) (hrun : Run PunctualMove start system) :
    VotesKept system.shared.votes system.shared.reply ∧ ∀ message found, PayloadKept message found :=
  ⟨(afeOutline.holds_run hstart.holds hrun).1.votes, payloadKept⟩

end

/-- A driver that one caller uses, with a handle of 9. -/
def quietAfe : System (AfeActor Unit) (AfeShared Unit) AfePc where
  shared := ⟨none, fun _ ↦ 0, fun _ ↦ 0, 0, fun _ ↦ 9, none, 0, none, fun _ ↦ false, fun _ ↦ none, []⟩
  pc _ := .idle

/-- A reply of one word, the handle 7. -/
def compactReply : AprMessage where
  opcode := AFE_CMD_RSP_REMOTE_LPASS_CORE_HW_VOTE_REQUEST
  token := 3
  payloadSize := 4
  payload address := if address = 0 then 7 else 0

theorem q6afe_votes_compactReply : ∃ system, AfeInitial quietAfe ∧ Run PunctualMove quietAfe system ∧
    system.shared.votes = [⟨true, some 0, 0, 9, 7⟩] ∧
    VotesKept system.shared.votes system.shared.reply ∧ ∀ message found, PayloadKept message found := by
  have hstart : AfeInitial quietAfe := ⟨fun _ ↦ rfl, rfl, rfl, rfl, rfl, fun _ ↦ rfl, fun _ ↦ rfl, rfl⟩
  have hidle : Run PunctualMove quietAfe quietAfe := .refl
  have hcleared := (((hidle.move (.caller ()) ⟨.caller (.enter (.vote true)), fun _ _ _ ↦ rfl⟩).move (.caller ())
    ⟨.caller (.lock rfl), fun _ _ _ ↦ rfl⟩).move (.caller ()) ⟨.caller .clearOpcode, fun _ _ _ ↦ rfl⟩).move
    (.caller ()) ⟨.caller .clearStatus, fun _ _ _ ↦ rfl⟩
  have hsent := hcleared.move (.caller ()) ⟨.caller .send, fun _ _ _ ↦ rfl⟩
  have hdelivered := hsent.move .callback
    ⟨.callback (.deliver 0 compactReply false rfl (by decide) rfl), fun _ _ _ ↦ rfl⟩
  have hstored := ((hdelivered.move .callback ⟨.callback (.store rfl), fun _ _ _ ↦ rfl⟩).move .callback
    ⟨.callback (.store rfl), fun _ _ _ ↦ rfl⟩).move .callback ⟨.callback (.store rfl), fun _ _ _ ↦ rfl⟩
  have hreturned := (hstored.move (.caller ()) ⟨.caller (.wake rfl), fun _ _ _ ↦ rfl⟩).move (.caller ())
    ⟨.caller (.accept rfl), fun _ _ _ ↦ rfl⟩
  have hcopied := (hreturned.move (.caller ()) ⟨.caller (.copy rfl), fun _ _ _ ↦ rfl⟩).move (.caller ())
    ⟨.caller .unlock, fun _ _ _ ↦ rfl⟩
  exact ⟨_, hstart, hcopied, rfl, q6afe_votes hstart hcopied⟩

end TclB220G.Audio
