import TclB220G.Audio.BoardModules

/-!
# The modules that hold the rails and the reset line

The module for the rails votes each rail on in three steps, and takes the votes back that it has made when
a later step fails.  The module for the reset line does not write to it unless the registers of the line
read as they do after a boot.
-/

namespace TclB220G.Audio.Service

open Kernel Kernel.Errno Lib Lib.Script

/-- The call neither takes nor gives back anything. -/
def Call.Spares (call : Call) : Prop :=
  ∀ answer state, (call.effect answer state).statics = state.statics ∧
    (call.effect answer state).refs = state.refs

variable {state : State}

section

variable {base : State} {module_ : BoardModule} {owed sure : Finset Slot} {call : Call}
  {other next : Board → Prop}

theorem Point.spared (h : Point base module_ owed sure other state) (hcall : call.Spares)
    {answer : ℤ} (hsafe : Safe (call.effect answer state).toBoard)
    (hnext : next (call.effect answer state).toBoard) :
    Point base module_ owed sure next (call.effect answer state) := by
  obtain ⟨hstatics, hrefs⟩ := hcall answer state
  refine ⟨fun slot ↦ ?_, fun slot hslot ↦ ?_, fun slot hslot ↦ ?_, hsafe, hnext⟩
  · rw [hrefs, hstatics]
    exact h.refs slot
  · rw [hstatics]
    exact h.others slot hslot
  · rw [hstatics]
    exact h.sure slot hslot

/-- A call that cannot fail. -/
theorem does_sure {failing : State → Prop} (hcall : call.Spares) (hverdict : call.verdict = .succeeds)
    (hsafe : ∀ board, next board → Safe board)
    (hnext : ∀ answer state, other state.toBoard → next (call.effect answer state).toBoard) :
    (perform call).Does (Point base module_ owed sure other)
      (fun _ ↦ Point base module_ owed sure next) failing := by
  apply takes_perform
  · intro answer state h
    exact hsafe _ (hnext answer state h.board)
  · intro answer state h _
    exact h.spared hcall (hsafe _ (hnext answer state h.board)) (hnext answer state h.board)
  · intro answer state _ hfailed
    change call.verdict.failed answer = true at hfailed
    rw [hverdict] at hfailed
    exact absurd hfailed Bool.false_ne_true

end

/-! ## The rails -/

/-- The rest of the board is as it was, with the line low. -/
structure BesideRails (base board : Board) : Prop where
  loaded : board.loaded = base.loaded
  active : board.active = base.active
  registers : board.registers = base.registers
  low : ¬Released board

variable {base board : Board}

theorem BesideRails.safe (h : BesideRails base board) : Safe board :=
  fun hreleased ↦ absurd hreleased h.low

/-- These votes stand, these rails are not known to be on, and these are remembered to be on. -/
structure Voting (base : Board) (voted : List (ℕ × ℕ)) (dark : List Bank) (on : Bank → Bool)
    (board : Board) : Prop where
  beside : BesideRails base board
  voted : ∀ entry ∈ voted, board.votes entry.1 = some entry.2
  dark : ∀ bank ∈ dark, board.votes (bank.addr + 4) ≠ some 1
  on : board.on = on

/-- A rail that is done with, or that is not remembered to be on, is not known to be on. -/
structure Darkening (base : Board) (done : List Bank) (board : Board) : Prop where
  beside : BesideRails base board
  dark : ∀ bank, bank ∈ done ∨ board.on bank = false → board.votes (bank.addr + 4) ≠ some 1

/-- No rail is known to be on. -/
structure Darkened (base board : Board) : Prop where
  beside : BesideRails base board
  dark : Dark board

/-- Both rails are on and remembered to be. -/
structure Powered (base board : Board) : Prop where
  beside : BesideRails base board
  rails : RailsOn board
  on : ∀ bank, board.on bank = true

theorem Voting.darkening {voted : List (ℕ × ℕ)} {dark : List Bank} {on : Bank → Bool}
    (h : Voting base voted dark on board) (hdark : ∀ bank, on bank = false → bank ∈ dark) :
    Darkening base [] board := by
  refine ⟨h.beside, fun bank hbank ↦ ?_⟩
  rcases hbank with hmem | hoff
  · exact absurd hmem List.not_mem_nil
  · rw [h.on] at hoff
    exact h.dark bank (hdark bank hoff)

theorem Bank.addr_injective {bank other : Bank} (h : bank.addr + 4 = other.addr + 4) : bank = other := by
  cases bank <;> cases other <;> first | rfl | exact absurd h (by decide)

variable {done : List Bank}

theorem Darkening.vote {base : Board} {bank : Bank} (h : Darkening base done state.toBoard)
    (answer : ℤ) :
    Darkening base (bank :: done) (Call.effect (.rpmhWrite (bank.addr + 4) 0) answer state).toBoard := by
  refine ⟨⟨h.beside.loaded, h.beside.active, h.beside.registers, h.beside.low⟩, fun other hother ↦ ?_⟩
  change Function.update state.votes (bank.addr + 4) _ (other.addr + 4) ≠ some 1
  by_cases heq : other = bank
  · subst heq
    rw [Function.update_self]
    split_ifs <;> simp
  · rw [Function.update_of_ne fun haddr ↦ heq (Bank.addr_injective haddr)]
    exact h.dark other (hother.imp_left fun hmem ↦ (List.mem_cons.1 hmem).resolve_left heq)

theorem Darkening.setOff {base : Board} {bank : Bank}
    (h : Darkening base (bank :: done) state.toBoard) (answer : ℤ) :
    Darkening base (bank :: done) (Call.effect (.setOn bank false) answer state).toBoard := by
  refine ⟨⟨h.beside.loaded, h.beside.active, h.beside.registers, h.beside.low⟩,
    fun other hother ↦ h.dark other ?_⟩
  by_cases heq : other = bank
  · exact .inl (heq ▸ List.mem_cons_self)
  · exact hother.imp_right ((Function.update_of_ne heq _ _).symm.trans ·)

section

variable {base : State} {known : Board} {owed sure : Finset Slot} {failing : State → Prop} {voted : List (ℕ × ℕ)}
  {dark later : List Bank} {on : Bank → Bool}

theorem does_vote {addr data : ℕ} {refused : Board → Prop} (hfresh : ∀ entry ∈ voted, entry.1 ≠ addr)
    (hlater : later ⊆ dark) (haddr : ∀ bank ∈ later, bank.addr + 4 ≠ addr)
    (hrefused : ∀ board, Voting known [] dark on board → refused board) :
    (perform (.rpmhWrite addr data)).Does (Point base .powerHold owed sure (Voting known voted dark on))
      (fun _ ↦ Point base .powerHold owed sure (Voting known ((addr, data) :: voted) later on))
      (Point base .powerHold owed sure refused) := by
  have hcall : (Call.rpmhWrite addr data).Spares := fun _ _ ↦ ⟨rfl, rfl⟩
  have hbeside {state : State} (h : Voting known voted dark on state.toBoard) (answer : ℤ) :
      BesideRails known (Call.effect (.rpmhWrite addr data) answer state).toBoard :=
    ⟨h.beside.loaded, h.beside.active, h.beside.registers, h.beside.low⟩
  apply takes_perform
  · intro answer state h
    exact (hbeside h.board answer).safe
  · intro answer state h hfailed
    have hanswer : answer = 0 := by simpa [service, Call.verdict, Display.Verdict.failed] using hfailed
    refine h.spared hcall (hbeside h.board answer).safe ⟨hbeside h.board answer, ?_, ?_, h.board.on⟩
    · rw [List.forall_mem_cons]
      constructor
      · simp [Call.effect, hanswer]
      · intro entry hentry
        exact (Function.update_of_ne (hfresh entry hentry) _ _).trans (h.board.voted entry hentry)
    · intro bank hbank
      change Function.update state.votes addr _ (bank.addr + 4) ≠ some 1
      rw [Function.update_of_ne (haddr bank hbank)]
      exact h.board.dark bank (hlater hbank)
  · intro answer state h hfailed
    have hanswer : answer ≠ 0 := by simpa [service, Call.verdict, Display.Verdict.failed] using hfailed
    refine h.spared hcall (hbeside h.board answer).safe
      (hrefused _ ⟨hbeside h.board answer, List.forall_mem_nil _, ?_,
      h.board.on⟩)
    intro bank hbank
    by_cases heq : bank.addr + 4 = addr
    · simp [Call.effect, hanswer, heq]
    · change Function.update state.votes addr _ (bank.addr + 4) ≠ some 1
      rw [Function.update_of_ne heq]
      exact h.board.dark bank hbank

theorem does_setOn (bank : Bank) (value : Bool) :
    (perform (.setOn bank value)).Does (Point base .powerHold owed sure (Voting known voted dark on))
      (fun _ ↦ Point base .powerHold owed sure (Voting known voted dark (Function.update on bank value)))
        failing := by
  refine does_sure (fun _ _ ↦ ⟨rfl, rfl⟩) rfl (fun _ h ↦ h.beside.safe) fun answer state h ↦ ?_
  refine ⟨⟨h.beside.loaded, h.beside.active, h.beside.registers, h.beside.low⟩, h.voted, h.dark, ?_⟩
  rw [← h.on]
  rfl

theorem does_disableRail (bank : Bank) :
    (disableRail bank).Does (Point base .powerHold owed sure (Darkening known done))
      (fun _ ↦ Point base .powerHold owed sure (Darkening known (bank :: done))) failing := by
  have hvote : ServiceScript.Does (invoke (.rpmhWrite (bank.addr + 4) 0))
      (Point base .powerHold owed sure (Darkening known done))
      (fun _ ↦ Point base .powerHold owed sure (Darkening known (bank :: done))) failing := by
    apply takes_invoke
    · intro answer state h
      exact (h.board.vote answer).beside.safe
    · intro answer state h
      exact h.spared (fun _ _ ↦ ⟨rfl, rfl⟩) (h.board.vote answer).beside.safe (h.board.vote answer)
  have hoff : (perform (.setOn bank false)).Does
      (Point base .powerHold owed sure (Darkening known (bank :: done)))
      (fun _ ↦ Point base .powerHold owed sure (Darkening known (bank :: done))) failing :=
    does_sure (fun _ _ ↦ ⟨rfl, rfl⟩) rfl (fun _ h ↦ h.beside.safe) fun answer _ h ↦ h.setOff answer
  refine takes_state fun current ↦ ?_
  split_ifs with hon
  · refine takes_bind (takes_before hvote fun _ h ↦ h.1) fun err ↦ ?_
    split_ifs
    · exact takes_bind hoff fun _ ↦ takes_pure fun _ h ↦ h
    · exact takes_pure fun _ h ↦ h
  · refine takes_pure ?_
    rintro state ⟨h, rfl⟩
    refine h.map fun hdark ↦ ⟨hdark.beside, fun other hother ↦ hdark.dark other ?_⟩
    rcases hother with hmem | hoff
    · rcases List.mem_cons.1 hmem with rfl | hmem
      · exact .inr (Bool.eq_false_of_not_eq_true hon)
      · exact .inl hmem
    · exact .inr hoff

theorem does_disableRails :
    disableRails.Does (Point base .powerHold owed sure (Darkening known []))
      (fun _ ↦ Point base .powerHold owed ∅ (Darkened known)) failing := by
  refine takes_bind (does_disableRail .bob) fun _ ↦ ?_
  refine takes_bind (does_disableRail .ldo) fun _ ↦ takes_pure fun state h ↦ ?_
  refine h.loosen.map fun hdark ↦ ⟨hdark.beside, fun bank ↦ hdark.dark bank (.inl ?_)⟩
  cases bank <;> decide

theorem does_putBanks :
    putBanks.Does (Point base .powerHold BoardModule.powerHold.keeps ∅ (Darkened known))
      (fun _ ↦ Clean base .powerHold (Darkened known)) failing := by
  unfold putBanks
  refine takes_bind (does_releaseIf (by decide)) fun _ ↦ takes_bind (does_forget (by decide) rfl) fun _ ↦ ?_
  refine takes_bind (does_releaseIf (by decide)) fun _ ↦ ?_
  exact does_imp (does_forget (by decide) rfl) (by decide) (Finset.empty_subset _)

theorem does_voteRails :
    voteRails.Does (Equipped base .powerHold (Voting known [(0x42200, 1800)] [.ldo, .bob] fun _ ↦ false))
      (fun _ ↦ Equipped base .powerHold (Powered known))
      (Point base .powerHold BoardModule.powerHold.keeps ∅ (Darkened known)) := by
  have hdisable : ServiceScript.Does (do let _ ← disableRails) (Equipped base .powerHold (Darkening known []))
      (fun _ ↦ Point base .powerHold BoardModule.powerHold.keeps ∅ (Darkened known))
      (Point base .powerHold BoardModule.powerHold.keeps ∅ (Darkened known)) :=
    takes_bind does_disableRails fun _ ↦ takes_pure fun _ h ↦ h
  refine takes_guarding ?_ hdisable
  -- Before the first rail is remembered to be on, none is known to be.
  refine takes_bind (does_vote (by decide) (List.Subset.refl _) (by decide) fun _ h ↦
    h.darkening (by decide)) fun _ ↦ ?_
  refine takes_bind (does_vote (by decide) (show [Bank.bob] ⊆ _ by decide) (by decide) fun _ h ↦
    h.darkening (by decide)) fun _ ↦ ?_
  refine takes_bind (does_setOn .ldo true) fun _ ↦ ?_
  refine takes_bind (does_vote (by decide) (List.Subset.refl _) (by decide) fun _ h ↦
    h.darkening (by decide)) fun _ ↦ ?_
  refine takes_bind (does_vote (by decide) (List.Subset.refl _) (by decide) fun _ h ↦
    h.darkening (by decide)) fun _ ↦ ?_
  refine takes_bind (does_vote (by decide) (List.nil_subset _) (by decide) fun _ h ↦
    h.darkening (by decide)) fun _ ↦ ?_
  refine takes_after (does_setOn .bob true) fun _ state h ↦ ?_
  refine h.map fun hvoting ↦ ⟨hvoting.beside, fun bank ↦ ?_, fun bank ↦ ?_⟩
  · have hvoted := hvoting.voted
    cases bank
    · exact ⟨hvoted (0x42200, 1800) (by decide), hvoted (0x42208, 7) (by decide), hvoted (0x42204, 1) (by decide)⟩
    · exact ⟨hvoted (0x40400, 3300) (by decide), hvoted (0x40408, 6) (by decide), hvoted (0x40404, 1) (by decide)⟩
  · rw [hvoting.on]
    cases bank <;> rfl

theorem does_tclAudioPowerHoldInit (hlow : ¬Released known) (hdark : Dark known)
    (hoff : known.on = fun _ ↦ false) :
    tclAudioPowerHoldInit.Does (Clean base .powerHold (· = known))
      (fun _ ↦ Equipped base .powerHold (Powered known))
      (Clean base .powerHold (Darkened known)) := by
  have hbeside : BesideRails known known := ⟨rfl, rfl, rfl, hlow⟩
  have hdarkened : ∀ board, board = known → Darkened known board := by
    rintro board rfl
    exact ⟨hbeside, hdark⟩
  have hvoting : ∀ board, board = known → Voting known [] [.ldo, .bob] (fun _ ↦ false) board := by
    rintro board rfl
    exact ⟨hbeside, List.forall_mem_nil _, fun bank _ ↦ hdark bank, hoff⟩
  have hvote : (perform (.rpmhWrite 0x42200 1800)).Does (Equipped base .powerHold (· = known))
      (fun _ ↦ Equipped base .powerHold (Voting known [(0x42200, 1800)] [.ldo, .bob] fun _ ↦ false))
      (Point base .powerHold BoardModule.powerHold.keeps ∅ (Darkened known)) := by
    refine takes_consequence (does_vote (by decide) (List.Subset.refl _) (by decide) fun board h ↦ ?_)
      (fun _ h ↦ h.map (hvoting _)) (fun _ _ h ↦ h) fun _ h ↦ h.loosen
    exact ⟨h.beside, fun bank ↦ h.dark bank (by cases bank <;> decide)⟩
  unfold tclAudioPowerHoldInit
  refine takes_bind (does_check _ fun _ h ↦ h.map (hdarkened _)) fun _ ↦ ?_
  refine takes_bind (does_check _ fun _ h ↦ h.map (hdarkened _)) fun _ ↦ ?_
  refine takes_bind (does_check _ fun _ h ↦ h.map (hdarkened _)) fun _ ↦ ?_
  refine takes_bind (does_search (by decide) rfl) fun _ ↦ takes_bind (does_search (by decide) rfl) fun _ ↦ ?_
  refine takes_guarding (takes_state fun current ↦ ?_) does_putBanks
  split_ifs with hfound
  · obtain ⟨hldo, hbob⟩ := Bool.and_eq_true_iff.1 hfound
    have hstart : ∀ state, (Point base .powerHold BoardModule.powerHold.keeps ∅ (· = known) state ∧
      state = current) →
        Equipped base .powerHold (· = known) state := by
      rintro state ⟨h, rfl⟩
      refine ⟨h.refs, h.others, ?_, h.safe, h.board⟩
      simp [BoardModule.keeps, hldo, hbob]
    refine takes_bind (takes_before (does_check _ fun _ h ↦ (h.map (hdarkened _)).loosen) hstart) fun _ ↦ ?_
    refine takes_bind (does_check _ fun _ h ↦ (h.map (hdarkened _)).loosen) fun _ ↦ ?_
    exact takes_bind hvote fun _ ↦ does_voteRails
  · exact takes_abort fun _ h ↦ (h.1.map (hdarkened _)).loosen

theorem does_tclAudioPowerHoldExit :
    tclAudioPowerHoldExit.Does (Equipped base .powerHold (Powered known))
      (fun _ ↦ Clean base .powerHold (Darkened known)) failing := by
  have hdisable : disableRails.Does (Equipped base .powerHold (Darkening known []))
      (fun _ ↦ Point base .powerHold BoardModule.powerHold.keeps ∅ (Darkened known)) failing := does_disableRails
  refine takes_bind (takes_before hdisable ?_) fun _ ↦ does_putBanks
  intro state h
  refine h.map fun hpowered ↦ ⟨hpowered.beside, fun bank hbank ↦ ?_⟩
  rcases hbank with hmem | hoff
  · exact absurd hmem List.not_mem_nil
  · exact absurd (hoff.symm.trans (hpowered.on bank)) Bool.false_ne_true

end

/-! ## The reset line -/

/-- The rest of the board is as it was, with the rails on. -/
structure BesideLine (base board : Board) : Prop where
  loaded : board.loaded = base.loaded
  on : board.on = base.on
  votes : board.votes = base.votes
  rails : RailsOn board

theorem BesideLine.safe (h : BesideLine base board) : Safe board :=
  fun _ ↦ h.rails

/-- These registers were last written to with these values, and the variable for them may be set. -/
structure Writing (base : Board) (written : List (ℕ × ℕ)) (active : Bool) (board : Board) : Prop where
  beside : BesideLine base board
  written : ∀ entry ∈ written, board.registers entry.1 = some entry.2
  active : active = true → board.active = true

structure Raised (base board : Board) : Prop where
  beside : BesideLine base board
  released : Released board
  active : board.active = true

structure Lowered (base board : Board) : Prop where
  beside : BesideLine base board
  lowered : ¬Released board

section

variable {base : State} {known : Board} {owed sure : Finset Slot} {failing : State → Prop}
  {written : List (ℕ × ℕ)}

theorem does_writel {active : Bool} (value offset : ℕ) (hfresh : ∀ entry ∈ written, entry.1 ≠ offset) :
    (perform (.writel value offset)).Does (Point base .resetHold owed sure (Writing known written active))
      (fun _ ↦ Point base .resetHold owed sure (Writing known ((offset, value) :: written) active)) failing := by
  refine does_sure (fun _ _ ↦ ⟨rfl, rfl⟩) rfl (fun _ h ↦ h.beside.safe) fun answer state h ↦ ?_
  refine ⟨⟨h.beside.loaded, h.beside.on, h.beside.votes, h.beside.rails⟩, ?_, h.active⟩
  rw [List.forall_mem_cons]
  constructor
  · exact Function.update_self ..
  · intro entry hentry
    exact (Function.update_of_ne (hfresh entry hentry) _ _).trans (h.written entry hentry)

theorem does_readl {active : Bool} (offset : ℕ) :
    (perform (.readl offset)).Does (Point base .resetHold owed sure (Writing known written active))
      (fun _ ↦ Point base .resetHold owed sure (Writing known written active)) failing :=
  does_sure (fun _ _ ↦ ⟨rfl, rfl⟩) rfl (fun _ h ↦ h.beside.safe) fun _ _ h ↦ h

theorem does_setActive {before : Bool} (active : Bool) :
    (perform (.setActive active)).Does (Point base .resetHold owed sure (Writing known written before))
      (fun _ ↦ Point base .resetHold owed sure (Writing known written active)) failing := by
  refine does_sure (fun _ _ ↦ ⟨rfl, rfl⟩) rfl (fun _ h ↦ h.beside.safe) fun answer state h ↦ ?_
  exact ⟨⟨h.beside.loaded, h.beside.on, h.beside.votes, h.beside.rails⟩, h.written, id⟩

theorem does_raise :
    ServiceScript.Does
      (do
        perform (.writel 0 4)
        perform (.writel 0x200 0)
        perform (.readl 0)
        perform (.setActive true)
        perform (.writel 2 4)
        perform (.readl 4))
      (Point base .resetHold owed sure (Writing known [] false))
      (fun _ ↦ Point base .resetHold owed sure (Raised known)) failing := by
  have hlow : (perform (.writel 0 4)).Does (Point base .resetHold owed sure (Writing known [] false))
      (fun _ ↦ Point base .resetHold owed sure (Writing known [] false)) failing :=
    takes_after (does_writel 0 4 (List.forall_mem_nil _)) fun _ _ h ↦
      h.map fun hwriting ↦ ⟨hwriting.beside, List.forall_mem_nil _, hwriting.active⟩
  refine takes_bind hlow fun _ ↦ takes_bind (does_writel 0x200 0 (List.forall_mem_nil _)) fun _ ↦ ?_
  refine takes_bind (does_readl 0) fun _ ↦ takes_bind (does_setActive true) fun _ ↦ ?_
  refine takes_bind (does_writel 2 4 (by decide)) fun _ ↦ takes_after (does_readl 4) fun _ _ h ↦ ?_
  refine h.map fun hwriting ↦ ⟨hwriting.beside, ⟨?_, ?_⟩, hwriting.active rfl⟩
  · exact hwriting.written (0, 0x200) (by decide)
  · exact hwriting.written (4, 2) (by decide)

theorem does_restoreGpio58 :
    restoreGpio58.Does (Point base .resetHold owed sure (Raised known))
      (fun _ ↦ Point base .resetHold owed sure (Lowered known)) failing := by
  refine takes_state fun current ↦ ?_
  split_ifs with hactive
  · have hstart : ∀ state, (Point base .resetHold owed sure (Raised known) state ∧ state = current) →
        Point base .resetHold owed sure (Writing known [] true) state :=
      fun _ h ↦ h.1.map fun hraised ↦ ⟨hraised.beside, List.forall_mem_nil _, fun _ ↦ hraised.active⟩
    refine takes_bind (takes_before (does_writel 0 4 (List.forall_mem_nil _)) hstart) fun _ ↦ ?_
    refine takes_bind (does_readl 4) fun _ ↦ takes_bind (does_writel 1 0 (by decide)) fun _ ↦ ?_
    refine takes_bind (does_readl 0) fun _ ↦ takes_after (does_setActive false) fun _ _ h ↦ ?_
    refine h.map fun hwriting ↦ ⟨hwriting.beside, fun hreleased ↦ ?_⟩
    exact absurd (hreleased.1.symm.trans (hwriting.written (0, 1) (by decide))) (by decide)
  · refine takes_pure ?_
    rintro state ⟨h, rfl⟩
    exact absurd h.board.active hactive

theorem does_tclCodecResetHoldInit (hrails : RailsOn known) :
    tclCodecResetHoldInit.Does (Clean base .resetHold (· = known))
      (fun _ ↦ Equipped base .resetHold (Raised known))
      (Clean base .resetHold (· = known)) := by
  have hread (offset : ℕ) : ServiceScript.Does (invoke (.readl offset)) (Equipped base .resetHold (· = known))
      (fun _ ↦ Equipped base .resetHold (· = known)) (Clean base .resetHold (· = known)) :=
    takes_invoke (fun _ _ h ↦ h.safe) fun _ _ h ↦ h
  unfold tclCodecResetHoldInit
  refine takes_bind (does_check _ fun _ h ↦ h) fun _ ↦ ?_
  refine takes_bind (does_acquire (by decide) rfl fun _ h _ ↦ h) fun _ ↦ ?_
  refine takes_bind (hread 0x10) fun present ↦ takes_bind (hread 0) fun cfg ↦ takes_bind (hread 4) fun io ↦ ?_
  split_ifs
  · -- The guard has failed, and nothing has been written.
    refine takes_bind (does_release (by decide) (by decide)) fun _ ↦ ?_
    refine takes_bind (does_forget (by decide) rfl) fun _ ↦ ?_
    exact takes_abort fun _ h ↦ h.imp (by decide) (Finset.empty_subset _)
  · refine takes_before does_raise fun state h ↦ h.map fun hboard ↦ ?_
    rw [hboard]
    exact ⟨⟨rfl, rfl, rfl, hrails⟩, List.forall_mem_nil _, fun h ↦ absurd h Bool.false_ne_true⟩

theorem does_tclCodecResetHoldExit :
    tclCodecResetHoldExit.Does (Equipped base .resetHold (Raised known))
      (fun _ ↦ Clean base .resetHold (Lowered known)) failing := by
  refine takes_bind does_restoreGpio58 fun _ ↦ ?_
  exact does_imp (does_releaseIf (by decide)) (by decide) (Finset.empty_subset _)

end

end TclB220G.Audio.Service
