import TclB220G.Audio.HoldModules

/-!
# The audio service

The service loads the modules of the board in order and removes them in the opposite order.  Its scripts
stop at the first command that fails, and a script that is killed is one whose next command fails.  The
prepare script runs first; start and stop may then follow one another in any order, since a script that
has failed may be run again.
-/

namespace TclB220G.Audio.Service

open Kernel Kernel.Errno Lib Lib.Script

namespace BoardModule

def init : BoardModule → ServiceScript Unit
  | lpiProvider => tclLpiProviderInit
  | powerHold => tclAudioPowerHoldInit
  | resetHold => tclCodecResetHoldInit
  | wcd => tclAcpiWcdInit
  | card => tclCardInit

def exit : BoardModule → ServiceScript Unit
  | lpiProvider => tclLpiProviderExit
  | powerHold => tclAudioPowerHoldExit
  | resetHold => tclCodecResetHoldExit
  | wcd => tclAcpiWcdExit
  | card => tclCardExit

def rank : BoardModule → ℕ
  | lpiProvider => 0
  | powerHold => 1
  | resetHold => 2
  | wcd => 3
  | card => 4

end BoardModule

/-- Loads a module unless it is loaded.  A module whose init function fails is not loaded. -/
def modprobe (module_ : BoardModule) : ServiceScript Unit := do
  let current ← state service
  if current.loaded module_ then pure ()
  else
    perform (.insert module_)
    module_.init
    perform (.live module_)

/-- `modprobe -r`, which has nothing to do for a module that is not loaded. -/
def modprobeRemove (module_ : BoardModule) : ServiceScript Unit := do
  perform (.remove module_)
  let current ← state service
  if current.loaded module_ then
    module_.exit
    perform (.gone module_)
  else pure ()

/-! ## The scripts -/

def run (command : Command) : ServiceScript Unit := perform (.command command)

def sees (sight : Sight) : ServiceScript Bool := succeeds service (.sight sight)

/-- Exits unless something is seen. -/
def require (sight : Sight) : ServiceScript Unit := do
  if ← sees sight then pure () else abort 1

/-- Looks so many times, with a second between. -/
def waitFor (sight : Sight) : ℕ → ServiceScript Unit
  | 0 => pure ()
  | attempts + 1 => do
    if ← sees sight then pure ()
    else
      run .sleep
      waitFor sight attempts

def providersBound : List (Fin 4) → ServiceScript Bool
  | [] => pure true
  | provider :: providers => do
    if ← sees (.provider provider) then providersBound providers else pure false

def waitForProviders : ℕ → ServiceScript Bool
  | 0 => pure false
  | attempts + 1 => do
    if ← providersBound (List.finRange 4) then pure true
    else
      run .sleep
      waitForProviders attempts

def audioPrepare : ServiceScript Unit := do
  if ← waitForProviders 120 then inOrder ((List.finRange 22).map fun index ↦ run (.modprobe index))
  else abort 1

/-- Runs a command unless something is seen. -/
def runUnless (sight : Sight) (command : Command) : ServiceScript Unit := do
  if ← sees sight then pure () else run command

/-- Binds a device of the LPASS whose first probe came too early. -/
def bindDevice (device : Fin 5) : ServiceScript Unit := do
  require (.present device)
  runUnless (.bound device) (.drivers_probe device)
  require (.bound device)

/-- Waits for both halves of the codec, and lets the SoundWire controllers resume after the first look. -/
def attachCodec : ServiceScript Unit := do
  if ← sees .attached then pure ()
  else
    require .pmWritable
    run (.pmAuto .rx)
    run (.pmAuto .tx)
    run .sleep
    run (.pmOn .rx)
    run (.pmOn .tx)
    run .sleep
    waitFor .attached 59

def audioStart : ServiceScript Unit := do
  require .adspRegistered
  run .readAdspState
  runUnless .adspRunning .startAdsp
  waitFor .q6admRegistered 120
  require .q6admRegistered
  run (.modprobe 21)
  modprobe .lpiProvider
  waitFor .lpiBound 30
  require .lpiBound
  inOrder ((List.finRange 5).map bindDevice)
  modprobe .powerHold
  modprobe .resetHold
  attachCodec
  require .attached
  modprobe .wcd
  modprobe .card
  require .cardListed
  run .alsactlRestore
  inOrder ((List.finRange 7).map fun control ↦ run (.amixer control))

def letSuspend (master : Master) : ServiceScript Unit := do
  if ← sees (.controlWritable master) then run (.pmAuto master) else pure ()

def audioStop : ServiceScript Unit := do
  if ← sees .pcmRunning then abort 1
  else
    modprobeRemove .card
    modprobeRemove .wcd
    letSuspend .rx
    letSuspend .tx
    modprobeRemove .resetHold
    modprobeRemove .powerHold

inductive Operation where
  | prepare | start | stop
  deriving DecidableEq, Repr

def Operation.script : Operation → ServiceScript Unit
  | prepare => audioPrepare
  | start => audioStart
  | stop => audioStop

/-- Runs of the scripts one after another, whatever becomes of them. -/
def serve : List Operation → ServiceScript Unit
  | [] => pure ()
  | operation :: operations => do
    let _ ← attempt operation.script
    serve operations

/-! ## The state between commands -/

/-- The rails are on and remembered to be while their module is loaded, and not known to be on otherwise. -/
def RailsFit (board : Board) : Prop :=
  if board.loaded .powerHold = true then RailsOn board ∧ ∀ bank, board.on bank = true else Dark board

/-- The line is high, and remembered to be, exactly while its module is loaded. -/
def LineFits (board : Board) : Prop :=
  if board.loaded .resetHold = true then Released board ∧ board.active = true else ¬Released board

/-- Between two commands the loaded modules are the first ones, each of them holds what it keeps and
nothing else is held, and the rails and the line are as their modules leave them. -/
structure Settled (state : State) : Prop where
  order : ∀ upper lower : BoardModule, lower.rank ≤ upper.rank → state.loaded upper = true →
    state.loaded lower = true
  refs : ∀ slot : Slot,
    state.refs slot = if state.loaded slot.owner = true ∧ slot ∈ slot.owner.keeps then 1 else 0
  statics : ∀ slot : Slot, state.loaded slot.owner = true → slot ∈ slot.owner.keeps → state.statics slot = true
  rails : RailsFit state.toBoard
  line : LineFits state.toBoard

section

variable {board other : Board}

theorem RailsFit.powered (h : RailsFit board) (hloaded : board.loaded .powerHold = true) :
    RailsOn board ∧ ∀ bank, board.on bank = true := by
  rwa [RailsFit, if_pos hloaded] at h

theorem RailsFit.dark (h : RailsFit board) (hloaded : board.loaded .powerHold = false) : Dark board := by
  rwa [RailsFit, if_neg (ne_true_of_eq_false hloaded)] at h

theorem LineFits.high (h : LineFits board) (hloaded : board.loaded .resetHold = true) :
    Released board ∧ board.active = true := by
  rwa [LineFits, if_pos hloaded] at h

theorem LineFits.low (h : LineFits board) (hloaded : board.loaded .resetHold = false) : ¬Released board := by
  rwa [LineFits, if_neg (ne_true_of_eq_false hloaded)] at h

theorem RailsFit.congr (h : RailsFit board) (hloaded : other.loaded .powerHold = board.loaded .powerHold)
    (hvotes : other.votes = board.votes) (hon : other.on = board.on) : RailsFit other := by
  unfold RailsFit RailsOn Dark at h ⊢
  rw [hloaded, hvotes, hon]
  exact h

theorem LineFits.congr (h : LineFits board) (hloaded : other.loaded .resetHold = board.loaded .resetHold)
    (hregisters : other.registers = board.registers) (hactive : other.active = board.active) :
    LineFits other := by
  unfold LineFits Released at h ⊢
  rw [hloaded, hregisters, hactive]
  exact h

end

theorem Settled.safe {state : State} (h : Settled state) : Safe state.toBoard := by
  intro hreleased
  cases hreset : state.loaded .resetHold with
  | false => exact absurd hreleased (h.line.low hreset)
  | true => exact (h.rails.powered (h.order .resetHold .powerHold (by decide) hreset)).1

theorem settled_boot : Settled boot where
  order _ _ _ hloaded := absurd hloaded Bool.false_ne_true
  refs _ := rfl
  statics _ hloaded := absurd hloaded Bool.false_ne_true
  rails := by
    intro bank
    exact (Option.some_ne_none 1).symm
  line := fun hreleased ↦ absurd hreleased.1 (by decide)

/-- The board with a module loaded or not. -/
def Board.mark (board : Board) (module_ : BoardModule) (value : Bool) : Board :=
  { board with loaded := Function.update board.loaded module_ value }

theorem Board.loaded_mark_self (board : Board) (module_ : BoardModule) (value : Bool) :
    (board.mark module_ value).loaded module_ = value :=
  Function.update_self ..

theorem Board.loaded_mark_of_ne {module_ other : BoardModule} (hne : other ≠ module_)
    (board : Board) (value : Bool) :
    (board.mark module_ value).loaded other = board.loaded other :=
  Function.update_of_ne hne ..

/-- The rails and the line fit once a module counts as loaded, or no longer does. -/
structure Fits (module_ : BoardModule) (value : Bool) (base board : Board) : Prop where
  loaded : board.loaded = base.loaded
  rails : RailsFit (board.mark module_ value)
  line : LineFits (board.mark module_ value)

section

variable {base board : Board} {module_ : BoardModule} {value : Bool}

/-- A module that has to do with neither the rails nor the line. -/
theorem Fits.of_ne (hpower : module_ ≠ .powerHold) (hreset : module_ ≠ .resetHold) (hrails : RailsFit base)
    (hline : LineFits base) (hboard : board = base) : Fits module_ value base board := by
  subst hboard
  exact ⟨rfl, hrails.congr (board.loaded_mark_of_ne hpower.symm value) rfl rfl,
    hline.congr (board.loaded_mark_of_ne hreset.symm value) rfl rfl⟩

theorem BesideRails.line (h : BesideRails base board) (hline : LineFits base) :
    LineFits (board.mark .powerHold value) := by
  refine hline.congr ?_ h.registers h.active
  rw [Board.loaded_mark_of_ne (by decide), h.loaded]

theorem Powered.fits (h : Powered base board) (hline : LineFits base) : Fits .powerHold true base board := by
  refine ⟨h.beside.loaded, ?_, h.beside.line hline⟩
  rw [RailsFit, if_pos (Board.loaded_mark_self ..)]
  exact ⟨h.rails, h.on⟩

theorem Darkened.fits (h : Darkened base board) (hline : LineFits base) : Fits .powerHold false base board :=
  ⟨h.beside.loaded, h.dark, h.beside.line hline⟩

theorem BesideLine.fit (h : BesideLine base board) (hrails : RailsFit base) :
    RailsFit (board.mark .resetHold value) := by
  refine hrails.congr ?_ h.votes h.on
  rw [Board.loaded_mark_of_ne (by decide), h.loaded]

theorem Raised.fits (h : Raised base board) (hrails : RailsFit base) : Fits .resetHold true base board := by
  refine ⟨h.beside.loaded, h.beside.fit hrails, ?_⟩
  rw [LineFits, if_pos (Board.loaded_mark_self ..)]
  exact ⟨h.released, h.active⟩

theorem Lowered.fits (h : Lowered base board) (hrails : RailsFit base) : Fits .resetHold false base board :=
  ⟨h.beside.loaded, h.beside.fit hrails, h.lowered⟩

end

/-- A module that is about to be initialised. -/
structure Inserted (module_ : BoardModule) (state : State) : Prop where
  settled : Settled state
  absent : state.loaded module_ = false
  below : ∀ lower : BoardModule, lower.rank < module_.rank → state.loaded lower = true
  clear : ∀ slot : Slot, slot.owner = module_ → state.statics slot = false
  off : module_ = .powerHold → state.on = fun _ ↦ false

theorem Settled.inserted {state : State} (h : Settled state) {module_ : BoardModule}
    (habsent : state.loaded module_ = false)
    (hbelow : ∀ lower : BoardModule, lower.rank < module_.rank → state.loaded lower = true) :
    Inserted module_ (Call.effect (.insert module_) 0 state) where
  settled := by
    have hne {other : BoardModule} (hloaded : state.loaded other = true) : other ≠ module_ := by
      rintro rfl
      exact Bool.false_ne_true (habsent.symm.trans hloaded)
    refine ⟨h.order, h.refs, fun slot hloaded hkeeps ↦ ?_, ?_, ?_⟩
    · change (if slot.owner = module_ then false else state.statics slot) = true
      rw [if_neg (hne hloaded)]
      exact h.statics slot hloaded hkeeps
    · have hrails := h.rails
      unfold RailsFit at hrails ⊢
      change if state.loaded .powerHold = true then _ else _
      split_ifs at hrails ⊢ with hpower
      · refine ⟨hrails.1, fun bank ↦ ?_⟩
        change (if module_ = .powerHold then fun _ ↦ false else state.on) bank = true
        rw [if_neg (hne hpower).symm]
        exact hrails.2 bank
      · exact hrails
    · have hline := h.line
      unfold LineFits at hline ⊢
      change if state.loaded .resetHold = true then _ else _
      split_ifs at hline ⊢ with hreset
      · refine ⟨hline.1, ?_⟩
        change (if module_ = .resetHold then false else state.active) = true
        rw [if_neg (hne hreset).symm]
        exact hline.2
      · exact hline
  absent := habsent
  below := hbelow
  clear slot howner := if_pos howner
  off heq := if_pos heq

theorem owner_of_mem_keeps {module_ : BoardModule} {slot : Slot} (h : slot ∈ module_.keeps) :
    slot.owner = module_ := by
  revert slot
  cases module_ <;> decide

theorem eq_of_rank {first second : BoardModule} (h : first.rank = second.rank) : first = second := by
  cases first <;> cases second <;> first | rfl | exact absurd h (by decide)

section

variable {module_ : BoardModule} {base state : State}

theorem Settled.clean (h : Settled base) : ∀ state, state = base →
    Clean base module_ (· = base.toBoard) state := by
  rintro state rfl
  exact ⟨fun _ ↦ by simp, fun _ _ ↦ rfl, fun _ hslot ↦ absurd hslot (Finset.notMem_empty _), h.safe, rfl⟩

/-- A module that could not be initialised has given everything back. -/
theorem Inserted.failed (h : Inserted module_ base)
    (hpoint : Clean base module_ (Fits module_ false base.toBoard) state) : Settled state := by
  have hloaded := hpoint.board.loaded
  have hsame : state.toBoard.mark module_ false = state.toBoard := by
    rw [Board.mark, ← h.absent, ← hloaded, Function.update_eq_self]
  refine ⟨?_, fun slot ↦ ?_, fun slot hslot hkeeps ↦ ?_, hsame ▸ hpoint.board.rails, hsame ▸ hpoint.board.line⟩
  · rw [hloaded]
    exact h.settled.order
  · rw [hpoint.refs, hloaded, h.settled.refs]
    simp
  · rw [hloaded] at hslot
    have hne : slot.owner ≠ module_ := by
      rintro rfl
      exact Bool.false_ne_true (h.absent.symm.trans hslot)
    rw [hpoint.others slot hne]
    exact h.settled.statics slot hslot hkeeps

/-- A module that was initialised holds what it keeps. -/
theorem Inserted.live (h : Inserted module_ base)
    (hpoint : Equipped base module_ (Fits module_ true base.toBoard) state) (answer : ℤ) :
    Settled (Call.effect (.live module_) answer state) := by
  have hafter (other : BoardModule) : (Call.effect (.live module_) answer state).loaded other =
      if other = module_ then true else base.loaded other := by
    change Function.update state.loaded module_ true other = _
    rw [Function.update_apply, hpoint.board.loaded]
  refine ⟨?_, fun slot ↦ ?_, fun slot hslot hkeeps ↦ ?_, hpoint.board.rails, hpoint.board.line⟩
  · intro upper lower hrank hupper
    rw [hafter] at hupper ⊢
    split_ifs at hupper ⊢ with hlower heq heq
    · rfl
    · rfl
    · subst heq
      exact h.below lower (lt_of_le_of_ne hrank fun hsame ↦ hlower (eq_of_rank hsame))
    · exact h.settled.order upper lower hrank hupper
  · change state.refs slot = _
    rw [hafter, hpoint.refs, h.settled.refs]
    by_cases heq : slot.owner = module_
    · by_cases hkeeps : slot ∈ module_.keeps
      · simp [heq, h.absent, hkeeps, hpoint.sure slot hkeeps]
      · simp [heq, h.absent, hkeeps]
    · have hkeeps : slot ∉ module_.keeps := fun hkeeps ↦ heq (owner_of_mem_keeps hkeeps)
      simp [heq, hkeeps]
  · change state.statics slot = true
    by_cases heq : slot.owner = module_
    · exact hpoint.sure slot (heq ▸ hkeeps)
    · rw [hpoint.others slot heq]
      rw [hafter, if_neg heq] at hslot
      exact h.settled.statics slot hslot hkeeps

/-- The state without what a module keeps. -/
def State.without (state : State) (module_ : BoardModule) : State :=
  { state with refs := fun slot ↦ if slot ∈ module_.keeps then 0 else state.refs slot }

theorem Settled.equipped (h : Settled base) (hloaded : base.loaded module_ = true) {other : Board → Prop}
    (hother : other base.toBoard) : ∀ state, state = base →
    Equipped (base.without module_) module_ other state := by
  rintro state rfl
  have hset : ∀ slot ∈ module_.keeps, state.statics slot = true := by
    intro slot hslot
    obtain rfl := owner_of_mem_keeps hslot
    exact h.statics slot hloaded hslot
  refine ⟨fun slot ↦ ?_, fun _ _ ↦ rfl, hset, h.safe, hother⟩
  change state.refs slot = (if slot ∈ module_.keeps then 0 else state.refs slot) + _
  by_cases hslot : slot ∈ module_.keeps
  · have howner := owner_of_mem_keeps hslot
    rw [h.refs slot, howner]
    simp [hslot, hset slot hslot, hloaded]
  · simp [hslot]

/-- A module that was removed has given everything back. -/
theorem Settled.gone (h : Settled base)
    (habove : ∀ upper : BoardModule, module_.rank < upper.rank → base.loaded upper = false)
    (hpoint : Clean (base.without module_) module_ (Fits module_ false base.toBoard) state) (answer : ℤ) :
    Settled (Call.effect (.gone module_) answer state) := by
  have hafter (other : BoardModule) : (Call.effect (.gone module_) answer state).loaded other =
      if other = module_ then false else base.loaded other := by
    change Function.update state.loaded module_ false other = _
    rw [Function.update_apply, hpoint.board.loaded]
  refine ⟨?_, fun slot ↦ ?_, fun slot hslot hkeeps ↦ ?_, hpoint.board.rails, hpoint.board.line⟩
  · intro upper lower hrank hupper
    rw [hafter] at hupper ⊢
    split_ifs at hupper ⊢ with hlower hupper'
    · subst hlower
      have hlt : lower.rank < upper.rank := lt_of_le_of_ne hrank fun hsame ↦ hupper' (eq_of_rank hsame).symm
      exact absurd ((habove upper hlt).symm.trans hupper) Bool.false_ne_true
    · exact h.order upper lower hrank hupper
  · change state.refs slot = _
    rw [hafter, hpoint.refs]
    change (if slot ∈ module_.keeps then 0 else base.refs slot) + _ = _
    by_cases hslot : slot ∈ module_.keeps
    · simp [hslot, owner_of_mem_keeps hslot]
    · rw [h.refs slot]
      by_cases heq : slot.owner = module_
      · simp [heq, hslot]
      · simp [heq, hslot]
  · change state.statics slot = true
    rw [hafter] at hslot
    split_ifs at hslot with heq
    rw [hpoint.others slot heq]
    exact h.statics slot hslot hkeeps

end

section

variable {module_ : BoardModule} {base : State}

theorem does_init_of_ne (h : Inserted module_ base) (hpower : module_ ≠ .powerHold)
    (hreset : module_ ≠ .resetHold)
    {before : State → Prop} {script : ServiceScript Unit}
    (hscript : script.Does before (fun _ ↦ Equipped base module_ (· = base.toBoard))
      (Clean base module_ (· = base.toBoard))) :
    script.Does before (fun _ ↦ Equipped base module_ (Fits module_ true base.toBoard)) Settled := by
  have hfits (value : Bool) (board : Board) : board = base.toBoard → Fits module_ value base.toBoard board :=
    Fits.of_ne hpower hreset h.settled.rails h.settled.line
  exact takes_consequence hscript (fun _ h ↦ h) (fun _ _ hafter ↦ hafter.map (hfits true _)) fun _ hfailed ↦
    h.failed (hfailed.map (hfits false _))

theorem does_init_power (h : Inserted .powerHold base) :
    tclAudioPowerHoldInit.Does (· = base)
      (fun _ ↦ Equipped base .powerHold (Fits .powerHold true base.toBoard)) Settled := by
  -- The reset line is not held, since its module comes later.
  have hreset : base.loaded .resetHold = false := by
    refine Bool.eq_false_of_not_eq_true fun hreset ↦ ?_
    exact Bool.false_ne_true (h.absent.symm.trans (h.settled.order .resetHold .powerHold (by decide) hreset))
  have hline := h.settled.line
  exact takes_consequence
    (does_tclAudioPowerHoldInit (hline.low hreset) (h.settled.rails.dark h.absent) (h.off rfl)) h.settled.clean
    (fun _ _ hafter ↦ hafter.map (Powered.fits · hline))
    fun _ hfailed ↦ h.failed (hfailed.map (Darkened.fits · hline))

theorem does_init_reset (h : Inserted .resetHold base) :
    tclCodecResetHoldInit.Does (· = base)
      (fun _ ↦ Equipped base .resetHold (Fits .resetHold true base.toBoard)) Settled := by
  have hrails := h.settled.rails
  have hon : RailsOn base.toBoard := (hrails.powered (h.below .powerHold (by decide))).1
  refine takes_consequence (does_tclCodecResetHoldInit hon) h.settled.clean
    (fun _ _ hafter ↦ hafter.map (Raised.fits · hrails)) fun _ hfailed ↦ h.failed (hfailed.map fun hboard ↦ ?_)
  have hlowered : Lowered base.toBoard base.toBoard := ⟨⟨rfl, rfl, rfl, hon⟩, h.settled.line.low h.absent⟩
  exact hboard ▸ hlowered.fits hrails

theorem does_init (h : Inserted module_ base) :
    module_.init.Does (· = base) (fun _ ↦ Equipped base module_ (Fits module_ true base.toBoard)) Settled := by
  cases module_ with
  | lpiProvider =>
    exact does_init_of_ne h (by decide) (by decide) (takes_before does_tclLpiProviderInit h.settled.clean)
  | powerHold => exact does_init_power h
  | resetHold => exact does_init_reset h
  | wcd =>
    refine does_init_of_ne h (by decide) (by decide) (takes_before does_tclAcpiWcdInit fun state hstate ↦ ?_)
    refine ⟨h.settled.clean state hstate, fun slot hslot _ ↦ ?_⟩
    have howner : slot.owner = .wcd := by
      revert slot
      decide
    exact hstate ▸ h.clear slot howner
  | card => exact does_init_of_ne h (by decide) (by decide) (takes_before does_tclCardInit h.settled.clean)

/-- The first modules up to a rank are loaded. -/
def LoadedBelow (rank : ℕ) (state : State) : Prop :=
  Settled state ∧ ∀ lower : BoardModule, lower.rank < rank → state.loaded lower = true

theorem does_insert {current : State} (hloaded : current.loaded module_ = false) :
    (perform (.insert module_)).Does (fun state ↦ LoadedBelow module_.rank state ∧ state = current)
      (fun _ state ↦ Inserted module_ (Call.effect (.insert module_) 0 current) ∧
        state = Call.effect (.insert module_) 0 current) Settled := by
  have hinserted (h : LoadedBelow module_.rank current) :
    Inserted module_ (Call.effect (.insert module_) 0 current) :=
    h.1.inserted hloaded h.2
  have hrefused (answer : ℤ) (hanswer : answer ≠ 0) : Call.effect (.insert module_) answer current = current :=
    if_neg hanswer
  apply takes_perform
  · rintro answer state ⟨h, rfl⟩
    by_cases hanswer : answer = 0
    · subst hanswer
      exact (hinserted h).settled.safe
    · change Safe (Call.effect (.insert module_) answer state).toBoard
      rw [hrefused answer hanswer]
      exact h.1.safe
  · rintro answer state ⟨h, rfl⟩ hfailed
    obtain rfl : answer = 0 := by simpa [service, Call.verdict, Display.Verdict.failed] using hfailed
    exact ⟨hinserted h, rfl⟩
  · rintro answer state ⟨h, rfl⟩ hfailed
    have hanswer : answer ≠ 0 := by simpa [service, Call.verdict, Display.Verdict.failed] using hfailed
    change Settled (Call.effect (.insert module_) answer state)
    rw [hrefused answer hanswer]
    exact h.1

theorem does_modprobe (module_ : BoardModule) :
    (modprobe module_).Does (LoadedBelow module_.rank) (fun _ ↦ LoadedBelow (module_.rank + 1)) Settled := by
  refine takes_state fun current ↦ ?_
  split_ifs with hloaded
  · refine takes_pure ?_
    rintro state ⟨⟨hsettled, -⟩, rfl⟩
    exact ⟨hsettled, fun lower hlower ↦ hsettled.order module_ lower (Nat.le_of_lt_succ hlower) hloaded⟩
  · refine takes_bind (does_insert (Bool.eq_false_of_not_eq_true hloaded)) fun _ ↦ takes_given fun hinserted ↦ ?_
    refine takes_bind (does_init hinserted) fun _ ↦ ?_
    refine takes_perform (fun answer _ h ↦ (hinserted.live h answer).safe) (fun answer state h _ ↦ ?_) ?_
    · refine ⟨hinserted.live h answer, fun lower hlower ↦ ?_⟩
      exact (hinserted.live h answer).order module_ lower (Nat.le_of_lt_succ hlower) (Function.update_self ..)
    · intro answer state _ hfailed
      exact absurd hfailed Bool.false_ne_true

/-- The modules from a rank on are not loaded. -/
def UnloadedFrom (rank : ℕ) (state : State) : Prop :=
  Settled state ∧ ∀ upper : BoardModule, rank ≤ upper.rank → state.loaded upper = false

theorem does_exit_of_ne (h : Settled base) (hpower : module_ ≠ .powerHold) (hreset : module_ ≠ .resetHold)
    {before failing : State → Prop} {script : ServiceScript Unit}
    (hscript : script.Does before (fun _ ↦ Clean (base.without module_) module_ (· = base.toBoard)) failing) :
    script.Does before (fun _ ↦ Clean (base.without module_) module_ (Fits module_ false base.toBoard)) failing :=
  takes_after hscript fun _ _ hafter ↦ hafter.map (Fits.of_ne hpower hreset h.rails h.line)

theorem does_exit {failing : State → Prop} (h : Settled base) (hloaded : base.loaded module_ = true)
    (habove : ∀ upper : BoardModule, module_.rank + 1 ≤ upper.rank → base.loaded upper = false) :
    module_.exit.Does (· = base)
      (fun _ ↦ Clean (base.without module_) module_ (Fits module_ false base.toBoard)) failing := by
  have hsame : ∀ state, state = base → Equipped (base.without module_) module_ (· = base.toBoard) state :=
    h.equipped hloaded rfl
  cases module_ with
  | lpiProvider => exact does_exit_of_ne h (by decide) (by decide) (takes_before does_tclLpiProviderExit hsame)
  | powerHold =>
    have hlow := h.line.low (habove .resetHold (by decide))
    obtain ⟨hrails, hon⟩ := h.rails.powered hloaded
    have hpowered : Powered base.toBoard base.toBoard := ⟨⟨rfl, rfl, rfl, hlow⟩, hrails, hon⟩
    exact takes_after (takes_before does_tclAudioPowerHoldExit (h.equipped hloaded hpowered)) fun _ _ hafter ↦
      hafter.map (Darkened.fits · h.line)
  | resetHold =>
    have hrails := (h.rails.powered (h.order .resetHold .powerHold (by decide) hloaded)).1
    obtain ⟨hreleased, hactive⟩ := h.line.high hloaded
    have hraised : Raised base.toBoard base.toBoard := ⟨⟨rfl, rfl, rfl, hrails⟩, hreleased, hactive⟩
    exact takes_after (takes_before does_tclCodecResetHoldExit (h.equipped hloaded hraised)) fun _ _ hafter ↦
      hafter.map (Lowered.fits · h.rails)
  | wcd => exact does_exit_of_ne h (by decide) (by decide) (takes_before does_tclAcpiWcdExit hsame)
  | card => exact does_exit_of_ne h (by decide) (by decide) (takes_before does_tclCardExit hsame)

theorem does_modprobeRemove (module_ : BoardModule) :
    (modprobeRemove module_).Does (UnloadedFrom (module_.rank + 1))
      (fun _ ↦ UnloadedFrom module_.rank) Settled := by
  unfold modprobeRemove
  refine takes_bind (does_quiet (fun _ _ ↦ rfl) (fun _ h ↦ h.1.safe) fun _ h ↦ h.1) fun _ ↦
    takes_state fun current ↦ ?_
  split_ifs with hmodule
  · have hgiven : ∀ state, (UnloadedFrom (module_.rank + 1) state ∧ state = current) →
        UnloadedFrom (module_.rank + 1) current ∧ state = current := by
      rintro state ⟨h, rfl⟩
      exact ⟨h, rfl⟩
    refine takes_before (takes_given fun hbefore ↦ ?_) hgiven
    refine takes_bind (does_exit hbefore.1 hmodule hbefore.2) fun _ ↦ ?_
    refine takes_perform (fun answer _ h ↦ (hbefore.1.gone hbefore.2 h answer).safe)
      (fun answer state h _ ↦ ?_) ?_
    · refine ⟨hbefore.1.gone hbefore.2 h answer, fun upper hupper ↦ ?_⟩
      change Function.update state.loaded module_ false upper = false
      rw [Function.update_apply, h.board.loaded]
      split_ifs with heq
      · rfl
      · exact hbefore.2 upper (Nat.lt_of_le_of_ne hupper fun hsame ↦ heq (eq_of_rank hsame).symm)
    · intro answer state _ hfailed
      exact absurd hfailed Bool.false_ne_true
  · refine takes_pure ?_
    rintro state ⟨⟨hsettled, habove⟩, rfl⟩
    refine ⟨hsettled, fun upper hupper ↦ Bool.eq_false_of_not_eq_true fun hloaded ↦ hmodule ?_⟩
    exact hsettled.order upper module_ hupper hloaded

end

/-! ## The runs of the service -/

section

variable {fact : State → Prop} (hfact : ∀ state, fact state → Settled state)
include hfact

theorem does_run (command : Command) : (run command).Does fact (fun _ ↦ fact) Settled :=
  does_quiet (fun _ _ ↦ rfl) (fun state h ↦ (hfact state h).safe) hfact

theorem does_sees (sight : Sight) : (sees sight).Does fact (fun _ ↦ fact) Settled :=
  takes_succeeds (fun _ state h ↦ (hfact state h).safe) fun _ _ h ↦ h

theorem does_require (sight : Sight) : (require sight).Does fact (fun _ ↦ fact) Settled := by
  refine takes_bind (does_sees hfact sight) fun seen ↦ ?_
  split_ifs
  · exact takes_pure fun _ h ↦ h
  · exact takes_abort hfact

theorem does_waitFor (sight : Sight) (attempts : ℕ) :
    (waitFor sight attempts).Does fact (fun _ ↦ fact) Settled := by
  induction attempts with
  | zero => exact takes_pure fun _ h ↦ h
  | succ attempts ih =>
    refine takes_bind (does_sees hfact sight) fun seen ↦ ?_
    split_ifs
    · exact takes_pure fun _ h ↦ h
    · exact takes_bind (does_run hfact _) fun _ ↦ ih

theorem does_providersBound (providers : List (Fin 4)) :
    (providersBound providers).Does fact (fun _ ↦ fact) Settled := by
  induction providers with
  | nil => exact takes_pure fun _ h ↦ h
  | cons provider providers ih =>
    refine takes_bind (does_sees hfact _) fun seen ↦ ?_
    split_ifs
    · exact ih
    · exact takes_pure fun _ h ↦ h

theorem does_waitForProviders (attempts : ℕ) :
    (waitForProviders attempts).Does fact (fun _ ↦ fact) Settled := by
  induction attempts with
  | zero => exact takes_pure fun _ h ↦ h
  | succ attempts ih =>
    refine takes_bind (does_providersBound hfact _) fun bound ↦ ?_
    split_ifs
    · exact takes_pure fun _ h ↦ h
    · exact takes_bind (does_run hfact _) fun _ ↦ ih

theorem does_audioPrepare : audioPrepare.Does fact (fun _ ↦ fact) Settled := by
  refine takes_bind (does_waitForProviders hfact 120) fun ready ↦ ?_
  split_ifs
  · refine takes_inOrder fun script hscript ↦ ?_
    obtain ⟨index, -, rfl⟩ := List.mem_map.1 hscript
    exact does_run hfact _
  · exact takes_abort hfact

theorem does_runUnless (sight : Sight) (command : Command) :
    (runUnless sight command).Does fact (fun _ ↦ fact) Settled := by
  refine takes_bind (does_sees hfact sight) fun seen ↦ ?_
  split_ifs
  · exact takes_pure fun _ h ↦ h
  · exact does_run hfact command

theorem does_bindDevice (device : Fin 5) : (bindDevice device).Does fact (fun _ ↦ fact) Settled :=
  takes_bind (does_require hfact _) fun _ ↦ takes_bind (does_runUnless hfact _ _) fun _ ↦ does_require hfact _

theorem does_attachCodec : attachCodec.Does fact (fun _ ↦ fact) Settled := by
  refine takes_bind (does_sees hfact _) fun seen ↦ ?_
  split_ifs
  · exact takes_pure fun _ h ↦ h
  · refine takes_bind (does_require hfact _) fun _ ↦ takes_bind (does_run hfact _) fun _ ↦ ?_
    refine takes_bind (does_run hfact _) fun _ ↦ takes_bind (does_run hfact _) fun _ ↦ ?_
    refine takes_bind (does_run hfact _) fun _ ↦ takes_bind (does_run hfact _) fun _ ↦ ?_
    exact takes_bind (does_run hfact _) fun _ ↦ does_waitFor hfact _ _

theorem does_letSuspend (master : Master) : (letSuspend master).Does fact (fun _ ↦ fact) Settled := by
  refine takes_bind (does_sees hfact _) fun writable ↦ ?_
  split_ifs
  · exact does_run hfact _
  · exact takes_pure fun _ h ↦ h

end

/-- A start that succeeds leaves all modules loaded. -/
theorem does_audioStart : audioStart.Does Settled (fun _ ↦ LoadedBelow 5) Settled := by
  have hsettled : ∀ state, Settled state → Settled state := fun _ h ↦ h
  have hbelow (rank : ℕ) : ∀ state, LoadedBelow rank state → Settled state := fun _ h ↦ h.1
  have hlpi : (modprobe .lpiProvider).Does Settled (fun _ ↦ LoadedBelow 1) Settled :=
    takes_consequence (does_modprobe .lpiProvider)
      (fun _ h ↦ ⟨h, fun _ hlower ↦ absurd hlower (Nat.not_lt_zero _)⟩)
      (fun _ _ h ↦ h) fun _ h ↦ h
  unfold audioStart
  refine takes_bind (does_require hsettled _) fun _ ↦ takes_bind (does_run hsettled _) fun _ ↦ ?_
  refine takes_bind (does_runUnless hsettled _ _) fun _ ↦ takes_bind (does_waitFor hsettled _ _) fun _ ↦ ?_
  refine takes_bind (does_require hsettled _) fun _ ↦ takes_bind (does_run hsettled _) fun _ ↦ ?_
  refine takes_bind hlpi fun _ ↦ takes_bind (does_waitFor (hbelow 1) _ _) fun _ ↦ ?_
  refine takes_bind (does_require (hbelow 1) _) fun _ ↦
    takes_bind (takes_inOrder fun script hscript ↦ ?_) fun _ ↦ ?_
  · obtain ⟨device, -, rfl⟩ := List.mem_map.1 hscript
    exact does_bindDevice (hbelow 1) device
  refine takes_bind (does_modprobe .powerHold) fun _ ↦ takes_bind (does_modprobe .resetHold) fun _ ↦ ?_
  refine takes_bind (does_attachCodec (hbelow 3)) fun _ ↦ takes_bind (does_require (hbelow 3) _) fun _ ↦ ?_
  refine takes_bind (does_modprobe .wcd) fun _ ↦ takes_bind (does_modprobe .card) fun _ ↦ ?_
  refine takes_bind (does_require (hbelow 5) _) fun _ ↦ takes_bind (does_run (hbelow 5) _) fun _ ↦ ?_
  refine takes_inOrder fun script hscript ↦ ?_
  obtain ⟨control, -, rfl⟩ := List.mem_map.1 hscript
  exact does_run (hbelow 5) _

/-- A stop that succeeds leaves no module loaded but the one for the pins. -/
theorem does_audioStop : audioStop.Does Settled (fun _ ↦ UnloadedFrom 1) Settled := by
  have hsettled : ∀ state, Settled state → Settled state := fun _ h ↦ h
  have hfrom : ∀ state, UnloadedFrom 3 state → Settled state := fun _ h ↦ h.1
  have hcard : (modprobeRemove .card).Does Settled (fun _ ↦ UnloadedFrom 4) Settled := by
    refine takes_before (does_modprobeRemove .card) (fun _ h ↦ ⟨h, fun upper hupper ↦ ?_⟩)
    exact absurd hupper (by cases upper <;> decide)
  refine takes_bind (does_sees hsettled _) fun running ↦ ?_
  split_ifs
  · exact takes_abort hsettled
  · refine takes_bind hcard fun _ ↦ takes_bind (does_modprobeRemove .wcd) fun _ ↦ ?_
    refine takes_bind (does_letSuspend hfrom .rx) fun _ ↦ takes_bind (does_letSuspend hfrom .tx) fun _ ↦ ?_
    exact takes_bind (does_modprobeRemove .resetHold) fun _ ↦ does_modprobeRemove .powerHold

theorem does_operation (operation : Operation) :
    operation.script.Does Settled (fun _ ↦ Settled) Settled := by
  cases operation with
  | prepare => exact does_audioPrepare fun _ h ↦ h
  | start => exact takes_after does_audioStart fun _ _ h ↦ h.1
  | stop => exact takes_after does_audioStop fun _ _ h ↦ h.1

theorem does_serve (operations : List Operation) :
    (serve operations).Does Settled (fun _ ↦ Settled) Settled := by
  induction operations with
  | nil => exact takes_pure fun _ h ↦ h
  | cons operation operations ih => exact takes_attempt (does_operation operation) (fun _ ↦ ih) fun _ ↦ ih

/-- What has happened in the service. -/
def history (operations : List Operation) (oracle : ℕ → Call → ℤ) : List (Call × ℤ) :=
  (serve operations oracle []).2

theorem meets_history (operations : List Operation) (oracle : ℕ → Call → ℤ) :
    service.Meets (fun state ↦ Safe state.toBoard) Settled (history operations oracle) := by
  have hboot : service.Meets (fun state ↦ Safe state.toBoard) Settled [] := by
    refine ⟨fun earlier hearlier ↦ ?_, settled_boot⟩
    rw [List.suffix_nil.1 hearlier]
    exact settled_boot.safe
  exact Triple.at_end (does_serve operations) oracle hboot

/-- At every moment of every history, also in the middle of an init or exit function, the codec is out of
reset only while both rails are on. -/
theorem safe_throughout (operations : List Operation) (oracle : ℕ → Call → ℤ) {earlier : List (Call × ℤ)}
    (hearlier : earlier <:+ history operations oracle) (hreleased : Released (service.replay earlier).toBoard) :
    RailsOn (service.replay earlier).toBoard :=
  (meets_history operations oracle).throughout earlier hearlier hreleased

/-- Answers under which everything is there and every call succeeds. -/
def willing (_ : ℕ) : Call → ℤ
  | .acquire slot => if slot.verdict.failed 1 then 0 else 1
  | .check _ => 1
  | .sight sight => if sight = .pcmRunning then 0 else 1
  | .readl offset => if offset = 4 then 0 else 1
  | _ => 0

theorem safe_throughout_started :
    Released (service.replay (history [.start] willing)).toBoard ∧
      RailsOn (service.replay (history [.start] willing)).toBoard := by
  have hreleased : Released (service.replay (history [.start] willing)).toBoard := by decide +kernel
  exact ⟨hreleased, safe_throughout [.start] willing (List.suffix_refl _) hreleased⟩

/-- After every history the modules hold what they keep and nothing else is held. -/
theorem settled_after (operations : List Operation) (oracle : ℕ → Call → ℤ) :
    Settled (service.replay (history operations oracle)) :=
  (meets_history operations oracle).fact

/-- What a script that has succeeded leaves: a start has all modules loaded, the rails on and the codec out
of reset; a stop has the codec in reset, no rail known to be on, and nothing held but for the pins. -/
def Operation.Leaves (operation : Operation) (state : State) : Prop :=
  match operation with
  | .prepare => True
  | .start => (∀ module_, state.loaded module_ = true) ∧ RailsOn state.toBoard ∧ Released state.toBoard
  | .stop =>
    Dark state.toBoard ∧ ¬Released state.toBoard ∧ ∀ slot : Slot, slot.owner ≠ .lpiProvider → state.refs slot = 0

theorem leaves_of_success (operations : List Operation) (operation : Operation) (oracle : ℕ → Call → ℤ)
    (hok : (operation.script oracle (history operations oracle)).1 = .ok ()) :
    operation.Leaves (service.replay (operation.script oracle (history operations oracle)).2) := by
  have hbefore := meets_history operations oracle
  cases operation with
  | prepare => trivial
  | start =>
    have hafter := does_audioStart oracle _ hbefore
    change (audioStart oracle (history operations oracle)).1 = .ok () at hok
    rw [hok] at hafter
    obtain ⟨-, hsettled, hloaded⟩ := hafter
    have hall (module_ : BoardModule) :
        (service.replay (audioStart oracle (history operations oracle)).2).loaded module_ = true := by
      apply hloaded
      cases module_ <;> decide
    exact ⟨hall, (hsettled.rails.powered (hall _)).1, (hsettled.line.high (hall _)).1⟩
  | stop =>
    have hafter := does_audioStop oracle _ hbefore
    change (audioStop oracle (history operations oracle)).1 = .ok () at hok
    rw [hok] at hafter
    obtain ⟨-, hsettled, hloaded⟩ := hafter
    refine ⟨hsettled.rails.dark (hloaded _ (by decide)), hsettled.line.low (hloaded _ (by decide)),
      fun slot hslot ↦ ?_⟩
    have hrank : 1 ≤ slot.owner.rank := by
      revert hslot
      cases slot.owner <;> decide
    refine (hsettled.refs slot).trans (if_neg fun h ↦ ?_)
    exact Bool.false_ne_true ((hloaded _ hrank).symm.trans h.1)

theorem leaves_of_success_restarted :
    Operation.stop.Leaves (service.replay (audioStop willing (history [.start] willing)).2) ∧
      Operation.start.Leaves
        (service.replay (audioStart willing (history [.start, .stop] willing)).2) :=
  ⟨leaves_of_success [.start] .stop willing (by decide +kernel),
    leaves_of_success [.start, .stop] .start willing (by decide +kernel)⟩

end TclB220G.Audio.Service
