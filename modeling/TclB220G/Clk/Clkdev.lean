import Mathlib.Algebra.Group.Nat.Defs
import TclB220G.Kernel.Errno
import TclB220G.Lib.BestMatch
import TclB220G.Lib.CString

/-!
# Aliases of clocks

`clkdev` keeps aliases of clocks in a list.  An alias has a device and a connection name, either of
which may be missing and then fits every query.  A lookup takes the first alias that fits best, where
the device counts for two and the connection for one.

`qcom_tcl_clkdev_lookup` puts an alias with both names at the end of the list, in one block of memory
with copies of the names, and takes it away again if the lookup does not give the clock.  So it never
touches the answer to another query, and it does not hide an alias that is already there.
-/

namespace TclB220G.Clk

open Kernel Kernel.Errno Lib

/-- An alias, `struct clk_lookup`.  The names are given by where they start in a block of memory. -/
structure Lookup (Hw : Type) where
  address : ℕ
  names : List UInt8
  devId : Option ℕ
  conId : Option ℕ
  clkHw : Option Hw

/-- The list of aliases, and how many consumers have got a clock and not put it. -/
structure Clkdev (Hw : Type) where
  clocks : List (Lookup Hw)
  consumers : ℕ

/-- What the rest of the kernel decides: the address of a new block of memory, if there is one, and the
error if a consumer of a clock cannot be made. -/
structure Surroundings (Hw : Type) where
  kzalloc : List ℕ → ℕ → Option ℕ
  createClk : Hw → Option Errno
  fresh : ∀ used size address, kzalloc used size = some address → address ∉ used
  bounded : ∀ used size address, kzalloc used size = some address → size < 2 ^ 64 - 1

section

variable {Hw : Type}

def Lookup.dev (entry : Lookup Hw) : Option CString := entry.devId.map (CString.readAt entry.names)

def Lookup.con (entry : Lookup Hw) : Option CString := entry.conId.map (CString.readAt entry.names)

/-- A name that is missing fits every query. -/
def fits (name wanted : Option CString) : Bool := name = none ∨ name = wanted

def worth (name : Option CString) (value : ℕ) : ℕ := if name.isSome then value else 0

/-- How well an alias fits a query, zero if it does not fit. -/
def Lookup.score (dev con : Option CString) (entry : Lookup Hw) : ℕ :=
  if fits entry.dev dev && fits entry.con con then worth entry.dev 2 + worth entry.con 1 else 0

def bestPossible (dev con : Option CString) : ℕ := worth dev 2 + worth con 1

namespace Clkdev

variable (state : Clkdev Hw)

def clkFind (dev con : Option CString) : Option (Lookup Hw) :=
  BestMatch.search (Lookup.score dev con) (bestPossible dev con) state.clocks

def clkFindHw (dev con : Option CString) : Except Errno (Option Hw) :=
  match state.clkFind dev con with
  | some entry => .ok entry.clkHw
  | none => .error ENOENT

def clkdevAdd (entry : Lookup Hw) : Clkdev Hw := { state with clocks := state.clocks ++ [entry] }

/-- Unlinks the alias at an address and frees it. -/
def clkdevDrop (address : ℕ) : Clkdev Hw :=
  { state with clocks := state.clocks.eraseP fun entry ↦ entry.address = address }

/-- The clock that a new consumer gets, or NULL for an alias without a clock. -/
def clkGetSys (surroundings : Surroundings Hw) (dev con : Option CString) :
    Except Errno (Option Hw) × Clkdev Hw :=
  match state.clkFindHw dev con with
  | .error errno => (.error errno, state)
  | .ok none => (.ok none, state)
  | .ok (some hw) =>
    match surroundings.createClk hw with
    | some errno => (.error errno, state)
    | none => (.ok (some hw), { state with consumers := state.consumers + 1 })

def clkPut (clk : Option Hw) : Clkdev Hw :=
  match clk with
  | none => state
  | some _ => { state with consumers := state.consumers - 1 }

end Clkdev

/-- Addition of sizes, which stays at the greatest one instead of wrapping around. -/
def sizeAdd (first second : ℕ) : ℕ := min (first + second) (2 ^ 64 - 1)

def sizeofLookup : ℕ := 48

/-- The alias that is made for two names. -/
def newLookup (address : ℕ) (hw : Hw) (con dev : CString) : Lookup Hw :=
  let conSize := sizeAdd con.strlen 1
  let devSize := sizeAdd dev.strlen 1
  let names := List.replicate (conSize + devSize) 0
  let names := memcpy names 0 con.stored conSize
  let names := memcpy names conSize dev.stored devSize
  ⟨address, names, some conSize, some 0, some hw⟩

/-- `qcom_tcl_clkdev_lookup`.  The clock may be NULL or an error pointer, and the names may be NULL.
The result is the address of the alias. -/
def qcomTclClkdevLookup [DecidableEq Hw] (surroundings : Surroundings Hw)
    (hw : Except Errno (Option Hw)) (conId devId : Option CString) (state : Clkdev Hw) :
    Except Errno ℕ × Clkdev Hw :=
  match hw, conId, devId with
  | .ok (some hw), some con, some dev =>
    let conSize := sizeAdd con.strlen 1
    let devSize := sizeAdd dev.strlen 1
    match surroundings.kzalloc (state.clocks.map Lookup.address)
        (sizeAdd sizeofLookup (sizeAdd conSize devSize)) with
    | none => (.error ENOMEM, state)
    | some address =>
      let added := state.clkdevAdd (newLookup address hw con dev)
      match added.clkGetSys surroundings (some dev) (some con) with
      | (.error errno, after) => (.error errno, after.clkdevDrop address)
      | (.ok check, after) =>
        if check ≠ some hw then (.error EEXIST, (after.clkPut check).clkdevDrop address)
        else (.ok address, after.clkPut check)
  | _, _, _ => (.error EINVAL, state)

/-! ## Queries -/

theorem worth_le_of_fits {name wanted : Option CString} (hfits : fits name wanted = true) (value : ℕ) :
    worth name value ≤ worth wanted value := by
  rcases of_decide_eq_true hfits with rfl | rfl
  · exact Nat.zero_le _
  · exact Nat.le_refl _

theorem score_le_bestPossible (dev con : Option CString) (entry : Lookup Hw) :
    entry.score dev con ≤ bestPossible dev con := by
  unfold Lookup.score
  split_ifs with hfits
  · have hboth := Bool.and_eq_true_iff.1 hfits
    exact Nat.add_le_add (worth_le_of_fits hboth.1 2) (worth_le_of_fits hboth.2 1)
  · exact Nat.zero_le _

variable (state : Clkdev Hw)

/-- A lookup gives the first alias that fits best. -/
theorem clkFind_eq_best (dev con : Option CString) :
    state.clkFind dev con = BestMatch.best (Lookup.score dev con) state.clocks :=
  BestMatch.search_eq_best (score_le_bestPossible dev con) state.clocks

theorem clkFind_clkdevAdd (entry : Lookup Hw) (dev con : Option CString) :
    (state.clkdevAdd entry).clkFind dev con =
      BestMatch.better (Lookup.score dev con) (state.clkFind dev con) entry := by
  rw [clkFind_eq_best, clkFind_eq_best, Clkdev.clkdevAdd, BestMatch.best_concat]

/-- An alias with these two names. -/
def Lookup.Exact (dev con : CString) (entry : Lookup Hw) : Prop :=
  entry.dev = some dev ∧ entry.con = some con

variable {dev con : CString} {entry : Lookup Hw}

/-- An alias with both names fits just one query. -/
theorem score_of_exact (hexact : entry.Exact dev con) (query : Option CString × Option CString) :
    entry.score query.1 query.2 = if query = (some dev, some con) then 3 else 0 := by
  obtain ⟨first, second⟩ := query
  rw [Lookup.score, hexact.1, hexact.2]
  simp only [fits, worth, Prod.mk.injEq]
  split_ifs <;> simp_all

/-- An alias with both names changes the answer to its own query at most. -/
theorem clkFind_add_of_ne (hexact : entry.Exact dev con) (state : Clkdev Hw)
    {query : Option CString × Option CString} (hquery : query ≠ (some dev, some con)) :
    (state.clkdevAdd entry).clkFind query.1 query.2 = state.clkFind query.1 query.2 := by
  rw [clkFind_clkdevAdd, BestMatch.better, score_of_exact hexact, if_neg hquery,
    if_neg (Nat.not_lt_zero _)]

/-- An alias at the end does not hide one with the same names. -/
theorem clkFind_add_of_exact {entry earlier : Lookup Hw} (hmem : earlier ∈ state.clocks)
    (hearlier : earlier.Exact dev con) :
    (state.clkdevAdd entry).clkFind (some dev) (some con) = state.clkFind (some dev) (some con) := by
  have hbest : 3 ≤ (state.clkFind (some dev) (some con)).elim 0 (Lookup.score (some dev) (some con)) := by
    have hscore := score_of_exact hearlier (some dev, some con)
    rw [if_pos rfl] at hscore
    rw [clkFind_eq_best, ← hscore]
    exact BestMatch.score_le_best hmem
  have hnew : entry.score (some dev) (some con) ≤ 3 := score_le_bestPossible _ _ entry
  rw [clkFind_clkdevAdd, BestMatch.better, if_neg (Nat.not_lt.2 (hnew.trans hbest))]

/-! ## The alias -/

/-- The names are copied whole if there is memory for them. -/
theorem newLookup_exact (address : ℕ) (hw : Hw) {con dev : CString}
    (hsize : sizeAdd sizeofLookup (sizeAdd (sizeAdd con.strlen 1) (sizeAdd dev.strlen 1)) <
      2 ^ 64 - 1) : (newLookup address hw con dev).Exact dev con := by
  have hsizes : sizeAdd con.strlen 1 = con.strlen + 1 ∧ sizeAdd dev.strlen 1 = dev.strlen + 1 := by
    simp only [sizeAdd] at hsize ⊢
    omega
  have hnames : (newLookup address hw con dev).names = con.stored ++ dev.stored := by
    simp only [newLookup, hsizes]
    exact CString.memcpy_memcpy_replicate con dev
  have hcon := CString.readAt_stored [] con dev.stored
  have hdev := CString.readAt_stored con.stored dev []
  rw [List.append_nil, CString.length_stored, ← hsizes.1] at hdev
  exact ⟨congrArg some (hnames ▸ hdev), congrArg some (hnames ▸ hcon)⟩

theorem clkdevDrop_clkdevAdd (hfresh : entry.address ∉ state.clocks.map Lookup.address) :
    (state.clkdevAdd entry).clkdevDrop entry.address = state := by
  have hother : ∀ other ∈ state.clocks, ¬other.address = entry.address := fun other hmem heq ↦
    hfresh (List.mem_map.2 ⟨other, hmem, heq⟩)
  have herase : (state.clocks ++ [entry]).eraseP (fun other ↦ other.address = entry.address) =
      state.clocks := by
    rw [List.eraseP_append_right _ (by simpa using hother), List.eraseP_cons_of_pos (by simp),
      List.append_nil]
  exact congrArg (fun clocks ↦ { state with clocks }) herase

/-- A consumer that is made has the clock of the alias, and putting it leaves nothing behind. -/
theorem clkPut_of_clkGetSys {state after : Clkdev Hw} {surroundings : Surroundings Hw}
    {dev con : Option CString} {check : Option Hw}
    (hget : state.clkGetSys surroundings dev con = (.ok check, after)) :
    state.clkFindHw dev con = .ok check ∧ after.clkPut check = state := by
  revert hget
  unfold Clkdev.clkGetSys
  split
  · simp
  · next hfind =>
    rintro ⟨⟩
    exact ⟨hfind, rfl⟩
  · next hfind =>
    split
    · simp
    · rintro ⟨⟩
      exact ⟨hfind, rfl⟩

theorem eq_of_clkGetSys_error {state after : Clkdev Hw} {surroundings : Surroundings Hw}
    {dev con : Option CString} {errno : Errno}
    (hget : state.clkGetSys surroundings dev con = (.error errno, after)) : after = state := by
  revert hget
  unfold Clkdev.clkGetSys
  split
  · rintro ⟨⟩
    rfl
  · simp
  · split
    · rintro ⟨⟩
      rfl
    · simp

/-- The alias was added, and its query gives its clock. -/
structure Added (hw : Except Errno (Option Hw)) (conId devId : Option CString) (state : Clkdev Hw)
    (entry : Lookup Hw) : Prop where
  fresh : entry.address ∉ state.clocks.map Lookup.address
  exact : ∃ con dev, conId = some con ∧ devId = some dev ∧ entry.Exact dev con
  found : hw = (state.clkdevAdd entry).clkFindHw devId conId
  clock : ∃ clock, hw = .ok (some clock)

variable (surroundings : Surroundings Hw)

/-- `qcom_tcl_clkdev_lookup` either leaves everything as it is or adds one alias. -/
theorem qcomTclClkdevLookup_cases [DecidableEq Hw] (hw : Except Errno (Option Hw))
    (conId devId : Option CString) (state : Clkdev Hw) :
    (∃ errno, qcomTclClkdevLookup surroundings hw conId devId state = (.error errno, state)) ∨
      ∃ entry, Added hw conId devId state entry ∧
        qcomTclClkdevLookup surroundings hw conId devId state =
          (.ok entry.address, state.clkdevAdd entry) := by
  unfold qcomTclClkdevLookup
  split
  · next clock con dev =>
    dsimp only
    split
    · exact .inl ⟨_, rfl⟩
    · next address halloc =>
      have hfresh := surroundings.fresh _ _ _ halloc
      have hexact := newLookup_exact address clock (surroundings.bounded _ _ _ halloc)
      have hdrop : (state.clkdevAdd (newLookup address clock con dev)).clkdevDrop address = state :=
        clkdevDrop_clkdevAdd state hfresh
      split
      · next hget =>
        rw [eq_of_clkGetSys_error hget, hdrop]
        exact .inl ⟨_, rfl⟩
      · next hget =>
        have hput := clkPut_of_clkGetSys hget
        rw [hput.2]
        split_ifs with hcheck
        · rw [hdrop]
          exact .inl ⟨_, rfl⟩
        · refine .inr ⟨newLookup address clock con dev, ⟨hfresh, ⟨con, dev, rfl, rfl, hexact⟩, ?_,
            ⟨clock, rfl⟩⟩, rfl⟩
          rw [hput.1, not_not.1 hcheck]
  · exact .inl ⟨_, rfl⟩

/-- On success the query gives the clock and dropping the alias gives the old list back; a failure
changes nothing.  Either way all other queries have the same answer as before, and so has the query
itself if there was an alias with both names already. -/
theorem qcomTclClkdevLookup_frame [DecidableEq Hw] (surroundings : Surroundings Hw)
    (hw : Except Errno (Option Hw)) (conId devId : Option CString) (state : Clkdev Hw) :
    let outcome := qcomTclClkdevLookup surroundings hw conId devId state
    (∀ address, outcome.1 = .ok address →
        (∃ clock, hw = .ok (some clock) ∧ outcome.2.clkFindHw devId conId = .ok (some clock)) ∧
          outcome.2.clkdevDrop address = state) ∧
      (∀ errno, outcome.1 = .error errno → outcome.2 = state) ∧
      (∀ query : Option CString × Option CString, query ≠ (devId, conId) →
        outcome.2.clkFind query.1 query.2 = state.clkFind query.1 query.2) ∧
      ∀ dev con, devId = some dev → conId = some con →
        (∃ earlier ∈ state.clocks, earlier.Exact dev con) →
          outcome.2.clkFind devId conId = state.clkFind devId conId := by
  intro outcome
  rcases qcomTclClkdevLookup_cases surroundings hw conId devId state with
    ⟨errno, heq⟩ | ⟨entry, hadded, heq⟩
  · have houtcome : outcome = (.error errno, state) := heq
    rw [houtcome]
    exact ⟨fun _ h ↦ (nomatch h), fun _ _ ↦ rfl, fun _ _ ↦ rfl, fun _ _ _ _ _ ↦ rfl⟩
  · have houtcome : outcome = (.ok entry.address, state.clkdevAdd entry) := heq
    obtain ⟨con, dev, rfl, rfl, hexact⟩ := hadded.exact
    rw [houtcome]
    refine ⟨?_, fun _ h ↦ (nomatch h), fun _ hquery ↦ clkFind_add_of_ne hexact state hquery, ?_⟩
    · rintro address ⟨⟩
      obtain ⟨clock, hclock⟩ := hadded.clock
      exact ⟨⟨clock, hclock, hadded.found.symm.trans hclock⟩, clkdevDrop_clkdevAdd state hadded.fresh⟩
    · rintro _ _ ⟨⟩ ⟨⟩ ⟨earlier, hmem, hearlier⟩
      exact clkFind_add_of_exact state hmem hearlier

/-- There is one block of memory, at the address 1. -/
def oneBlock : Surroundings ℕ where
  kzalloc used size := if size < 2 ^ 64 - 1 ∧ 1 ∉ used then some 1 else none
  createClk _ := none
  fresh used size address halloc := by
    split_ifs at halloc with hfree
    cases halloc
    exact hfree.2
  bounded used size address halloc := by
    split_ifs at halloc with hfree
    exact hfree.1

/-- An alias that fits every query for the device `d`. -/
def deviceAlias : Lookup ℕ := ⟨2, [100, 0], some 0, none, some 5⟩

example : (qcomTclClkdevLookup oneBlock (.ok (some 7)) (some ⟨[99], by decide⟩) (some ⟨[100], by decide⟩)
    ⟨[deviceAlias], 0⟩).1 = .ok 1 := by
  decide

example : (qcomTclClkdevLookup oneBlock (.ok (some 7)) (some ⟨[99], by decide⟩) (some ⟨[100], by decide⟩)
    ⟨[deviceAlias, newLookup 3 5 ⟨[99], by decide⟩ ⟨[100], by decide⟩], 0⟩).1 = .error EEXIST := by
  decide

/-! ## Aliases of a device -/

/-- The aliases, and the actions for the end of a device: the aliases to be dropped, the newest
first. -/
structure Managed (Hw : Type) where
  clkdev : Clkdev Hw
  actions : List ℕ

/-- One call of `qcom_tcl_devm_clkdev`, with the error if no action can be added. -/
structure DevmCall (Hw : Type) where
  hw : Except Errno (Option Hw)
  conId : Option CString
  devId : Option CString
  addAction : Option Errno

/-- The end of the device. -/
def Managed.release (state : Managed Hw) : Clkdev Hw :=
  state.actions.foldl Clkdev.clkdevDrop state.clkdev

section

variable [DecidableEq Hw] (state : Managed Hw)

def qcomTclDevmClkdev (call : DevmCall Hw) : Option Errno × Managed Hw :=
  match qcomTclClkdevLookup surroundings call.hw call.conId call.devId state.clkdev with
  | (.error errno, clkdev) => (some errno, { state with clkdev })
  | (.ok address, clkdev) =>
    match call.addAction with
    | some errno => (some errno, { state with clkdev := clkdev.clkdevDrop address })
    | none => (none, ⟨clkdev, address :: state.actions⟩)

theorem release_qcomTclDevmClkdev (call : DevmCall Hw) :
    (qcomTclDevmClkdev surroundings state call).2.release = state.release := by
  unfold qcomTclDevmClkdev
  rcases qcomTclClkdevLookup_cases surroundings call.hw call.conId call.devId state.clkdev with
    ⟨errno, heq⟩ | ⟨entry, hadded, heq⟩
  · rw [heq]
  · have hdrop := clkdevDrop_clkdevAdd state.clkdev hadded.fresh
    rw [heq]
    dsimp only
    split
    · rw [hdrop]
    · rw [Managed.release, List.foldl_cons, hdrop, Managed.release]

/-- The end of a device takes away just what its calls have added, whichever of them failed. -/
theorem release_foldl_qcomTclDevmClkdev (calls : List (DevmCall Hw)) :
    (calls.foldl (fun state call ↦ (qcomTclDevmClkdev surroundings state call).2) state).release =
      state.release := by
  induction calls generalizing state with
  | nil => rfl
  | cons call calls ih => rw [List.foldl_cons, ih, release_qcomTclDevmClkdev]

end

end

end TclB220G.Clk
