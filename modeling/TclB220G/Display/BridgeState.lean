import TclB220G.Kernel.Errno
import TclB220G.Lib.Lifetime

/-!
# The state that the firmware left in the bridge

The registers of the bridge are in banks, and one register selects the bank.  `tcl_check_state` compares
registers with the values that the working system had, and must change nothing: it may only select
banks, and it selects the first one again at its end.  Any transfer may fail, and the driver cannot tell
whether the bridge has carried out a write that failed.
-/

namespace TclB220G.Display

open Kernel Kernel.Errno Lib

/-- The registers of the bridge by bank, and the bank that is selected. -/
structure Bridge where
  selected : BitVec 8
  contents : BitVec 8 → BitVec 8 → BitVec 8

/-- The register that selects the bank. -/
def bankSelect : BitVec 8 := 0xff

def Bridge.write (bridge : Bridge) (reg value : BitVec 8) : Bridge :=
  if reg = bankSelect then { bridge with selected := value }
  else
    let bank := Function.update (bridge.contents bridge.selected) reg value
    { bridge with contents := Function.update bridge.contents bridge.selected bank }

def Bridge.read (bridge : Bridge) (reg : BitVec 8) : BitVec 8 := bridge.contents bridge.selected reg

/-- The failure of a transfer, and whether the bridge has carried the transfer out. -/
structure Fault where
  errno : Errno
  carriedOut : Bool

/-- A value that is expected in a register. -/
structure StateEntry where
  bank : BitVec 8
  reg : BitVec 8
  value : BitVec 8
  deriving DecidableEq, Repr

/-- What the driver does.  A read is kept with the bank that was really selected then, which the driver
does not see. -/
inductive BridgeEvent where
  | write (reg value : BitVec 8) (answer : Except Errno Unit)
  | read (bank reg : BitVec 8) (answer : Except Errno (BitVec 8))
  | compare (entry : StateEntry) (value : BitVec 8)

/-- The bridge and what was done so far, the latest first. -/
structure BridgeBus where
  bridge : Bridge
  log : List BridgeEvent

section

-- The transfers that fail, by the length of the log when they are tried.
variable (schedule : ℕ → Option Fault)

def i2cSmbusWriteByteData (bus : BridgeBus) (reg value : BitVec 8) : Except Errno Unit × BridgeBus :=
  match schedule bus.log.length with
  | none => (.ok (), ⟨bus.bridge.write reg value, .write reg value (.ok ()) :: bus.log⟩)
  | some fault =>
    let bridge := if fault.carriedOut then bus.bridge.write reg value else bus.bridge
    (.error fault.errno, ⟨bridge, .write reg value (.error fault.errno) :: bus.log⟩)

def i2cSmbusReadByteData (bus : BridgeBus) (reg : BitVec 8) : Except Errno (BitVec 8) × BridgeBus :=
  let answer := match schedule bus.log.length with
    | none => .ok (bus.bridge.read reg)
    | some fault => .error fault.errno
  (answer, ⟨bus.bridge, .read bus.bridge.selected reg answer :: bus.log⟩)

/-- Selects the bank of an entry unless it is the one that was selected last. -/
def selectBank (bus : BridgeBus) (bank : Option (BitVec 8)) (entry : StateEntry) :
    Except Errno Unit × BridgeBus :=
  if bank ≠ some entry.bank then i2cSmbusWriteByteData schedule bus bankSelect entry.bank
  else (.ok (), bus)

/-- The loop of `tcl_check_state`, from any entry on.  There is no bank before the first entry. -/
def checkEntries : Option (BitVec 8) → List StateEntry → BridgeBus → ℤ × BridgeBus
  | _, [], bus => (0, bus)
  | bank, entry :: entries, bus =>
    match selectBank schedule bus bank entry with
    | (.error errno, bus) => (errno.ret, bus)
    | (.ok _, bus) =>
      match i2cSmbusReadByteData schedule bus entry.reg with
      | (.error errno, bus) => (errno.ret, bus)
      | (.ok value, bus) =>
        let bus : BridgeBus := ⟨bus.bridge, .compare entry value :: bus.log⟩
        if value ≠ entry.value then (ENODEV.ret, bus)
        else checkEntries (some entry.bank) entries bus

end

/-- The table `expected` of `tcl_check_state`. -/
def expected : List StateEntry := [
  ⟨0x81, 0x00, 0x17⟩, ⟨0x81, 0x01, 0x05⟩, ⟨0x81, 0x02, 0xe0⟩,
  ⟨0xd0, 0x0d, 0x04⟩, ⟨0xd0, 0x0e, 0x76⟩,
  ⟨0xd0, 0x0f, 0x04⟩, ⟨0xd0, 0x10, 0x38⟩,
  ⟨0xd0, 0x11, 0x08⟩, ⟨0xd0, 0x12, 0x20⟩,
  ⟨0xd0, 0x13, 0x07⟩, ⟨0xd0, 0x14, 0x80⟩,
  ⟨0xd0, 0x15, 0x05⟩, ⟨0xd0, 0x16, 0x2a⟩,
  ⟨0xd0, 0x17, 0x00⟩, ⟨0xd0, 0x18, 0x03⟩,
  ⟨0xd0, 0x19, 0x00⟩, ⟨0xd0, 0x1a, 0x3a⟩,
  ⟨0xa8, 0x05, 0x08⟩, ⟨0xa8, 0x06, 0x20⟩,
  ⟨0xa8, 0x07, 0x00⟩, ⟨0xa8, 0x08, 0x66⟩,
  ⟨0xa8, 0x09, 0x00⟩, ⟨0xa8, 0x0a, 0x2a⟩,
  ⟨0xa8, 0x0b, 0x07⟩, ⟨0xa8, 0x0c, 0x80⟩,
  ⟨0xa8, 0x0d, 0x04⟩, ⟨0xa8, 0x0e, 0x76⟩,
  ⟨0xa8, 0x11, 0x00⟩, ⟨0xa8, 0x12, 0x3b⟩,
  ⟨0xa8, 0x14, 0x05⟩, ⟨0xa8, 0x15, 0x04⟩,
  ⟨0xa8, 0x16, 0x38⟩, ⟨0xa8, 0x2d, 0x88⟩]

/-- The value that a transfer without a result returns. -/
def transferRet : Except Errno Unit → ℤ
  | .ok _ => 0
  | .error errno => errno.ret

/-- The value returned by `tcl_check_state` and what it has done to a bridge. -/
def tclCheckState (schedule : ℕ → Option Fault) (bridge : Bridge) : ℤ × BridgeBus :=
  let (ret, bus) := checkEntries schedule none expected ⟨bridge, []⟩
  let (restore, bus) := i2cSmbusWriteByteData schedule bus bankSelect 0x81
  (if ret < 0 then ret else transferRet restore, bus)

/-! ## What an event asks of the events before it -/

/-- Only the bank is ever written.  A value is compared right after it was read from the register and
bank of its entry, and it is what the bridge has there. -/
def BridgeEvent.Sound (contents : BitVec 8 → BitVec 8 → BitVec 8) :
    BridgeEvent → List BridgeEvent → Prop
  | .write reg _ _, _ => reg = bankSelect
  | .read .., _ => True
  | .compare entry value, earlier =>
    (∃ before, earlier = .read entry.bank entry.reg (.ok value) :: before) ∧
      value = contents entry.bank entry.reg

def BridgeEvent.comparison : BridgeEvent → Option (StateEntry × BitVec 8)
  | .compare entry value => some (entry, value)
  | _ => none

/-- The comparisons of a log, the first one first. -/
def comparisons (log : List BridgeEvent) : List (StateEntry × BitVec 8) :=
  (log.filterMap BridgeEvent.comparison).reverse

@[simp] theorem comparisons_write (reg value : BitVec 8) (answer : Except Errno Unit)
    (log : List BridgeEvent) : comparisons (.write reg value answer :: log) = comparisons log := rfl

@[simp] theorem comparisons_read (bank reg : BitVec 8) (answer : Except Errno (BitVec 8))
    (log : List BridgeEvent) : comparisons (.read bank reg answer :: log) = comparisons log := rfl

@[simp] theorem comparisons_compare (entry : StateEntry) (value : BitVec 8) (log : List BridgeEvent) :
    comparisons (.compare entry value :: log) = comparisons log ++ [(entry, value)] :=
  List.reverse_cons

/-- The comparisons in which every entry finds its value. -/
def allMatch (entries : List StateEntry) : List (StateEntry × BitVec 8) :=
  entries.map fun entry ↦ (entry, entry.value)

/-- The bridge has the given contents and nothing but its bank was written. -/
structure Untouched (contents : BitVec 8 → BitVec 8 → BitVec 8) (bus : BridgeBus) : Prop where
  contents_eq : bus.bridge.contents = contents
  sound : Along (BridgeEvent.Sound contents) bus.log

section

variable {contents : BitVec 8 → BitVec 8 → BitVec 8} {bus : BridgeBus} (schedule : ℕ → Option Fault)

@[simp] theorem contents_write_bankSelect (bridge : Bridge) (value : BitVec 8) :
    (bridge.write bankSelect value).contents = bridge.contents := by
  rw [Bridge.write, if_pos rfl]

@[simp] theorem selected_write_bankSelect (bridge : Bridge) (value : BitVec 8) :
    (bridge.write bankSelect value).selected = value := by
  rw [Bridge.write, if_pos rfl]

/-- Selecting a bank touches nothing else, and the bank is selected if this succeeds. -/
theorem write_bankSelect_spec (huntouched : Untouched contents bus) (bank : BitVec 8) :
    ∃ answer bridge,
      i2cSmbusWriteByteData schedule bus bankSelect bank =
        (answer, ⟨bridge, .write bankSelect bank answer :: bus.log⟩) ∧
      Untouched contents ⟨bridge, .write bankSelect bank answer :: bus.log⟩ ∧
      (answer.isOk → bridge.selected = bank) := by
  unfold i2cSmbusWriteByteData
  cases schedule bus.log.length with
  | none =>
    refine ⟨_, _, rfl, ⟨?_, rfl, huntouched.sound⟩, fun _ ↦ selected_write_bankSelect ..⟩
    rw [contents_write_bankSelect, huntouched.contents_eq]
  | some fault =>
    refine ⟨_, _, rfl, ⟨?_, rfl, huntouched.sound⟩, fun hok ↦ Bool.noConfusion hok⟩
    cases fault.carriedOut with
    | true =>
      rw [if_pos rfl, contents_write_bankSelect, huntouched.contents_eq]
    | false => exact huntouched.contents_eq

theorem selectBank_spec (huntouched : Untouched contents bus) {bank : Option (BitVec 8)}
    (hbank : ∀ selected ∈ bank, bus.bridge.selected = selected) (entry : StateEntry) :
    ∃ answer after, selectBank schedule bus bank entry = (answer, after) ∧ Untouched contents after ∧
      comparisons after.log = comparisons bus.log ∧
      (answer.isOk → after.bridge.selected = entry.bank) := by
  unfold selectBank
  split
  · obtain ⟨answer, bridge, hwrite, hafter, hselected⟩ :=
      write_bankSelect_spec schedule huntouched entry.bank
    exact ⟨answer, _, hwrite, hafter, rfl, hselected⟩
  · next hsame =>
    exact ⟨_, bus, rfl, huntouched, rfl, fun _ ↦ hbank _ (not_not.1 hsame)⟩

theorem readByteData_spec (bus : BridgeBus) (reg : BitVec 8) :
    ∃ answer, i2cSmbusReadByteData schedule bus reg =
        (answer, ⟨bus.bridge, .read bus.bridge.selected reg answer :: bus.log⟩) ∧
      ∀ value, answer = .ok value → value = bus.bridge.read reg := by
  refine ⟨_, rfl, ?_⟩
  cases schedule bus.log.length with
  | none => exact fun value heq ↦ (Except.ok.inj heq).symm
  | some fault => exact fun value heq ↦ nomatch heq

/-- A comparison of what was read in the bank of an entry. -/
theorem Untouched.compare (huntouched : Untouched contents bus) {entry : StateEntry} {value : BitVec 8}
    (hselected : bus.bridge.selected = entry.bank) (hvalue : value = bus.bridge.read entry.reg) :
    Untouched contents ⟨bus.bridge,
      .compare entry value :: .read bus.bridge.selected entry.reg (.ok value) :: bus.log⟩ := by
  refine ⟨huntouched.contents_eq, ⟨⟨bus.log, by rw [hselected]⟩, ?_⟩, trivial, huntouched.sound⟩
  rw [hvalue, Bridge.read, huntouched.contents_eq, hselected]

/-- What the loop does from any entry on, if the bridge has selected the bank that the driver keeps. -/
theorem checkEntries_spec (bank : Option (BitVec 8)) (entries : List StateEntry)
    (huntouched : Untouched contents bus) (hbank : ∀ selected ∈ bank, bus.bridge.selected = selected) :
    Untouched contents (checkEntries schedule bank entries bus).2 ∧
      (checkEntries schedule bank entries bus).1 ≤ 0 ∧
      ∃ compared,
        comparisons (checkEntries schedule bank entries bus).2.log = comparisons bus.log ++ compared ∧
        ((checkEntries schedule bank entries bus).1 = 0 ↔ compared = allMatch entries) := by
  induction entries generalizing bank bus with
  | nil => exact ⟨huntouched, le_rfl, [], (List.append_nil _).symm, iff_of_true rfl rfl⟩
  | cons entry entries ih =>
    obtain ⟨answer, ready, hselect, hready, hkept, hselected⟩ :=
      selectBank_spec schedule huntouched hbank entry
    rw [checkEntries, hselect]
    cases answer with
    | error errno =>
      refine ⟨hready, le_of_lt errno.ret_neg, [], by rw [hkept, List.append_nil], ?_⟩
      exact iff_of_false errno.ret_ne_zero (List.cons_ne_nil _ _).symm
    | ok _ =>
      obtain ⟨answer, hread, hvalue⟩ := readByteData_spec schedule ready entry.reg
      simp only [hread]
      cases answer with
      | error errno =>
        refine ⟨⟨hready.contents_eq, trivial, hready.sound⟩, le_of_lt errno.ret_neg, [], ?_, ?_⟩
        · rw [comparisons_read, hkept, List.append_nil]
        · exact iff_of_false errno.ret_ne_zero (List.cons_ne_nil _ _).symm
      | ok value =>
        have hafter := hready.compare (hselected rfl) (hvalue value rfl)
        dsimp only
        split_ifs with hdiffers
        · refine ⟨hafter, le_of_lt ENODEV.ret_neg, [(entry, value)], ?_, ?_⟩
          · rw [comparisons_compare, comparisons_read, hkept]
          · refine iff_of_false ENODEV.ret_ne_zero fun heq ↦ hdiffers ?_
            exact (Prod.ext_iff.1 (List.cons.inj heq).1).2
        · obtain ⟨hlater, hret, compared, hcompared, hzero⟩ :=
            ih (some entry.bank) hafter fun _ hmem ↦ (hselected rfl).trans (Option.some.inj hmem)
          refine ⟨hlater, hret, (entry, entry.value) :: compared, ?_, ?_⟩
          · rw [hcompared, comparisons_compare, comparisons_read, hkept, not_not.1 hdiffers,
              List.append_assoc, List.singleton_append]
          · rw [hzero, allMatch, allMatch, List.map_cons, List.cons.injEq, eq_self, true_and]

theorem ret_ite_eq_zero {ret : ℤ} (hret : ret ≤ 0) (answer : Except Errno Unit) :
    (if ret < 0 then ret else transferRet answer) = 0 ↔ ret = 0 ∧ answer = .ok () := by
  rcases lt_or_eq_of_le hret with hneg | rfl
  · rw [if_pos hneg]
    exact iff_of_false (ne_of_lt hneg) fun h ↦ ne_of_lt hneg h.1
  · cases answer with
    | ok _ => exact iff_of_true rfl ⟨rfl, rfl⟩
    | error errno => exact iff_of_false errno.ret_ne_zero fun h ↦ nomatch h.2

end

end TclB220G.Display
