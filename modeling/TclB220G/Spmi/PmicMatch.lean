import Mathlib.Data.Int.Notation
import TclB220G.Kernel.Errno
import TclB220G.Lib.BestMatch

/-!
# Matching a PMIC by its software node

A software node lists compatible strings, the most specific one first.  `pmic_spmi_match` goes through
the match table once and keeps the entry whose string stands earliest in the list.
-/

namespace TclB220G.Spmi

open Kernel Lib

/-- An entry of a match table.  The address tells it apart from every other entry, so two entries are
equal if they are the same one. -/
structure OfDeviceId where
  address : ℕ
  compatible : String
  data : ℕ
  deriving DecidableEq, Repr

/-- `INT_MAX` -/
def intMax : ℤ := 0x7fffffff

/-- What is used of a software node.  The number of strings in a property is an `int`. -/
structure SoftwareNode where
  compatible : List String
  childNodes : ℕ
  length_le : (compatible.length : ℤ) ≤ intMax

/-- The firmware node of a device, where a device-tree node comes with the answer of
`of_match_device` for it. -/
inductive Fwnode where
  | none
  | of (answer : Option OfDeviceId)
  | acpi
  | software (node : SoftwareNode)

/-- `device_property_match_string` on the compatible strings of a software node. -/
def SoftwareNode.matchString (node : SoftwareNode) (string : String) : ℤ :=
  if string ∈ node.compatible then node.compatible.idxOf string else Errno.ENODATA.ret

/-- The entries before the one with the empty string, which ends the table. -/
def listed (table : List OfDeviceId) : List OfDeviceId := table.takeWhile (·.compatible ≠ "")

/-- The loop over the table, with the best entry and its index so far. -/
def matchLoop (node : SoftwareNode) (best : Option OfDeviceId) (bestIndex : ℤ) :
    List OfDeviceId → Option OfDeviceId
  | [] => best
  | id :: rest =>
    if id.compatible = "" then best
    else if 0 ≤ node.matchString id.compatible ∧ node.matchString id.compatible < bestIndex then
      matchLoop node (some id) (node.matchString id.compatible) rest
    else matchLoop node best bestIndex rest

def pmicSpmiMatch (table : List OfDeviceId) : Fwnode → Option OfDeviceId
  | .of answer => answer
  | .software node => matchLoop node none intMax table
  | .none | .acpi => none

section

variable (node : SoftwareNode)

/-- The rank of an entry among the compatible strings. -/
def SoftwareNode.rank : OfDeviceId → ℕ := BestMatch.rank node.compatible OfDeviceId.compatible

variable {node}

theorem rank_eq (id : OfDeviceId) :
    node.rank id = node.compatible.length - node.compatible.idxOf id.compatible := rfl

/-- The index of an entry that the node lists, by its rank. -/
theorem matchString_eq (id : OfDeviceId) :
    node.matchString id.compatible =
      if 0 < node.rank id then (node.compatible.length : ℤ) - node.rank id else Errno.ENODATA.ret := by
  rw [SoftwareNode.matchString, rank_eq]
  by_cases hmem : id.compatible ∈ node.compatible
  · have hlt := List.idxOf_lt_length_of_mem hmem
    rw [if_pos hmem, if_pos (by omega)]
    omega
  · rw [if_neg hmem, List.idxOf_eq_length hmem, if_neg (by omega)]

/-- The index that goes with the best entry so far. -/
def bestIndex (node : SoftwareNode) (best : Option OfDeviceId) : ℤ :=
  best.elim intMax fun id ↦ node.matchString id.compatible

theorem rank_le (id : OfDeviceId) : node.rank id ≤ node.compatible.length := BestMatch.rank_le id

/-- The test of the loop compares ranks. -/
theorem better_iff {best : Option OfDeviceId} (hbest : ∀ id ∈ best, 0 < node.rank id)
    (id : OfDeviceId) :
    (0 ≤ node.matchString id.compatible ∧ node.matchString id.compatible < bestIndex node best) ↔
      best.elim 0 node.rank < node.rank id := by
  have hlength := node.length_le
  have hneg := Errno.ENODATA.ret_neg
  have hid : node.rank id ≤ node.compatible.length := rank_le id
  rw [matchString_eq]
  cases best with
  | none =>
    simp only [bestIndex, Option.elim_none]
    split_ifs with hlisted <;> omega
  | some found =>
    have hfound : 0 < node.rank found := hbest found rfl
    simp only [bestIndex, Option.elim_some, matchString_eq, if_pos hfound]
    split_ifs with hlisted <;> omega

theorem matchLoop_eq_foldl {best : Option OfDeviceId} (hbest : ∀ id ∈ best, 0 < node.rank id)
    (table : List OfDeviceId) :
    matchLoop node best (bestIndex node best) table =
      (listed table).foldl (BestMatch.better node.rank) best := by
  induction table generalizing best with
  | nil => rfl
  | cons id rest ih =>
    rw [matchLoop, listed, List.takeWhile_cons]
    by_cases hend : id.compatible = ""
    · simp [hend]
    · simp only [hend, if_false, better_iff hbest, ne_eq, not_false_eq_true, decide_true, if_true,
        List.foldl_cons, BestMatch.better]
      split_ifs with hbetter
      · have hid : ∀ other ∈ some id, 0 < node.rank other := by
          rintro other ⟨⟩
          exact Nat.zero_lt_of_lt hbetter
        exact ih hid
      · exact ih hbest

end

/-- The match of a software node is the first entry of the earliest of its strings that is in the table. -/
theorem pmicSpmiMatch_software (table : List OfDeviceId) (node : SoftwareNode) :
    pmicSpmiMatch table (.software node) =
      node.compatible.findSome? fun string ↦ (listed table).find? (·.compatible = string) := by
  have hnone : ∀ id ∈ (none : Option OfDeviceId), 0 < node.rank id := by simp
  calc pmicSpmiMatch table (.software node)
      = (listed table).foldl (BestMatch.better node.rank) none := matchLoop_eq_foldl hnone table
    _ = BestMatch.best node.rank (listed table) := (BestMatch.best_eq_foldl _).symm
    _ = _ := BestMatch.best_rank node.compatible (listed table)

end TclB220G.Spmi
