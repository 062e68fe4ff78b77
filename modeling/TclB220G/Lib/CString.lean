import Mathlib.Data.List.Basic
import Mathlib.Data.List.TakeWhile

/-!
# Strings that end with a NUL

A string is stored as its octets and a NUL.  Reading it goes up to the first NUL, so what stands behind
it in memory does not matter.
-/

namespace TclB220G.Lib

@[ext]
structure CString where
  octets : List UInt8
  nul_free : 0 ∉ octets
  deriving DecidableEq

/-- Some octets of a block of memory are overwritten. -/
def memcpy (memory : List UInt8) (offset : ℕ) (source : List UInt8) (size : ℕ) : List UInt8 :=
  memory.take offset ++ source.take size ++ memory.drop (offset + size)

namespace CString

def strlen (string : CString) : ℕ := string.octets.length

/-- The octets that a string takes up in memory. -/
def stored (string : CString) : List UInt8 := string.octets ++ [0]

theorem length_stored (string : CString) : string.stored.length = string.strlen + 1 :=
  List.length_append

/-- The string that starts at an offset.  The end of the block stands for a NUL. -/
def readAt (memory : List UInt8) (offset : ℕ) : CString where
  octets := (memory.drop offset).takeWhile fun octet ↦ octet ≠ 0
  nul_free hzero := by simpa using List.mem_takeWhile_imp hzero

/-- A stored string is read back from where it stands. -/
theorem readAt_stored (before : List UInt8) (string : CString) (after : List UInt8) :
    readAt (before ++ string.stored ++ after) before.length = string := by
  ext1
  have hall : ∀ octet ∈ string.octets, decide (octet ≠ 0) = true := fun octet hmem ↦
    decide_eq_true fun hzero ↦ string.nul_free (hzero ▸ hmem)
  calc
    ((before ++ string.stored ++ after).drop before.length).takeWhile (fun octet ↦ octet ≠ 0) =
        (string.octets ++ 0 :: after).takeWhile fun octet ↦ octet ≠ 0 := by
      rw [List.append_assoc, List.drop_left, stored, List.append_assoc, List.singleton_append]
    _ = string.octets := by
      rw [List.takeWhile_append_of_pos hall, List.takeWhile_cons_of_neg (by simp), List.append_nil]

/-- Two strings copied one after the other into a zeroed block that just holds them. -/
theorem memcpy_memcpy_replicate (first second : CString) :
    memcpy (memcpy (List.replicate (first.strlen + 1 + (second.strlen + 1)) 0) 0 first.stored
        (first.strlen + 1)) (first.strlen + 1) second.stored (second.strlen + 1) =
      first.stored ++ second.stored := by
  have hfirst : memcpy (List.replicate (first.strlen + 1 + (second.strlen + 1)) 0) 0 first.stored
      (first.strlen + 1) = first.stored ++ List.replicate (second.strlen + 1) 0 := by
    rw [memcpy, List.take_zero, List.nil_append, ← length_stored, List.take_length, Nat.zero_add,
      List.drop_replicate, Nat.add_sub_cancel_left]
  rw [hfirst, memcpy, ← length_stored, ← length_stored, List.take_left, List.take_length,
    List.drop_eq_nil_of_le (by simp), List.append_nil]

end CString

end TclB220G.Lib
