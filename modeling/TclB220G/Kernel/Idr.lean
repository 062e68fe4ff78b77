import Mathlib.Algebra.Group.Nat.Defs
import Mathlib.Logic.Function.Basic
import TclB220G.Kernel.Errno

/-!
# Tables from identifiers to pointers

An IDR maps identifiers to pointers.  The callers here always ask for one identifier, with the range from
`id` to `id + 1`.  Identifiers are unsigned there and `int` in the IDR: from `2 ^ 31` on the start of the
range is negative and refused.
-/

namespace TclB220G.Kernel

open Errno

abbrev Idr (Value : Type) := ℕ → Option Value

namespace Idr

variable {Value : Type}

def find (table : Idr Value) (id : ℕ) : Option Value := table id

/-- The call `idr_alloc(table, value, id, id + 1, gfp)`, with the outcome of its own allocation. -/
def allocAt (table : Idr Value) (id : ℕ) (value : Value) (allocates : Bool) : Except Errno (Idr Value) :=
  if 2 ^ 31 ≤ id then .error EINVAL
  else if (table id).isSome then .error ENOSPC
  else if allocates then .ok (Function.update table id (some value))
  else .error ENOMEM

def remove (table : Idr Value) (id : ℕ) : Idr Value := Function.update table id none

variable {table after : Idr Value} {allocates : Bool}

/-- A successful allocation found the identifier free. -/
theorem allocAt_eq_ok {id : ℕ} {value : Value} (h : table.allocAt id value allocates = .ok after) :
    table id = none ∧ after = Function.update table id (some value) := by
  unfold allocAt at h
  split_ifs at h with hrange hused hallocates
  cases h
  exact ⟨Option.not_isSome_iff_eq_none.1 hused, rfl⟩

theorem allocAt_self {id : ℕ} {value : Value} (h : table.allocAt id value allocates = .ok after) :
    after id = some value := by
  rw [(allocAt_eq_ok h).2, Function.update_self]

/-- An allocation does not touch what is in the table. -/
theorem allocAt_of_some {id other : ℕ} {value owner : Value}
    (h : table.allocAt id value allocates = .ok after) (howner : table other = some owner) :
    after other = some owner := by
  obtain ⟨hfree, rfl⟩ := allocAt_eq_ok h
  rw [Function.update_of_ne, howner]
  rintro rfl
  rw [hfree] at howner
  cases howner

/-- Removing an identifier right after its allocation gives the table back. -/
theorem remove_allocAt {id : ℕ} {value : Value} (h : table.allocAt id value allocates = .ok after) :
    after.remove id = table := by
  obtain ⟨hfree, rfl⟩ := allocAt_eq_ok h
  rw [remove, Function.update_idem, ← hfree, Function.update_eq_self]

end Idr

end TclB220G.Kernel
