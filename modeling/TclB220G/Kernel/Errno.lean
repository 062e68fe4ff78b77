import Mathlib.Data.Int.Order.Basic
import Mathlib.Data.Nat.Notation

/-!
# Error numbers

Kernel functions return zero or a negated error number.  An `Errno` is positive by construction,
so that an oracle for a missing callee can fail with any error but never with a value that reads
as success.
-/

namespace TclB220G.Kernel

structure Errno where
  code : ℕ
  positive : 0 < code
  deriving DecidableEq, Repr

namespace Errno

/-- The value that a function returns for this error. -/
def ret (errno : Errno) : ℤ := -(errno.code : ℤ)

theorem ret_neg (errno : Errno) : errno.ret < 0 := by
  have hpositive := errno.positive
  rw [ret]
  omega

theorem ret_ne_zero (errno : Errno) : errno.ret ≠ 0 := ne_of_lt errno.ret_neg

/-- The error that a negative result stands for. -/
def ofRet (value : ℤ) (hneg : value < 0) : Errno := ⟨value.natAbs, by omega⟩

def ENOENT : Errno := ⟨2, by decide⟩
def ENXIO : Errno := ⟨6, by decide⟩
def E2BIG : Errno := ⟨7, by decide⟩
def ENOMEM : Errno := ⟨12, by decide⟩
def EBUSY : Errno := ⟨16, by decide⟩
def EEXIST : Errno := ⟨17, by decide⟩
def ENODEV : Errno := ⟨19, by decide⟩
def EINVAL : Errno := ⟨22, by decide⟩
def ENOSPC : Errno := ⟨28, by decide⟩
def ENODATA : Errno := ⟨61, by decide⟩
def EPROTO : Errno := ⟨71, by decide⟩
def EOVERFLOW : Errno := ⟨75, by decide⟩
def EOPNOTSUPP : Errno := ⟨95, by decide⟩
def ETIMEDOUT : Errno := ⟨110, by decide⟩
def EPROBE_DEFER : Errno := ⟨517, by decide⟩

end Errno

end TclB220G.Kernel
