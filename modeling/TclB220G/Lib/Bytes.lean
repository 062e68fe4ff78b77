import Mathlib.Data.List.Basic
import Mathlib.Tactic.Ring

/-!
# Byte strings, slices and little-endian words

Byte strings are lists of octets.  A memory is a total function from addresses to octets, so that
one definition of the little-endian word serves both a byte string (read with zeros past its end)
and a mapped firmware table whose surroundings are arbitrary.
-/

namespace TclB220G.Lib

abbrev Bytes := List UInt8

/-- Octets by address; nothing is said about how many of them belong to one object. -/
abbrev Memory := ℕ → UInt8

variable (bytes : Bytes)

namespace Bytes

/-- The memory that holds a byte string at address zero. -/
def toMemory (bytes : Bytes) : Memory := fun index ↦ bytes.getD index 0

/-- Half-open slice, clamped at the end of the byte string. -/
def slice (bytes : Bytes) (start stop : ℕ) : Bytes := (bytes.take stop).drop start

theorem length_slice {start stop : ℕ} (hstop : stop ≤ bytes.length) :
    (slice bytes start stop).length = stop - start := by
  simp [slice, Nat.min_eq_left hstop]

/-- A slice reads the octets at shifted positions. -/
theorem getElem?_slice (start stop index : ℕ) :
    (slice bytes start stop)[index]? =
      if start + index < stop then bytes[start + index]? else none := by
  simp [slice, List.getElem?_drop, List.getElem?_take]

theorem toMemory_slice {start stop index : ℕ} (h : start + index < stop) :
    toMemory (slice bytes start stop) index = toMemory bytes (start + index) := by
  simp only [toMemory, List.getD_eq_getElem?_getD, getElem?_slice, if_pos h]

/-- Two byte strings with the same octets in a range have the same slice there. -/
theorem slice_congr {first second : Bytes} {start stop : ℕ}
    (h : ∀ index, start ≤ index → index < stop → first[index]? = second[index]?) :
    slice first start stop = slice second start stop := by
  apply List.ext_getElem?
  intro index
  rw [getElem?_slice, getElem?_slice]
  split
  · rename_i hlt
    exact h _ (Nat.le_add_right _ _) hlt
  · rfl

end Bytes

namespace Memory

/-- Little-endian word of `width` octets. -/
def littleEndian (memory : Memory) : ℕ → ℕ → ℕ
  | 0, _ => 0
  | width + 1, offset => (memory offset).toNat + 256 * littleEndian memory width (offset + 1)

/-- Words depend on the octets they cover and on nothing else. -/
theorem littleEndian_congr {first second : Memory} {width start other : ℕ}
    (h : ∀ index < width, first (start + index) = second (other + index)) :
    littleEndian first width start = littleEndian second width other := by
  induction width generalizing start other with
  | zero => rfl
  | succ width ih =>
    have hhead : first start = second other := by simpa using h 0 (Nat.succ_pos width)
    have htail : littleEndian first width (start + 1) = littleEndian second width (other + 1) := by
      apply ih
      intro index hindex
      have hnext := h (index + 1) (by omega)
      rwa [show start + (index + 1) = start + 1 + index by omega,
        show other + (index + 1) = other + 1 + index by omega] at hnext
    rw [littleEndian, littleEndian, hhead, htail]

theorem littleEndian_lt (memory : Memory) (width offset : ℕ) :
    littleEndian memory width offset < 256 ^ width := by
  induction width generalizing offset with
  | zero => exact Nat.one_pos
  | succ width ih =>
    have hoctet := (memory offset).toNat_lt
    have hrest := ih (offset + 1)
    rw [littleEndian, pow_succ]
    omega

end Memory

namespace Bytes

/-- Little-endian word inside a byte string. -/
def littleEndian (bytes : Bytes) (width offset : ℕ) : ℕ :=
  Memory.littleEndian (toMemory bytes) width offset

theorem littleEndian_congr {first second : Bytes} {width offset : ℕ}
    (h : ∀ index, offset ≤ index → index < offset + width → first[index]? = second[index]?) :
    littleEndian first width offset = littleEndian second width offset := by
  apply Memory.littleEndian_congr
  intro index hindex
  simp only [toMemory, List.getD_eq_getElem?_getD]
  rw [h (offset + index) (by omega) (by omega)]

theorem littleEndian_slice {start stop width offset : ℕ} (h : start + offset + width ≤ stop) :
    littleEndian (slice bytes start stop) width offset =
      littleEndian bytes width (start + offset) := by
  apply Memory.littleEndian_congr
  intro index hindex
  rw [toMemory_slice bytes (by omega), Nat.add_assoc]

theorem littleEndian_drop (width start offset : ℕ) :
    littleEndian (bytes.drop start) width offset = littleEndian bytes width (start + offset) := by
  apply Memory.littleEndian_congr
  intro index _
  simp only [toMemory, List.getD_eq_getElem?_getD, List.getElem?_drop, Nat.add_assoc]

theorem littleEndian_cons (octet : UInt8) (rest : Bytes) (width : ℕ) :
    littleEndian (octet :: rest) (width + 1) 0 = octet.toNat + 256 * littleEndian rest width 0 := by
  have htail : littleEndian (octet :: rest) width 1 = littleEndian rest width 0 :=
    (littleEndian_drop (octet :: rest) width 1 0).symm
  rw [← htail]
  rfl

/-- Little-endian octets of a word. -/
def ofWord : ℕ → ℕ → Bytes
  | 0, _ => []
  | width + 1, value => UInt8.ofNat (value % 256) :: ofWord width (value / 256)

@[simp] theorem length_ofWord (width value : ℕ) : (ofWord width value).length = width := by
  induction width generalizing value with
  | zero => rfl
  | succ width ih => rw [ofWord, List.length_cons, ih]

/-- A word that fits its width reads back, whatever follows it. -/
theorem littleEndian_ofWord_append {width value : ℕ} (h : value < 256 ^ width) (rest : Bytes) :
    littleEndian (ofWord width value ++ rest) width 0 = value := by
  induction width generalizing value with
  | zero =>
    have hzero : value = 0 := by simpa using h
    rw [hzero]
    rfl
  | succ width ih =>
    have hhigh : value / 256 < 256 ^ width := by
      rw [Nat.div_lt_iff_lt_mul (by decide)]
      rwa [pow_succ] at h
    rw [ofWord, List.cons_append, littleEndian_cons, ih hhigh,
      UInt8.toNat_ofNat_of_lt' (Nat.mod_lt value (by decide))]
    exact Nat.mod_add_div value 256

/-- The octets that a word was read from are the octets of that word. -/
theorem ofWord_littleEndian {width : ℕ} (h : width ≤ bytes.length) :
    ofWord width (littleEndian bytes width 0) = bytes.take width := by
  induction width generalizing bytes with
  | zero => rfl
  | succ width ih =>
    cases bytes with
    | nil => exact absurd h (Nat.not_succ_le_zero width)
    | cons octet rest =>
      have hoctet := octet.toNat_lt
      have hlow : (octet.toNat + 256 * littleEndian rest width 0) % 256 = octet.toNat := by omega
      have hhigh : (octet.toNat + 256 * littleEndian rest width 0) / 256 =
          littleEndian rest width 0 := by omega
      rw [littleEndian_cons, ofWord, hlow, hhigh, ih rest (Nat.le_of_succ_le_succ h),
        UInt8.ofNat_toNat, List.take_succ_cons]

end Bytes

end TclB220G.Lib
