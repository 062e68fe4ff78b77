import Mathlib.Data.BitVec
import Mathlib.Tactic.Abel

/-!
# Intervals of machine words

An interval of addresses is given by its first address and its size, both words of the same width.
An address belongs to it if its distance from the first one, computed modulo the word size, is less
than the size, so an interval may run over the end of the address space.  Whether one interval lies
inside another is decided by one inequality between natural numbers.

Code that must not overflow compares differences of words, or first checks that a sum or a shifted word
fits.  Such comparisons are those of the numbers.
-/

namespace TclB220G.Lib

/-! ## Comparisons that do not overflow -/

namespace Word

variable {width : ℕ}

/-- The test that shifting a word to the left loses nothing. -/
theorem le_allOnes_ushiftRight_iff (word : BitVec width) (shift : ℕ) :
    word ≤ BitVec.allOnes width >>> shift ↔ word.toNat * 2 ^ shift < 2 ^ width := by
  have hpos : 0 < 2 ^ width := Nat.two_pow_pos width
  rw [BitVec.le_def, BitVec.toNat_ushiftRight, BitVec.toNat_allOnes, Nat.shiftRight_eq_div_pow,
    Nat.le_div_iff_mul_le (Nat.two_pow_pos shift)]
  omega

theorem toNat_shiftLeft_of_lt {word : BitVec width} {shift : ℕ}
    (hfits : word.toNat * 2 ^ shift < 2 ^ width) :
    (word <<< shift).toNat = word.toNat * 2 ^ shift := by
  rw [BitVec.toNat_shiftLeft, Nat.shiftLeft_eq, Nat.mod_eq_of_lt hfits]

/-- The end of a block lies before the end of another one, compared by differences. -/
theorem sub_le_sub_iff_add_le (base total start size : BitVec width) :
    base ≤ start ∧ size ≤ total ∧ start - base ≤ total - size ↔
      base.toNat ≤ start.toNat ∧ start.toNat + size.toNat ≤ base.toNat + total.toNat := by
  constructor
  · rintro ⟨hstart, hsize, hdistance⟩
    have hoffset := BitVec.toNat_sub_of_le hstart
    have hroom := BitVec.toNat_sub_of_le hsize
    rw [BitVec.le_def] at hstart hsize hdistance
    omega
  · rintro ⟨hstart, hend⟩
    have hsize : size ≤ total := by
      rw [BitVec.le_def]
      omega
    refine ⟨hstart, hsize, ?_⟩
    rw [BitVec.le_def, BitVec.toNat_sub_of_le hstart, BitVec.toNat_sub_of_le hsize]
    omega

/-- The same comparison by the distance of the end from the other base. -/
theorem add_sub_le_iff_add_le (base total start size : BitVec width)
    (hend : start.toNat + size.toNat < 2 ^ width) :
    base ≤ start ∧ start + size - base ≤ total ↔
      base.toNat ≤ start.toNat ∧ start.toNat + size.toNat ≤ base.toNat + total.toNat := by
  have hsum : (start + size).toNat = start.toNat + size.toNat := by
    rw [BitVec.toNat_add, Nat.mod_eq_of_lt hend]
  refine and_congr_right fun hstart ↦ ?_
  rw [BitVec.le_def] at hstart
  have hle : base ≤ start + size := by
    rw [BitVec.le_def]
    omega
  rw [BitVec.le_def, BitVec.toNat_sub_of_le hle, hsum]
  omega

end Word

/-! ## Intervals -/

structure WordInterval (width : ℕ) where
  base : BitVec width
  size : BitVec width
  deriving DecidableEq, Repr

namespace WordInterval

variable {width : ℕ}

/-- The address lies in the interval. -/
def Covers (interval : WordInterval width) (address : BitVec width) : Prop :=
  address - interval.base < interval.size

/-- All addresses of one interval lie in the other. -/
def Inside (inner outer : WordInterval width) : Prop :=
  ∀ address, inner.Covers address → outer.Covers address

/-- Distances add up as long as their sum is a word. -/
theorem toNat_sub_of_lt (first second third : BitVec width)
    (h : (second - third).toNat + (first - second).toNat < 2 ^ width) :
    (first - third).toNat = (second - third).toNat + (first - second).toNat := by
  rw [← sub_add_sub_cancel' second third first, BitVec.toNat_add, Nat.mod_eq_of_lt h]

theorem inside_iff (inner outer : WordInterval width) :
    inner.Inside outer ↔ inner.size = 0 ∨
      (inner.base - outer.base).toNat + inner.size.toNat ≤ outer.size.toNat := by
  have houter : outer.size.toNat < 2 ^ width := outer.size.isLt
  constructor
  · intro hinside
    by_cases hempty : inner.size = 0
    · exact .inl hempty
    right
    have hpositive : 0 < inner.size.toNat := by
      rw [Nat.pos_iff_ne_zero]
      exact fun hzero ↦ hempty (BitVec.eq_of_toNat_eq hzero)
    by_contra hlong
    have hfirst : (inner.base - outer.base).toNat < outer.size.toNat := by
      apply hinside inner.base
      rw [Covers, sub_self]
      exact hpositive
    let offset := outer.size - (inner.base - outer.base)
    have hoffset : offset.toNat = outer.size.toNat - (inner.base - outer.base).toNat :=
      BitVec.toNat_sub_of_le hfirst.le
    have hlast : outer.Covers (inner.base + offset) := by
      apply hinside
      rw [Covers, add_sub_cancel_left, BitVec.lt_def, hoffset]
      omega
    have hcancel : inner.base + offset - outer.base = outer.size := by
      simp only [offset]
      abel
    rw [Covers, hcancel] at hlast
    exact Nat.lt_irrefl _ hlast
  · rintro (hempty | hfits) address hcovers
    · rw [Covers, hempty] at hcovers
      exact absurd hcovers (Nat.not_lt_zero _)
    · have hoffset : (address - inner.base).toNat < inner.size.toNat := hcovers
      rw [Covers, BitVec.lt_def, toNat_sub_of_lt address inner.base outer.base (by omega)]
      omega

instance (inner outer : WordInterval width) : Decidable (inner.Inside outer) :=
  decidable_of_iff _ (inside_iff inner outer).symm

end WordInterval

end TclB220G.Lib
