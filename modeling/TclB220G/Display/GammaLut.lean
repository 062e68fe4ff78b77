import Mathlib.Algebra.Order.Ring.Int

/-!
# The table for gamma correction

A table of the user is packed into words of two entries each.  The words are written to the hardware one
after another, a register for each of its three planes.
-/

namespace TclB220G.Display.Gamma

structure DrmColorLut where
  red : UInt16
  green : UInt16
  blue : UInt16

inductive Plane where
  | c0 | c1 | c2
  deriving DecidableEq, Repr

def Plane.color : Plane → DrmColorLut → UInt16
  | c0 => DrmColorLut.green
  | c1 => DrmColorLut.blue
  | c2 => DrmColorLut.red

/-- The register that takes the words of a plane. -/
def Plane.offset : Plane → ℕ
  | c0 => 0x4
  | c1 => 0xc
  | c2 => 0x14

/-- `struct dpu_hw_gc_lut`, with a row for each index. -/
structure GcLut where
  flags : ℕ
  rows : List (Plane → ℕ)

/-- Packs two entries, which `drm_color_lut_extract` reduces to ten bits. -/
def packRow (extract : UInt16 → ℕ) (even odd : DrmColorLut) (plane : Plane) : ℕ :=
  extract (plane.color even) ||| extract (plane.color odd) <<< 16

/-- The loop of `_dpu_crtc_get_gc_lut`, which has no result if it reads behind the table of the user. -/
def packRows (extract : UInt16 → ℕ) (lut : List DrmColorLut) : ℕ → Option (List (Plane → ℕ))
  | 0 => some []
  | i + 1 => do
    let rows ← packRows extract lut i
    return rows ++ [packRow extract (← lut[i * 2]?) (← lut[i * 2 + 1]?)]

/-- `_dpu_crtc_get_gc_lut`, which leaves what it is given without a table of the user. -/
def getGcLut (extract : UInt16 → ℕ) (lut : Option (List DrmColorLut)) (gcLut : GcLut) : Option GcLut :=
  match lut with
  | none => some gcLut
  | some lut => (packRows extract lut 512).map fun rows ↦ ⟨0, rows⟩

/-- `dpu_setup_dspp_gc`, as its writes of values to registers.  A context is given by the base of its gamma
block, which is zero where there is none. -/
def setupDsppGc (ctx : Option ℕ) (gcLut : Option GcLut) : List (ℕ × ℕ) :=
  match ctx with
  | none => []
  | some 0 => []
  | some base =>
    match gcLut with
    | none => [(base, 0)]
    | some lut =>
      [(base + 0x8, 0), (base + 0x10, 0), (base + 0x18, 0)] ++
        lut.rows.flatMap
          (fun row ↦ [(base + 0x4, row .c0), (base + 0xc, row .c1), (base + 0x14, row .c2)]) ++
        [(base + 0x1c, 1), (base, 1 ||| if lut.flags % 2 = 1 then 2 else 0)]

def unpack (word : ℕ) : List ℕ := [word % 2 ^ 16, word >>> 16]

/-- The entries of a plane in the order in which they were written. -/
def written (base : ℕ) (plane : Plane) (writes : List (ℕ × ℕ)) : List ℕ :=
  (writes.filter (·.1 = base + plane.offset)).flatMap fun entry ↦ unpack entry.2

theorem written_setupDsppGc {base : ℕ} (hbase : base ≠ 0) (plane : Plane) (lut : GcLut) :
    written base plane (setupDsppGc (some base) (some lut)) =
      lut.rows.flatMap fun row ↦ unpack (row plane) := by
  have hrows (rows : List (Plane → ℕ)) :
      written base plane (rows.flatMap fun row ↦
          [(base + 0x4, row .c0), (base + 0xc, row .c1), (base + 0x14, row .c2)]) =
        rows.flatMap fun row ↦ unpack (row plane) := by
    induction rows with
    | nil => rfl
    | cons row rows ih =>
      rw [List.flatMap_cons, List.flatMap_cons, ← ih, written, written, List.filter_append,
        List.flatMap_append]
      cases plane <;> simp [Plane.offset]
  rw [← hrows, setupDsppGc, written, written, List.filter_append, List.filter_append]
  · cases plane <;> simp [Plane.offset]
  · exact hbase

section

variable {extract : UInt16 → ℕ} (hextract : ∀ value, extract value < 2 ^ 10)
include hextract

theorem unpack_packRow (even odd : DrmColorLut) (plane : Plane) :
    unpack (packRow extract even odd plane) = [extract (plane.color even), extract (plane.color odd)] := by
  have hsmall : extract (plane.color even) < 2 ^ 16 := Nat.lt_trans (hextract _) (by decide)
  rw [unpack, packRow, Nat.or_mod_two_pow, Nat.shiftLeft_eq, Nat.mul_mod_left, Nat.or_zero,
    Nat.mod_eq_of_lt hsmall, ← Nat.shiftLeft_eq, Nat.shiftRight_or_distrib, Nat.shiftLeft_shiftRight,
    Nat.shiftRight_eq_div_pow,
    Nat.div_eq_of_lt hsmall, Nat.zero_or]

theorem unpack_packRows (lut : List DrmColorLut) (plane : Plane) (count : ℕ) :
    (packRows extract lut count).map (fun rows ↦ rows.flatMap fun row ↦ unpack (row plane)) =
      if count * 2 ≤ lut.length then some ((lut.take (count * 2)).map fun color ↦ extract (plane.color color))
      else none := by
  induction count with
  | zero => rfl
  | succ count ih =>
    split_ifs with hlength
    · rw [if_pos (by omega)] at ih
      obtain ⟨rows, hrows, hunpack⟩ := Option.map_eq_some_iff.1 ih
      have heven : lut[count * 2]? = some lut[count * 2] := List.getElem?_eq_getElem (by omega)
      have hodd : lut[count * 2 + 1]? = some lut[count * 2 + 1] := List.getElem?_eq_getElem (by omega)
      have htake : lut.take ((count + 1) * 2) =
          lut.take (count * 2) ++ [lut[count * 2]] ++ [lut[count * 2 + 1]] := by
        rw [Nat.succ_mul, List.take_add_one, List.take_add_one, heven, hodd]
        rfl
      rw [htake, packRows, hrows, heven, hodd, List.map_append, List.map_append, ← hunpack]
      simp [unpack_packRow hextract]
    · have hodd : lut[count * 2 + 1]? = none := List.getElem?_eq_none (by omega)
      rw [packRows, hodd]
      simp

/-- The hardware gets the entries of the user in their order, reduced to ten bits.  The driver reads behind
a table that has less than 1024 entries. -/
theorem written_gamma {base : ℕ} (hbase : base ≠ 0) (lut : List DrmColorLut) (gcLut : GcLut) (plane : Plane) :
    (getGcLut extract (some lut) gcLut).map
        (fun packed ↦ written base plane (setupDsppGc (some base) (some packed))) =
      if 1024 ≤ lut.length then some ((lut.take 1024).map fun color ↦ extract (plane.color color)) else none := by
  simp only [getGcLut, Option.map_map, Function.comp_def, written_setupDsppGc hbase]
  exact unpack_packRows hextract lut plane 512

end

/-- Rounding to the nearest of the values that ten bits have. -/
def nearest (value : UInt16) : ℕ := (value.toNat * 1023 + 32767) / 65535

theorem written_gamma_green :
    (getGcLut nearest (some (List.replicate 1024 ⟨0, 0xffff, 0⟩)) ⟨0, []⟩).map
        (fun packed ↦ written 0x1700 .c0 (setupDsppGc (some 0x1700) (some packed))) =
      some (List.replicate 1024 1023) := by
  have hextract (value : UInt16) : nearest value < 2 ^ 10 := by
    have hlt := value.toNat_lt
    rw [nearest]
    omega
  have hbase : 0x1700 ≠ 0 := by decide
  have h := written_gamma hextract hbase (List.replicate 1024 ⟨0, 0xffff, 0⟩) ⟨0, []⟩ .c0
  rwa [List.length_replicate, if_pos (Nat.le_refl _), List.take_replicate, List.map_replicate] at h

end TclB220G.Display.Gamma
