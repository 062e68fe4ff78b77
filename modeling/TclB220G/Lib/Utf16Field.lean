import TclB220G.Lib.Unicode

/-!
# UTF-16 fields of fixed size

A field of code units holds a text up to the first unit that is zero.  What stands after that unit is
left over from earlier contents.  Decoding the field as a whole fails if the leftover does not
decode, and otherwise gives the text that decoding the units before the zero gives.
-/

namespace TclB220G.Lib.Text

/-- The code units of a field at an offset. -/
def unitsAt (bytes : Bytes) : ℕ → ℕ → List ℕ
  | 0, _ => []
  | count + 1, offset => bytes.littleEndian 2 offset :: unitsAt bytes count (offset + 2)

/-- The units before the first zero. -/
def stem (units : List ℕ) : List ℕ := units.takeWhile (· ≠ 0)

/-- The units after the first zero. -/
def leftover (units : List ℕ) : List ℕ := (units.dropWhile (· ≠ 0)).tail

/-! ## Units of a byte string -/

theorem unitsAt_congr {first second : Bytes} {count offset : ℕ}
    (h : ∀ index, offset ≤ index → index < offset + 2 * count → first[index]? = second[index]?) :
    unitsAt first count offset = unitsAt second count offset := by
  induction count generalizing offset with
  | zero => rfl
  | succ count ih =>
    rw [unitsAt, unitsAt, Bytes.littleEndian_congr fun index hfirst hlast ↦
        h index hfirst (by omega), ih fun index hfirst hlast ↦ h index (by omega) (by omega)]

theorem take_unitsAt (bytes : Bytes) (length count offset : ℕ) :
    (unitsAt bytes count offset).take length = unitsAt bytes (min length count) offset := by
  induction length generalizing count offset with
  | zero => simp [unitsAt]
  | succ length ih =>
    cases count with
    | zero => rfl
    | succ count => rw [unitsAt, List.take_succ_cons, ih, Nat.succ_min_succ, unitsAt]

theorem slice_eq_cons (bytes : Bytes) {start stop : ℕ} (hstart : start < stop)
    (hstop : stop ≤ bytes.length) :
    bytes.slice start stop = bytes.toMemory start :: bytes.slice (start + 1) stop := by
  have hinside : start < (bytes.take stop).length := by
    rw [List.length_take]
    omega
  rw [Bytes.slice, List.drop_eq_getElem_cons hinside, List.getElem_take, Bytes.toMemory,
    List.getD_eq_getElem?_getD, List.getElem?_eq_getElem (by omega), Option.getD_some, Bytes.slice]

theorem utf16Units_slice (bytes : Bytes) {count offset : ℕ}
    (hfits : offset + 2 * count ≤ bytes.length) :
    utf16Units (bytes.slice offset (offset + 2 * count)) = some (unitsAt bytes count offset) := by
  induction count generalizing offset with
  | zero => simp [Bytes.slice, utf16Units, unitsAt]
  | succ count ih =>
    rw [slice_eq_cons bytes (by omega) hfits, slice_eq_cons bytes (by omega) hfits, utf16Units,
      show offset + 2 * (count + 1) = offset + 1 + 1 + 2 * count by ring, ih (by omega), unitsAt]
    simp [Bytes.littleEndian, Memory.littleEndian]

/-! ## Zero-terminated units -/

@[simp]
theorem stem_nil : stem [] = [] := rfl

@[simp]
theorem leftover_nil : leftover [] = [] := rfl

@[simp]
theorem stem_zero_cons (units : List ℕ) : stem (0 :: units) = [] := rfl

@[simp]
theorem leftover_zero_cons (units : List ℕ) : leftover (0 :: units) = units := rfl

theorem stem_cons {unit : ℕ} (hunit : unit ≠ 0) (units : List ℕ) :
    stem (unit :: units) = unit :: stem units :=
  List.takeWhile_cons_of_pos (by simpa using hunit)

theorem leftover_cons {unit : ℕ} (hunit : unit ≠ 0) (units : List ℕ) :
    leftover (unit :: units) = leftover units := by
  rw [leftover, List.dropWhile_cons_of_pos (by simpa using hunit), leftover]

theorem stem_eq_of_take_eq {units other : List ℕ}
    (h : other.take ((stem units).length + 1) = units.take ((stem units).length + 1)) :
    stem other = stem units := by
  induction units generalizing other with
  | nil =>
    have hother : other = [] := by simpa [stem] using h
    rw [hother]
  | cons unit units ih =>
    by_cases hunit : unit = 0
    · cases other with
      | nil => simp [hunit, stem] at h
      | cons first other =>
        have hfirst : first = unit := by simpa [stem, hunit] using h
        rw [hfirst, hunit]
        rfl
    · rw [stem_cons hunit, List.length_cons, List.take_succ_cons] at h
      cases other with
      | nil => simp at h
      | cons first other =>
        rw [List.take_succ_cons, List.cons.injEq] at h
        rw [h.1, stem_cons hunit, stem_cons hunit, ih h.2]

theorem decodeUnits_cons {unit : ℕ} (hunit : unit < 0xD800 ∨ 0xDFFF < unit) (units : List ℕ) :
    decodeUnits (unit :: units) = (decodeUnits units).map (unit :: ·) := by
  cases units with
  | nil => simp [decodeUnits, hunit]
  | cons next units => rw [decodeUnits, if_pos hunit]

theorem map_takeWhile_map_cons {point : ℕ} (hpoint : point ≠ 0) (text : Option Text) :
    (text.map (point :: ·)).map (·.takeWhile (· ≠ 0)) =
      (text.map (·.takeWhile (· ≠ 0))).map (point :: ·) := by
  cases text with
  | none => rfl
  | some text => simp [hpoint]

/-- The text of a field is the text of its stem, provided the leftover decodes. -/
theorem map_takeWhile_decodeUnits (units : List ℕ) :
    (decodeUnits units).map (·.takeWhile (· ≠ 0)) =
      (decodeUnits (leftover units)).bind fun _ ↦ decodeUnits (stem units) := by
  fun_induction decodeUnits units with
  | case1 => rfl
  | case2 unit hunit =>
    by_cases hzero : unit = 0
    · rw [hzero]
      rfl
    · rw [stem_cons hzero, leftover_cons hzero, decodeUnits_cons hunit]
      simp [decodeUnits, hzero]
  | case3 unit hunit =>
    have hzero : unit ≠ 0 := by omega
    rw [stem_cons hzero, leftover_cons hzero]
    simp [decodeUnits, hunit]
  | case4 unit next rest hunit ih =>
    by_cases hzero : unit = 0
    · rw [hzero, leftover_zero_cons, stem_zero_cons]
      cases decodeUnits (next :: rest) with
      | none => rfl
      | some text => rfl
    · rw [map_takeWhile_map_cons hzero, ih, Option.map_bind, leftover_cons hzero, stem_cons hzero,
        decodeUnits_cons hunit]
      rfl
  | case5 unit next rest hunit hpair ih =>
    have hunitZero : unit ≠ 0 := by omega
    have hnextZero : next ≠ 0 := by omega
    rw [map_takeWhile_map_cons (by omega), ih, Option.map_bind, leftover_cons hunitZero,
      leftover_cons hnextZero, stem_cons hunitZero, stem_cons hnextZero, decodeUnits, if_neg hunit,
      if_pos hpair]
    rfl
  | case6 unit next rest hunit hpair =>
    have hunitZero : unit ≠ 0 := by omega
    have hstem : decodeUnits (unit :: stem (next :: rest)) = none := by
      by_cases hnextZero : next = 0
      · simp [hnextZero, decodeUnits, hunit]
      · rw [stem_cons hnextZero, decodeUnits, if_neg hunit, if_neg hpair]
    rw [stem_cons hunitZero, hstem]
    simp

end TclB220G.Lib.Text
