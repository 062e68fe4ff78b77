import TclB220G.Lib.Bytes

/-!
# Big-endian words

A big-endian word is the little-endian word of the octets in reverse order.
-/

namespace TclB220G.Lib.Bytes

/-- Big-endian word of `width` octets inside a byte string. -/
def bigEndian (bytes : Bytes) (width offset : ℕ) : ℕ :=
  littleEndian (slice bytes offset (offset + width)).reverse width 0

/-- Big-endian octets of a word. -/
def ofBigWord (width value : ℕ) : Bytes := (ofWord width value).reverse

@[simp] theorem length_ofBigWord (width value : ℕ) : (ofBigWord width value).length = width := by
  rw [ofBigWord, List.length_reverse, length_ofWord]

/-- A slice of what stands between two byte strings. -/
theorem slice_append (before middle after : Bytes) :
    slice (before ++ middle ++ after) before.length (before.length + middle.length) = middle := by
  rw [slice, ← List.length_append, List.take_left, List.drop_left]

/-- A word that fits its width reads back, whatever stands around it. -/
theorem bigEndian_ofBigWord {width value : ℕ} (h : value < 256 ^ width) (before after : Bytes) :
    bigEndian (before ++ ofBigWord width value ++ after) width before.length = value := by
  have hslice := slice_append before (ofBigWord width value) after
  rw [length_ofBigWord] at hslice
  rw [bigEndian, hslice, ofBigWord, List.reverse_reverse, ← List.append_nil (ofWord width value)]
  exact littleEndian_ofWord_append h []

end TclB220G.Lib.Bytes
