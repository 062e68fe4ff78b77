import Mathlib.Data.Nat.Digits.Lemmas
import TclB220G.Lib.Unicode

/-!
# The newc archive format

An entry is a header of the magic `070701` and thirteen fields of eight hexadecimal digits, the
name with its NUL, zero octets up to a multiple of four, the data, and zero octets again.  The
reader measures both paddings from the start of the archive, as the kernel does, so an entry reads
back what was written only at an aligned position; `readEntry_encode` needs that hypothesis and
`length_encode_mod` is what re-establishes it for the next entry.
-/

namespace TclB220G.Lib.Newc

/-- Zero octets from a length up to the next multiple. -/
def padding (length modulus : ℕ) : ℕ := (-(length : ℤ) % modulus).toNat

theorem add_padding_mod (length : ℕ) {modulus : ℕ} (hmodulus : 0 < modulus) :
    (length + padding length modulus) % modulus = 0 := by
  have hnonneg : 0 ≤ -(length : ℤ) % modulus := Int.emod_nonneg _ (by omega)
  have hcast : ((length + padding length modulus : ℕ) : ℤ) = length + -(length : ℤ) % modulus := by
    rw [padding]
    omega
  have hzero : (length + -(length : ℤ) % modulus) % modulus = 0 := by
    rw [Int.add_emod_emod, Int.add_neg_eq_sub, Int.sub_self, Int.zero_emod]
  have hmod : ((length + padding length modulus) % modulus : ℕ) = (0 : ℤ) := by
    rw [Int.natCast_mod, hcast, hzero]
  exact_mod_cast hmod

theorem padding_congr {first second modulus : ℕ} (h : first % modulus = second % modulus) :
    padding first modulus = padding second modulus := by
  have hcast : (first : ℤ) ≡ second [ZMOD modulus] := by
    rw [Int.ModEq]
    exact_mod_cast h
  rw [padding, padding, hcast.neg]

/-! ## Hexadecimal fields -/

/-- The last `width` base-sixteen digits, most significant first. -/
def fixedDigits : ℕ → ℕ → List ℕ
  | 0, _ => []
  | width + 1, value => fixedDigits width (value / 16) ++ [value % 16]

variable (width value : ℕ)

theorem length_fixedDigits : (fixedDigits width value).length = width := by
  induction width generalizing value with
  | zero => rfl
  | succ width ih => simp [fixedDigits, ih]

theorem mem_fixedDigits {width value digit : ℕ} (h : digit ∈ fixedDigits width value) : digit < 16 := by
  induction width generalizing value with
  | zero => cases h
  | succ width ih =>
    rcases List.mem_append.mp h with hhigh | hlast
    · exact ih hhigh
    · rw [List.mem_singleton.mp hlast]
      exact Nat.mod_lt _ (by decide)

/-- One field of a header. -/
def hexField (value : ℕ) : Bytes := (fixedDigits 8 value).map fun digit ↦ UInt8.ofNat (Text.hexDigit digit)

theorem length_hexField (value : ℕ) : (hexField value).length = 8 := by
  simp [hexField, length_fixedDigits]

def readHex (digits : Bytes) : Option ℕ :=
  digits.foldlM (fun value octet ↦ (Text.digitValue octet.toNat).map (16 * value + ·)) 0

theorem digitValue_hexDigit {digit : ℕ} (h : digit < 16) :
    Text.digitValue (UInt8.ofNat (Text.hexDigit digit)).toNat = some digit := by
  interval_cases digit <;> rfl

theorem readHex_fixedDigits (h : value < 16 ^ width) :
    readHex ((fixedDigits width value).map fun digit ↦ UInt8.ofNat (Text.hexDigit digit)) =
      some value := by
  induction width generalizing value with
  | zero =>
    have hzero : value = 0 := by simpa using h
    rw [hzero]
    rfl
  | succ width ih =>
    have hhigh : value / 16 < 16 ^ width := by
      rw [Nat.div_lt_iff_lt_mul (by decide)]
      rwa [pow_succ] at h
    have hprefix := ih (value / 16) hhigh
    rw [readHex] at hprefix ⊢
    rw [fixedDigits, List.map_append, List.foldlM_append, hprefix]
    simp only [List.map_cons, List.map_nil, List.foldlM_cons, List.foldlM_nil, Option.bind_eq_bind,
      Option.bind_some, digitValue_hexDigit (Nat.mod_lt value (by decide : 0 < 16)), Option.map_some,
      Option.pure_def, Nat.div_add_mod]

theorem readHex_hexField {value : ℕ} (h : value < 2 ^ 32) : readHex (hexField value) = some value :=
  readHex_fixedDigits 8 value (by norm_num at h ⊢; exact h)

/-- The shortest numeral, filled with zeros on the left, is the fixed-width numeral. -/
theorem leftpad_hexNumeral (h : value < 16 ^ (width + 1)) :
    (Text.hexNumeral value).leftpad (width + 1) 0x30 =
      (fixedDigits (width + 1) value).map Text.hexDigit := by
  have hzeros (count : ℕ) : (fixedDigits count 0).map Text.hexDigit = List.replicate count 0x30 := by
    induction count with
    | zero => rfl
    | succ count ih => rw [fixedDigits, List.map_append, Nat.zero_div, ih, List.replicate_succ']; rfl
  have hsmall (count digit : ℕ) (hdigit : digit < 16) :
      (fixedDigits (count + 1) digit).map Text.hexDigit =
        List.replicate count 0x30 ++ [Text.hexDigit digit] := by
    rw [fixedDigits, Nat.div_eq_of_lt hdigit, Nat.mod_eq_of_lt hdigit, List.map_append, hzeros]
    rfl
  induction width generalizing value with
  | zero =>
    have hdigit : value < 16 := by simpa using h
    interval_cases value <;> rfl
  | succ width ih =>
    by_cases hdigit : value < 16
    · rw [hsmall _ _ hdigit, List.leftpad]
      interval_cases value <;> rfl
    · have hstep : Text.hexNumeral value =
          Text.hexNumeral (value / 16) ++ [Text.hexDigit (value % 16)] := by
        have hpos : 0 < value := by omega
        have hdiv : value / 16 ≠ 0 := by omega
        rw [Text.hexNumeral, if_neg (by omega), Nat.digits_def' (by decide) hpos, Text.hexNumeral,
          if_neg hdiv]
        simp
      have hhigh : value / 16 < 16 ^ (width + 1) := by
        rw [Nat.div_lt_iff_lt_mul (by decide)]
        rwa [pow_succ] at h
      rw [hstep, fixedDigits, List.map_append, ← ih _ hhigh]
      simp only [List.leftpad, List.length_append, List.length_singleton, List.append_assoc,
        Nat.add_sub_add_right, List.map_cons, List.map_nil]

/-! ## Entries -/

/-- An archive member.  The two sizes of the header are the lengths of the name and the data. -/
structure Entry where
  ino : ℕ
  mode : ℕ
  uid : ℕ
  gid : ℕ
  nlink : ℕ
  mtime : ℕ
  devMajor : ℕ
  devMinor : ℕ
  rdevMajor : ℕ
  rdevMinor : ℕ
  check : ℕ
  name : Bytes
  data : Bytes
  deriving DecidableEq, Repr

def magic : Bytes := [0x30, 0x37, 0x30, 0x37, 0x30, 0x31]

namespace Entry

/-- The thirteen header fields; the name size counts the NUL. -/
def fields (entry : Entry) : List ℕ :=
  [entry.ino, entry.mode, entry.uid, entry.gid, entry.nlink, entry.mtime, entry.data.length,
    entry.devMajor, entry.devMinor, entry.rdevMajor, entry.rdevMinor, entry.name.length + 1,
    entry.check]

/-- Every field has eight digits and the name ends at its NUL. -/
structure Fits (entry : Entry) : Prop where
  fields : ∀ field ∈ entry.fields, field < 2 ^ 32
  name : (0 : UInt8) ∉ entry.name

def headed (entry : Entry) : Bytes := magic ++ entry.fields.flatMap hexField ++ entry.name ++ [0]

/-- The octets of one member, padded relative to its own start. -/
def encode (entry : Entry) : Bytes :=
  let named := entry.headed ++ List.replicate (padding entry.headed.length 4) 0
  let filled := named ++ entry.data
  filled ++ List.replicate (padding filled.length 4) 0

theorem length_flatMap_hexField (values : List ℕ) :
    (values.flatMap hexField).length = 8 * values.length := by
  induction values with
  | nil => rfl
  | cons value rest ih => simp [length_hexField, ih]; ring

theorem length_headed (entry : Entry) : entry.headed.length = 110 + (entry.name.length + 1) := by
  simp only [headed, List.length_append, length_flatMap_hexField]
  simp only [magic, fields, List.length_cons, List.length_nil]
  omega

theorem length_encode_mod (entry : Entry) : entry.encode.length % 4 = 0 := by
  simp only [encode, List.length_append, List.length_replicate]
  exact add_padding_mod _ (by decide)

/-- The parts of a member with both paddings spelled out. -/
theorem encode_eq (entry : Entry) : ∃ gap tail,
    entry.encode = magic ++ (entry.fields.flatMap hexField ++ ((entry.name ++ [0]) ++
      (List.replicate gap 0 ++ (entry.data ++ List.replicate tail 0)))) ∧
    gap = padding (110 + (entry.name.length + 1)) 4 ∧
    tail = padding (110 + (entry.name.length + 1) + gap + entry.data.length) 4 := by
  refine ⟨_, _, ?_, rfl, rfl⟩
  have hheaded := entry.length_headed
  simp only [encode, List.length_append, List.length_replicate, hheaded]
  simp only [headed, List.append_assoc]

end Entry

/-! ## Reading -/

/-- Split off a fixed number of octets, if there are so many. -/
def take? (count : ℕ) (bytes : Bytes) : Option (Bytes × Bytes) :=
  if count ≤ bytes.length then some (bytes.splitAt count) else none

variable {count : ℕ}

theorem take?_append {front : Bytes} (h : front.length = count) (rest : Bytes) :
    take? count (front ++ rest) = some (front, rest) := by
  rw [take?, if_pos (by simp [h]), List.splitAt_eq, ← h, List.take_left, List.drop_left]

/-- Split off padding, which has to be zero. -/
def takeZeros? (count : ℕ) (bytes : Bytes) : Option Bytes :=
  match take? count bytes with
  | some (zeros, rest) => if zeros = List.replicate count 0 then some rest else none
  | none => none

theorem takeZeros?_append (count : ℕ) (rest : Bytes) :
    takeZeros? count (List.replicate count 0 ++ rest) = some rest := by
  rw [takeZeros?, take?_append (by simp)]
  simp

/-- Fields of eight digits, one after another. -/
def readFields : ℕ → Bytes → Option (List ℕ × Bytes)
  | 0, bytes => some ([], bytes)
  | count + 1, bytes => do
    let (digits, bytes) ← take? 8 bytes
    let value ← readHex digits
    let (values, bytes) ← readFields count bytes
    return (value :: values, bytes)

theorem readFields_append (values : List ℕ) (h : ∀ value ∈ values, value < 2 ^ 32) (rest : Bytes) :
    readFields values.length (values.flatMap hexField ++ rest) = some (values, rest) := by
  induction values with
  | nil => rfl
  | cons value values ih =>
    have hhead : value < 2 ^ 32 := h value (List.mem_cons_self ..)
    have htail := ih fun other hother ↦ h other (List.mem_cons_of_mem _ hother)
    rw [List.length_cons, readFields, List.flatMap_cons, List.append_assoc,
      take?_append (length_hexField value)]
    simp only [bind, Option.bind, readHex_hexField hhead, htail]
    rfl

/-- A name with its NUL: exactly one NUL, at the end. -/
def readName (bytes : Bytes) : Option Bytes :=
  if bytes.getLast? = some 0 ∧ (0 : UInt8) ∉ bytes.dropLast then some bytes.dropLast else none

theorem readName_append {name : Bytes} (h : (0 : UInt8) ∉ name) : readName (name ++ [0]) = some name := by
  simp [readName, h]

/-- The name and the data that a header announces. -/
def readBody (position : ℕ) (fields : List ℕ) (bytes : Bytes) : Option (Entry × Bytes) :=
  match fields with
  | [ino, mode, uid, gid, nlink, mtime, fileSize, devMajor, devMinor, rdevMajor, rdevMinor,
      nameSize, check] => do
    let (rawName, bytes) ← take? nameSize bytes
    let name ← readName rawName
    let gap := padding (position + 110 + nameSize) 4
    let bytes ← takeZeros? gap bytes
    let (data, bytes) ← take? fileSize bytes
    let bytes ← takeZeros? (padding (position + 110 + nameSize + gap + fileSize) 4) bytes
    return ({ ino, mode, uid, gid, nlink, mtime, devMajor, devMinor, rdevMajor, rdevMinor, check,
              name, data }, bytes)
  | _ => none

/-- The thirteen fields after the magic. -/
def readHeader (bytes : Bytes) : Option (List ℕ × Bytes) :=
  match take? 6 bytes with
  | some (found, rest) => if found = magic then readFields 13 rest else none
  | none => none

/-- The member at a position of the archive, and what follows it. -/
def readEntry (position : ℕ) (bytes : Bytes) : Option (Entry × Bytes) := do
  let (fields, rest) ← readHeader bytes
  readBody position fields rest

variable {entry : Entry} {position : ℕ}

/-- A member that fits its header reads back at an aligned position, whatever follows it and
whatever octets its data holds. -/
theorem readEntry_encode (hfits : entry.Fits) (haligned : position % 4 = 0) (rest : Bytes) :
    readEntry position (entry.encode ++ rest) = some (entry, rest) := by
  obtain ⟨gap, tail, hencode, hgap, htail⟩ := entry.encode_eq
  have hname : padding (position + 110 + (entry.name.length + 1)) 4 = gap := by
    rw [hgap]
    exact padding_congr (by omega)
  have hdata : padding (position + 110 + (entry.name.length + 1) + gap + entry.data.length) 4 =
      tail := by
    rw [htail]
    exact padding_congr (by omega)
  have hheader (after : Bytes) :
      readHeader (magic ++ (entry.fields.flatMap hexField ++ after)) = some (entry.fields, after) := by
    rw [readHeader, take?_append (by rfl : magic.length = 6)]
    exact readFields_append entry.fields hfits.fields after
  rw [hencode]
  simp only [List.append_assoc]
  rw [readEntry, hheader]
  simp only [Option.bind_eq_bind, Option.bind_some, readBody, Entry.fields]
  rw [← List.append_assoc entry.name [0], take?_append (by simp)]
  simp only [Option.bind_some, readName_append hfits.name, hname, takeZeros?_append]
  rw [take?_append rfl]
  simp only [Option.bind_some, hdata, takeZeros?_append]
  rfl

theorem length_of_take? {bytes front rest : Bytes} (h : take? count bytes = some (front, rest)) :
    rest.length + count = bytes.length := by
  rw [take?] at h
  split at h
  · simp only [List.splitAt_eq, Option.some.injEq, Prod.mk.injEq] at h
    rw [← h.2, List.length_drop]
    omega
  · cases h

variable {bytes rest : Bytes}

theorem length_of_takeZeros? (h : takeZeros? count bytes = some rest) : rest.length ≤ bytes.length := by
  rw [takeZeros?] at h
  split at h
  · rename_i zeros found hfound
    split at h
    · cases h
      exact (Nat.le_add_right _ _).trans (length_of_take? hfound).le
    · cases h
  · cases h

theorem length_of_readFields {values : List ℕ} (h : readFields count bytes = some (values, rest)) :
    rest.length ≤ bytes.length := by
  induction count generalizing bytes values with
  | zero =>
    cases h
    exact le_rfl
  | succ count ih =>
    rw [readFields] at h
    simp only [Option.bind_eq_bind, Option.bind_eq_some_iff, Prod.exists] at h
    obtain ⟨digits, after, hdigits, value, -, values', final, hrest, hfinal⟩ := h
    cases hfinal
    exact (ih hrest).trans ((Nat.le_add_right _ _).trans (length_of_take? hdigits).le)

theorem length_of_readBody {fields : List ℕ}
    (h : readBody position fields bytes = some (entry, rest)) : rest.length ≤ bytes.length := by
  unfold readBody at h
  split at h
  · simp only [Option.bind_eq_bind, Option.bind_eq_some_iff, Prod.exists] at h
    obtain ⟨rawName, afterName, hname, name, -, afterGap, hgap, data, afterData, hdata, final,
      htail, hfinal⟩ := h
    cases hfinal
    have hname := length_of_take? hname
    have hgap := length_of_takeZeros? hgap
    have hdata := length_of_take? hdata
    have htail := length_of_takeZeros? htail
    omega
  · cases h

theorem length_of_readHeader {fields : List ℕ} (h : readHeader bytes = some (fields, rest)) :
    rest.length < bytes.length := by
  unfold readHeader at h
  split at h
  · rename_i found after hmagic
    split at h
    · have hmagic := length_of_take? hmagic
      have hfields := length_of_readFields h
      omega
    · cases h
  · cases h

/-- Reading a member consumes octets. -/
theorem length_lt_of_readEntry (h : readEntry position bytes = some (entry, rest)) :
    rest.length < bytes.length := by
  unfold readEntry at h
  simp only [Option.bind_eq_bind, Option.bind_eq_some_iff, Prod.exists] at h
  obtain ⟨fields, after, hheader, hbody⟩ := h
  exact (length_of_readBody hbody).trans_lt (length_of_readHeader hheader)

/-! ## Archives -/

/-- The name that ends an archive. -/
def trailerName : Bytes := Text.encodeUtf8 (Text.ofString "TRAILER!!!")

/-- Members up to the trailer, the trailer included, and what follows it. -/
def readArchive (position : ℕ) (bytes : Bytes) : Option (List Entry × Bytes) :=
  match _hread : readEntry position bytes with
  | none => none
  | some (entry, rest) =>
    if entry.name = trailerName then some ([entry], rest)
    else
      (readArchive (position + (bytes.length - rest.length)) rest).map fun (entries, final) ↦
        (entry :: entries, final)
termination_by bytes.length
decreasing_by exact length_lt_of_readEntry _hread

theorem readArchive_trailer {trailer : Entry} (hfits : trailer.Fits)
    (hname : trailer.name = trailerName) (haligned : position % 4 = 0) (rest : Bytes) :
    readArchive position (trailer.encode ++ rest) = some ([trailer], rest) := by
  rw [readArchive]
  split
  · rename_i hnone
    simp [readEntry_encode hfits haligned] at hnone
  · rename_i entry final hsome
    rw [readEntry_encode hfits haligned] at hsome
    cases hsome
    rw [if_pos hname]

theorem readArchive_cons (hfits : entry.Fits) (hname : entry.name ≠ trailerName)
    (haligned : position % 4 = 0) (rest : Bytes) :
    readArchive position (entry.encode ++ rest) =
      (readArchive (position + entry.encode.length) rest).map fun (entries, final) ↦
        (entry :: entries, final) := by
  rw [readArchive]
  split
  · rename_i hnone
    simp [readEntry_encode hfits haligned] at hnone
  · rename_i found final hsome
    rw [readEntry_encode hfits haligned] at hsome
    cases hsome
    rw [if_neg hname, List.length_append, Nat.add_sub_cancel]

/-- Members written one after another at an aligned position, with a trailer after them, read back
in order; what follows the trailer is left over. -/
theorem readArchive_encode (entries : List Entry) {trailer : Entry}
    (hfits : ∀ entry ∈ entries, entry.Fits ∧ entry.name ≠ trailerName) (htrailer : trailer.Fits)
    (hname : trailer.name = trailerName) (haligned : position % 4 = 0) (rest : Bytes) :
    readArchive position (entries.flatMap Entry.encode ++ (trailer.encode ++ rest)) =
      some (entries ++ [trailer], rest) := by
  induction entries generalizing position with
  | nil => exact readArchive_trailer htrailer hname haligned rest
  | cons entry entries ih =>
    obtain ⟨hentry, hother⟩ := hfits entry (List.mem_cons_self ..)
    have hnext : (position + entry.encode.length) % 4 = 0 := by
      rw [Nat.add_mod, haligned, entry.length_encode_mod]
    have htail := ih (fun other hmem ↦ hfits other (List.mem_cons_of_mem _ hmem)) hnext
    rw [List.flatMap_cons, List.append_assoc, readArchive_cons hentry hother haligned, htail]
    rfl

/-! ## Members up to the end of the octets -/

/-- All members with the positions they start at.  No name ends the archive. -/
def readToEnd (position : ℕ) (bytes : Bytes) : Option (List (ℕ × Entry)) :=
  if bytes = [] then some []
  else
    match _hread : readEntry position bytes with
    | none => none
    | some (entry, rest) =>
      (readToEnd (position + (bytes.length - rest.length)) rest).map ((position, entry) :: ·)
termination_by bytes.length
decreasing_by exact length_lt_of_readEntry _hread

theorem readToEnd_nil (position : ℕ) : readToEnd position [] = some [] := by
  rw [readToEnd, if_pos rfl]

theorem readToEnd_of_readEntry_eq_none {bytes : Bytes} (hbytes : bytes ≠ [])
    (h : readEntry position bytes = none) : readToEnd position bytes = none := by
  rw [readToEnd, if_neg hbytes]
  split
  · rfl
  · rename_i hsome
    rw [h] at hsome
    cases hsome

theorem readToEnd_cons (hfits : entry.Fits) (haligned : position % 4 = 0) (rest : Bytes) :
    readToEnd position (entry.encode ++ rest) =
      (readToEnd (position + entry.encode.length) rest).map ((position, entry) :: ·) := by
  have hbytes : entry.encode ++ rest ≠ [] := by
    intro hnil
    have hread := readEntry_encode hfits haligned rest
    rw [hnil] at hread
    cases hread
  rw [readToEnd, if_neg hbytes]
  split
  · rename_i hnone
    simp [readEntry_encode hfits haligned] at hnone
  · rename_i found final hsome
    rw [readEntry_encode hfits haligned] at hsome
    cases hsome
    rw [List.length_append, Nat.add_sub_cancel]

/-- Members written one after another from an aligned position on read back in order, and each of
them starts at an aligned position. -/
theorem readToEnd_encode (entries : List Entry) (hfits : ∀ entry ∈ entries, entry.Fits)
    (haligned : position % 4 = 0) :
    ∃ found, readToEnd position (entries.flatMap Entry.encode) = some found ∧
      found.map Prod.snd = entries ∧ ∀ pair ∈ found, pair.1 % 4 = 0 := by
  induction entries generalizing position with
  | nil => exact ⟨[], readToEnd_nil position, rfl, fun _ hpair ↦ absurd hpair List.not_mem_nil⟩
  | cons entry entries ih =>
    have hnext : (position + entry.encode.length) % 4 = 0 := by
      rw [Nat.add_mod, haligned, entry.length_encode_mod]
    obtain ⟨found, hread, hentries, hpositions⟩ :=
      ih (fun other hother ↦ hfits other (List.mem_cons_of_mem _ hother)) hnext
    refine ⟨(position, entry) :: found, ?_, ?_, ?_⟩
    · rw [List.flatMap_cons, readToEnd_cons (hfits entry List.mem_cons_self) haligned, hread]
      rfl
    · rw [List.map_cons, hentries]
    · intro pair hpair
      rcases List.mem_cons.1 hpair with rfl | hpair
      · exact haligned
      · exact hpositions pair hpair

end TclB220G.Lib.Newc
