import TclB220G.Lib.Unicode

/-!
# Reading provisioning files from a DPP image

`tools/qcom_dpp.py` walks the directory of an RWFS image that comes from a raw partition, so every
word it reads is untrusted.  The model keeps the exceptions of the interpreter apart: `struct` and
codec errors have constructors of their own, and showing that only `DppError` leaves
`readRwfsFile` means showing that the explicit checks stand before every read.

`readRwfsFile_ok_iff` is the exact acceptance condition, stated on the image alone: the header
fits, and a first matching entry is preceded by sound entries only.  The later part of the
directory has no say in where the data is taken from.
-/

namespace TclB220G.Dpp

open Lib Lib.Text

/-- What can leave a Python call of this tool. -/
inductive Exn where
  | dppError (message : Text)
  | structError
  deriving DecidableEq, Repr

abbrev Py := Except Exn

def rwfsMagic : Bytes := [0x52, 0x57, 0x46, 0x53]

def rwfsBlobSize : ℕ := 0xF4

/-- The statement `raise DppError(...)`. -/
def raise {α : Type} (message : Text) : Py α := .error (.dppError message)

/-- The `#x` presentation of an integer. -/
def formatHex (value : ℤ) : Text :=
  (if value < 0 then ofString "-" else []) ++ ofString "0x" ++ hexNumeral value.natAbs

/-- The word `struct.unpack_from("<I", buffer, offset)[0]`. -/
def unpackWord (buffer : Bytes) (offset : ℕ) : Py ℕ :=
  if offset + 4 ≤ buffer.length then .ok (buffer.littleEndian 4 offset) else .error .structError

/-- The four words of `struct.unpack_from("<IIII", entry, 0xC4)`. -/
structure BlobWords where
  regionLen : ℕ
  dataLen : ℕ
  present : ℕ
  relative : ℕ
  deriving DecidableEq, Repr

def blobWordsAt (buffer : Bytes) (offset : ℕ) : BlobWords where
  regionLen := buffer.littleEndian 4 offset
  dataLen := buffer.littleEndian 4 (offset + 4)
  present := buffer.littleEndian 4 (offset + 8)
  relative := buffer.littleEndian 4 (offset + 12)

def unpackBlobWords (buffer : Bytes) (offset : ℕ) : Py BlobWords :=
  if offset + 16 ≤ buffer.length then .ok (blobWordsAt buffer offset) else .error .structError

def u32 (data : Bytes) (offset : ℤ) : Py ℕ :=
  if offset < 0 ∨ offset + 4 > data.length then
    raise (ofString "u32 at " ++ formatHex offset ++ ofString " lies outside the DPP image")
  else unpackWord data offset.toNat

def utf16Name (raw : Bytes) : Py Text :=
  match decodeUtf16le raw with
  | some text => .ok (text.takeWhile (· ≠ 0))
  | none => raise (ofString "invalid UTF-16LE RWFS directory entry")

/-- Where an accepted directory entry keeps its data. -/
structure Located where
  name : Text
  start : ℕ
  stop : ℕ
  deriving DecidableEq, Repr

/-- Body of the directory loop up to the name comparison; `none` is the `break`. -/
def readEntry (image : Bytes) (dataStart tableEnd offset : ℕ) : Py (Option Located) :=
  if offset + rwfsBlobSize > tableEnd then raise (ofString "truncated RWFS directory entry") else do
    let entry := image.slice offset (offset + rwfsBlobSize)
    let name ← utf16Name (entry.slice 0 98)
    let words ← unpackBlobWords entry 0xC4
    if words.present = 0 then return none
    if name = [] then raise (ofString "present RWFS entry has no name")
    else if words.dataLen > words.regionLen then
      raise (name ++ ofString ": data is larger than its RWFS region")
    else
      let start := dataStart + words.relative
      let stop := start + words.dataLen
      if start < dataStart ∨ stop > image.length then
        raise (name ++ ofString ": data lies outside the DPP image")
      else return some { name, start, stop }

def walkDirectory (image : Bytes) (wanted : Text) (dataStart tableEnd : ℕ) : List ℕ → Py Bytes
  | [] => raise (wanted ++ ofString " is absent from DPP")
  | offset :: rest => do
    match ← readEntry image dataStart tableEnd offset with
    | none => raise (wanted ++ ofString " is absent from DPP")
    | some located =>
      if casefold located.name = casefold wanted then
        return image.slice located.start located.stop
      else walkDirectory image wanted dataStart tableEnd rest

/-- Python's `range(start, stop, step)` for a positive step. -/
def range (start stop step : ℕ) : List ℕ := List.range' start ((stop - start + step - 1) / step) step

def readRwfsFile (image : Bytes) (wanted : Text) : Py Bytes :=
  if image.length < 0x60 ∨ image.slice 0 4 ≠ rwfsMagic then
    raise (ofString "not a Qualcomm DPP RWFS image")
  else do
    let second ← u32 image 0x08
    if second + 0x40 > image.length ∨ image.slice second (second + 4) ≠ rwfsMagic then
      raise (ofString "invalid RWFS second header")
    else
      let tableOffset ← u32 image (second + 0x08)
      let tableSize ← u32 image (second + 0x0C)
      let dataStart ← u32 image (second + 0x14)
      let tableEnd := tableOffset + tableSize
      if tableOffset < second ∨ tableEnd > image.length then
        raise (ofString "RWFS directory lies outside the DPP image")
      else
        walkDirectory image wanted dataStart tableEnd (range tableOffset tableEnd rwfsBlobSize)

/-! ## Single reads -/

theorem u32_natCast (data : Bytes) (offset : ℕ) (hfits : offset + 4 ≤ data.length) :
    u32 data offset = .ok (data.littleEndian 4 offset) := by
  have hinside : ¬ ((offset : ℤ) < 0 ∨ (offset : ℤ) + 4 > data.length) := by omega
  simp [u32, unpackWord, hinside, hfits]

variable (image : Bytes)

variable (offset : ℕ)

/-- Inside the image, the name field of an entry is the name field of the image. -/
theorem slice_entry_name :
    (image.slice offset (offset + rwfsBlobSize)).slice 0 98 = image.slice offset (offset + 98) := by
  apply List.ext_getElem?
  intro index
  simp only [Bytes.getElem?_slice, rwfsBlobSize, Nat.zero_add]
  by_cases hindex : index < 98
  · rw [if_pos hindex, if_pos (by omega), if_pos (by omega)]
  · rw [if_neg hindex, if_neg (by omega)]

/-! ## What the image says -/

/-- The words of the two headers that locate the directory. -/
structure Directory where
  second : ℕ
  tableOffset : ℕ
  tableSize : ℕ
  dataStart : ℕ
  deriving DecidableEq, Repr

def directory (image : Bytes) : Directory where
  second := image.littleEndian 4 8
  tableOffset := image.littleEndian 4 (image.littleEndian 4 8 + 8)
  tableSize := image.littleEndian 4 (image.littleEndian 4 8 + 0xC)
  dataStart := image.littleEndian 4 (image.littleEndian 4 8 + 0x14)

def Directory.tableEnd (dir : Directory) : ℕ := dir.tableOffset + dir.tableSize

/-- Position of the entry with the given number. -/
def Directory.entryOffset (dir : Directory) (index : ℕ) : ℕ :=
  dir.tableOffset + rwfsBlobSize * index

/-- Both headers are in place and the directory lies inside the image, not before the second
header. -/
structure HeaderFits (image : Bytes) : Prop where
  long : 0x60 ≤ image.length
  magic : image.slice 0 4 = rwfsMagic
  secondFits : (directory image).second + 0x40 ≤ image.length
  secondMagic : image.slice (directory image).second ((directory image).second + 4) = rwfsMagic
  notBefore : (directory image).second ≤ (directory image).tableOffset
  tableFits : (directory image).tableEnd ≤ image.length

/-- Name of the entry at a position; `none` when the field is not UTF-16LE. -/
def entryName (image : Bytes) (offset : ℕ) : Option Text :=
  (decodeUtf16le (image.slice offset (offset + 98))).map (·.takeWhile (· ≠ 0))

def entryWords (image : Bytes) (offset : ℕ) : BlobWords := blobWordsAt image (offset + 0xC4)

def entryStart (image : Bytes) (offset : ℕ) : ℕ :=
  (directory image).dataStart + (entryWords image offset).relative

def entryStop (image : Bytes) (offset : ℕ) : ℕ :=
  entryStart image offset + (entryWords image offset).dataLen

/-- An entry the walk passes over or stops at with success: whole, decodable, present, named, no
larger than its region and with its data inside the image. -/
structure SoundEntry (image : Bytes) (offset : ℕ) : Prop where
  whole : offset + rwfsBlobSize ≤ (directory image).tableEnd
  decodable : entryName image offset ≠ none
  present : (entryWords image offset).present ≠ 0
  named : entryName image offset ≠ some []
  fitsRegion : (entryWords image offset).dataLen ≤ (entryWords image offset).regionLen
  inside : entryStop image offset ≤ image.length

/-- The entry's name is the wanted one, ignoring case. -/
def EntryMatches (image : Bytes) (wanted : Text) (offset : ℕ) : Prop :=
  (entryName image offset).map casefold = some (casefold wanted)

/-- The four words of an entry are words of the image. -/
theorem unpackBlobWords_entry {offset : ℕ} (hfits : offset + rwfsBlobSize ≤ image.length) :
    unpackBlobWords (image.slice offset (offset + rwfsBlobSize)) 0xC4 =
      .ok (entryWords image offset) := by
  have hlength : (image.slice offset (offset + rwfsBlobSize)).length = rwfsBlobSize := by
    rw [Bytes.length_slice image hfits]
    omega
  rw [unpackBlobWords, hlength, if_pos (by decide)]
  simp only [entryWords, blobWordsAt]
  rw [Bytes.littleEndian_slice image (by simp only [rwfsBlobSize]; omega),
    Bytes.littleEndian_slice image (by simp only [rwfsBlobSize]; omega),
    Bytes.littleEndian_slice image (by simp only [rwfsBlobSize]; omega),
    Bytes.littleEndian_slice image (by simp only [rwfsBlobSize]; omega)]

theorem utf16Name_entry :
    utf16Name ((image.slice offset (offset + rwfsBlobSize)).slice 0 98) =
      match entryName image offset with
      | some name => .ok name
      | none => raise (ofString "invalid UTF-16LE RWFS directory entry") := by
  rw [slice_entry_name, utf16Name, entryName]
  cases decodeUtf16le (image.slice offset (offset + 98)) <;> rfl

/-- One pass of the loop over an entry that is whole, in the words of the image. -/
theorem readEntry_whole {offset : ℕ} (htable : (directory image).tableEnd ≤ image.length)
    (hwhole : offset + rwfsBlobSize ≤ (directory image).tableEnd) :
    readEntry image (directory image).dataStart (directory image).tableEnd offset =
      match entryName image offset with
      | none => raise (ofString "invalid UTF-16LE RWFS directory entry")
      | some name =>
        if (entryWords image offset).present = 0 then .ok none
        else if name = [] then raise (ofString "present RWFS entry has no name")
        else if (entryWords image offset).dataLen > (entryWords image offset).regionLen then
          raise (name ++ ofString ": data is larger than its RWFS region")
        else if entryStop image offset > image.length then
          raise (name ++ ofString ": data lies outside the DPP image")
        else .ok (some ⟨name, entryStart image offset, entryStop image offset⟩) := by
  rw [readEntry, if_neg (not_lt.mpr hwhole)]
  dsimp only
  rw [utf16Name_entry, unpackBlobWords_entry image (hwhole.trans htable)]
  cases entryName image offset with
  | none => rfl
  | some name =>
    have hstart : (directory image).dataStart ≤ entryStart image offset := Nat.le_add_right _ _
    have hinside : (entryStart image offset < (directory image).dataStart ∨
        entryStop image offset > image.length) ↔ entryStop image offset > image.length :=
      or_iff_right (not_lt.mpr hstart)
    simp only [bind, Except.bind, pure, Except.pure]
    exact if_congr Iff.rfl rfl (if_congr Iff.rfl rfl (if_congr Iff.rfl rfl (if_congr hinside rfl rfl)))

/-- One pass of the loop accepts an entry exactly when the image says it is sound. -/
theorem readEntry_some_iff (located : Located) (htable : (directory image).tableEnd ≤ image.length) :
    readEntry image (directory image).dataStart (directory image).tableEnd offset =
        .ok (some located) ↔
      SoundEntry image offset ∧ entryName image offset = some located.name ∧
        located.start = entryStart image offset ∧ located.stop = entryStop image offset := by
  constructor
  · intro h
    by_cases hwhole : offset + rwfsBlobSize ≤ (directory image).tableEnd
    · rw [readEntry_whole image htable hwhole] at h
      cases hname : entryName image offset with
      | none => rw [hname] at h; cases h
      | some name =>
        rw [hname] at h
        dsimp only at h
        split_ifs at h with hpresent hnamed hregion hinside <;> cases h
        refine ⟨⟨hwhole, by simp [hname], hpresent, by simpa [hname] using hnamed, ?_, ?_⟩,
          rfl, rfl, rfl⟩
        · exact not_lt.mp hregion
        · exact not_lt.mp hinside
    · rw [readEntry, if_pos (not_le.mp hwhole)] at h
      cases h
  · rintro ⟨hsound, hname, hstart, hstop⟩
    have hnamed : located.name ≠ [] := by
      intro hempty
      exact hsound.named (hname.trans (congrArg some hempty))
    rw [readEntry_whole image htable hsound.whole, hname]
    dsimp only
    rw [if_neg hsound.present, if_neg hnamed, if_neg (not_lt.mpr hsound.fitsRegion),
      if_neg (not_lt.mpr hsound.inside), ← hstart, ← hstop]

/-- A pass that fails raises `DppError`: the explicit checks stand before every unpacking. -/
theorem readEntry_error (exn : Exn) (htable : (directory image).tableEnd ≤ image.length)
    (h : readEntry image (directory image).dataStart (directory image).tableEnd offset =
      .error exn) :
    ∃ message, exn = .dppError message := by
  by_cases hwhole : offset + rwfsBlobSize ≤ (directory image).tableEnd
  · rw [readEntry_whole image htable hwhole] at h
    cases hname : entryName image offset with
    | none =>
      rw [hname] at h
      exact ⟨_, (Except.error.inj h).symm⟩
    | some name =>
      rw [hname] at h
      simp only [raise] at h
      split_ifs at h <;> exact ⟨_, (Except.error.inj h).symm⟩
  · rw [readEntry, if_pos (not_le.mp hwhole)] at h
    exact ⟨_, (Except.error.inj h).symm⟩

/-! ## The walk -/

theorem exists_readEntry_of_sound {image : Bytes} {offset : ℕ}
    (htable : (directory image).tableEnd ≤ image.length) (hsound : SoundEntry image offset) :
    ∃ located, readEntry image (directory image).dataStart (directory image).tableEnd offset =
      .ok (some located) := by
  obtain ⟨name, hname⟩ := Option.ne_none_iff_exists'.mp hsound.decodable
  exact ⟨⟨name, entryStart image offset, entryStop image offset⟩,
    (readEntry_some_iff image offset _ htable).mpr ⟨hsound, hname, rfl, rfl⟩⟩

variable (wanted : Text)

/-- The walk from a given position stops with success at the first matching entry, provided every
entry up to it is sound. -/
theorem walkDirectory_ok_iff (data : Bytes) (htable : (directory image).tableEnd ≤ image.length)
    (count start : ℕ) :
    walkDirectory image wanted (directory image).dataStart (directory image).tableEnd
        (List.range' start count rwfsBlobSize) = .ok data ↔
      ∃ index < count, (∀ earlier ≤ index, SoundEntry image (start + rwfsBlobSize * earlier)) ∧
        (∀ earlier < index, ¬ EntryMatches image wanted (start + rwfsBlobSize * earlier)) ∧
        EntryMatches image wanted (start + rwfsBlobSize * index) ∧
        data = image.slice (entryStart image (start + rwfsBlobSize * index))
          (entryStop image (start + rwfsBlobSize * index)) := by
  induction count generalizing start with
  | zero => simp [walkDirectory, raise]
  | succ count ih =>
    have hshift (index : ℕ) :
        start + rwfsBlobSize + rwfsBlobSize * index = start + rwfsBlobSize * (index + 1) := by
      ring
    rw [List.range'_succ, walkDirectory]
    by_cases hsound : SoundEntry image start
    · obtain ⟨located, hread⟩ := exists_readEntry_of_sound htable hsound
      obtain ⟨-, hname, hstart, hstop⟩ := (readEntry_some_iff image start located htable).mp hread
      have hmatches : EntryMatches image wanted start ↔
          casefold located.name = casefold wanted := by
        simp [EntryMatches, hname]
      simp only [hread, bind, Except.bind, pure, Except.pure]
      split
      · rename_i hequal
        constructor
        · intro hdata
          refine ⟨0, Nat.succ_pos count, ?_, by simp, by simpa [hmatches] using hequal, ?_⟩
          · intro earlier hearlier
            simpa [Nat.le_zero.mp hearlier] using hsound
          · simpa [hstart, hstop] using (Except.ok.inj hdata).symm
        · rintro ⟨index, -, -, hbefore, -, hdata⟩
          cases index with
          | zero => simp [hdata, hstart, hstop]
          | succ index => exact absurd (hmatches.mpr hequal) (by simpa using hbefore 0 (by simp))
      · rename_i hdiffer
        rw [ih]
        simp only [hshift]
        constructor
        · rintro ⟨index, hcount, hsounds, hbefore, hhere, hdata⟩
          refine ⟨index + 1, by omega, ?_, ?_, hhere, hdata⟩
          · rintro (_ | earlier) hearlier
            · simpa using hsound
            · exact hsounds earlier (by omega)
          · rintro (_ | earlier) hearlier
            · simpa [hmatches] using hdiffer
            · exact hbefore earlier (by omega)
        · rintro ⟨index, hcount, hsounds, hbefore, hhere, hdata⟩
          cases index with
          | zero => exact absurd (hmatches.mp (by simpa using hhere)) hdiffer
          | succ index =>
            exact ⟨index, by omega, fun earlier hearlier ↦ hsounds (earlier + 1) (by omega),
              fun earlier hearlier ↦ hbefore (earlier + 1) (by omega), hhere, hdata⟩
    · constructor
      · intro hdata
        cases hread : readEntry image (directory image).dataStart (directory image).tableEnd start with
        | error exn => simp [hread, bind, Except.bind] at hdata
        | ok found =>
          cases found with
          | none => simp [hread, bind, Except.bind, raise] at hdata
          | some located =>
            exact absurd ((readEntry_some_iff image start located htable).mp hread).1 hsound
      · rintro ⟨index, -, hsounds, -⟩
        exact absurd (by simpa using hsounds 0 (Nat.zero_le index)) hsound

theorem walkDirectory_error (exn : Exn) (htable : (directory image).tableEnd ≤ image.length)
    (offsets : List ℕ)
    (h : walkDirectory image wanted (directory image).dataStart (directory image).tableEnd offsets = .error exn) :
    ∃ message, exn = .dppError message := by
  induction offsets with
  | nil => exact ⟨_, (Except.error.inj h).symm⟩
  | cons offset rest ih =>
    rw [walkDirectory] at h
    cases hread : readEntry image (directory image).dataStart (directory image).tableEnd offset with
    | error inner =>
      simp only [hread, bind, Except.bind, Except.error.injEq] at h
      exact readEntry_error image offset exn htable (h ▸ hread)
    | ok found =>
      cases found with
      | none =>
        simp only [hread, bind, Except.bind] at h
        exact ⟨_, (Except.error.inj h).symm⟩
      | some located =>
        simp only [hread, bind, Except.bind] at h
        split at h
        · cases h
        · exact ih h

/-! ## The whole read -/

/-- Either the headers fit and the walk decides, or one of the header checks raises. -/
theorem readRwfsFile_cases :
    (HeaderFits image ∧ readRwfsFile image wanted =
      walkDirectory image wanted (directory image).dataStart (directory image).tableEnd
        (range (directory image).tableOffset (directory image).tableEnd rwfsBlobSize)) ∨
    (¬ HeaderFits image ∧ ∃ message, readRwfsFile image wanted = raise message) := by
  by_cases hfirst : image.length < 0x60 ∨ image.slice 0 4 ≠ rwfsMagic
  · refine .inr ⟨fun hfits ↦ ?_, _, by rw [readRwfsFile, if_pos hfirst]⟩
    exact hfirst.elim (fun hshort ↦ absurd hfits.long (not_le.mpr hshort)) (· hfits.magic)
  obtain ⟨hlong, hmagic⟩ := not_or.mp hfirst
  have hsecond : u32 image 0x08 = .ok (directory image).second := u32_natCast image 8 (by omega)
  by_cases hheader : (directory image).second + 0x40 > image.length ∨
      image.slice (directory image).second ((directory image).second + 4) ≠ rwfsMagic
  · refine .inr ⟨fun hfits ↦ ?_, ofString "invalid RWFS second header", ?_⟩
    · exact hheader.elim (fun hout ↦ absurd hfits.secondFits (not_le.mpr hout)) (· hfits.secondMagic)
    · rw [readRwfsFile, if_neg hfirst, hsecond]
      simp only [bind, Except.bind, if_pos hheader]
  obtain ⟨hsecondFits, hsecondMagic⟩ := not_or.mp hheader
  have hwalk : readRwfsFile image wanted =
      if (directory image).tableOffset < (directory image).second ∨
          (directory image).tableEnd > image.length then
        raise (ofString "RWFS directory lies outside the DPP image")
      else walkDirectory image wanted (directory image).dataStart (directory image).tableEnd
        (range (directory image).tableOffset (directory image).tableEnd rwfsBlobSize) := by
    have hoffset := u32_natCast image ((directory image).second + 0x08) (by omega)
    have hsize := u32_natCast image ((directory image).second + 0x0C) (by omega)
    have hstart := u32_natCast image ((directory image).second + 0x14) (by omega)
    push_cast at hoffset hsize hstart
    rw [readRwfsFile, if_neg hfirst, hsecond]
    simp only [bind, Except.bind, if_neg hheader, hoffset, hsize, hstart]
    rfl
  by_cases htable : (directory image).tableOffset < (directory image).second ∨
      (directory image).tableEnd > image.length
  · refine .inr ⟨fun hfits ↦ ?_, _, by rw [hwalk, if_pos htable]⟩
    exact htable.elim (fun hbefore ↦ absurd hfits.notBefore (not_le.mpr hbefore))
      (fun hout ↦ absurd hfits.tableFits (not_le.mpr hout))
  · obtain ⟨hnotBefore, htableFits⟩ := not_or.mp htable
    refine .inl ⟨⟨not_lt.mp hlong, not_not.mp hmagic, not_lt.mp hsecondFits,
      not_not.mp hsecondMagic, not_lt.mp hnotBefore, not_lt.mp htableFits⟩, ?_⟩
    rw [hwalk, if_neg htable]

/-- The entry with this number is the first one with the wanted name, and it and all entries
before it are sound. -/
structure FirstMatch (image : Bytes) (wanted : Text) (index : ℕ) : Prop where
  sound : ∀ earlier ≤ index, SoundEntry image ((directory image).entryOffset earlier)
  first : ∀ earlier < index, ¬ EntryMatches image wanted ((directory image).entryOffset earlier)
  matching : EntryMatches image wanted ((directory image).entryOffset index)

/-- Data of the entry with this number. -/
def entryData (image : Bytes) (index : ℕ) : Bytes :=
  image.slice (entryStart image ((directory image).entryOffset index))
    (entryStop image ((directory image).entryOffset index))

/-- A whole entry is one the loop visits. -/
theorem lt_of_whole (dir : Directory) {index : ℕ}
    (h : dir.entryOffset index + rwfsBlobSize ≤ dir.tableEnd) :
    index < (dir.tableEnd - dir.tableOffset + rwfsBlobSize - 1) / rwfsBlobSize := by
  have hsize : rwfsBlobSize * (index + 1) ≤
      dir.tableEnd - dir.tableOffset + rwfsBlobSize - 1 := by
    simp only [Directory.entryOffset, Directory.tableEnd, rwfsBlobSize] at *
    omega
  exact (Nat.le_div_iff_mul_le (by decide)).mpr (by rwa [Nat.mul_comm] at hsize)

theorem readRwfsFile_ok_iff (data : Bytes) :
    readRwfsFile image wanted = .ok data ↔
      HeaderFits image ∧ ∃ index, FirstMatch image wanted index ∧ data = entryData image index := by
  rcases readRwfsFile_cases image wanted with ⟨hfits, hread⟩ | ⟨hbad, message, hread⟩
  · rw [hread, range, walkDirectory_ok_iff image wanted data hfits.tableFits]
    constructor
    · rintro ⟨index, -, hsound, hfirst, hmatching, hdata⟩
      exact ⟨hfits, index, ⟨hsound, hfirst, hmatching⟩, hdata⟩
    · rintro ⟨-, index, hmatch, hdata⟩
      exact ⟨index, lt_of_whole _ (hmatch.sound index le_rfl).whole, hmatch.sound, hmatch.first,
        hmatch.matching, hdata⟩
  · rw [hread]
    exact ⟨fun h ↦ (by cases h), fun h ↦ absurd h.1 hbad⟩

theorem readRwfsFile_error (exn : Exn) (h : readRwfsFile image wanted = .error exn) :
    ∃ message, exn = .dppError message := by
  rcases readRwfsFile_cases image wanted with ⟨hfits, hread⟩ | ⟨-, message, hread⟩
  · exact walkDirectory_error image wanted exn hfits.tableFits _ (hread ▸ h)
  · rw [hread] at h
    exact ⟨message, (Except.error.inj h).symm⟩

/-! ## Later entries have no say -/

/-- The second image differs from the first one only in directory entries after a given one. -/
structure SameUpTo (image other : Bytes) (index : ℕ) : Prop where
  length : other.length = image.length
  octets : ∀ position, position < (directory image).entryOffset (index + 1) ∨
    (directory image).tableEnd ≤ position → other[position]? = image[position]?

/-- The directory never starts before the second header, so both headers lie before the second
directory entry. -/
theorem HeaderFits.second_le_entryOffset {image : Bytes} (hfits : HeaderFits image) (index : ℕ) :
    (directory image).second + rwfsBlobSize ≤ (directory image).entryOffset (index + 1) := by
  have hbefore := hfits.notBefore
  simp only [Directory.entryOffset, rwfsBlobSize]
  omega

section Later

variable {image other : Bytes} {index : ℕ} (hsame : SameUpTo image other index)
include hsame

theorem littleEndian_eq_of_sameUpTo {width offset : ℕ}
    (h : offset + width ≤ (directory image).entryOffset (index + 1)) :
    other.littleEndian width offset = image.littleEndian width offset :=
  Bytes.littleEndian_congr fun position _ hposition ↦ hsame.octets position (.inl (by omega))

theorem slice_eq_of_sameUpTo {start stop : ℕ}
    (h : stop ≤ (directory image).entryOffset (index + 1)) :
    other.slice start stop = image.slice start stop :=
  Bytes.slice_congr fun position _ hposition ↦ hsame.octets position (.inl (by omega))

theorem directory_eq_of_sameUpTo (hfits : HeaderFits image) : directory other = directory image := by
  have hlater := hfits.second_le_entryOffset index
  have hsecond : other.littleEndian 4 8 = (directory image).second :=
    littleEndian_eq_of_sameUpTo hsame (by simp only [rwfsBlobSize] at hlater; omega)
  simp only [rwfsBlobSize] at hlater
  rw [directory, hsecond, littleEndian_eq_of_sameUpTo hsame (by omega),
    littleEndian_eq_of_sameUpTo hsame (by omega), littleEndian_eq_of_sameUpTo hsame (by omega)]
  rfl

theorem headerFits_of_sameUpTo (hfits : HeaderFits image) : HeaderFits other := by
  have hlater := hfits.second_le_entryOffset index
  simp only [rwfsBlobSize] at hlater
  have hdirectory := directory_eq_of_sameUpTo hsame hfits
  refine ⟨hsame.length ▸ hfits.long, ?_, ?_, ?_, ?_, ?_⟩
  · rw [slice_eq_of_sameUpTo hsame (by omega)]
    exact hfits.magic
  · rw [hdirectory, hsame.length]
    exact hfits.secondFits
  · rw [hdirectory, slice_eq_of_sameUpTo hsame (by omega)]
    exact hfits.secondMagic
  · rw [hdirectory]
    exact hfits.notBefore
  · rw [hdirectory, hsame.length]
    exact hfits.tableFits

/-- Entries up to the given one read the same. -/
theorem entry_eq_of_sameUpTo {earlier : ℕ} (h : earlier ≤ index) :
    entryName other ((directory image).entryOffset earlier) =
        entryName image ((directory image).entryOffset earlier) ∧
      entryWords other ((directory image).entryOffset earlier) =
        entryWords image ((directory image).entryOffset earlier) := by
  have hlater : (directory image).entryOffset earlier + rwfsBlobSize ≤
      (directory image).entryOffset (index + 1) := by
    have hmono : rwfsBlobSize * (earlier + 1) ≤ rwfsBlobSize * (index + 1) :=
      Nat.mul_le_mul_left _ (by omega)
    simp only [Directory.entryOffset]
    rw [Nat.mul_succ] at hmono
    omega
  simp only [rwfsBlobSize] at hlater
  constructor
  · rw [entryName, slice_eq_of_sameUpTo hsame (by omega), entryName]
  · simp only [entryWords, blobWordsAt]
    rw [littleEndian_eq_of_sameUpTo hsame (by omega), littleEndian_eq_of_sameUpTo hsame (by omega),
      littleEndian_eq_of_sameUpTo hsame (by omega), littleEndian_eq_of_sameUpTo hsame (by omega)]

theorem firstMatch_of_sameUpTo {wanted : Text} (hfits : HeaderFits image)
    (hmatch : FirstMatch image wanted index) : FirstMatch other wanted index := by
  have hdirectory := directory_eq_of_sameUpTo hsame hfits
  refine ⟨fun earlier hearlier ↦ ?_, fun earlier hearlier ↦ ?_, ?_⟩
  · obtain ⟨hname, hwords⟩ := entry_eq_of_sameUpTo hsame hearlier
    have hsound := hmatch.sound earlier hearlier
    have hstop : entryStop other ((directory image).entryOffset earlier) =
        entryStop image ((directory image).entryOffset earlier) := by
      simp only [entryStop, entryStart, hdirectory, hwords]
    rw [hdirectory]
    exact ⟨hdirectory ▸ hsound.whole, hname ▸ hsound.decodable, hwords ▸ hsound.present,
      hname ▸ hsound.named, hwords ▸ hsound.fitsRegion, by
        rw [hstop, hsame.length]
        exact hsound.inside⟩
  · rw [hdirectory, EntryMatches, (entry_eq_of_sameUpTo hsame hearlier.le).1]
    exact hmatch.first earlier hearlier
  · rw [hdirectory, EntryMatches, (entry_eq_of_sameUpTo hsame le_rfl).1]
    exact hmatch.matching

/-- The data is taken from the same place, whatever the later entries say. -/
theorem readRwfsFile_of_sameUpTo {wanted : Text} (hfits : HeaderFits image)
    (hmatch : FirstMatch image wanted index) :
    readRwfsFile other wanted =
      .ok (other.slice (entryStart image ((directory image).entryOffset index))
        (entryStop image ((directory image).entryOffset index))) := by
  have hdirectory := directory_eq_of_sameUpTo hsame hfits
  have hwords := (entry_eq_of_sameUpTo hsame le_rfl).2
  refine (readRwfsFile_ok_iff other wanted _).mpr
    ⟨headerFits_of_sameUpTo hsame hfits, index, firstMatch_of_sameUpTo hsame hfits hmatch, ?_⟩
  simp only [entryData, entryStop, entryStart, hdirectory, hwords]

end Later

/-- Exact behaviour of `read_rwfs_file` on every image and every name: it raises nothing but
`DppError`, it succeeds exactly on a first match among sound entries with that entry's data, and
directory entries after the match change neither the verdict nor the place of the data. -/
theorem readRwfsFile_exact (image : Bytes) (wanted : Text) :
    (∀ exn, readRwfsFile image wanted = .error exn → ∃ message, exn = .dppError message) ∧
    (∀ data, readRwfsFile image wanted = .ok data ↔
      HeaderFits image ∧ ∃ index, FirstMatch image wanted index ∧ data = entryData image index) ∧
    (∀ index other, HeaderFits image → FirstMatch image wanted index → SameUpTo image other index →
      readRwfsFile other wanted =
        .ok (other.slice (entryStart image ((directory image).entryOffset index))
          (entryStop image ((directory image).entryOffset index)))) :=
  ⟨readRwfsFile_error image wanted, readRwfsFile_ok_iff image wanted,
    fun _ _ hfits hmatch hsame ↦ readRwfsFile_of_sameUpTo hsame hfits hmatch⟩

end TclB220G.Dpp
