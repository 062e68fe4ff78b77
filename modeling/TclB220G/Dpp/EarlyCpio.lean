import TclB220G.Lib.Newc

/-!
# The early ACPI override archive

`build_early_cpio` wraps a compiled table in the uncompressed archive that the boot loader hands to
the kernel.  The table is arbitrary binary data, so it may contain anything that looks like archive
structure.  `readArchive_buildEarlyCpio` reads the whole result back with the independent newc
reader: three directories, the table octet for octet, the trailer and zeros up to a multiple of
512.
-/

namespace TclB220G.Dpp

open Lib Lib.Text Lib.Newc

/-- The `08x` presentation of a natural number. -/
def formatHex08 (value : ℕ) : Text := (hexNumeral value).leftpad 8 0x30

def newcEntry (name : Text) (mode : ℕ) (data : Bytes) (inode : ℕ) : Bytes :=
  let encoded := encodeUtf8 name ++ [0]
  let fields := [inode, mode, 0, 0, 1, 0, data.length, 0, 0, 0, 0, encoded.length, 0]
  let header := magic ++ encodeUtf8 (fields.flatMap formatHex08)
  let named := header ++ encoded
  let aligned := named ++ List.replicate (padding named.length 4) 0
  let filled := aligned ++ data
  filled ++ List.replicate (padding filled.length 4) 0

/-- The file type `stat.S_IFDIR`. -/
def sIfdir : ℕ := 0o040000

/-- The file type `stat.S_IFREG`. -/
def sIfreg : ℕ := 0o100000

/-- The directories above the table. -/
def cpioDirectories : List String := ["kernel", "kernel/firmware", "kernel/firmware/acpi"]

/-- The directory loop; the second component is the inode counter. -/
def appendDirectories : List String → Bytes × ℕ → Bytes × ℕ
  | [], state => state
  | name :: names, (archive, inode) =>
    appendDirectories names
      (archive ++ newcEntry (ofString name) (sIfdir ||| 0o755) [] (inode + 1), inode + 1)

def buildEarlyCpio (aml : Bytes) : Bytes :=
  let (archive, inode) := appendDirectories cpioDirectories ([], 0)
  let inode := inode + 1
  let archive := archive ++
    newcEntry (ofString "kernel/firmware/acpi/tcl-input.aml") (sIfreg ||| 0o644) aml inode
  let inode := inode + 1
  let archive := archive ++ newcEntry (ofString "TRAILER!!!") 0 [] inode
  archive ++ List.replicate (padding archive.length 512) 0

/-! ## Entries as archive members -/

/-- The archive member that `newcEntry` writes. -/
def memberOf (name : Text) (mode : ℕ) (data : Bytes) (inode : ℕ) : Newc.Entry where
  ino := inode
  mode := mode
  uid := 0
  gid := 0
  nlink := 1
  mtime := 0
  devMajor := 0
  devMinor := 0
  rdevMajor := 0
  rdevMinor := 0
  check := 0
  name := encodeUtf8 name
  data := data

theorem encodeUtf8_ascii (text : Text) (h : ∀ point ∈ text, point < 0x80) :
    encodeUtf8 text = text.map UInt8.ofNat := by
  rw [encodeUtf8]
  congr 1
  induction text with
  | nil => rfl
  | cons point rest ih =>
    rw [List.flatMap_cons, ih fun other hother ↦ h other (List.mem_cons_of_mem _ hother)]
    simp [utf8Octets, h point (List.mem_cons_self ..)]

/-- A number below `2 ^ 32` prints as one header field. -/
theorem formatHex08_eq {value : ℕ} (h : value < 2 ^ 32) :
    (formatHex08 value).map UInt8.ofNat = hexField value ∧ ∀ point ∈ formatHex08 value, point < 0x80 := by
  have hdigits : formatHex08 value = (fixedDigits 8 value).map hexDigit :=
    leftpad_hexNumeral 7 value (by norm_num at h ⊢; exact h)
  constructor
  · rw [hdigits, List.map_map, hexField]
    rfl
  · intro point hpoint
    rw [hdigits] at hpoint
    obtain ⟨digit, hdigit, rfl⟩ := List.mem_map.mp hpoint
    have hsmall : digit < 16 := mem_fixedDigits hdigit
    simp only [hexDigit]
    split <;> omega

theorem encodeUtf8_flatMap_formatHex08 (values : List ℕ) (h : ∀ value ∈ values, value < 2 ^ 32) :
    encodeUtf8 (values.flatMap formatHex08) = values.flatMap hexField := by
  have hascii : ∀ point ∈ values.flatMap formatHex08, point < 0x80 := by
    intro point hpoint
    obtain ⟨value, hvalue, hmem⟩ := List.mem_flatMap.mp hpoint
    exact (formatHex08_eq (h value hvalue)).2 point hmem
  rw [encodeUtf8_ascii _ hascii, List.map_flatMap]
  exact List.flatMap_congr fun value hvalue ↦ (formatHex08_eq (h value hvalue)).1

/-- The source's writer produces the format's encoding of the member. -/
theorem newcEntry_eq_encode {name : Text} {mode : ℕ} {data : Bytes} {inode : ℕ}
    (hfields : ∀ field ∈ (memberOf name mode data inode).fields, field < 2 ^ 32) :
    newcEntry name mode data inode = (memberOf name mode data inode).encode := by
  have hheaded : magic ++ encodeUtf8 (List.flatMap formatHex08 [inode, mode, 0, 0, 1, 0, data.length,
      0, 0, 0, 0, (encodeUtf8 name ++ [0]).length, 0]) ++ (encodeUtf8 name ++ [0]) =
      (memberOf name mode data inode).headed := by
    have hlist : [inode, mode, 0, 0, 1, 0, data.length, 0, 0, 0, 0,
        (encodeUtf8 name ++ [0]).length, 0] = (memberOf name mode data inode).fields := by
      simp [memberOf, Newc.Entry.fields]
    rw [hlist, encodeUtf8_flatMap_formatHex08 _ hfields, Newc.Entry.headed]
    simp only [memberOf, List.append_assoc]
  simp only [newcEntry, hheaded, Newc.Entry.encode]
  rfl

/-! ## Reading the archive back -/

/-- The file type bits `stat.S_IFMT`. -/
def sIfmt : ℕ := 0o170000

/-- What kind of file a mode describes. -/
inductive FileKind where
  | directory
  | regular
  | other
  deriving DecidableEq, Repr

def kindOf (mode : ℕ) : FileKind :=
  if mode &&& sIfmt = sIfdir then .directory
  else if mode &&& sIfmt = sIfreg then .regular
  else .other

/-- Kind, name and data of a member. -/
def summary (entry : Newc.Entry) : FileKind × Bytes × Bytes :=
  (kindOf entry.mode, entry.name, entry.data)

/-- The members before the trailer. -/
def overrideMembers (aml : Bytes) : List Newc.Entry :=
  [memberOf (ofString "kernel") (sIfdir ||| 0o755) [] 1,
    memberOf (ofString "kernel/firmware") (sIfdir ||| 0o755) [] 2,
    memberOf (ofString "kernel/firmware/acpi") (sIfdir ||| 0o755) [] 3,
    memberOf (ofString "kernel/firmware/acpi/tcl-input.aml") (sIfreg ||| 0o644) aml 4]

def trailerMember : Newc.Entry := memberOf (ofString "TRAILER!!!") 0 [] 5

/-- A member with an ASCII name and numbers of 32 bits fits its header. -/
theorem memberOf_fits {name : Text} {mode : ℕ} {data : Bytes} {inode : ℕ}
    (hname : ∀ point ∈ name, 0 < point ∧ point < 0x80) (hlength : name.length + 1 < 2 ^ 32)
    (hmode : mode < 2 ^ 32) (hdata : data.length < 2 ^ 32) (hinode : inode < 2 ^ 32) :
    (memberOf name mode data inode).Fits := by
  have hencoded : encodeUtf8 name = name.map UInt8.ofNat :=
    encodeUtf8_ascii name fun point hpoint ↦ (hname point hpoint).2
  constructor
  · intro field hfield
    simp only [Newc.Entry.fields, memberOf, hencoded, List.length_map, List.mem_cons,
      List.not_mem_nil, or_false] at hfield
    omega
  · intro hzero
    obtain ⟨point, hpoint, heq⟩ := List.mem_map.mp (hencoded ▸ hzero : (0 : UInt8) ∈ name.map UInt8.ofNat)
    obtain ⟨hpositive, hsmall⟩ := hname point hpoint
    have hvalue := congrArg UInt8.toNat heq
    rw [UInt8.toNat_ofNat_of_lt' (hsmall.trans (by decide))] at hvalue
    exact absurd hvalue hpositive.ne'

theorem trailerMember_fits : trailerMember.Fits :=
  memberOf_fits (by decide) (by decide) (by decide) (by decide) (by decide)

theorem overrideMembers_fit {aml : Bytes} (h : aml.length < 2 ^ 32) :
    ∀ entry ∈ overrideMembers aml, entry.Fits ∧ entry.name ≠ trailerName := by
  intro entry hentry
  simp only [overrideMembers, List.mem_cons, List.not_mem_nil, or_false] at hentry
  rcases hentry with rfl | rfl | rfl | rfl
  · exact ⟨memberOf_fits (by decide) (by decide) (by decide) (by decide) (by decide), by decide⟩
  · exact ⟨memberOf_fits (by decide) (by decide) (by decide) (by decide) (by decide), by decide⟩
  · exact ⟨memberOf_fits (by decide) (by decide) (by decide) (by decide) (by decide), by decide⟩
  · refine ⟨memberOf_fits (by decide) (by decide) (by decide) h (by decide), ?_⟩
    change encodeUtf8 (ofString "kernel/firmware/acpi/tcl-input.aml") ≠ trailerName
    decide

/-- The archive is its members, the trailer and zeros up to a multiple of 512. -/
theorem buildEarlyCpio_eq {aml : Bytes} (h : aml.length < 2 ^ 32) :
    let body := (overrideMembers aml).flatMap Newc.Entry.encode ++ trailerMember.encode
    buildEarlyCpio aml = body ++ List.replicate (padding body.length 512) 0 := by
  have hfields := fun entry hentry ↦ (overrideMembers_fit h entry hentry).1.fields
  simp only [overrideMembers, List.forall_mem_cons] at hfields
  obtain ⟨hkernel, hfirmware, hacpi, htable, -⟩ := hfields
  simp only [buildEarlyCpio, appendDirectories, cpioDirectories, Nat.zero_add, List.nil_append]
  rw [newcEntry_eq_encode hkernel, newcEntry_eq_encode hfirmware, newcEntry_eq_encode hacpi,
    newcEntry_eq_encode htable, newcEntry_eq_encode trailerMember_fits.fields]
  simp only [overrideMembers, trailerMember, List.flatMap_cons, List.flatMap_nil,
    List.append_assoc, List.nil_append]

theorem map_summary_members (aml : Bytes) :
    (overrideMembers aml ++ [trailerMember]).map summary =
      [(.directory, encodeUtf8 (ofString "kernel"), []),
        (.directory, encodeUtf8 (ofString "kernel/firmware"), []),
        (.directory, encodeUtf8 (ofString "kernel/firmware/acpi"), []),
        (.regular, encodeUtf8 (ofString "kernel/firmware/acpi/tcl-input.aml"), aml),
        (.other, encodeUtf8 (ofString "TRAILER!!!"), [])] := by
  have hdirectory : kindOf (sIfdir ||| 0o755) = .directory := by decide
  have hregular : kindOf (sIfreg ||| 0o644) = .regular := by decide
  have hother : kindOf 0 = .other := by decide
  simp [overrideMembers, trailerMember, memberOf, summary, hdirectory, hregular, hother]

/-- Whatever octets the table holds, the archive reads back as the three directories, the table,
the trailer, and zeros up to a multiple of 512. -/
theorem readArchive_buildEarlyCpio (aml : Bytes) (h : aml.length < 2 ^ 32) :
    ∃ entries zeros, readArchive 0 (buildEarlyCpio aml) = some (entries, zeros) ∧
      entries.map summary =
        [(.directory, encodeUtf8 (ofString "kernel"), []),
          (.directory, encodeUtf8 (ofString "kernel/firmware"), []),
          (.directory, encodeUtf8 (ofString "kernel/firmware/acpi"), []),
          (.regular, encodeUtf8 (ofString "kernel/firmware/acpi/tcl-input.aml"), aml),
          (.other, encodeUtf8 (ofString "TRAILER!!!"), [])] ∧
      (∀ octet ∈ zeros, octet = 0) ∧ (buildEarlyCpio aml).length % 512 = 0 := by
  let body := (overrideMembers aml).flatMap Newc.Entry.encode ++ trailerMember.encode
  refine ⟨overrideMembers aml ++ [trailerMember], List.replicate (padding body.length 512) 0, ?_,
    map_summary_members aml, fun octet hoctet ↦ List.eq_of_mem_replicate hoctet, ?_⟩
  · rw [buildEarlyCpio_eq h, List.append_assoc]
    exact readArchive_encode _ (overrideMembers_fit h) trailerMember_fits rfl rfl _
  · rw [buildEarlyCpio_eq h, List.length_append, List.length_replicate]
    exact add_padding_mod _ (by decide)

/-- A table that is itself an archive header is read back as data. -/
theorem readArchive_buildEarlyCpio_magic :
    (magic ++ trailerName).length < 2 ^ 32 ∧
      ∃ entries zeros, readArchive 0 (buildEarlyCpio (magic ++ trailerName)) = some (entries, zeros) ∧
        entries.map summary =
          [(.directory, encodeUtf8 (ofString "kernel"), []),
            (.directory, encodeUtf8 (ofString "kernel/firmware"), []),
            (.directory, encodeUtf8 (ofString "kernel/firmware/acpi"), []),
            (.regular, encodeUtf8 (ofString "kernel/firmware/acpi/tcl-input.aml"),
              magic ++ trailerName),
            (.other, encodeUtf8 (ofString "TRAILER!!!"), [])] ∧
        (∀ octet ∈ zeros, octet = 0) ∧ (buildEarlyCpio (magic ++ trailerName)).length % 512 = 0 :=
  ⟨by decide, readArchive_buildEarlyCpio _ (by decide)⟩

end TclB220G.Dpp
