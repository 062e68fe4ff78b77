import Mathlib.Tactic.MkIffOfInductiveProp
import TclB220G.Dpp.Rwfs
import TclB220G.Lib.Utf16Field

/-!
# Octets of the directory that should have no say

A name ends at the first zero unit of its field, and a directory ends at the first entry that is not
present.  The octets after the zero unit and the other octets of an entry that is not present carry
no meaning.  `_utf16_name` nevertheless decodes the whole field before it cuts the name, so leftover
units that are no UTF-16 make an image unreadable.

Two images that differ only in such octets are compared.  They behave alike if and only if, up to the
entry with the wanted name, the leftover units of both decode or those of neither do.
-/

namespace TclB220G.Dpp

open Lib Lib.Text
open Lib.Bytes (ofWord)

/-! ## Octets without meaning -/

/-- The units of the name field of an entry. -/
def nameUnits (image : Bytes) (offset : ℕ) : List ℕ := unitsAt image 49 offset

/-- The position is in a word or signature that is read of the two headers. -/
def HeaderOctet (image : Bytes) (position : ℕ) : Prop :=
  position < 4 ∨ (8 ≤ position ∧ position < 12) ∨
    ((directory image).second ≤ position ∧ position < (directory image).second + 4) ∨
    ((directory image).second + 8 ≤ position ∧ position < (directory image).second + 0x10) ∨
    ((directory image).second + 0x14 ≤ position ∧ position < (directory image).second + 0x18)

instance (image : Bytes) (position : ℕ) : Decidable (HeaderOctet image position) :=
  inferInstanceAs (Decidable (_ ∨ _))

/-- The position is after the zero unit in the name field of the entry. -/
def AfterName (image : Bytes) (offset position : ℕ) : Prop :=
  offset + 2 * ((stem (nameUnits image offset)).length + 1) ≤ position ∧ position < offset + 98

/-- The entry is not present, and the position is in it but not in its flag. -/
def InAbsent (image : Bytes) (offset position : ℕ) : Prop :=
  (entryWords image offset).present = 0 ∧ offset ≤ position ∧ position < offset + rwfsBlobSize ∧
    ¬(offset + 0xCC ≤ position ∧ position < offset + 0xD0)

/-- The octet at the position carries no meaning. -/
def Free (image : Bytes) (position : ℕ) : Prop :=
  ¬HeaderOctet image position ∧ ∃ index,
    (directory image).entryOffset index + rwfsBlobSize ≤ (directory image).tableEnd ∧
      (AfterName image ((directory image).entryOffset index) position ∨
        InAbsent image ((directory image).entryOffset index) position)

/-- The second image differs from the first one in octets without meaning only. -/
structure SameButFree (image other : Bytes) : Prop where
  length : other.length = image.length
  octets : ∀ position, ¬Free image position → other[position]? = image[position]?

/-- Both images are refused, or both give the octets they have in one and the same place. -/
def Agree (image other : Bytes) (wanted : Text) : Prop :=
  ((∃ exn, readRwfsFile image wanted = .error exn) ∧
      ∃ exn, readRwfsFile other wanted = .error exn) ∨
    ∃ start stop, readRwfsFile image wanted = .ok (image.slice start stop) ∧
      readRwfsFile other wanted = .ok (other.slice start stop)

/-! ## Entries read up to the zero unit -/

/-- The name of an entry, from the units before the zero unit alone. -/
def stemName (image : Bytes) (offset : ℕ) : Option Text := decodeUnits (stem (nameUnits image offset))

/-- The units after the zero unit decode. -/
def LeftoverDecodes (image : Bytes) (offset : ℕ) : Prop :=
  decodeUnits (leftover (nameUnits image offset)) ≠ none

instance (image : Bytes) (offset : ℕ) : Decidable (LeftoverDecodes image offset) :=
  inferInstanceAs (Decidable (_ ≠ _))

/-- A sound entry, whatever is left over after its name. -/
@[mk_iff]
structure StemSound (image : Bytes) (offset : ℕ) : Prop where
  whole : offset + rwfsBlobSize ≤ (directory image).tableEnd
  decodable : stemName image offset ≠ none
  present : (entryWords image offset).present ≠ 0
  named : stemName image offset ≠ some []
  fitsRegion : (entryWords image offset).dataLen ≤ (entryWords image offset).regionLen
  inside : entryStop image offset ≤ image.length

def StemMatches (image : Bytes) (wanted : Text) (offset : ℕ) : Prop :=
  (stemName image offset).map casefold = some (casefold wanted)

/-- The entry that is meant by the wanted name. -/
@[mk_iff]
structure FirstStemMatch (image : Bytes) (wanted : Text) (index : ℕ) : Prop where
  sound : ∀ earlier ≤ index, StemSound image ((directory image).entryOffset earlier)
  first : ∀ earlier < index, ¬StemMatches image wanted ((directory image).entryOffset earlier)
  matching : StemMatches image wanted ((directory image).entryOffset index)

/-- Leftover units decode in the entry with this number and in all before it. -/
def CleanUpTo (image : Bytes) (index : ℕ) : Prop :=
  ∀ earlier ≤ index, LeftoverDecodes image ((directory image).entryOffset earlier)

variable {image : Bytes} {offset : ℕ}

theorem entryName_eq (hfits : offset + 98 ≤ image.length) :
    entryName image offset =
      (decodeUnits (leftover (nameUnits image offset))).bind fun _ ↦ stemName image offset := by
  have hunits : utf16Units (image.slice offset (offset + 2 * 49)) = some (nameUnits image offset) :=
    utf16Units_slice image hfits
  rw [entryName, decodeUtf16le, hunits, Option.bind_some]
  exact map_takeWhile_decodeUnits (nameUnits image offset)

theorem entryName_of_leftoverDecodes (hfits : offset + 98 ≤ image.length)
    (hleftover : LeftoverDecodes image offset) :
    entryName image offset = stemName image offset := by
  obtain ⟨text, htext⟩ := Option.ne_none_iff_exists'.1 hleftover
  rw [entryName_eq hfits, htext, Option.bind_some]

theorem leftoverDecodes_of_entryName (hfits : offset + 98 ≤ image.length)
    (hname : entryName image offset ≠ none) :
    LeftoverDecodes image offset := by
  intro hleftover
  rw [entryName_eq hfits, hleftover] at hname
  exact hname rfl

section

variable {image : Bytes} (htable : (directory image).tableEnd ≤ image.length)
include htable

theorem name_fits {offset : ℕ} (hwhole : offset + rwfsBlobSize ≤ (directory image).tableEnd) :
    offset + 98 ≤ image.length := by
  rw [rwfsBlobSize] at hwhole
  omega

/-- The walk accepts an entry if it is sound up to the zero unit and the leftover decodes. -/
theorem soundEntry_iff (offset : ℕ) :
    SoundEntry image offset ↔ StemSound image offset ∧ LeftoverDecodes image offset := by
  constructor
  · intro hsound
    have hfits := name_fits htable hsound.whole
    have hleftover := leftoverDecodes_of_entryName hfits hsound.decodable
    have hname := entryName_of_leftoverDecodes hfits hleftover
    exact ⟨⟨hsound.whole, hname ▸ hsound.decodable, hsound.present, hname ▸ hsound.named,
      hsound.fitsRegion, hsound.inside⟩, hleftover⟩
  · rintro ⟨hsound, hleftover⟩
    have hname := entryName_of_leftoverDecodes (name_fits htable hsound.whole) hleftover
    exact ⟨hsound.whole, hname ▸ hsound.decodable, hsound.present, hname ▸ hsound.named,
      hsound.fitsRegion, hsound.inside⟩

theorem entryMatches_iff (wanted : Text) {offset : ℕ} (hsound : StemSound image offset)
    (hleftover : LeftoverDecodes image offset) :
    EntryMatches image wanted offset ↔ StemMatches image wanted offset := by
  rw [EntryMatches, StemMatches,
    entryName_of_leftoverDecodes (name_fits htable hsound.whole) hleftover]

theorem firstMatch_iff (wanted : Text) (index : ℕ) :
    FirstMatch image wanted index ↔ FirstStemMatch image wanted index ∧ CleanUpTo image index := by
  constructor
  · intro hmatch
    have hsound (earlier : ℕ) (hearlier : earlier ≤ index) :=
      (soundEntry_iff htable _).1 (hmatch.sound earlier hearlier)
    have hmatches (earlier : ℕ) (hearlier : earlier ≤ index) :=
      entryMatches_iff htable wanted (hsound earlier hearlier).1 (hsound earlier hearlier).2
    exact ⟨⟨fun earlier hearlier ↦ (hsound earlier hearlier).1,
      fun earlier hearlier ↦ (hmatches earlier hearlier.le).not.1 (hmatch.first earlier hearlier),
      (hmatches index le_rfl).1 hmatch.matching⟩, fun earlier hearlier ↦ (hsound earlier hearlier).2⟩
  · rintro ⟨hmatch, hclean⟩
    have hmatches (earlier : ℕ) (hearlier : earlier ≤ index) :=
      entryMatches_iff htable wanted (hmatch.sound earlier hearlier) (hclean earlier hearlier)
    exact ⟨fun earlier hearlier ↦
        (soundEntry_iff htable _).2 ⟨hmatch.sound earlier hearlier, hclean earlier hearlier⟩,
      fun earlier hearlier ↦ (hmatches earlier hearlier.le).not.2 (hmatch.first earlier hearlier),
      (hmatches index le_rfl).2 hmatch.matching⟩

end

variable {wanted : Text}

theorem FirstStemMatch.unique {first second : ℕ} (hfirst : FirstStemMatch image wanted first)
    (hsecond : FirstStemMatch image wanted second) :
    first = second := by
  rcases Nat.lt_trichotomy first second with hlt | heq | hgt
  · exact absurd hfirst.matching (hsecond.first first hlt)
  · exact heq
  · exact absurd hsecond.matching (hfirst.first second hgt)

/-- An image is readable if its headers fit, an entry is meant by the name, and leftover units decode
up to that entry. -/
theorem readRwfsFile_ok_iff_clean (image : Bytes) (wanted : Text) (data : Bytes) :
    readRwfsFile image wanted = .ok data ↔
      HeaderFits image ∧ ∃ index, FirstStemMatch image wanted index ∧ CleanUpTo image index ∧
        data = entryData image index := by
  rw [readRwfsFile_ok_iff]
  refine and_congr_right fun hfits ↦ exists_congr fun index ↦ ?_
  rw [firstMatch_iff hfits.tableFits, and_assoc]

/-! ## What images share that differ in free octets only -/

theorem HeaderFits.of_eq {first second : Bytes} (hfits : HeaderFits first)
    (hlength : second.length = first.length) (hdirectory : directory second = directory first)
    (hmagic : second.slice 0 4 = first.slice 0 4)
    (hsecondMagic : second.slice (directory first).second ((directory first).second + 4) =
      first.slice (directory first).second ((directory first).second + 4)) :
    HeaderFits second := by
  refine ⟨hlength.symm ▸ hfits.long, hmagic.trans hfits.magic, ?_, ?_, ?_, ?_⟩
  · rw [hdirectory, hlength]
    exact hfits.secondFits
  · rw [hdirectory]
    exact hsecondMagic.trans hfits.secondMagic
  · rw [hdirectory]
    exact hfits.notBefore
  · rw [hdirectory, hlength]
    exact hfits.tableFits

theorem StemSound.congr {first second : Bytes} (hlength : second.length = first.length)
    (hdirectory : directory second = directory first)
    (hname : stemName second offset = stemName first offset)
    (hwords : entryWords second offset = entryWords first offset) :
    StemSound second offset ↔ StemSound first offset := by
  have hstop : entryStop second offset = entryStop first offset := by
    simp only [entryStop, entryStart, hdirectory, hwords]
  rw [stemSound_iff, stemSound_iff, hdirectory, hname, hwords, hstop, hlength]

/-- Entries do not overlap. -/
theorem entryOffset_injective_of_mem (dir : Directory) {first second position : ℕ}
    (hfirst : dir.entryOffset first ≤ position ∧ position < dir.entryOffset first + rwfsBlobSize)
    (hsecond : dir.entryOffset second ≤ position ∧
      position < dir.entryOffset second + rwfsBlobSize) :
    first = second := by
  simp only [Directory.entryOffset, rwfsBlobSize] at hfirst hsecond
  omega

variable {position : ℕ}

/-- A free octet of an entry is free because of that entry. -/
theorem Free.of_mem (hfree : Free image position) (index : ℕ)
    (hmem : (directory image).entryOffset index ≤ position ∧
      position < (directory image).entryOffset index + rwfsBlobSize) :
    AfterName image ((directory image).entryOffset index) position ∨
      InAbsent image ((directory image).entryOffset index) position := by
  obtain ⟨-, owner, -, hcause⟩ := hfree
  have howner : (directory image).entryOffset owner ≤ position ∧
      position < (directory image).entryOffset owner + rwfsBlobSize := by
    rw [rwfsBlobSize]
    rcases hcause with hafter | habsent
    · exact ⟨le_trans (Nat.le_add_right _ _) hafter.1, hafter.2.trans (by omega)⟩
    · exact ⟨habsent.2.1, habsent.2.2.1⟩
  rwa [← entryOffset_injective_of_mem _ howner hmem]

section SameButFree

variable {image other : Bytes} (hsame : SameButFree image other)
include hsame

theorem littleEndian_eq_of_header {width offset : ℕ}
    (h : ∀ position, offset ≤ position → position < offset + width → HeaderOctet image position) :
    other.littleEndian width offset = image.littleEndian width offset :=
  Bytes.littleEndian_congr fun position hfirst hlast ↦
    hsame.octets position fun hfree ↦ hfree.1 (h position hfirst hlast)

theorem slice_eq_of_header {start stop : ℕ}
    (h : ∀ position, start ≤ position → position < stop → HeaderOctet image position) :
    other.slice start stop = image.slice start stop :=
  Bytes.slice_congr fun position hfirst hlast ↦
    hsame.octets position fun hfree ↦ hfree.1 (h position hfirst hlast)

theorem directory_eq_of_sameButFree : directory other = directory image := by
  have hsecond : other.littleEndian 4 8 = image.littleEndian 4 8 :=
    littleEndian_eq_of_header hsame fun _ _ _ ↦ Or.inr (Or.inl (by omega))
  have hword (offset : ℕ) (hoffset : offset = 8 ∨ offset = 0xC ∨ offset = 0x14) :
      other.littleEndian 4 (image.littleEndian 4 8 + offset) =
        image.littleEndian 4 (image.littleEndian 4 8 + offset) := by
    apply littleEndian_eq_of_header hsame
    intro position hfirst hlast
    simp only [HeaderOctet, directory]
    omega
  rw [directory, hsecond, hword 8 (by simp), hword 0xC (by simp), hword 0x14 (by simp), directory]

theorem headerFits_iff_of_sameButFree : HeaderFits other ↔ HeaderFits image := by
  have hdirectory := directory_eq_of_sameButFree hsame
  have hmagic : other.slice 0 4 = image.slice 0 4 :=
    slice_eq_of_header hsame fun _ _ hlast ↦ Or.inl hlast
  have hsecondMagic : other.slice (directory image).second ((directory image).second + 4) =
      image.slice (directory image).second ((directory image).second + 4) :=
    slice_eq_of_header hsame fun _ hfirst hlast ↦ Or.inr (Or.inr (Or.inl ⟨hfirst, hlast⟩))
  constructor
  · intro hfits
    refine hfits.of_eq hsame.length.symm hdirectory.symm hmagic.symm ?_
    rw [hdirectory]
    exact hsecondMagic.symm
  · exact fun hfits ↦ hfits.of_eq hsame.length hdirectory hmagic hsecondMagic

theorem present_eq_of_sameButFree (index : ℕ) :
    (entryWords other ((directory image).entryOffset index)).present =
      (entryWords image ((directory image).entryOffset index)).present := by
  apply Bytes.littleEndian_congr
  intro position hfirst hlast
  refine hsame.octets position fun hfree ↦ ?_
  rcases hfree.of_mem index (by rw [rwfsBlobSize]; omega) with hafter | habsent
  · have hend := hafter.2
    omega
  · exact habsent.2.2.2 (by omega)

section Present

variable {index : ℕ}
  (hpresent : (entryWords image ((directory image).entryOffset index)).present ≠ 0)
include hpresent

theorem octet_eq_of_present (hmem : (directory image).entryOffset index ≤ position ∧
      position < (directory image).entryOffset index + rwfsBlobSize)
    (hname : ¬AfterName image ((directory image).entryOffset index) position) :
    other[position]? = image[position]? :=
  hsame.octets position fun hfree ↦
    (hfree.of_mem index hmem).elim hname fun habsent ↦ hpresent habsent.1

theorem words_eq_of_present :
    entryWords other ((directory image).entryOffset index) =
      entryWords image ((directory image).entryOffset index) := by
  have hword (start : ℕ) (hstart : 0xC4 ≤ start) (hstop : start + 4 ≤ rwfsBlobSize) :
      other.littleEndian 4 ((directory image).entryOffset index + start) =
        image.littleEndian 4 ((directory image).entryOffset index + start) := by
    apply Bytes.littleEndian_congr
    intro position hfirst hlast
    refine octet_eq_of_present hsame hpresent (by omega) fun hafter ↦ ?_
    have hend := hafter.2
    omega
  simp only [entryWords, blobWordsAt, Nat.add_assoc]
  rw [hword 0xC4 (by decide) (by decide), hword (0xC4 + 4) (by decide) (by decide),
    hword (0xC4 + 8) (by decide) (by decide), hword (0xC4 + 12) (by decide) (by decide)]

theorem stemName_eq_of_present :
    stemName other ((directory image).entryOffset index) =
      stemName image ((directory image).entryOffset index) := by
  have hstem : stem (nameUnits other ((directory image).entryOffset index)) =
      stem (nameUnits image ((directory image).entryOffset index)) := by
    apply stem_eq_of_take_eq
    rw [nameUnits, nameUnits, take_unitsAt, take_unitsAt, ← nameUnits]
    apply unitsAt_congr
    intro position hfirst hlast
    refine octet_eq_of_present hsame hpresent ?_ fun hafter ↦ ?_
    · rw [rwfsBlobSize]
      omega
    · have hend := hafter.1
      omega
  rw [stemName, stemName, hstem]

end Present

theorem stemSound_iff_of_sameButFree (index : ℕ) :
    StemSound other ((directory image).entryOffset index) ↔
      StemSound image ((directory image).entryOffset index) := by
  by_cases hpresent : (entryWords image ((directory image).entryOffset index)).present = 0
  · have hother := (present_eq_of_sameButFree hsame index).trans hpresent
    exact iff_of_false (fun hsound ↦ hsound.present hother) fun hsound ↦ hsound.present hpresent
  · exact StemSound.congr hsame.length (directory_eq_of_sameButFree hsame)
      (stemName_eq_of_present hsame hpresent) (words_eq_of_present hsame hpresent)

/-- The same entry is meant in both images. -/
theorem firstStemMatch_iff_of_sameButFree (wanted : Text) (index : ℕ) :
    FirstStemMatch other wanted index ↔ FirstStemMatch image wanted index := by
  rw [firstStemMatch_iff, firstStemMatch_iff, directory_eq_of_sameButFree hsame]
  simp only [stemSound_iff_of_sameButFree hsame]
  refine and_congr_right fun hsound ↦ ?_
  have hmatches (earlier : ℕ) (hearlier : earlier ≤ index) :
      StemMatches other wanted ((directory image).entryOffset earlier) ↔
        StemMatches image wanted ((directory image).entryOffset earlier) := by
    rw [StemMatches, stemName_eq_of_present hsame (hsound earlier hearlier).present, StemMatches]
  refine and_congr ?_ (hmatches index le_rfl)
  exact forall₂_congr fun earlier hearlier ↦ (hmatches earlier hearlier.le).not

/-- The entry that is meant keeps its data in the same place. -/
theorem entryData_of_sameButFree {index : ℕ} (hmatch : FirstStemMatch image wanted index) :
    entryData other index = other.slice (entryStart image ((directory image).entryOffset index))
      (entryStop image ((directory image).entryOffset index)) := by
  have hwords := words_eq_of_present hsame (hmatch.sound index le_rfl).present
  simp only [entryData, entryStop, entryStart, directory_eq_of_sameButFree hsame, hwords]

theorem readRwfsFile_ok_iff_of_sameButFree (wanted : Text) (data : Bytes) :
    readRwfsFile other wanted = .ok data ↔
      HeaderFits image ∧ ∃ index, FirstStemMatch image wanted index ∧ CleanUpTo other index ∧
        data = other.slice (entryStart image ((directory image).entryOffset index))
          (entryStop image ((directory image).entryOffset index)) := by
  rw [readRwfsFile_ok_iff_clean, headerFits_iff_of_sameButFree hsame]
  refine and_congr_right fun _ ↦ exists_congr fun index ↦ ?_
  rw [firstStemMatch_iff_of_sameButFree hsame]
  refine and_congr_right fun hmatch ↦ ?_
  rw [entryData_of_sameButFree hsame hmatch]

end SameButFree

/-! ## When leftover octets have no say -/

theorem exists_error_iff (result : Py Bytes) :
    (∃ exn, result = .error exn) ↔ ¬∃ data, result = .ok data := by
  cases result with
  | error exn => simp
  | ok data => simp

theorem cleanUpTo_iff_readable {index : ℕ} (hfits : HeaderFits image)
    (hmatch : FirstStemMatch image wanted index) :
    CleanUpTo image index ↔ ∃ data, readRwfsFile image wanted = .ok data := by
  simp only [readRwfsFile_ok_iff_clean]
  constructor
  · exact fun hclean ↦ ⟨entryData image index, hfits, index, hmatch, hclean, rfl⟩
  · rintro ⟨-, -, found, hfound, hclean, -⟩
    rwa [hmatch.unique hfound]

theorem Agree.readable_iff {image other : Bytes} (hagree : Agree image other wanted) :
    (∃ data, readRwfsFile image wanted = .ok data) ↔
      ∃ data, readRwfsFile other wanted = .ok data := by
  rcases hagree with ⟨himage, hother⟩ | ⟨start, stop, himage, hother⟩
  · exact iff_of_false ((exists_error_iff _).1 himage) ((exists_error_iff _).1 hother)
  · exact iff_of_true ⟨_, himage⟩ ⟨_, hother⟩

/-- Octets without meaning have no say exactly if the leftover units up to the entry that is meant
decode in both images or in neither.  Entries that are not present never matter. -/
theorem readRwfsFile_agree_iff (image other : Bytes) (hsame : SameButFree image other)
    (wanted : Text) :
    Agree image other wanted ↔
      (HeaderFits image → ∀ index, FirstStemMatch image wanted index →
        (CleanUpTo image index ↔ CleanUpTo other index)) := by
  have hother := readRwfsFile_ok_iff_of_sameButFree hsame wanted
  constructor
  · intro hagree hfits index hmatch
    rw [cleanUpTo_iff_readable hfits hmatch, hagree.readable_iff,
      cleanUpTo_iff_readable ((headerFits_iff_of_sameButFree hsame).2 hfits)
        ((firstStemMatch_iff_of_sameButFree hsame wanted index).2 hmatch)]
  · intro hclean
    by_cases hreadable : ∃ data, readRwfsFile image wanted = .ok data
    · obtain ⟨data, hdata⟩ := hreadable
      obtain ⟨hfits, index, hmatch, himage, rfl⟩ := (readRwfsFile_ok_iff_clean image wanted data).1 hdata
      exact Or.inr ⟨_, _, hdata,
        (hother _).2 ⟨hfits, index, hmatch, (hclean hfits index hmatch).1 himage, rfl⟩⟩
    · refine Or.inl ⟨(exists_error_iff _).2 hreadable, (exists_error_iff _).2 ?_⟩
      rintro ⟨data, hdata⟩
      obtain ⟨hfits, index, hmatch, hcleanOther, -⟩ := (hother data).1 hdata
      exact hreadable ((cleanUpTo_iff_readable hfits hmatch).1
        ((hclean hfits index hmatch).2 hcleanOther))

/-! ## A lone surrogate after the name -/

theorem sameButFree_set (hfree : Free image position) (octet : UInt8) :
    SameButFree image (image.set position octet) := by
  refine ⟨List.length_set, fun other hother ↦ List.getElem?_set_ne ?_⟩
  rintro rfl
  exact hother hfree

/-- The name of the file with the factory address. -/
def wlanFile : Text := ofString "WLAN.PROVISION"

/-- An image with one entry, of that name and with three octets of data. -/
def provisioned : Bytes :=
  rwfsMagic ++ ofWord 4 0 ++ ofWord 4 0x20 ++ List.replicate 20 0 ++
    rwfsMagic ++ ofWord 4 0 ++ ofWord 4 0x60 ++ ofWord 4 rwfsBlobSize ++ ofWord 4 0 ++
    ofWord 4 0x154 ++ List.replicate 40 0 ++
    (wlanFile.flatMap fun point ↦ [UInt8.ofNat point, 0]) ++ List.replicate 168 0 ++
    ofWord 4 3 ++ ofWord 4 3 ++ ofWord 4 1 ++ ofWord 4 0 ++ List.replicate 32 0 ++ [1, 7, 1]

/-- The same image after a longer name has left a high surrogate behind. -/
def leftBehind : Bytes := provisioned.set 0x7F 0xD8

theorem sameButFree_leftBehind : SameButFree provisioned leftBehind := by
  apply sameButFree_set
  refine ⟨by decide +kernel, 0, by decide +kernel, Or.inl ?_⟩
  rw [AfterName]
  decide +kernel

theorem readRwfsFile_provisioned : readRwfsFile provisioned wlanFile = .ok [1, 7, 1] := by
  decide +kernel

theorem readRwfsFile_leftBehind : readRwfsFile leftBehind wlanFile =
    raise (ofString "invalid UTF-16LE RWFS directory entry") := by
  decide +kernel

theorem not_agree_of_leftBehind : ¬Agree provisioned leftBehind wlanFile := by
  intro hagree
  obtain ⟨data, hdata⟩ := hagree.readable_iff.1 ⟨_, readRwfsFile_provisioned⟩
  rw [readRwfsFile_leftBehind] at hdata
  cases hdata

/-- The image is readable, and one octet after the zero unit makes it unreadable. -/
theorem leftBehind_unreadable :
    SameButFree provisioned leftBehind ∧ ¬Agree provisioned leftBehind wlanFile ∧
      readRwfsFile provisioned wlanFile = .ok [1, 7, 1] ∧
      readRwfsFile leftBehind wlanFile =
        raise (ofString "invalid UTF-16LE RWFS directory entry") :=
  ⟨sameButFree_leftBehind, not_agree_of_leftBehind, readRwfsFile_provisioned,
    readRwfsFile_leftBehind⟩

theorem readRwfsFile_agree_iff_leftBehind :
    SameButFree provisioned leftBehind ∧
      ¬(HeaderFits provisioned → ∀ index, FirstStemMatch provisioned wlanFile index →
        (CleanUpTo provisioned index ↔ CleanUpTo leftBehind index)) := by
  refine ⟨sameButFree_leftBehind, fun hclean ↦ not_agree_of_leftBehind ?_⟩
  exact (readRwfsFile_agree_iff provisioned leftBehind sameButFree_leftBehind wlanFile).2 hclean

end TclB220G.Dpp
