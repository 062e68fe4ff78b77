import TclB220G.Dpp.EarlyCpio

/-!
# The initramfs writer

`add` appends one newc member to the archive unless its name was added before.  Both paddings are
computed from the length of the whole archive; `add_fresh` shows that this is the padding of the
member on its own, because the archive always ends at a multiple of four.  The format has eight
digits for the length of a name, so a name of `2 ^ 32 - 1` octets is where the writer and the
format part.
-/

namespace TclB220G.UbuntuBase

open Lib Lib.Text Lib.Newc Dpp

/-- The arguments of one call. -/
structure AddCall where
  name : Text
  mode : ℕ
  data : Bytes := []
  major : ℕ := 0
  minor : ℕ := 0
  deriving DecidableEq, Repr

/-- The module's variables `archive` and `seen`. -/
structure Initramfs where
  archive : Bytes
  seen : List Text
  deriving DecidableEq, Repr

/-- The exception of `str.encode`. -/
inductive EncodeError where
  | unicodeEncodeError
  deriving DecidableEq, Repr

/-- Code points that UTF-8 has an encoding for; lone surrogates have none. -/
def Encodable (name : Text) : Prop :=
  ∀ point ∈ name, point < 0xD800 ∨ 0xE000 ≤ point ∧ point < 0x110000

instance (name : Text) : Decidable (Encodable name) :=
  inferInstanceAs (Decidable (∀ point ∈ name, point < 0xD800 ∨ 0xE000 ≤ point ∧ point < 0x110000))

/-- The octets `070701` with the fields and the name. -/
def headerOf (call : AddCall) : Bytes :=
  let name := encodeUtf8 call.name ++ [0]
  let fields := [1, call.mode, 0, 0, 1, 0, call.data.length, 0, 0, call.major, call.minor,
    name.length, 0]
  magic ++ encodeUtf8 (fields.flatMap formatHex08) ++ name

def add (writer : Initramfs) (call : AddCall) : Except EncodeError Initramfs :=
  if call.name ∈ writer.seen then .ok writer
  else if Encodable call.name then
    let archive := writer.archive ++ headerOf call
    let archive := archive ++ List.replicate (padding archive.length 4) 0
    let archive := archive ++ call.data
    let archive := archive ++ List.replicate (padding archive.length 4) 0
    .ok ⟨archive, call.name :: writer.seen⟩
  else .error .unicodeEncodeError

/-- A sequence of calls; the first exception ends it. -/
def addAll (writer : Initramfs) (calls : List AddCall) : Except EncodeError Initramfs :=
  calls.foldlM add writer

/-- The module before the first call. -/
def Initramfs.empty : Initramfs := ⟨[], []⟩

/-! ## Calls and members -/

namespace AddCall

/-- The member that a call stands for. -/
def member (call : AddCall) : Newc.Entry where
  ino := 1
  mode := call.mode
  uid := 0
  gid := 0
  nlink := 1
  mtime := 0
  devMajor := 0
  devMinor := 0
  rdevMajor := call.major
  rdevMinor := call.minor
  check := 0
  name := encodeUtf8 call.name
  data := call.data

/-- Arguments of the kinds that the archive is for: no NUL in the name, numbers of 32 bits and data
shorter than `2 ^ 32` octets. -/
structure Sound (call : AddCall) : Prop where
  name : 0 ∉ call.name
  mode : call.mode < 2 ^ 32
  data : call.data.length < 2 ^ 32
  major : call.major < 2 ^ 32
  minor : call.minor < 2 ^ 32

/-- The length of the name, with its NUL, has eight digits. -/
def NameFits (call : AddCall) : Prop := (encodeUtf8 call.name).length + 1 < 2 ^ 32

end AddCall

/-- The first call for every name. -/
def firstCalls : List AddCall → List AddCall
  | [] => []
  | call :: calls => call :: (firstCalls calls).filter (·.name ≠ call.name)

/-! ## One call -/

theorem pos_of_mem_utf8Octets {point octet : ℕ} (hpos : 0 < point) (hpoint : point < 0x110000)
    (h : octet ∈ utf8Octets point) : 0 < octet ∧ octet < 256 := by
  unfold utf8Octets at h
  split_ifs at h <;> simp only [List.mem_cons, List.not_mem_nil, or_false] at h <;> omega

/-- Encoding adds no NUL to a name. -/
theorem zero_notMem_encodeUtf8 {name : Text} (hname : 0 ∉ name) (hencodable : Encodable name) :
    (0 : UInt8) ∉ encodeUtf8 name := by
  intro hzero
  obtain ⟨octet, hoctet, heq⟩ := List.mem_map.1 hzero
  obtain ⟨point, hpoint, hmem⟩ := List.mem_flatMap.1 hoctet
  have hpos : 0 < point := Nat.pos_of_ne_zero fun h ↦ hname (h ▸ hpoint)
  have hbound : point < 0x110000 := by
    have hcases := hencodable point hpoint
    omega
  have hrange := pos_of_mem_utf8Octets hpos hbound hmem
  have hvalue : (UInt8.ofNat octet).toNat = 0 := congrArg UInt8.toNat heq
  rw [UInt8.toNat_ofNat_of_lt' hrange.2] at hvalue
  omega

namespace AddCall

theorem fields_member_lt {call : AddCall} (hsound : call.Sound) (hname : call.NameFits) :
    ∀ field ∈ call.member.fields, field < 2 ^ 32 := by
  intro field hfield
  have hmode := hsound.mode
  have hdata := hsound.data
  have hmajor := hsound.major
  have hminor := hsound.minor
  rw [NameFits] at hname
  simp only [Newc.Entry.fields, member, List.mem_cons, List.not_mem_nil, or_false] at hfield
  omega

theorem member_fits {call : AddCall} (hsound : call.Sound) (hname : call.NameFits)
    (hencodable : Encodable call.name) : call.member.Fits where
  fields := fields_member_lt hsound hname
  name := zero_notMem_encodeUtf8 hsound.name hencodable

end AddCall

variable {call : AddCall}

/-- Numbers of 32 bits give the header of the format. -/
theorem headerOf_eq_headed (hfields : ∀ field ∈ call.member.fields, field < 2 ^ 32) :
    headerOf call = call.member.headed := by
  have hlist : [1, call.mode, 0, 0, 1, 0, call.data.length, 0, 0, call.major, call.minor,
      (encodeUtf8 call.name ++ [0]).length, 0] = call.member.fields := by
    simp [AddCall.member, Newc.Entry.fields]
  rw [headerOf, hlist, encodeUtf8_flatMap_formatHex08 _ hfields, Newc.Entry.headed]
  simp only [AddCall.member, List.append_assoc]

/-- At an aligned position, padding measured from the start of the archive is padding measured from
the start of the member. -/
theorem padded_append {front : Bytes} (hfront : front.length % 4 = 0) (body : Bytes) :
    front ++ body ++ List.replicate (padding (front ++ body).length 4) 0 =
      front ++ (body ++ List.replicate (padding body.length 4) 0) := by
  have hpadding : padding (front ++ body).length 4 = padding body.length 4 := by
    apply padding_congr
    rw [List.length_append]
    omega
  rw [hpadding, List.append_assoc]

variable {writer : Initramfs}

/-- A call with a new name appends one member, padded on its own. -/
theorem add_fresh (haligned : writer.archive.length % 4 = 0)
    (hfields : ∀ field ∈ call.member.fields, field < 2 ^ 32) (hfresh : call.name ∉ writer.seen)
    (hencodable : Encodable call.name) :
    add writer call = .ok ⟨writer.archive ++ call.member.encode, call.name :: writer.seen⟩ := by
  rw [add, if_neg hfresh, if_pos hencodable]
  simp only [headerOf_eq_headed hfields]
  rw [padded_append haligned, List.append_assoc writer.archive, padded_append haligned]
  rfl

/-! ## A sequence of calls -/

/-- The calls that append a member, when some names were added before. -/
def written (seen : List Text) (calls : List AddCall) : List AddCall :=
  (firstCalls calls).filter (·.name ∉ seen)

theorem written_nil (calls : List AddCall) : written [] calls = firstCalls calls := by
  rw [written, List.filter_eq_self]
  intro call _
  exact decide_eq_true List.not_mem_nil

theorem written_cons_of_mem {seen : List Text} (h : call.name ∈ seen) (calls : List AddCall) :
    written seen (call :: calls) = written seen calls := by
  rw [written, firstCalls, List.filter_cons_of_neg (by simpa using h), List.filter_filter]
  apply List.filter_congr
  intro other _
  by_cases hother : other.name ∈ seen
  · simp [hother]
  · have hne : other.name ≠ call.name := fun heq ↦ hother (heq ▸ h)
    simp [hother, hne]

theorem written_cons_of_notMem {seen : List Text} (h : call.name ∉ seen) (calls : List AddCall) :
    written seen (call :: calls) = call :: written (call.name :: seen) calls := by
  rw [written, firstCalls, List.filter_cons_of_pos (by simpa using h), List.filter_filter, written]
  congr 1
  apply List.filter_congr
  intro other _
  simp [Bool.and_comm]

theorem addAll_cons (writer : Initramfs) (call : AddCall) (calls : List AddCall) :
    addAll writer (call :: calls) = (add writer call).bind (addAll · calls) :=
  List.foldlM_cons

theorem add_of_mem (h : call.name ∈ writer.seen) :
    add writer call = .ok writer :=
  if_pos h

theorem add_eq_error (hfresh : call.name ∉ writer.seen) (hencodable : ¬Encodable call.name) :
    add writer call = .error .unicodeEncodeError := by
  rw [add, if_neg hfresh, if_neg hencodable]

/-- A sequence that raises nothing appends the members of the first calls, in order.  The induction
carries that the archive ends at a multiple of four. -/
theorem archive_addAll {calls : List AddCall} (hsound : ∀ call ∈ calls, call.Sound)
    (hnames : ∀ call ∈ calls, call.NameFits) {writer final : Initramfs}
    (haligned : writer.archive.length % 4 = 0) (h : addAll writer calls = .ok final) :
    final.archive = writer.archive ++
        (written writer.seen calls).flatMap (fun call ↦ call.member.encode) ∧
      ∀ call ∈ written writer.seen calls, call.member.Fits := by
  induction calls generalizing writer with
  | nil =>
    cases h
    exact ⟨(List.append_nil _).symm, fun _ hcall ↦ absurd hcall List.not_mem_nil⟩
  | cons call calls ih =>
    have hsound' : ∀ other ∈ calls, other.Sound := fun other hother ↦
      hsound other (List.mem_cons_of_mem _ hother)
    have hnames' : ∀ other ∈ calls, other.NameFits := fun other hother ↦
      hnames other (List.mem_cons_of_mem _ hother)
    have hcall := hsound call List.mem_cons_self
    have hname := hnames call List.mem_cons_self
    rw [addAll_cons] at h
    by_cases hseen : call.name ∈ writer.seen
    · rw [add_of_mem hseen] at h
      rw [written_cons_of_mem hseen]
      exact ih hsound' hnames' haligned h
    · by_cases hencodable : Encodable call.name
      · rw [add_fresh haligned (AddCall.fields_member_lt hcall hname) hseen hencodable] at h
        have hnext : (writer.archive ++ call.member.encode).length % 4 = 0 := by
          rw [List.length_append, Nat.add_mod, haligned, call.member.length_encode_mod]
        obtain ⟨harchive, hfits⟩ := ih hsound' hnames' hnext h
        rw [written_cons_of_notMem hseen]
        constructor
        · rw [harchive, List.flatMap_cons, List.append_assoc]
        · intro other hother
          rcases List.mem_cons.1 hother with heq | hother
          · rw [heq]
            exact AddCall.member_fits hcall hname hencodable
          · exact hfits other hother
      · rw [add_eq_error hseen hencodable] at h
        cases h

/-- Only a name with a lone surrogate raises. -/
theorem exists_addAll_iff {calls : List AddCall} (hseen : ∀ name ∈ writer.seen, Encodable name) :
    (∃ final, addAll writer calls = .ok final) ↔ ∀ call ∈ calls, Encodable call.name := by
  induction calls generalizing writer with
  | nil => exact ⟨fun _ _ hcall ↦ absurd hcall List.not_mem_nil, fun _ ↦ ⟨writer, rfl⟩⟩
  | cons call calls ih =>
    rw [addAll_cons, List.forall_mem_cons]
    by_cases hold : call.name ∈ writer.seen
    · rw [add_of_mem hold, and_iff_right (hseen _ hold)]
      exact ih hseen
    · by_cases hencodable : Encodable call.name
      · rw [add, if_neg hold, if_pos hencodable, and_iff_right hencodable]
        apply ih
        rw [List.forall_mem_cons]
        exact ⟨hencodable, hseen⟩
      · rw [add_eq_error hold hencodable]
        exact ⟨fun ⟨_, h⟩ ↦ (nomatch h), fun h ↦ absurd h.1 hencodable⟩

/-- The archive reads back as the first call for every name, each member starts at a multiple of
four, and the archive is the concatenation of the members padded on their own. -/
theorem readToEnd_addAll {calls : List AddCall} (hsound : ∀ call ∈ calls, call.Sound)
    (hnames : ∀ call ∈ calls, call.NameFits) :
    ((∃ final, addAll .empty calls = .ok final) ↔ ∀ call ∈ calls, Encodable call.name) ∧
    ∀ final, addAll .empty calls = .ok final →
      (∃ found, readToEnd 0 final.archive = some found ∧
        found.map Prod.snd = (firstCalls calls).map AddCall.member ∧
        ∀ pair ∈ found, pair.1 % 4 = 0) ∧
      final.archive = (firstCalls calls).flatMap fun call ↦ call.member.encode := by
  constructor
  · exact exists_addAll_iff fun _ hname ↦ absurd hname List.not_mem_nil
  · intro final h
    obtain ⟨harchive, hfits⟩ := archive_addAll hsound hnames rfl h
    have hempty : written Initramfs.empty.seen calls = firstCalls calls := written_nil calls
    rw [hempty] at harchive hfits
    have hmembers : final.archive = ((firstCalls calls).map AddCall.member).flatMap Entry.encode := by
      rw [harchive, List.flatMap_map]
      rfl
    refine ⟨?_, harchive⟩
    rw [hmembers]
    apply readToEnd_encode _ _ rfl
    intro entry hentry
    obtain ⟨call, hcall, rfl⟩ := List.mem_map.1 hentry
    exact hfits call hcall

/-- Calls with a repeated name and with a member after the name that ends other archives. -/
def mixedCalls : List AddCall :=
  [{ name := ofString "bin", mode := 0o040755 },
    { name := ofString "dev/console", mode := 0o020600, major := 5, minor := 1 },
    { name := ofString "TRAILER!!!", mode := 0 },
    { name := ofString "bin", mode := 0o100644, data := [1, 2, 3] },
    { name := ofString "init", mode := 0o100755, data := [7] }]

theorem sound_mixedCalls : (∀ call ∈ mixedCalls, call.Sound) ∧ ∀ call ∈ mixedCalls, call.NameFits := by
  constructor
  · intro call hcall
    simp only [mixedCalls, List.mem_cons, List.not_mem_nil, or_false] at hcall
    rcases hcall with rfl | rfl | rfl | rfl | rfl <;>
      exact ⟨by decide, by decide, by decide, by decide, by decide⟩
  · intro call hcall
    simp only [mixedCalls, List.mem_cons, List.not_mem_nil, or_false] at hcall
    rcases hcall with rfl | rfl | rfl | rfl | rfl <;> unfold AddCall.NameFits <;> decide

/-- Four members come back; the second call for the name `bin` left none. -/
theorem readToEnd_addAll_mixed : ∃ final found, addAll .empty mixedCalls = .ok final ∧
    readToEnd 0 final.archive = some found ∧
    found.map Prod.snd = ([mixedCalls[0], mixedCalls[1], mixedCalls[2], mixedCalls[4]] :
      List AddCall).map AddCall.member := by
  obtain ⟨hends, hread⟩ := readToEnd_addAll sound_mixedCalls.1 sound_mixedCalls.2
  obtain ⟨final, hfinal⟩ := hends.2 (by decide)
  obtain ⟨⟨found, hfound, hmembers, -⟩, -⟩ := hread final hfinal
  exact ⟨final, found, hfinal, hfound, hmembers⟩

/-! ## A name that is too long for its field -/

/-- A call whose name is a number of letters. -/
def lettersCall (count : ℕ) : AddCall where
  name := List.replicate count 0x61
  mode := 0

theorem encodeUtf8_letters (count : ℕ) :
    encodeUtf8 (List.replicate count 0x61) = List.replicate count 0x61 := by
  rw [encodeUtf8_ascii, List.map_replicate]
  · rfl
  · intro point hpoint
    rw [List.eq_of_mem_replicate hpoint]
    decide

/-- What a reader takes for the fields when the length of the name has nine digits. -/
def shiftedFields : List ℕ := [1, 0, 0, 0, 1, 0, 0, 0, 0, 0, 0, 0x10000000, 0]

/-- The ninth digit moves everything behind it by one octet. -/
theorem encodeUtf8_overflow :
    encodeUtf8 ([1, 0, 0, 0, 1, 0, 0, 0, 0, 0, 0, 2 ^ 32, 0].flatMap formatHex08) =
      shiftedFields.flatMap hexField ++ [0x30] := by
  decide +kernel

theorem headerOf_letters {count : ℕ} (h : count + 1 = 2 ^ 32) :
    headerOf (lettersCall count) = magic ++ (shiftedFields.flatMap hexField ++
      (0x30 :: (List.replicate count 0x61 ++ [0]))) := by
  have hlength : (List.replicate count (0x61 : UInt8) ++ [0]).length = 2 ^ 32 := by
    rw [List.length_append, List.length_replicate]
    exact h
  simp only [headerOf, lettersCall, encodeUtf8_letters, hlength, List.length_nil,
    encodeUtf8_overflow, List.append_assoc]
  rfl

/-- The octets that the reader takes for the name end in a letter. -/
theorem readBody_letters {count : ℕ} (h : count + 1 = 2 ^ 28) (rest : Bytes) :
    readBody 0 shiftedFields (0x30 :: (List.replicate count 0x61 ++ rest)) = none := by
  have htake : take? 0x10000000 (0x30 :: (List.replicate count 0x61 ++ rest)) =
      some (0x30 :: List.replicate count 0x61, rest) := by
    rw [← List.cons_append]
    apply take?_append
    rw [List.length_cons, List.length_replicate, h]
    rfl
  have hname : readName (0x30 :: List.replicate count 0x61) = none := by
    obtain ⟨before, rfl⟩ : ∃ before, count = before + 1 := ⟨count - 1, by omega⟩
    rw [readName, List.replicate_succ', ← List.cons_append, List.getLast?_concat]
    exact if_neg fun hlast ↦ absurd hlast.1 (by decide)
  simp only [shiftedFields, readBody, htake, Option.bind_eq_bind, Option.bind_some, hname,
    Option.bind_none]

theorem readEntry_letters {count : ℕ} (h : count + 1 = 2 ^ 32) (rest : Bytes) :
    Newc.readEntry 0 (headerOf (lettersCall count) ++ rest) = none := by
  have hheader (after : Bytes) :
      readHeader (magic ++ (shiftedFields.flatMap hexField ++ after)) = some (shiftedFields, after) := by
    rw [readHeader, take?_append (by rfl : magic.length = 6)]
    exact readFields_append shiftedFields (by decide) after
  obtain ⟨front, hfront⟩ : ∃ front, front + 1 = 2 ^ 28 := ⟨2 ^ 28 - 1, by omega⟩
  have hsplit : List.replicate count (0x61 : UInt8) =
      List.replicate front 0x61 ++ List.replicate (count - front) 0x61 := by
    rw [List.replicate_append_replicate, show front + (count - front) = count by omega]
  rw [headerOf_letters h, List.append_assoc, List.append_assoc, Newc.readEntry, hheader, hsplit]
  simp only [Option.bind_eq_bind, Option.bind_some, List.cons_append, List.append_assoc]
  exact readBody_letters hfront _

theorem sound_letters (count : ℕ) : (lettersCall count).Sound where
  name := fun hzero ↦ absurd (List.eq_of_mem_replicate hzero) (by decide)
  mode := Nat.two_pow_pos 32
  data := Nat.two_pow_pos 32
  major := Nat.two_pow_pos 32
  minor := Nat.two_pow_pos 32

theorem add_letters (count : ℕ) :
    ∃ tail seen, add .empty (lettersCall count) = .ok ⟨headerOf (lettersCall count) ++ tail, seen⟩ := by
  have hencodable : Encodable (lettersCall count).name := by
    intro point hpoint
    rw [List.eq_of_mem_replicate hpoint]
    decide
  have hfresh : (lettersCall count).name ∉ Initramfs.empty.seen := List.not_mem_nil
  rw [add, if_neg hfresh, if_pos hencodable]
  simp only [Initramfs.empty, List.nil_append, List.append_assoc]
  exact ⟨_, _, rfl⟩

/-- With a name of `2 ^ 32 - 1` letters the archive no longer reads back. -/
theorem readToEnd_letters : (lettersCall (2 ^ 32 - 1)).Sound ∧
    ∃ final, addAll .empty [lettersCall (2 ^ 32 - 1)] = .ok final ∧
      readToEnd 0 final.archive = none := by
  refine ⟨sound_letters _, ?_⟩
  obtain ⟨count, hcount, h⟩ : ∃ count, count = 2 ^ 32 - 1 ∧ count + 1 = 2 ^ 32 := ⟨_, rfl, by omega⟩
  rw [← hcount]
  obtain ⟨tail, seen, hadd⟩ := add_letters count
  refine ⟨⟨headerOf (lettersCall count) ++ tail, seen⟩, ?_, ?_⟩
  · rw [addAll_cons, hadd]
    rfl
  · apply readToEnd_of_readEntry_eq_none _ (readEntry_letters h tail)
    rw [headerOf_letters h]
    exact List.cons_ne_nil _ _

end TclB220G.UbuntuBase
