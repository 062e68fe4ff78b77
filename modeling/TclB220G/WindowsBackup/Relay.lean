import Mathlib.Logic.Function.Defs
import TclB220G.Lib.Bytes

/-!
# The backup of a LUN

`read-lun.py` runs on the laptop.  It reads a LUN, compresses it to its standard output and at the end
prints a report with the number of octets and their checksum to its standard error.  `relay.py` runs
where the backup is kept.  It decompresses what comes over the network, passes it on to its standard
output, and compares the report with what it has passed on.

Nothing is assumed of the network and of the two compression programs: the relay reads any octets in any
pieces, and every call of both scripts may raise an exception.
-/

namespace TclB220G.WindowsBackup

open Lib

/-! ## Model of the source -/

/-- The sizes of the LUNs, which both scripts have. -/
def sizes : List ℕ := [251331084288, 8388608, 8388608, 134217728, 4294967296, 134217728]

/-- The boot that `relay.py` asks for. -/
def boot : String := "15a44890-c95f-4081-8cab-3d71212e63bb"

/-- What the line with the report starts with. -/
def marker : String := "TCL_BACKUP_COMPLETE "

/-- How much `read-lun.py` reads at a time. -/
def chunkSize : ℕ := 4 * 1024 ^ 2

/-- Indexing of a Python list, where negative indices count from the end. -/
def pythonIndex {α : Type} (list : List α) (index : ℤ) : Option α :=
  if 0 ≤ index then list[index.toNat]?
  else if 0 ≤ index + list.length then list[(index + list.length).toNat]?
  else none

/-- What is compared of the report of `read-lun.py`. -/
structure Report (Digest : Type) where
  bytes : ℕ
  sha256 : Digest
  bootId : String
  deriving DecidableEq, Repr

/-- A read from the device: it gives at most so many octets, and hashing, compressing or reporting them
may raise; or it raises itself. -/
inductive DeviceRead where
  | gives (count : ℕ) (raises : Bool)
  | raises
  deriving DecidableEq, Repr

/-- What `read-lun.py` finds, and what comes of its calls. -/
structure Source where
  bootId : String
  /-- The block device is the only one that matches, of the right model and not mounted. -/
  admitted : Bool
  content : Bytes
  readonly : ℕ
  reads : List DeviceRead
  lastRead : DeviceRead
  closes : Bool
  compressorRc : ℤ
  saves : Bool

/-- The checks of `read-lun.py` before it opens the device. -/
def Source.admits (source : Source) (lun : ℤ) : Bool :=
  0 ≤ lun ∧ lun < sizes.length ∧ source.bootId = boot ∧ source.admitted

structure Reading where
  total : ℕ
  hashed : Bytes

/-- The data of a read at a position. -/
def DeviceRead.data (content : Bytes) (position limit : ℕ) : DeviceRead → Option Bytes
  | gives count _ => some ((content.drop position).take (min count limit))
  | raises => none

/-- What is done with the data raises. -/
def DeviceRead.raisesLater : DeviceRead → Bool
  | gives _ later => later
  | raises => false

/-- The loop of `read-lun.py`, and whether it ends without an exception. -/
def readLoop (content : Bytes) (expected : ℕ) : List DeviceRead → Reading → Bool × Reading
  | [], reading => (decide (expected ≤ reading.total), reading)
  | read :: rest, reading =>
    if reading.total < expected then
      match read.data content reading.total (min chunkSize (expected - reading.total)) with
      | none => (false, reading)
      | some data =>
        if data = [] then (false, reading)
        else if read.raisesLater then (false, { reading with hashed := reading.hashed ++ data })
        else readLoop content expected rest ⟨reading.total + data.length, reading.hashed ++ data⟩
    else (true, reading)

/-- The octets that `read-lun.py` has read and hashed, and the report if it prints one. -/
structure ReadOutcome (Digest : Type) where
  read : Bytes
  report : Option (Report Digest)

section

variable {Digest : Type} (sha256 : Bytes → Digest)

/-- The end of `read-lun.py`, after the loop. -/
def finishReading (source : Source) (reading : Reading) : Option (Report Digest) :=
  match source.lastRead.data source.content reading.total 1 with
  | some [] =>
    if source.closes ∧ source.compressorRc = 0 ∧ source.saves then
      some ⟨reading.total, sha256 reading.hashed, source.bootId⟩
    else none
  | _ => none

/-- The size and the state of the device are as expected. -/
def Source.isExpected (source : Source) (expected : ℕ) : Bool :=
  source.content.length = expected ∧ source.readonly = 1

def readLun (lun : ℤ) (source : Source) : ReadOutcome Digest :=
  if !source.admits lun then ⟨[], none⟩
  else
    match pythonIndex sizes lun with
    | none => ⟨[], none⟩
    | some expected =>
      if !source.isExpected expected then ⟨[], none⟩
      else
        match readLoop source.content expected source.reads ⟨0, []⟩ with
        | (false, reading) => ⟨reading.hashed, none⟩
        | (true, reading) => ⟨reading.hashed, finishReading sha256 source reading⟩

end

/-- A read from the decompressor, where passing the data on may raise; or it raises itself. -/
inductive PipeRead where
  | gives (data : Bytes) (raises : Bool)
  | raises
  deriving DecidableEq, Repr

/-- The fields of a JSON object that `relay.py` looks at, where they have a value of the right type. -/
structure Fields (Digest : Type) where
  bytes : Option ℕ
  sha256 : Option Digest
  bootId : Option String
  deriving DecidableEq, Repr

/-- What `relay.py` gets, and what comes of its calls.  The reads end with the end of the stream.  If an
exception ends the script, only the first octets that were passed on may have reached the standard
output. -/
structure Stream (Digest : Type) where
  starts : Bool
  reads : List PipeRead
  flushes : Bool
  reached : ℕ
  decodeRc : ℤ
  remoteRc : ℤ
  log : List String
  loads : String → Option (Fields Digest)
  saves : Bool
  prints : Bool

structure Relaying where
  total : ℕ
  hashed : Bytes
  forwarded : Bytes

/-- The loop of `relay.py`, and whether it ends without an exception. -/
def relayLoop (expected : ℕ) : List PipeRead → Relaying → Bool × Relaying
  | [], relaying => (true, relaying)
  | .raises :: _, relaying => (false, relaying)
  | .gives data raises :: rest, relaying =>
    if data = [] then (true, relaying)
    else if expected < relaying.total + data.length then
      (false, { relaying with total := relaying.total + data.length })
    else
      let relaying : Relaying := ⟨relaying.total + data.length, relaying.hashed ++ data,
        relaying.forwarded ++ data⟩
      if raises then (false, relaying) else relayLoop expected rest relaying

/-- The text after the marker. -/
def reportText (line : String) : Option String :=
  if marker.toList.isPrefixOf line.toList then
    some (String.ofList (line.toList.drop marker.toList.length))
  else none

structure RelayOutcome where
  status : ℕ
  stdout : Bytes

section

variable {Digest : Type} [DecidableEq Digest] (sha256 : Bytes → Digest)

/-- The comparison with the only report in the log. -/
def checkReport (stream : Stream Digest) (relaying : Relaying) : Bool :=
  match stream.log.filterMap reportText with
  | [text] =>
    match stream.loads text with
    | some fields =>
      fields.bytes = some relaying.total ∧ fields.sha256 = some (sha256 relaying.hashed) ∧
        fields.bootId = some boot
    | none => false
  | _ => false

def relay (lun : ℤ) (stream : Stream Digest) : RelayOutcome :=
  match pythonIndex sizes lun with
  | none => ⟨1, []⟩
  | some expected =>
    if !stream.starts then ⟨1, []⟩
    else
      match relayLoop expected stream.reads ⟨0, [], []⟩ with
      | (false, relaying) => ⟨1, relaying.forwarded.take stream.reached⟩
      | (true, relaying) =>
        if !stream.flushes then ⟨1, relaying.forwarded.take stream.reached⟩
        else if stream.decodeRc ≠ 0 ∨ stream.remoteRc ≠ 0 ∨ relaying.total ≠ expected then
          ⟨1, relaying.forwarded⟩
        else if checkReport sha256 stream relaying ∧ stream.saves ∧ stream.prints then
          ⟨0, relaying.forwarded⟩
        else ⟨1, relaying.forwarded⟩

end

/-! ## The reader -/

theorem DeviceRead.data_eq_some {content data : Bytes} {position limit : ℕ} {read : DeviceRead}
    (hdata : read.data content position limit = some data) :
    ∃ count ≤ limit, data = (content.drop position).take count := by
  cases read with
  | raises => cases hdata
  | gives count raises =>
    cases hdata
    exact ⟨min count limit, Nat.min_le_right _ _, rfl⟩

/-- What has been hashed is the beginning of the content. -/
structure Reading.Sound (reading : Reading) (content : Bytes) (expected : ℕ) : Prop where
  hashed : reading.hashed = content.take reading.total
  total_le : reading.total ≤ expected

variable {expected : ℕ}

/-- One turn of the loop takes the reading on by the data that was read. -/
theorem Reading.Sound.advance {reading : Reading} {content data : Bytes} {read : DeviceRead}
    (hsound : reading.Sound content expected)
    (hdata : read.data content reading.total (min chunkSize (expected - reading.total)) = some data) :
    Reading.Sound ⟨reading.total + data.length, reading.hashed ++ data⟩ content expected := by
  obtain ⟨count, hcount, rfl⟩ := DeviceRead.data_eq_some hdata
  have hle := hsound.total_le
  have hlimit : count ≤ expected - reading.total := hcount.trans (Nat.min_le_right _ _)
  constructor
  · rw [hsound.hashed, List.length_take, List.take_add, ← List.take_take, List.take_length]
  · simp only [List.length_take]
    omega

theorem readLoop_eq_true {content : Bytes} {reads : List DeviceRead} {reading final : Reading}
    (hsound : reading.Sound content expected)
    (hloop : readLoop content expected reads reading = (true, final)) :
    final.total = expected ∧ final.hashed = content.take expected := by
  induction reads generalizing reading with
  | nil =>
    obtain ⟨hdone, rfl⟩ := Prod.mk.inj hloop
    have htotal : reading.total = expected :=
      Nat.le_antisymm hsound.total_le (of_decide_eq_true hdone)
    exact ⟨htotal, htotal ▸ hsound.hashed⟩
  | cons read rest ih =>
    rw [readLoop] at hloop
    by_cases hmore : reading.total < expected
    · rw [if_pos hmore] at hloop
      cases hdata : read.data content reading.total (min chunkSize (expected - reading.total)) with
      | none => simp [hdata] at hloop
      | some data =>
        simp only [hdata] at hloop
        split_ifs at hloop
        · simp at hloop
        · simp at hloop
        · exact ih (hsound.advance hdata) hloop
    · rw [if_neg hmore] at hloop
      obtain ⟨-, rfl⟩ := Prod.mk.inj hloop
      have htotal : reading.total = expected :=
        Nat.le_antisymm hsound.total_le (Nat.not_lt.1 hmore)
      exact ⟨htotal, htotal ▸ hsound.hashed⟩

variable {lun : ℤ}

section

variable {Digest : Type} (sha256 : Bytes → Digest)

/-- What a report of the reader says: the whole device was read and the compressor ended well. -/
structure Complete (lun : ℤ) (source : Source) (report : Report Digest) : Prop where
  read : (readLun sha256 lun source).read = source.content
  length : pythonIndex sizes lun = some source.content.length
  closes : source.closes = true
  compressorRc : source.compressorRc = 0
  report : report = ⟨source.content.length, sha256 source.content, boot⟩

variable {source : Source} {report : Report Digest}

theorem finishReading_eq_some {reading : Reading}
    (hreport : finishReading sha256 source reading = some report) :
    source.closes = true ∧ source.compressorRc = 0 ∧
      report = ⟨reading.total, sha256 reading.hashed, source.bootId⟩ := by
  unfold finishReading at hreport
  split at hreport
  · split_ifs at hreport with hends
    cases hreport
    exact ⟨hends.1, hends.2.1, rfl⟩
  · cases hreport

/-- The way through the reader on which it prints a report. -/
theorem readLun_of_report (hreport : (readLun sha256 lun source).report = some report) :
    ∃ reading, source.bootId = boot ∧ pythonIndex sizes lun = some source.content.length ∧
      readLoop source.content source.content.length source.reads ⟨0, []⟩ = (true, reading) ∧
      readLun sha256 lun source = ⟨reading.hashed, finishReading sha256 source reading⟩ := by
  cases hadmits : source.admits lun with
  | false => simp [readLun, hadmits] at hreport
  | true =>
    have hboot : source.bootId = boot := (of_decide_eq_true hadmits).2.2.1
    cases hexpected : pythonIndex sizes lun with
    | none => simp [readLun, hadmits, hexpected] at hreport
    | some expected =>
      cases hsize : source.isExpected expected with
      | false => simp [readLun, hadmits, hexpected, hsize] at hreport
      | true =>
        obtain ⟨rfl, -⟩ := of_decide_eq_true hsize
        rcases hloop : readLoop source.content source.content.length source.reads ⟨0, []⟩ with
          ⟨_ | _, reading⟩
        · simp [readLun, hadmits, hexpected, hsize, hloop] at hreport
        · exact ⟨reading, hboot, rfl, rfl, by simp [readLun, hadmits, hexpected, hsize, hloop]⟩

/-- The reader prints its report only after it has read the whole device. -/
theorem complete_of_report (hreport : (readLun sha256 lun source).report = some report) :
    Complete sha256 lun source report := by
  obtain ⟨reading, hboot, hlength, hloop, hrun⟩ := readLun_of_report sha256 hreport
  have hstart : Reading.Sound ⟨0, []⟩ source.content source.content.length :=
    ⟨List.take_zero.symm, Nat.zero_le _⟩
  obtain ⟨htotal, hhashed⟩ := readLoop_eq_true hstart hloop
  rw [List.take_length] at hhashed
  rw [hrun] at hreport
  obtain ⟨hcloses, hrc, rfl⟩ := finishReading_eq_some sha256 hreport
  exact ⟨by rw [hrun, hhashed], hlength, hcloses, hrc, by rw [htotal, hhashed, hboot]⟩

end

/-! ## The relay -/

/-- What has been counted and hashed is what has been passed on, and it is not too much. -/
structure Relaying.Sound (relaying : Relaying) (expected : ℕ) : Prop where
  total : relaying.total = relaying.forwarded.length
  hashed : relaying.hashed = relaying.forwarded
  length_le : relaying.forwarded.length ≤ expected

variable {relaying : Relaying}

theorem Relaying.Sound.advance (hsound : relaying.Sound expected) {data : Bytes}
    (hle : relaying.total + data.length ≤ expected) :
    Relaying.Sound ⟨relaying.total + data.length, relaying.hashed ++ data, relaying.forwarded ++ data⟩
      expected := by
  have htotal := hsound.total
  refine ⟨?_, ?_, ?_⟩
  · rw [List.length_append, htotal]
  · rw [hsound.hashed]
  · rw [List.length_append]
    omega

/-- The relay never passes on too much, and if its loop ends well it has counted and hashed what it has
passed on. -/
theorem relayLoop_sound (reads : List PipeRead) (hsound : relaying.Sound expected) :
    (relayLoop expected reads relaying).2.forwarded.length ≤ expected ∧
      ((relayLoop expected reads relaying).1 = true →
        (relayLoop expected reads relaying).2.Sound expected) := by
  induction reads generalizing relaying with
  | nil => exact ⟨hsound.length_le, fun _ ↦ hsound⟩
  | cons read rest ih =>
    cases read with
    | raises => exact ⟨hsound.length_le, by simp [relayLoop]⟩
    | gives data raises =>
      rw [relayLoop]
      split_ifs with hempty hmore hraises
      · exact ⟨hsound.length_le, fun _ ↦ hsound⟩
      · exact ⟨hsound.length_le, by simp⟩
      · exact ⟨(hsound.advance (Nat.not_lt.1 hmore)).length_le, by simp⟩
      · exact ih (hsound.advance (Nat.not_lt.1 hmore))

section

variable {Digest : Type} [DecidableEq Digest] (sha256 : Bytes → Digest)

variable {stream : Stream Digest}

theorem checkReport_eq_true (hcheck : checkReport sha256 stream relaying = true) :
    ∃ line ∈ stream.log, ∃ text, reportText line = some text ∧
      stream.loads text =
        some ⟨some relaying.total, some (sha256 relaying.hashed), some boot⟩ := by
  unfold checkReport at hcheck
  split at hcheck
  · rename_i text htexts
    have hmem : text ∈ stream.log.filterMap reportText := by
      rw [htexts]
      exact List.mem_singleton_self text
    obtain ⟨line, hline, htext⟩ := List.mem_filterMap.1 hmem
    refine ⟨line, hline, text, htext, ?_⟩
    split at hcheck
    · rename_i fields hfields
      obtain ⟨hbytes, hsha, hboot⟩ := of_decide_eq_true hcheck
      rw [hfields, ← hbytes, ← hsha, ← hboot]
    · cases hcheck
  · cases hcheck

/-- The way through the relay on which it exits with status 0. -/
theorem relay_of_status (hstatus : (relay sha256 lun stream).status = 0) :
    ∃ expected relaying, pythonIndex sizes lun = some expected ∧
      relayLoop expected stream.reads ⟨0, [], []⟩ = (true, relaying) ∧ relaying.total = expected ∧
      checkReport sha256 stream relaying = true ∧
      (relay sha256 lun stream).stdout = relaying.forwarded := by
  cases hexpected : pythonIndex sizes lun with
  | none => simp [relay, hexpected] at hstatus
  | some expected =>
    cases hstarts : stream.starts with
    | false => simp [relay, hexpected, hstarts] at hstatus
    | true =>
      rcases hloop : relayLoop expected stream.reads ⟨0, [], []⟩ with ⟨_ | _, relaying⟩
      · simp [relay, hexpected, hstarts, hloop] at hstatus
      · simp only [relay, hexpected, hstarts, hloop] at hstatus ⊢
        split_ifs at hstatus ⊢ with _ hflushes hends hreport
        rw [not_or, not_or, not_not, not_not, not_not] at hends
        exact ⟨expected, relaying, rfl, hloop, hends.2.2, hreport.1, rfl⟩

theorem sound_start (expected : ℕ) : Relaying.Sound ⟨0, [], []⟩ expected :=
  ⟨rfl, rfl, Nat.zero_le _⟩

/-- The relay writes no more than it expects, however it ends. -/
theorem length_stdout_le {expected : ℕ} (hexpected : pythonIndex sizes lun = some expected)
    (stream : Stream Digest) : (relay sha256 lun stream).stdout.length ≤ expected := by
  have hle := (relayLoop_sound stream.reads (sound_start expected)).1
  cases hstarts : stream.starts with
  | false => simp [relay, hexpected, hstarts]
  | true =>
    rcases hloop : relayLoop expected stream.reads ⟨0, [], []⟩ with ⟨_ | _, relaying⟩
    · rw [hloop] at hle
      simp only [relay, hexpected, hstarts, hloop]
      exact (List.length_take_le' _ _).trans hle
    · rw [hloop] at hle
      simp only [relay, hexpected, hstarts, hloop]
      split_ifs
      · exact Nat.zero_le _
      · exact (List.length_take_le' _ _).trans hle
      · exact hle
      · exact hle
      · exact hle

/-- The reports in the log of the relay are those that the reader has printed. -/
def OnlyReader (lun : ℤ) (source : Source) (stream : Stream Digest) : Prop :=
  ∀ line ∈ stream.log, ∀ text fields, reportText line = some text → stream.loads text = some fields →
    ∃ report, (readLun sha256 lun source).report = some report ∧
      fields = ⟨some report.bytes, some report.sha256, some report.bootId⟩

/-- If the relay exits with status 0, it has written what the reader has read, which is the whole LUN. -/
theorem stdout_of_status {source : Source} (hcollisionFree : Function.Injective sha256)
    (honly : OnlyReader sha256 lun source stream) (hstatus : (relay sha256 lun stream).status = 0) :
    (relay sha256 lun stream).stdout = (readLun sha256 lun source).read ∧
      (readLun sha256 lun source).read = source.content ∧
      pythonIndex sizes lun = some (relay sha256 lun stream).stdout.length := by
  obtain ⟨expected, relaying, hexpected, hloop, htotal, hcheck, hstdout⟩ := relay_of_status sha256 hstatus
  obtain ⟨line, hline, text, htext, hloads⟩ := checkReport_eq_true sha256 hcheck
  obtain ⟨report, hreport, hfields⟩ := honly line hline text _ htext hloads
  have hcomplete := complete_of_report sha256 hreport
  have hsound : relaying.Sound expected := by
    have hends := (relayLoop_sound stream.reads (sound_start expected)).2
    rw [hloop] at hends
    exact hends rfl
  have hsha : sha256 relaying.hashed = sha256 source.content := by
    rw [hcomplete.report] at hfields
    exact Option.some.inj (Fields.mk.inj hfields).2.1
  have hequal : (relay sha256 lun stream).stdout = source.content := by
    rw [hstdout, ← hsound.hashed]
    exact hcollisionFree hsha
  refine ⟨hequal.trans hcomplete.read.symm, hcomplete.read, ?_⟩
  rw [hexpected, hstdout, ← hsound.total, htotal]

/-- Whatever becomes of the streams: a relay that exits with status 0 has written exactly what the reader
has read, which has the expected length; the reader reports only after it has read the whole device and
the compressor has ended well; and the relay never writes more than it expects. -/
theorem backup_integrity (hcollisionFree : Function.Injective sha256) (lun : ℤ) (source : Source)
    (stream : Stream Digest) (honly : OnlyReader sha256 lun source stream) :
    ((relay sha256 lun stream).status = 0 →
      (relay sha256 lun stream).stdout = (readLun sha256 lun source).read ∧
      pythonIndex sizes lun = some (relay sha256 lun stream).stdout.length) ∧
    (∀ report, (readLun sha256 lun source).report = some report →
      Complete sha256 lun source report) ∧
    ∀ expected, pythonIndex sizes lun = some expected →
      (relay sha256 lun stream).stdout.length ≤ expected := by
  refine ⟨fun hstatus ↦ ?_, fun report hreport ↦ complete_of_report sha256 hreport,
    fun expected hexpected ↦ length_stdout_le sha256 hexpected stream⟩
  have hstdout := stdout_of_status sha256 hcollisionFree honly hstatus
  exact ⟨hstdout.1, hstdout.2.2⟩

end

/-! ## A backup that succeeds -/

/-- The report of `read-lun.py` on a second LUN of zeros. -/
def zeroReport : String :=
  "\x7b\"lun\": 1, \"bytes\": 8388608, \"sha256\": " ++
    "\"2daeb1f36095b44b318410b3f4e8b5d989dcc7bb023d1426c492dab0a3053e74\", " ++
    "\"device\": \"/dev/sdb\", \"sysfs\": \"/sys/devices/platform/soc/ufshc/host0/sdb\", " ++
    "\"boot_id\": \"15a44890-c95f-4081-8cab-3d71212e63bb\", \"seconds\": 0.25\x7d"

section

variable (chunk : Bytes)

/-- A LUN of two equal chunks. -/
def twoChunks : Source where
  bootId := boot
  admitted := true
  content := chunk ++ chunk
  readonly := 1
  reads := [.gives chunkSize false, .gives chunkSize false]
  lastRead := .gives 1 false
  closes := true
  compressorRc := 0
  saves := true

/-- Its relay in the same pieces, with the content itself as its digest.  Only the text of the report
is parsed. -/
def twoPieces : Stream Bytes where
  starts := true
  reads := [.gives chunk false, .gives chunk false]
  flushes := true
  reached := 0
  decodeRc := 0
  remoteRc := 0
  log := [marker ++ zeroReport]
  loads := fun text ↦
    if text = zeroReport then some ⟨some 8388608, some (chunk ++ chunk), some boot⟩ else none
  saves := true
  prints := true

variable {chunk} (hlength : chunk.length = chunkSize)

include hlength

theorem readLoop_twoChunks :
    readLoop (chunk ++ chunk) (chunkSize + chunkSize) (twoChunks chunk).reads ⟨0, []⟩ =
      (true, ⟨chunkSize + chunkSize, chunk ++ chunk⟩) := by
  have hne : chunk ≠ [] := by
    rintro rfl
    exact absurd hlength (by decide)
  have hpos : 0 < chunkSize := by decide
  have htake : chunk.take chunkSize = chunk := List.take_of_length_le hlength.le
  simp [twoChunks, readLoop, DeviceRead.data, DeviceRead.raisesLater, List.take_left' hlength,
    List.drop_left' hlength, hlength, hne, hpos, htake]

theorem relayLoop_twoPieces :
    relayLoop (chunkSize + chunkSize) (twoPieces chunk).reads ⟨0, [], []⟩ =
      (true, ⟨chunkSize + chunkSize, chunk ++ chunk, chunk ++ chunk⟩) := by
  have hne : chunk ≠ [] := by
    rintro rfl
    exact absurd hlength (by decide)
  simp [twoPieces, relayLoop, hlength, hne]

end

/-- The second LUN, read and relayed in two pieces. -/
theorem backup_integrity_secondLun :
    ∃ (source : Source) (stream : Stream Bytes), OnlyReader id 1 source stream ∧
      (relay id 1 stream).status = 0 ∧
      (relay id 1 stream).stdout = (readLun id 1 source).read := by
  obtain ⟨chunk, hlength⟩ : ∃ chunk : Bytes, chunk.length = chunkSize :=
    ⟨List.replicate chunkSize 0, List.length_replicate⟩
  have hsize : pythonIndex sizes 1 = some (chunkSize + chunkSize) := by decide
  have hcontent : (chunk ++ chunk).length = chunkSize + chunkSize := by
    rw [List.length_append, hlength]
  have hread : (readLun id 1 (twoChunks chunk)).report =
      some ⟨chunkSize + chunkSize, chunk ++ chunk, boot⟩ := by
    have hadmits : (twoChunks chunk).admits 1 = true := by simp [Source.admits, twoChunks, sizes]
    have hexpected : (twoChunks chunk).isExpected (chunkSize + chunkSize) = true := by
      simp [Source.isExpected, twoChunks, hlength]
    have hloop : readLoop (twoChunks chunk).content _ (twoChunks chunk).reads ⟨0, []⟩ = _ :=
      readLoop_twoChunks hlength
    have hend : (chunk ++ chunk).drop (chunkSize + chunkSize) = [] :=
      List.drop_of_length_le hcontent.le
    simp only [readLun, hadmits, hsize, hexpected, hloop]
    simp [finishReading, DeviceRead.data, twoChunks, hend]
  have honly : OnlyReader id 1 (twoChunks chunk) (twoPieces chunk) := by
    intro line _ text fields _ hloads
    obtain ⟨-, hfields⟩ := Option.ite_none_right_eq_some.1 hloads
    exact ⟨_, hread, (Option.some.inj hfields).symm⟩
  have hstatus : (relay id 1 (twoPieces chunk)).status = 0 := by
    have hcheck : checkReport id (twoPieces chunk)
        ⟨chunkSize + chunkSize, chunk ++ chunk, chunk ++ chunk⟩ = true := by
      have htexts : [marker ++ zeroReport].filterMap reportText = [zeroReport] := by
        decide +kernel
      have hlog : (twoPieces chunk).log = [marker ++ zeroReport] := rfl
      simp only [checkReport, hlog, htexts]
      simp [twoPieces, chunkSize]
    simp only [relay, hsize, relayLoop_twoPieces hlength, hcheck]
    simp [twoPieces]
  exact ⟨twoChunks chunk, twoPieces chunk, honly, hstatus,
    ((backup_integrity id Function.injective_id 1 _ _ honly).1 hstatus).1⟩

end TclB220G.WindowsBackup
