import TclB220G.Lib.Bytes

/-!
# Records of the Wi-Fi board file

`tlvs` walks through a byte string of records: two little-endian words for the identifier and the
length, the payload, and padding to a multiple of four.  It is a generator, so a caller may already
hold pairs when an assertion fails; the model keeps the pairs given so far beside the way the
generator ended.  `tlvs_eq_exhausted` says exactly which byte strings are accepted and with which
pairs, and both directions of `tlvs_records` come from it.
-/

namespace TclB220G.Firmware

open Lib

/-- One pair that `tlvs` yields. -/
structure BoardRecord where
  ident : ℕ
  payload : Bytes
  deriving DecidableEq, Repr

/-- How a generator ends. -/
inductive GeneratorEnd where
  | exhausted
  | assertion
  deriving DecidableEq, Repr

/-- What a generator gave to its caller. -/
structure Generated where
  pairs : List BoardRecord
  ending : GeneratorEnd
  deriving DecidableEq, Repr

def Generated.yield (record : BoardRecord) (rest : Generated) : Generated :=
  { rest with pairs := record :: rest.pairs }

/-- `(n+3)&~3`: the low two bits are cleared. -/
def alignRecord (n : ℕ) : ℕ := (n + 3) / 4 * 4

/-- The loop of `tlvs` from an offset on. -/
def tlvsFrom (b : Bytes) (off : ℕ) : Generated :=
  if off < b.length then
    if off + 8 ≤ b.length then
      let ident := b.littleEndian 4 off
      let n := b.littleEndian 4 (off + 4)
      let off := off + 8
      if off + n ≤ b.length then
        (tlvsFrom b (off + alignRecord n)).yield ⟨ident, b.slice off (off + n)⟩
      else ⟨[], .assertion⟩
    else ⟨[], .assertion⟩
  else if off = b.length then ⟨[], .exhausted⟩
  else ⟨[], .assertion⟩
termination_by b.length - off

def tlvs (b : Bytes) : Generated := tlvsFrom b 0

/-! ## Records in a byte string -/

namespace BoardRecord

/-- Identifier and length are 32-bit words. -/
structure Fits (record : BoardRecord) : Prop where
  ident : record.ident < 2 ^ 32
  length : record.payload.length < 2 ^ 32

def header (record : BoardRecord) : Bytes :=
  Bytes.ofWord 4 record.ident ++ Bytes.ofWord 4 record.payload.length

/-- A record with its header, followed by some padding. -/
def placed (record : BoardRecord) (padding : Bytes) : Bytes :=
  record.header ++ record.payload ++ padding

/-- Octets between the payload and the next record. -/
def gap (record : BoardRecord) : ℕ := alignRecord record.payload.length - record.payload.length

def encode (record : BoardRecord) : Bytes := record.placed (List.replicate record.gap 0)

variable (record : BoardRecord)

theorem gap_le : record.gap ≤ 3 := by
  rw [gap, alignRecord]
  omega

theorem length_add_gap :
    record.payload.length + record.gap = alignRecord record.payload.length := by
  rw [gap, alignRecord]
  omega

theorem length_header : record.header.length = 8 := by
  simp [header]

theorem length_placed (padding : Bytes) :
    (record.placed padding).length = 8 + record.payload.length + padding.length := by
  simp [placed, length_header, Nat.add_assoc]

end BoardRecord

/-- Records one after another, each with its padding. -/
def laidOut (records : List (BoardRecord × Bytes)) : Bytes :=
  records.flatMap fun (record, padding) ↦ record.placed padding

/-- The encoding of a list of records. -/
def encodeRecords (records : List BoardRecord) : Bytes := records.flatMap BoardRecord.encode

/-! ## One turn of the loop -/

/-- The pair that a turn at an offset yields. -/
def recordAt (b : Bytes) (off : ℕ) : BoardRecord :=
  ⟨b.littleEndian 4 off, b.slice (off + 8) (off + 8 + b.littleEndian 4 (off + 4))⟩

variable {b : Bytes} {off : ℕ}

section

variable (h : off + 8 + b.littleEndian 4 (off + 4) ≤ b.length)
include h

theorem tlvsFrom_yield :
    tlvsFrom b off =
      (tlvsFrom b (off + 8 + alignRecord (b.littleEndian 4 (off + 4)))).yield (recordAt b off) := by
  rw [tlvsFrom, if_pos (by omega), if_pos (by omega)]
  exact if_pos h

theorem length_recordAt :
    (recordAt b off).payload.length = b.littleEndian 4 (off + 4) := by
  rw [recordAt, Bytes.length_slice b h]
  omega

theorem fits_recordAt : (recordAt b off).Fits where
  ident := Memory.littleEndian_lt b.toMemory 4 off
  length := by
    rw [length_recordAt h]
    exact Memory.littleEndian_lt b.toMemory 4 (off + 4)

theorem header_recordAt :
    (recordAt b off).header = (b.drop off).take 8 := by
  have hident : Bytes.ofWord 4 (b.littleEndian 4 off) = (b.drop off).take 4 := by
    rw [← Bytes.ofWord_littleEndian (b.drop off) (by rw [List.length_drop]; omega),
      Bytes.littleEndian_drop, Nat.add_zero]
  have hlength : Bytes.ofWord 4 (b.littleEndian 4 (off + 4)) = ((b.drop off).drop 4).take 4 := by
    rw [List.drop_drop, ← Bytes.ofWord_littleEndian (b.drop (off + 4)) (by rw [List.length_drop]; omega),
      Bytes.littleEndian_drop, Nat.add_zero]
  rw [BoardRecord.header, length_recordAt h, hlength]
  calc
    Bytes.ofWord 4 (b.littleEndian 4 off) ++ ((b.drop off).drop 4).take 4 =
        (b.drop off).take 4 ++ ((b.drop off).drop 4).take 4 := by rw [hident]
    _ = (b.drop off).take 8 := List.take_add.symm

/-- What a turn reads stands at the offset, header first. -/
theorem drop_eq_recordAt :
    b.drop off = (recordAt b off).header ++ ((recordAt b off).payload ++
      b.drop (off + 8 + b.littleEndian 4 (off + 4))) := by
  have hpayload : (recordAt b off).payload =
      (b.drop (off + 8)).take (b.littleEndian 4 (off + 4)) := by
    rw [recordAt, Bytes.slice, List.drop_take, Nat.add_sub_cancel_left]
  have hdrop : b.drop (off + 8 + b.littleEndian 4 (off + 4)) =
      (b.drop (off + 8)).drop (b.littleEndian 4 (off + 4)) := List.drop_drop.symm
  have hrest : (recordAt b off).payload ++ b.drop (off + 8 + b.littleEndian 4 (off + 4)) =
      (b.drop off).drop 8 := by
    rw [hpayload, hdrop, List.take_append_drop, List.drop_drop]
  rw [header_recordAt h, hrest, List.take_append_drop]

end

/-- With the octets that are skipped after it, the record reaches up to the next turn. -/
theorem exists_placed_recordAt (h : off + 8 + alignRecord (b.littleEndian 4 (off + 4)) ≤ b.length) :
    ∃ padding, padding.length = (recordAt b off).gap ∧
      b.drop off = (recordAt b off).placed padding ++
        b.drop (off + 8 + alignRecord (b.littleEndian 4 (off + 4))) := by
  have halign : b.littleEndian 4 (off + 4) ≤ alignRecord (b.littleEndian 4 (off + 4)) := by
    rw [alignRecord]
    omega
  have hinside : off + 8 + b.littleEndian 4 (off + 4) ≤ b.length := by omega
  have hgap : b.littleEndian 4 (off + 4) + (recordAt b off).gap =
      alignRecord (b.littleEndian 4 (off + 4)) := by
    rw [← length_recordAt hinside, BoardRecord.length_add_gap]
  have hdrop : b.drop (off + 8 + alignRecord (b.littleEndian 4 (off + 4))) =
      (b.drop (off + 8 + b.littleEndian 4 (off + 4))).drop (recordAt b off).gap := by
    rw [List.drop_drop, ← hgap, ← Nat.add_assoc]
  refine ⟨(b.drop (off + 8 + b.littleEndian 4 (off + 4))).take (recordAt b off).gap, ?_, ?_⟩
  · rw [List.length_take, List.length_drop]
    omega
  · rw [hdrop, BoardRecord.placed, List.append_assoc, List.take_append_drop, List.append_assoc]
    exact drop_eq_recordAt hinside

/-- A record that stands at an offset is the one that the turn reads. -/
theorem recordAt_of_drop {b rest : Bytes} {record : BoardRecord} (hfits : record.Fits)
    (h : b.drop off = record.header ++ (record.payload ++ rest)) :
    b.littleEndian 4 (off + 4) = record.payload.length ∧ recordAt b off = record ∧
      off + 8 + record.payload.length + rest.length = b.length := by
  have hident : b.littleEndian 4 off = record.ident := by
    rw [← Nat.add_zero off, ← Bytes.littleEndian_drop, h, BoardRecord.header, List.append_assoc]
    exact Bytes.littleEndian_ofWord_append hfits.ident _
  have hlength : b.littleEndian 4 (off + 4) = record.payload.length := by
    rw [← Nat.add_zero (off + 4), ← Bytes.littleEndian_drop, ← List.drop_drop, h,
      BoardRecord.header, List.append_assoc, List.drop_left' (Bytes.length_ofWord 4 _)]
    exact Bytes.littleEndian_ofWord_append hfits.length _
  have htotal : b.length - off = 8 + (record.payload.length + rest.length) := by
    rw [← List.length_drop, h, List.length_append, List.length_append, BoardRecord.length_header]
  have hpayload : b.slice (off + 8) (off + 8 + record.payload.length) = record.payload := by
    rw [Bytes.slice, List.drop_take, Nat.add_sub_cancel_left, ← List.drop_drop, h,
      List.drop_left' record.length_header, List.take_left' rfl]
  refine ⟨hlength, ?_, by omega⟩
  rw [recordAt, hident, hlength, hpayload]

/-! ## The whole byte string -/

/-- Each record fits its header and has the octets of padding that the loop skips. -/
def Regular (layout : List (BoardRecord × Bytes)) : Prop :=
  ∀ pair ∈ layout, pair.1.Fits ∧ pair.2.length = pair.1.gap

theorem tlvsFrom_laidOut {layout : List (BoardRecord × Bytes)} (hregular : Regular layout)
    (hoff : off ≤ b.length) (h : b.drop off = laidOut layout) :
    tlvsFrom b off = ⟨layout.map Prod.fst, .exhausted⟩ := by
  induction layout generalizing off with
  | nil =>
    have hend : off = b.length := Nat.le_antisymm hoff (List.drop_eq_nil_iff.1 h)
    rw [tlvsFrom, if_neg (by omega), if_pos hend]
    rfl
  | cons pair layout ih =>
    obtain ⟨record, padding⟩ := pair
    have hfits : record.Fits := (hregular _ List.mem_cons_self).1
    have hpadding : padding.length = record.gap := (hregular _ List.mem_cons_self).2
    have hcons : laidOut ((record, padding) :: layout) = record.placed padding ++ laidOut layout :=
      List.flatMap_cons
    have hplaced : b.drop off = record.header ++ (record.payload ++ (padding ++ laidOut layout)) := by
      rw [h, hcons, BoardRecord.placed, List.append_assoc, List.append_assoc]
    obtain ⟨hlength, hrecord, htotal⟩ := recordAt_of_drop hfits hplaced
    have hnext : off + 8 + alignRecord record.payload.length =
        off + (record.placed padding).length := by
      rw [record.length_placed, ← record.length_add_gap, hpadding]
      omega
    have hrest : b.drop (off + (record.placed padding).length) = laidOut layout := by
      rw [← List.drop_drop, h, hcons, List.drop_left' rfl]
    have hinside : off + (record.placed padding).length ≤ b.length := by
      rw [record.length_placed, ← htotal, List.length_append]
      omega
    rw [tlvsFrom_yield (by rw [hlength]; omega), hlength, hrecord, hnext,
      ih (fun other hother ↦ hregular other (List.mem_cons_of_mem _ hother)) hinside hrest]
    rfl

theorem laidOut_of_tlvsFrom (b : Bytes) (off : ℕ) (h : (tlvsFrom b off).ending = .exhausted) :
    off ≤ b.length ∧ ∃ layout, layout.map Prod.fst = (tlvsFrom b off).pairs ∧ Regular layout ∧
      b.drop off = laidOut layout := by
  fun_induction tlvsFrom b off with
  | case1 off _ _ ident n start hinside ih =>
    obtain ⟨hnext, layout, hpairs, hregular, hrest⟩ := ih h
    obtain ⟨padding, hpadding, hplaced⟩ := exists_placed_recordAt hnext
    refine ⟨by omega, (recordAt b off, padding) :: layout, ?_, ?_, ?_⟩
    · rw [List.map_cons, hpairs]
      rfl
    · intro pair hpair
      rcases List.mem_cons.1 hpair with rfl | hpair
      · exact ⟨fits_recordAt hinside, hpadding⟩
      · exact hregular pair hpair
    · rw [hplaced, laidOut, List.flatMap_cons]
      exact congrArg _ hrest
  | case2 => cases h
  | case3 => cases h
  | case4 =>
    exact ⟨Nat.le_refl _, [], rfl, fun _ hpair ↦ absurd hpair List.not_mem_nil, List.drop_length⟩
  | case5 => cases h

/-- Every turn that yields a pair moves past a header, so the number of turns is bounded. -/
theorem length_pairs_le (b : Bytes) (off : ℕ) :
    8 * (tlvsFrom b off).pairs.length ≤ b.length - off := by
  fun_induction tlvsFrom b off with
  | case1 off _ _ ident n start hinside ih =>
    rw [Generated.yield, List.length_cons]
    omega
  | case2 => exact Nat.zero_le _
  | case3 => exact Nat.zero_le _
  | case4 => exact Nat.zero_le _
  | case5 => exact Nat.zero_le _

theorem tlvs_eq_exhausted {records : List BoardRecord} :
    tlvs b = ⟨records, .exhausted⟩ ↔
      ∃ layout, layout.map Prod.fst = records ∧ Regular layout ∧ b = laidOut layout := by
  constructor
  · intro h
    have hending : (tlvsFrom b 0).ending = .exhausted := congrArg Generated.ending h
    obtain ⟨-, layout, hpairs, hregular, hlaid⟩ := laidOut_of_tlvsFrom b 0 hending
    exact ⟨layout, hpairs.trans (congrArg Generated.pairs h), hregular, hlaid⟩
  · rintro ⟨layout, rfl, hregular, rfl⟩
    exact tlvsFrom_laidOut hregular (Nat.zero_le _) List.drop_zero

theorem encodeRecords_eq_laidOut (records : List BoardRecord) :
    encodeRecords records =
      laidOut (records.map fun record ↦ (record, List.replicate record.gap 0)) := by
  rw [encodeRecords, laidOut, List.flatMap_map]
  rfl

/-- The encoding of records that fit reads back.  On any byte string the walk comes to an end after
at most one turn for every eight octets, and if no assertion has failed then the input is nothing but
the pairs in order, each behind its header and before at most three octets of padding. -/
theorem tlvs_records :
    (∀ records : List BoardRecord, (∀ record ∈ records, record.Fits) →
      tlvs (encodeRecords records) = ⟨records, .exhausted⟩) ∧
    ∀ b : Bytes, 8 * (tlvs b).pairs.length ≤ b.length ∧
      ((tlvs b).ending = .exhausted → ∃ layout, layout.map Prod.fst = (tlvs b).pairs ∧
        (∀ pair ∈ layout, pair.2.length ≤ 3) ∧ b = laidOut layout) := by
  refine ⟨fun records hrecords ↦ ?_, fun b ↦ ⟨length_pairs_le b 0, fun hending ↦ ?_⟩⟩
  · rw [tlvs_eq_exhausted]
    refine ⟨_, ?_, ?_, encodeRecords_eq_laidOut records⟩
    · rw [List.map_map]
      exact List.map_id records
    · intro pair hpair
      obtain ⟨record, hrecord, rfl⟩ := List.mem_map.1 hpair
      exact ⟨hrecords record hrecord, List.length_replicate⟩
  · have hgiven : tlvs b = ⟨(tlvs b).pairs, .exhausted⟩ := by rw [← hending]
    obtain ⟨layout, hpairs, hregular, hlaid⟩ := tlvs_eq_exhausted.1 hgiven
    refine ⟨layout, hpairs, fun pair hpair ↦ ?_, hlaid⟩
    rw [(hregular pair hpair).2]
    exact pair.1.gap_le

end TclB220G.Firmware
