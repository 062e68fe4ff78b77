import Mathlib.Data.List.Basic
import Mathlib.Data.Nat.ModEq
import TclB220G.Kernel.Errno

/-!
# The period tables of an audio client

An audio client has a port for each direction.  A port that is mapped has a table with one entry for each
period of the stream's buffer, and the data commands to the DSP take the entries in turn.  Mapping sets up
the table and unmapping frees it, but neither of them moves the place of the next data command.
-/

namespace TclB220G.Q6asm

open Kernel Kernel.Errno

inductive PcmDirection where
  | playback | capture
  deriving DecidableEq, Repr

structure AudioBuffer where
  phys : ℕ
  size : ℕ
  deriving DecidableEq, Repr

/-- The fields of `struct audio_port_data`.  The number of periods is always that of the table, since both
are set and taken back together. -/
structure AudioPort where
  buf : Option (List AudioBuffer)
  numPeriods : ℕ
  dspBuf : ℕ
  memMapHandle : ℕ
  numPeriods_eq : numPeriods = (buf.map List.length).getD 0

/-- The ports of a client. -/
abbrev AudioClient := PcmDirection → AudioPort

/-- A client as `q6asm_audio_client_alloc` zeroes it. -/
def AudioClient.zeroed : AudioClient := fun _ ↦ ⟨none, 0, 0, 0, rfl⟩

/-- The entries that the loop of `q6asm_map_memory_regions` fills in.  Without a size, only the first entry
is written to. -/
def periodTable (phys periodSz periods : ℕ) : List AudioBuffer :=
  (List.range periods).map fun cnt ↦
    if cnt = 0 ∨ 0 < periodSz then ⟨phys + cnt * periodSz, periodSz⟩ else ⟨0, 0⟩

/-- What a request to map comes to: whether there is memory for the table, the result of the command, and
the handle that a reply has stored, if there was one. -/
structure MapAnswer where
  buffer : Bool
  rc : ℤ
  handle : Option ℕ

namespace AudioPort

/-- `q6asm_audio_client_free_buf` -/
def freeBuf (port : AudioPort) : AudioPort := ⟨none, 0, port.dspBuf, port.memMapHandle, rfl⟩

/-- The port with a new table, and with the handle of the reply. -/
def fill (port : AudioPort) (phys periodSz periods : ℕ) (handle : Option ℕ) : AudioPort :=
  ⟨some (periodTable phys periodSz periods), periods, port.dspBuf, handle.getD port.memMapHandle,
    by simp [periodTable]⟩

/-- `q6asm_map_memory_regions` -/
def mapMemoryRegions (port : AudioPort) (phys periodSz periods : ℕ) (answer : MapAnswer) : AudioPort × ℤ :=
  -- "Buffer already allocated" is no error.
  if port.buf.isSome then (port, 0)
  else if !answer.buffer then (port, ENOMEM.ret)
  else if answer.rc < 0 then ((port.fill phys periodSz periods answer.handle).freeBuf, answer.rc)
  else (port.fill phys periodSz periods answer.handle, answer.rc)

/-- `q6asm_unmap_memory_regions`, with the result of the command that it sends. -/
def unmapMemoryRegions (port : AudioPort) (rc : ℤ) : AudioPort × ℤ :=
  if port.buf.isNone then (port, EINVAL.ret)
  else if port.numPeriods = 0 then (port.freeBuf, 0)
  else if port.memMapHandle = 0 then (port, EINVAL.ret)
  else if rc < 0 then (port, rc)
  else ({ port with memMapHandle := 0 }.freeBuf, 0)

/-- The port after a data command has taken the entry `dsp_buf`. -/
def advance (port : AudioPort) : AudioPort :=
  { port with dspBuf := if port.numPeriods ≤ port.dspBuf + 1 then 0 else port.dspBuf + 1 }

end AudioPort

/-- A data command to the DSP: the table that it was made from, which is none if the port was not mapped,
and the entry that was looked up there. -/
structure DataCommand where
  direction : PcmDirection
  table : Option (List AudioBuffer)
  seqId : ℕ
  length : ℕ
  memMapHandle : ℕ
  deriving DecidableEq, Repr

/-- The entry of the table that a data command reads, if it is inside. -/
def DataCommand.buffer (command : DataCommand) : Option AudioBuffer :=
  command.table.bind fun table ↦ table[command.seqId]?

namespace AudioClient

variable (client : AudioClient)

def mapMemoryRegions (dir : PcmDirection) (phys periodSz periods : ℕ) (answer : MapAnswer) :
    AudioClient × ℤ :=
  let result := (client dir).mapMemoryRegions phys periodSz periods answer
  (Function.update client dir result.1, result.2)

def unmapMemoryRegions (dir : PcmDirection) (rc : ℤ) : AudioClient :=
  Function.update client dir ((client dir).unmapMemoryRegions rc).1

/-- Sends the data command at the place of the next one.  Without memory for the packet, nothing is done. -/
def send (dir : PcmDirection) (length : ℕ) (allocated : Bool) : AudioClient × List DataCommand :=
  if allocated then
    let port := client dir
    (Function.update client dir port.advance, [⟨dir, port.buf, port.dspBuf, length, port.memMapHandle⟩])
  else (client, [])

/-- `q6asm_write_async` -/
def writeAsync (len : ℕ) (allocated : Bool) : AudioClient × List DataCommand :=
  client.send .playback len allocated

/-- `q6asm_read`, which asks for as much as the entry holds. -/
def read (allocated : Bool) : AudioClient × List DataCommand :=
  let port := client .capture
  let size := ((port.buf.bind fun table ↦ table[port.dspBuf]?).map AudioBuffer.size).getD 0
  client.send .capture size allocated

end AudioClient

/-! ## What the operations do to a port -/

variable (port : AudioPort)

namespace AudioPort

@[simp] theorem dspBuf_mapMemoryRegions (phys periodSz periods : ℕ) (answer : MapAnswer) :
    (port.mapMemoryRegions phys periodSz periods answer).1.dspBuf = port.dspBuf := by
  unfold mapMemoryRegions
  split_ifs <;> rfl

@[simp] theorem dspBuf_unmapMemoryRegions (rc : ℤ) :
    (port.unmapMemoryRegions rc).1.dspBuf = port.dspBuf := by
  unfold unmapMemoryRegions
  split_ifs <;> rfl

/-- The table of a port is what it was, or nothing, or the new one. -/
theorem buf_mapMemoryRegions (phys periodSz periods : ℕ) (answer : MapAnswer) :
    (port.mapMemoryRegions phys periodSz periods answer).1.buf = port.buf ∨
      (port.mapMemoryRegions phys periodSz periods answer).1.buf = none ∨
      (port.mapMemoryRegions phys periodSz periods answer).1.buf =
        some (periodTable phys periodSz periods) := by
  unfold mapMemoryRegions
  split_ifs
  · exact .inl rfl
  · exact .inl rfl
  · exact .inr (.inl rfl)
  · exact .inr (.inr rfl)

theorem buf_unmapMemoryRegions (rc : ℤ) :
    (port.unmapMemoryRegions rc).1.buf = port.buf ∨ (port.unmapMemoryRegions rc).1.buf = none := by
  unfold unmapMemoryRegions
  split_ifs
  · exact .inl rfl
  · exact .inr rfl
  · exact .inl rfl
  · exact .inl rfl
  · exact .inr rfl

theorem length_periodTable (phys periodSz periods : ℕ) :
    (periodTable phys periodSz periods).length = periods := by
  simp [periodTable]

theorem getElem?_periodTable {phys periodSz periods index : ℕ} (hindex : index < periods)
    (hsize : 0 < periodSz) :
    (periodTable phys periodSz periods)[index]? = some ⟨phys + index * periodSz, periodSz⟩ := by
  simp [periodTable, hindex, hsize]

/-- The one-wrap advance of the source is the remainder by the number of periods. -/
theorem dspBuf_advance {port : AudioPort} (hbuf : port.dspBuf < port.numPeriods) :
    port.advance.dspBuf = (port.dspBuf + 1) % port.numPeriods := by
  unfold advance
  dsimp only
  split_ifs with hwrap
  · have heq : port.dspBuf + 1 = port.numPeriods := le_antisymm hbuf hwrap
    rw [heq, Nat.mod_self]
  · rw [Nat.mod_eq_of_lt (not_le.1 hwrap)]

@[simp] theorem buf_advance : port.advance.buf = port.buf := rfl

end AudioPort

end TclB220G.Q6asm
