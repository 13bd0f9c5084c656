import GpuI2c.Device
import GpuI2c.Device.OffsetMap

/-!
# A register file

A store of 32-bit values keyed by byte offset, all zero at first. An offset can also carry a queue
of values that reads return before the stored value shows again; writes leave the queue alone.

The register file can offer indirect access: then an access at offset 4 reaches the register whose
byte offset is stored at offset 0.
-/

namespace GpuI2c

/-- Stored values and queued replies, by byte offset. -/
structure RegisterFile where
  values : OffsetMap UInt32 := {}
  queues : OffsetMap (List UInt32) := {}

namespace RegisterFile

/-- The stored value at `offset`; zero if none was stored. -/
def value (file : RegisterFile) (offset : Nat) : UInt32 :=
  (file.values.get? offset).getD 0

/-- The replies still queued at `offset`. -/
def queue (file : RegisterFile) (offset : Nat) : List UInt32 :=
  (file.queues.get? offset).getD []

/-- The offset that an access at `offset` reaches. -/
def target (indirect : Bool) (file : RegisterFile) (offset : Nat) : Nat :=
  if indirect && offset == 4 then (file.value 0).toNat else offset

/-- A read takes the next queued reply of the offset it reaches, or else the stored value. -/
def read (indirect : Bool) (offset : Nat) (file : RegisterFile) : UInt32 × RegisterFile :=
  let reached := file.target indirect offset
  match file.queue reached with
  | reply :: rest => (reply, { file with queues := file.queues.set reached rest })
  | [] => (file.value reached, file)

/-- A write stores its value at the offset it reaches. -/
def write (indirect : Bool) (offset : Nat) (value : UInt32) (file : RegisterFile) : RegisterFile :=
  { file with values := file.values.set (file.target indirect offset) value }

/-- The device that shows `window` bytes of a register file. -/
def device (window : Nat) (indirect : Bool) : Device RegisterFile where
  window
  read := read indirect
  write := write indirect

/-! ## One access -/

/-- A read leaves the stored values alone. -/
@[simp] theorem value_read (indirect : Bool) (offset other : Nat) (file : RegisterFile) :
    (file.read indirect offset).2.value other = file.value other := by
  simp only [read]
  split <;> rfl

/-- A write changes the stored value at the offset it reaches and no other. -/
@[simp] theorem value_write (indirect : Bool) (offset other : Nat) (value : UInt32)
    (file : RegisterFile) :
    (file.write indirect offset value).value other =
      if other = file.target indirect offset then value else file.value other := by
  by_cases h : other = file.target indirect offset <;> simp [write, RegisterFile.value, h]

/-- A write leaves the queues alone. -/
@[simp] theorem queue_write (indirect : Bool) (offset other : Nat) (value : UInt32)
    (file : RegisterFile) : (file.write indirect offset value).queue other = file.queue other :=
  rfl

/-! ## Setting up and listing -/

/-- Overwrite stored values and append to the queues, both in the order given. -/
def load (file : RegisterFile) (values : List (Nat × UInt32))
    (replies : List (Nat × List UInt32)) : RegisterFile where
  values := values.foldl (fun map (offset, value) => map.set offset value) file.values
  queues := replies.foldl
    (fun map (offset, more) => map.set offset ((map.get? offset).getD [] ++ more)) file.queues

/-- The non-zero stored values, in ascending order of offset. -/
def dump (file : RegisterFile) : List (Nat × UInt32) :=
  file.values.entries.filter fun (_, value) => value != 0

end RegisterFile

end GpuI2c
