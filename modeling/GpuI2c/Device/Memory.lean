import GpuI2c.Device

/-!
# A window of mapped memory

Registers that lie in plain memory, four bytes each, the least significant byte first. An access
that is not aligned to four bytes or does not fit the window has no effect and reads as zero.
-/

namespace GpuI2c

/-- Device memory of `size` bytes. -/
structure Memory (size : Nat) where
  bytes : Vector UInt8 size

namespace Memory

variable {size : Nat}

/-- Memory whose bytes are all zero. -/
def zeroed (size : Nat) : Memory size :=
  ⟨Vector.replicate size 0⟩

/-- Whether the window holds an aligned register at `offset`. -/
abbrev Holds (size offset : Nat) : Prop :=
  offset + 4 ≤ size ∧ offset % 4 = 0

/-- Read the register at a byte offset. -/
def read (offset : Nat) (memory : Memory size) : UInt32 :=
  if h : Holds size offset then
    memory.bytes[offset].toUInt32 |||
      memory.bytes[offset + 1].toUInt32 <<< 8 |||
      memory.bytes[offset + 2].toUInt32 <<< 16 |||
      memory.bytes[offset + 3].toUInt32 <<< 24
  else 0

/-- Write the register at a byte offset. -/
def write (offset : Nat) (value : UInt32) (memory : Memory size) : Memory size :=
  if h : Holds size offset then
    ⟨(((memory.bytes.set offset value.toUInt8).set (offset + 1) (value >>> 8).toUInt8).set
      (offset + 2) (value >>> 16).toUInt8).set (offset + 3) (value >>> 24).toUInt8⟩
  else memory

/-- The device whose window is all of the memory. -/
def device (size : Nat) : Device (Memory size) where
  window := size
  read offset memory := (memory.read offset, memory)
  write := write

end Memory

end GpuI2c
