import GpuI2c.Firmware.Error

/-!
# Bounds-checked fetches

A span is a run of firmware bytes that is only read through checked fetches. Offsets are 64-bit
numbers: an offset that would move past the last of them does not exist.

Single bytes may be fetched up to the very last one, and so may the integers made of them. Slices
and tables end strictly before the end of the span. A table at offset zero is absent, since
firmware writes zero for the offset of a table it does not have.
-/

namespace GpuI2c.Firmware

/-! ## Little-endian integers -/

/-- The 16-bit integer of two bytes, the lower one first. -/
def wordOfBytes (low high : UInt8) : UInt16 :=
  low.toUInt16 ||| (high.toUInt16 <<< 8)

/-- The 32-bit integer of two 16-bit integers, the lower one first. -/
def dwordOfWords (low high : UInt16) : UInt32 :=
  low.toUInt32 ||| (high.toUInt32 <<< 16)

namespace Layout

/-- The byte at a place of a table. A place past the end reads as zero, which no layout makes use
of. -/
def byteAt (bytes : Array UInt8) (place : Nat) : UInt8 :=
  bytes.getD place 0

/-- The 16-bit integer at a place of a table. -/
def wordAt (bytes : Array UInt8) (place : Nat) : UInt16 :=
  wordOfBytes (byteAt bytes place) (byteAt bytes (place + 1))

/-- The 32-bit integer at a place of a table. -/
def dwordAt (bytes : Array UInt8) (place : Nat) : UInt32 :=
  dwordOfWords (wordAt bytes place) (wordAt bytes (place + 2))

end Layout

/-! ## Offsets -/

/-- One more than the largest offset. -/
def offsetLimit : Nat := UInt64.size

/-- The offset `distance` bytes further on, if there is one. -/
def advance? (offset distance : Nat) : Option Nat :=
  if offset + distance < offsetLimit then some (offset + distance) else none

/-! ## Layouts -/

/-- A type of tables with a fixed layout in memory. -/
class Layout (α : Type) where
  /-- The number of bytes of a table. -/
  size : Nat
  /-- The table that is laid out in the given bytes, of which there are `size`. -/
  decode : Array UInt8 → α

/-! ## Fetches -/

/-- A run of firmware bytes. -/
structure Span where
  bytes : Array UInt8
  deriving DecidableEq

namespace Span

/-- The number of bytes. -/
def size (span : Span) : Nat :=
  span.bytes.size

/-- A span without bytes. -/
def isEmpty (span : Span) : Bool :=
  span.size == 0

/-- `length` bytes from `offset` on; they must end strictly before the end of the span. -/
def slice (span : Span) (offset length : Nat) : Except FirmwareError (Array UInt8) :=
  match advance? offset length with
  | none => .error (.outOfBounds offset length)
  | some stop =>
    if stop < span.size then .ok (span.bytes.extract offset stop)
    else .error (.outOfBounds offset length)

/-- The byte at `offset`. -/
def byte (span : Span) (offset : Nat) : Except FirmwareError UInt8 :=
  match span.bytes[offset]? with
  | some byte => .ok byte
  | none => .error (.outOfBounds offset 1)

/-- The 16-bit integer at `offset`. -/
def word (span : Span) (offset : Nat) : Except FirmwareError UInt16 := do
  let low ← span.byte offset
  match advance? offset 1 with
  | none => .error (.outOfBounds offset 2)
  | some next =>
    let high ← span.byte next
    return wordOfBytes low high

/-- The 32-bit integer at `offset`. -/
def dword (span : Span) (offset : Nat) : Except FirmwareError UInt32 := do
  let low ← span.word offset
  match advance? offset 2 with
  | none => .error (.outOfBounds offset 4)
  | some next =>
    let high ← span.word next
    return dwordOfWords low high

/-- The table at `offset`. -/
def table (span : Span) (α : Type) [Layout α] (offset : Nat) : Except FirmwareError α :=
  if offset = 0 then .error .tableAbsent
  else (span.slice offset (Layout.size α)).map Layout.decode

end Span

end GpuI2c.Firmware
