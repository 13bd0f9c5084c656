import GpuI2c.Program
import GpuI2c.Register.Field

/-!
# Register access

Reads, writes and masked updates of registers named by dword index, and waiting for a field to
reach a value.
-/

namespace GpuI2c.Register

/-- Read a register. -/
def read (register : UInt32) : Program UInt32 :=
  .read register .done

/-- Write a register. -/
def write (register value : UInt32) : Program Unit :=
  .give (.write register value)

/-- Read a register and write it back with `fields` in place; returns the value written. -/
def update (register : UInt32) (fields : List Field) : Program UInt32 := do
  let current ← read register
  let updated := (Batch.ofFields fields).apply current
  write register updated
  return updated

/-- Write `initial` with `fields` in place, without a read; returns the value written. -/
def set (register initial : UInt32) (fields : List Field) : Program UInt32 := do
  let updated := (Batch.ofFields fields).apply initial
  write register updated
  return updated

/-- Read a register once; returns the raw value and `fields` with the values they have in it. -/
def get (register : UInt32) (fields : List Field) : Program (UInt32 × List Field) := do
  let raw ← read register
  return (raw, fields.map (Field.reading raw))

/-- The awaited field never reached its value. -/
structure WaitTimeout where
  /-- The last raw value that was read; zero if there was none. -/
  last : UInt32
  deriving DecidableEq

/-- The pause between two reads that are `micros` microseconds apart: whole milliseconds from one
millisecond on. -/
def pauseBetween (micros : Nat) : Pause :=
  if micros ≥ 1000 then .millis (micros / 1000) else .micros micros

/-- `wait` with the number of reads that are left and the value read last. -/
def waitFrom (register : UInt32) (field : Field) (micros : Nat) :
    Nat → UInt32 → Program (Except WaitTimeout UInt32)
  | 0, last => return .error ⟨last⟩
  | attempts + 1, _ => do
    let raw ← read register
    if field.extract raw = field.value then
      return .ok raw
    else
      if attempts ≠ 0 then Program.pause (pauseBetween micros)
      waitFrom register field micros attempts raw

/-- Read a register until `field` has its value, `attempts` times at most, with a pause of
`micros` microseconds between two reads. -/
def wait (register : UInt32) (field : Field) (attempts micros : Nat) :
    Program (Except WaitTimeout UInt32) :=
  waitFrom register field micros attempts 0

end GpuI2c.Register
