import GpuI2c.Firmware.Context
import GpuI2c.Firmware.Wiring

/-!
# GPIO resolution

The legacy GPIO table is indexed by line; the pin look-up table is searched for an id byte. Both
are tables of fixed-size entries whose number follows from the size in the table header. Only
content revision 1 is known.
-/

namespace GpuI2c.Firmware

/-- The number of entries of the table at `offset`, each of `entrySize` bytes. There is at least
one. -/
def Span.entryCount (span : Span) (offset entrySize : Nat) : Except FirmwareError Nat :=
  match span.table TableHeader offset with
  | .error _ => .error .badTable
  | .ok header =>
    let size := header.structureSize.toNat
    if Layout.size TableHeader + entrySize > size then .error .badTable
    else if header.contentRevision ≠ 1 then .error .unsupported
    else .ok ((size - Layout.size TableHeader) / entrySize)

/-- The legacy GPIO entry of a line. -/
def Span.gpioAssignment (span : Span) (master : LegacyMasterList) (line : UInt8) :
    Except FirmwareError GpioAssignment := do
  let offset := master.gpioI2cInfo.toNat
  let entrySize := Layout.size GpioAssignment
  let count ← span.entryCount offset entrySize
  if line.toNat < count then
    match span.table GpioAssignment
        (offset + Layout.size TableHeader + line.toNat * entrySize) with
    | .ok assignment => return assignment
    | .error _ => .error .badTable
  else .error .badTable

/-- The wiring of an I2C record through the legacy GPIO table. -/
def Span.resolveLine (span : Span) (master : LegacyMasterList) (record : I2cRecord) :
    Except FirmwareError Wiring := do
  let assignment ← span.gpioAssignment master (lineOfId record.i2cId)
  return .ofId record.i2cId record.slaveAddress (.ofAssignment assignment)

/-- The entries of the pin look-up table at `offset` that lie inside the image, of the first
`count`. -/
def Span.pinAssignments (span : Span) (offset count : Nat) : List PinAssignment :=
  (List.range count).filterMap fun index =>
    (span.table PinAssignment
      (offset + Layout.size TableHeader + index * Layout.size PinAssignment)).toOption

/-- The bits of an id byte by which pins are told apart: all that mean anything. -/
def pinKey : UInt8 :=
  hwCapable ||| engineMask ||| lineMask

/-- The wiring of an I2C record through the pin look-up table. -/
def Span.resolvePin (span : Span) (master : DisplayMasterList) (record : I2cRecord) :
    Except FirmwareError Wiring := do
  let offset := master.gpioPinLut.toNat
  let count ← span.entryCount offset (Layout.size PinAssignment)
  match (span.pinAssignments offset count).find? fun pin =>
      pin.gpioId &&& pinKey = record.i2cId &&& pinKey with
  | some pin => return .ofId record.i2cId record.slaveAddress (.ofPin pin)
  | none => .error .badTable

/-- The wiring of a GPIO line, as the line's own entry describes it. -/
def Context.gpioInfo (firmware : Context) (line : UInt8) : Except FirmwareError Wiring :=
  match firmware.schema with
  | .objectTables master _ => do
    let assignment ← firmware.image.span.gpioAssignment master line
    return .ofId assignment.i2cId 0 (.ofAssignment assignment)
  | .displayPaths .. => .error .unsupported

end GpuI2c.Firmware
