import GpuI2c.Firmware.Context
import GpuI2c.Firmware.Layout.Clocks

/-!
# Reference clock

The crystal behind the engine's clock. Revisions 1 and 2 of the firmware info table hold it
themselves; from revision 3 on it is in the display controller info, which only images with the
master list of revision 2.1 have.
-/

namespace GpuI2c.Firmware

/-- The offset of the firmware info table. -/
def Schema.firmwareInfo : Schema → UInt16
  | .objectTables master _ => master.firmwareInfo
  | .displayPaths master _ => master.firmwareInfo

/-- The reference clock in units of 10 kHz, from the firmware info of the given revision at
`offset`. -/
def Context.referenceClock (firmware : Context) (offset : Nat) (revision : Revision) :
    Except FirmwareError UInt16 :=
  let span := firmware.image.span
  if revision.major = 1 ∧ 1 ≤ revision.minor ∧ revision.minor ≤ 4 then
    return (← span.table FirmwareInfo1 offset).referenceClock
  else if revision.major = 2 ∧ revision.minor = 1 then
    return (← span.table FirmwareInfo21 offset).coreReferenceClock
  else if revision.major = 2 ∧ revision.minor = 2 then
    return (← span.table FirmwareInfo22 offset).coreReferenceClock
  else if revision.major = 3 ∧ 1 ≤ revision.minor ∧ revision.minor ≤ 3 then
    match firmware.schema with
    | .objectTables .. => .error .unsupported
    | .displayPaths master _ =>
      return (← span.table DisplayControllerInfo master.dceInfo.toNat).dceRefclk10khz
  else .error (.unsupportedVersion revision)

/-- The reference clock in kHz. -/
def Context.crystalFrequency (firmware : Context) : Except FirmwareError Nat := do
  let offset := firmware.schema.firmwareInfo.toNat
  let header ← firmware.image.span.table TableHeader offset
  let clock ← firmware.referenceClock offset header.revision
  return clock.toNat * 10

end GpuI2c.Firmware
