import GpuI2c.Firmware.Layout.Master

/-!
# Clock tables

The tables that hold the reference clock, in units of 10 kHz. The revisions of the firmware info
table differ in what follows the clock, so also in size.
-/

namespace GpuI2c.Firmware

open Layout (wordAt dwordAt)

/-- The firmware info table of revisions 1.1 to 1.4. -/
structure FirmwareInfo1 where
  header : TableHeader
  firmwareRevision : UInt32
  /-- In units of 10 kHz. -/
  referenceClock : UInt16
  deriving DecidableEq

instance : Layout FirmwareInfo1 where
  size := 89
  decode bytes :=
    { header := .ofBytes bytes
      firmwareRevision := dwordAt bytes 4
      referenceClock := wordAt bytes 82 }

/-- The fields that the firmware info tables of revisions 2.1 and 2.2 share. -/
structure FirmwareInfo2 where
  header : TableHeader
  firmwareRevision : UInt32
  /-- In units of 10 kHz. -/
  coreReferenceClock : UInt16
  memoryReferenceClock : UInt16
  deriving DecidableEq

/-- The shared fields, at the places they have in both revisions. -/
def FirmwareInfo2.ofBytes (bytes : Array UInt8) : FirmwareInfo2 where
  header := .ofBytes bytes
  firmwareRevision := dwordAt bytes 4
  coreReferenceClock := wordAt bytes 82
  memoryReferenceClock := wordAt bytes 84

/-- The firmware info table of revision 2.1. -/
structure FirmwareInfo21 extends FirmwareInfo2
  deriving DecidableEq

instance : Layout FirmwareInfo21 := ⟨92, fun bytes => ⟨.ofBytes bytes⟩⟩

/-- The firmware info table of revision 2.2. -/
structure FirmwareInfo22 extends FirmwareInfo2
  deriving DecidableEq

instance : Layout FirmwareInfo22 := ⟨108, fun bytes => ⟨.ofBytes bytes⟩⟩

/-- The display controller info table of revision 4.1. -/
structure DisplayControllerInfo where
  header : TableHeader
  displayCaps : UInt32
  bootupDispclk10khz : UInt32
  /-- In units of 10 kHz. -/
  dceRefclk10khz : UInt16
  i2cEngineRefclk10khz : UInt16
  deriving DecidableEq

instance : Layout DisplayControllerInfo where
  size := 56
  decode bytes :=
    { header := .ofBytes bytes
      displayCaps := dwordAt bytes 4
      bootupDispclk10khz := dwordAt bytes 8
      dceRefclk10khz := wordAt bytes 12
      i2cEngineRefclk10khz := wordAt bytes 14 }

end GpuI2c.Firmware
