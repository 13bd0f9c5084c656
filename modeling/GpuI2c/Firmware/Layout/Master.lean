import GpuI2c.Firmware.Span

/-!
# ROM header and master lists

The header that every table starts with, the ROM header, and the two layouts of the master list,
which holds the offsets of the data tables. An offset of zero stands for a missing table.
-/

namespace GpuI2c.Firmware

open Layout (byteAt wordAt dwordAt)

/-- The header of a table. -/
structure TableHeader where
  /-- Size of the table in bytes, header included. -/
  structureSize : UInt16
  formatRevision : UInt8
  contentRevision : UInt8
  deriving DecidableEq

/-- The header in the first four bytes of a table. -/
def TableHeader.ofBytes (bytes : Array UInt8) : TableHeader where
  structureSize := wordAt bytes 0
  formatRevision := byteAt bytes 2
  contentRevision := byteAt bytes 3

instance : Layout TableHeader := ⟨4, TableHeader.ofBytes⟩

/-- The revision in a table header. -/
def TableHeader.revision (header : TableHeader) : Revision :=
  .ofHeader header.formatRevision header.contentRevision

/-- The ROM header, in the layout of revision 2.2. Earlier revisions share every field that is
used. -/
structure RomHeader where
  header : TableHeader
  atomSignature : List UInt8
  biosSegmentAddress : UInt16
  protectedModeOffset : UInt16
  configFilenameOffset : UInt16
  crcBlockOffset : UInt16
  bootupMessageOffset : UInt16
  int10Offset : UInt16
  pciBusDevInitCode : UInt16
  ioBaseAddress : UInt16
  subsystemVendorId : UInt16
  subsystemId : UInt16
  pciInfoOffset : UInt16
  masterCommandTableOffset : UInt16
  masterDataTableOffset : UInt16
  reserved : UInt16
  pspDirTableOffset : UInt32
  deriving DecidableEq

instance : Layout RomHeader where
  size := 40
  decode bytes :=
    { header := .ofBytes bytes
      atomSignature := [byteAt bytes 4, byteAt bytes 5, byteAt bytes 6, byteAt bytes 7]
      biosSegmentAddress := wordAt bytes 8
      protectedModeOffset := wordAt bytes 10
      configFilenameOffset := wordAt bytes 12
      crcBlockOffset := wordAt bytes 14
      bootupMessageOffset := wordAt bytes 16
      int10Offset := wordAt bytes 18
      pciBusDevInitCode := wordAt bytes 20
      ioBaseAddress := wordAt bytes 22
      subsystemVendorId := wordAt bytes 24
      subsystemId := wordAt bytes 26
      pciInfoOffset := wordAt bytes 28
      masterCommandTableOffset := wordAt bytes 30
      masterDataTableOffset := wordAt bytes 32
      reserved := wordAt bytes 34
      pspDirTableOffset := dwordAt bytes 36 }

/-- The master list of revision 1.1, used by Polaris and Vega images. -/
structure LegacyMasterList where
  header : TableHeader
  utilityPipeline : UInt16
  firmwareInfo : UInt16
  gpioI2cInfo : UInt16
  vramUsageByFirmware : UInt16
  gpioPinLut : UInt16
  objectHeader : UInt16
  deriving DecidableEq

instance : Layout LegacyMasterList where
  size := 74
  decode bytes :=
    { header := .ofBytes bytes
      utilityPipeline := wordAt bytes 4
      firmwareInfo := wordAt bytes 12
      gpioI2cInfo := wordAt bytes 24
      vramUsageByFirmware := wordAt bytes 26
      gpioPinLut := wordAt bytes 28
      objectHeader := wordAt bytes 48 }

/-- The master list of revision 2.1, used by Navi images. -/
structure DisplayMasterList where
  header : TableHeader
  utilityPipeline : UInt16
  firmwareInfo : UInt16
  gpioPinLut : UInt16
  displayObjectInfo : UInt16
  dceInfo : UInt16
  deriving DecidableEq

instance : Layout DisplayMasterList where
  size := 74
  decode bytes :=
    { header := .ofBytes bytes
      utilityPipeline := wordAt bytes 4
      firmwareInfo := wordAt bytes 12
      gpioPinLut := wordAt bytes 28
      displayObjectInfo := wordAt bytes 48
      dceInfo := wordAt bytes 58 }

end GpuI2c.Firmware
