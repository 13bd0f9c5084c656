import GpuI2c.Firmware.Layout.Master

/-!
# Object tables

Legacy images describe connectors, encoders and other objects in tables of one kind each, whose
offsets are relative to an object header. Later images list display paths instead, each of which
names the objects along it. Either way an object points to a list of records.
-/

namespace GpuI2c.Firmware

open Layout (byteAt wordAt dwordAt)

/-- The object header of revisions 1.1 and 1.2. Table offsets are relative to the header. -/
structure ObjectHeader where
  header : TableHeader
  deviceSupport : UInt16
  connectorTable : UInt16
  routerTable : UInt16
  encoderTable : UInt16
  protectionTable : UInt16
  displayPathTable : UInt16
  deriving DecidableEq

/-- The object header in the first sixteen bytes of the table. -/
def ObjectHeader.ofBytes (bytes : Array UInt8) : ObjectHeader where
  header := .ofBytes bytes
  deviceSupport := wordAt bytes 4
  connectorTable := wordAt bytes 6
  routerTable := wordAt bytes 8
  encoderTable := wordAt bytes 10
  protectionTable := wordAt bytes 12
  displayPathTable := wordAt bytes 14

instance : Layout ObjectHeader := ⟨16, ObjectHeader.ofBytes⟩

/-- The object header from revision 1.3 on, which adds a table of generic objects. -/
structure ObjectHeaderWithMisc extends ObjectHeader where
  miscTable : UInt16
  deriving DecidableEq

instance : Layout ObjectHeaderWithMisc where
  size := 18
  decode bytes :=
    { toObjectHeader := .ofBytes bytes
      miscTable := wordAt bytes 16 }

/-- The display object info from revision 1.4 on; `numberOfPath` display paths follow it. -/
structure DisplayObjectInfo where
  header : TableHeader
  supportedDevices : UInt16
  numberOfPath : UInt8
  reserved : UInt8
  deriving DecidableEq

instance : Layout DisplayObjectInfo where
  size := 8
  decode bytes :=
    { header := .ofBytes bytes
      supportedDevices := wordAt bytes 4
      numberOfPath := byteAt bytes 6
      reserved := byteAt bytes 7 }

/-- A display path. -/
structure DisplayPath where
  /-- The id of a connector or generic object. -/
  displayObject : UInt16
  /-- Offset of the record list, relative to the display object info. -/
  displayRecordOffset : UInt16
  /-- The encoder next to the connector; zero for an unused path. -/
  encoderObject : UInt16
  extEncoderObject : UInt16
  encoderRecordOffset : UInt16
  extEncoderRecordOffset : UInt16
  deviceTag : UInt16
  priorityId : UInt8
  reserved : UInt8
  deriving DecidableEq

instance : Layout DisplayPath where
  size := 16
  decode bytes :=
    { displayObject := wordAt bytes 0
      displayRecordOffset := wordAt bytes 2
      encoderObject := wordAt bytes 4
      extEncoderObject := wordAt bytes 6
      encoderRecordOffset := wordAt bytes 8
      extEncoderRecordOffset := wordAt bytes 10
      deviceTag := wordAt bytes 12
      priorityId := byteAt bytes 14
      reserved := byteAt bytes 15 }

/-- The header of a legacy object table; `count` entries follow it. -/
structure ObjectTableHeader where
  count : UInt8
  padding : List UInt8
  deriving DecidableEq

instance : Layout ObjectTableHeader where
  size := 4
  decode bytes :=
    { count := byteAt bytes 0
      padding := [byteAt bytes 1, byteAt bytes 2, byteAt bytes 3] }

/-- An entry of a legacy object table. -/
structure ObjectEntry where
  objectId : UInt16
  srcDstTableOffset : UInt16
  /-- Offset of the record list, relative to the object header. -/
  recordOffset : UInt16
  reserved : UInt16
  deriving DecidableEq

instance : Layout ObjectEntry where
  size := 8
  decode bytes :=
    { objectId := wordAt bytes 0
      srcDstTableOffset := wordAt bytes 2
      recordOffset := wordAt bytes 4
      reserved := wordAt bytes 6 }

/-- The header of a record. -/
structure RecordHeader where
  recordType : UInt8
  /-- Size of the whole record, header included. -/
  recordSize : UInt8
  deriving DecidableEq

instance : Layout RecordHeader where
  size := 2
  decode bytes :=
    { recordType := byteAt bytes 0
      recordSize := byteAt bytes 1 }

/-- A record that names the I2C bus of an object. -/
structure I2cRecord where
  header : RecordHeader
  i2cId : UInt8
  /-- Zero where the bus is the display data channel of a connector. -/
  slaveAddress : UInt8
  deriving DecidableEq

instance : Layout I2cRecord where
  size := 4
  decode bytes :=
    { header := ⟨byteAt bytes 0, byteAt bytes 1⟩
      i2cId := byteAt bytes 2
      slaveAddress := byteAt bytes 3 }

end GpuI2c.Firmware
