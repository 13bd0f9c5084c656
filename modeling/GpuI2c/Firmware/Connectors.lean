import GpuI2c.Firmware.Context
import GpuI2c.Firmware.ObjectId

/-!
# Connectors

The connectors that an image describes: the entries of its connector table, or its display paths
that have an encoder.
-/

namespace GpuI2c.Firmware

/-! ## Legacy object tables -/

/-- The object table `distance` bytes after the object header: its offset and its header. -/
def Span.objectTable (span : Span) (master : LegacyMasterList) (distance : UInt16) :
    Except FirmwareError (Nat × ObjectTableHeader) := do
  let offset := master.objectHeader.toNat + distance.toNat
  let header ← span.table ObjectTableHeader offset
  return (offset, header)

/-- The entry with the given index of the object table at `offset`. -/
def Span.objectEntry (span : Span) (offset index : Nat) : Except FirmwareError ObjectEntry :=
  span.table ObjectEntry
    (offset + Layout.size ObjectTableHeader + index * Layout.size ObjectEntry)

/-! ## Display paths -/

/-- The display path with the given index. -/
def Span.displayPath (span : Span) (master : DisplayMasterList) (index : Nat) :
    Except FirmwareError DisplayPath :=
  span.table DisplayPath
    (master.displayObjectInfo.toNat + Layout.size DisplayObjectInfo +
      index * Layout.size DisplayPath)

/-- The display paths that lie inside the image, in order. -/
def Span.displayPaths (span : Span) (master : DisplayMasterList) (objects : DisplayObjectInfo) :
    List DisplayPath :=
  (List.range objects.numberOfPath.toNat).filterMap fun index =>
    (span.displayPath master index).toOption

/-! ## Queries -/

/-- The number of connectors: the size of the connector table, zero without one, or the number of
display paths with an encoder. -/
def Context.connectorCount (firmware : Context) : Nat :=
  let span := firmware.image.span
  match firmware.schema with
  | .objectTables master objects =>
    match span.objectTable master objects.shared.connectorTable with
    | .ok (_, header) => header.count.toNat
    | .error _ => 0
  | .displayPaths master objects =>
    min 255 ((span.displayPaths master objects).countP fun path => path.encoderObject ≠ 0)

/-- The object id of the connector with the given index, if there is one and its id decodes. -/
def Context.connectorId? (firmware : Context) (index : Nat) : Option ObjectId :=
  let span := firmware.image.span
  match firmware.schema with
  | .objectTables master objects => do
    let (offset, header) ← (span.objectTable master objects.shared.connectorTable).toOption
    if index < header.count.toNat then
      let entry ← (span.objectEntry offset index).toOption
      ObjectId.ofFirmware? entry.objectId
    else none
  | .displayPaths master objects =>
    if index < objects.numberOfPath.toNat then do
      let path ← (span.displayPath master index).toOption
      if path.encoderObject = 0 ∨ path.displayObject = 0 then none
      else ObjectId.ofFirmware? path.displayObject
    else none

end GpuI2c.Firmware
