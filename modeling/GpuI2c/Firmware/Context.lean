import GpuI2c.Firmware.Image
import GpuI2c.Firmware.Layout.Objects

/-!
# Parsed firmware

The ROM header leads to the master list, and the master list to the object info. Two schemas
exist. ROM headers of revision 2.2 and up have the master list of revision 2.1 and display paths;
earlier ones have the master list of revision 1.1 and legacy object tables, whose header has one
more field from revision 1.3 on. Both layouts are chosen once, when the image is parsed.
-/

namespace GpuI2c.Firmware

/-- The object header of a legacy image. -/
inductive LegacyObjects where
  | plain (header : ObjectHeader)
  | withMisc (header : ObjectHeaderWithMisc)
  deriving DecidableEq

/-- The fields that both object headers have. -/
def LegacyObjects.shared : LegacyObjects → ObjectHeader
  | .plain header => header
  | .withMisc header => header.toObjectHeader

/-- The master list and object info of an image. -/
inductive Schema where
  | objectTables (master : LegacyMasterList) (objects : LegacyObjects)
  | displayPaths (master : DisplayMasterList) (objects : DisplayObjectInfo)
  deriving DecidableEq

/-- A parsed image. -/
structure Context where
  image : Image
  /-- The revision of the ROM header. -/
  revision : Revision
  objectRevision : Revision
  schema : Schema
  deriving DecidableEq

/-- Whether ROM headers of a revision lead to display paths. -/
def Revision.hasDisplayPaths (revision : Revision) : Bool :=
  2 ≤ revision.major && 2 ≤ revision.minor

/-- The display path schema below the master list at `offset`, with its object revision. -/
def Span.displayPathSchema (span : Span) (offset : Nat) :
    Except FirmwareError (Schema × Revision) := do
  let master ← span.table DisplayMasterList offset
  let objects ← span.table DisplayObjectInfo master.displayObjectInfo.toNat
  let revision := objects.header.revision
  if revision.major = 1 ∧ 4 ≤ revision.minor then
    return (.displayPaths master objects, revision)
  else .error (.unsupportedVersion revision)

/-- The legacy schema below the master list at `offset`, with its object revision. -/
def Span.objectTableSchema (span : Span) (offset : Nat) :
    Except FirmwareError (Schema × Revision) := do
  let master ← span.table LegacyMasterList offset
  let header ← span.table ObjectHeader master.objectHeader.toNat
  let revision := header.header.revision
  if revision.major = 1 ∧ 1 ≤ revision.minor then
    if revision.minor ≤ 2 then
      return (.objectTables master (.plain header), revision)
    else
      let extended ← span.table ObjectHeaderWithMisc master.objectHeader.toNat
      return (.objectTables master (.withMisc extended), revision)
  else .error (.unsupportedVersion revision)

/-- Open the image in the mapped bytes and find its schema. -/
def Context.ofBytes (mapped : Array UInt8) : Except FirmwareError Context := do
  let image ← Image.ofBytes mapped
  let romOffset ← image.span.word romHeaderPointer
  let rom ← image.span.table RomHeader romOffset.toNat
  let revision := rom.header.revision
  let masterOffset := rom.masterDataTableOffset.toNat
  let (schema, objectRevision) ←
    if revision.hasDisplayPaths then image.span.displayPathSchema masterOffset
    else image.span.objectTableSchema masterOffset
  return { image, revision, objectRevision, schema }

/-- The part number of the image. -/
def Context.name (firmware : Context) : String :=
  firmware.image.name

end GpuI2c.Firmware
