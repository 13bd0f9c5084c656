import GpuI2c.Firmware.Connectors
import GpuI2c.Firmware.Gpio

/-!
# Records of an object

An object points to a list of records, each of which says how long it is. The wiring of an object
is that of the first of its I2C records that resolves. The list ends at an end mark or at a record
of size zero; an I2C record that does not resolve is passed over, and its error is the answer if
no later one resolves.
-/

namespace GpuI2c.Firmware

/-- The type of an I2C record. -/
def i2cRecordType : UInt8 := 1

/-- The record type that ends a list. -/
def endRecordType : UInt8 := 0xFF

/-- A record header lies inside the span. -/
theorem Span.lt_size_of_recordHeader {span : Span} {offset : Nat} {header : RecordHeader}
    (h : span.table RecordHeader offset = .ok header) : offset + 2 < span.size := by
  unfold Span.table Span.slice advance? at h
  split at h
  · cases h
  · split at h
    · cases h
    · next stop hstop =>
      split at hstop
      · cases hstop
        split at h
        · next lt => exact lt
        · cases h
      · cases hstop

/-- The record after one of non-zero size is nearer to the end of the span. -/
theorem Span.sub_next_lt {span : Span} {offset : Nat} {header : RecordHeader}
    (h : span.table RecordHeader offset = .ok header) (size : header.recordSize ≠ 0) :
    span.size - (offset + header.recordSize.toNat) < span.size - offset := by
  have := Span.lt_size_of_recordHeader h
  have : header.recordSize.toNat ≠ 0 := fun zero => size (UInt8.toNat_inj.mp zero)
  omega

/-- The wiring of the first I2C record from `offset` on that resolves; `failure` is the error of
the last one that did not. -/
def Span.walkRecords (span : Span) (resolve : I2cRecord → Except FirmwareError Wiring)
    (offset : Nat) (failure : Option FirmwareError) : Except FirmwareError Wiring :=
  match h : span.table RecordHeader offset with
  | .error _ => .error .badTable
  | .ok header =>
    if stop : header.recordType = endRecordType ∨ header.recordSize = 0 then
      .error (failure.getD .noRecord)
    else
      let next := offset + header.recordSize.toNat
      have : span.size - next < span.size - offset :=
        Span.sub_next_lt h fun zero => stop (.inr zero)
      if header.recordType = i2cRecordType ∧ Layout.size I2cRecord ≤ header.recordSize.toNat then
        match span.table I2cRecord offset with
        | .error _ => .error .badTable
        | .ok record =>
          match resolve record with
          | .ok wiring => .ok wiring
          | .error error => span.walkRecords resolve next (some error)
      else span.walkRecords resolve next failure
termination_by span.size - offset

/-! ## Finding the object -/

/-- How far after the object header the table of a type of objects lies, if there is one. Generic
objects have a table from revision 1.3 on. -/
def LegacyObjects.tableFor? (objects : LegacyObjects) : ObjectType → Option UInt16
  | .connector => some objects.shared.connectorTable
  | .encoder => some objects.shared.encoderTable
  | .router => some objects.shared.routerTable
  | .generic =>
    match objects with
    | .withMisc header => some header.miscTable
    | .plain _ => none
  | .gpu | .unknown => none

/-- Where the records of an object of the legacy tables start. -/
def Span.legacyRecords (span : Span) (master : LegacyMasterList) (objects : LegacyObjects)
    (id : ObjectId) : Except FirmwareError Nat :=
  match objects.tableFor? id.objectType with
  | none => .error .objectNotFound
  | some distance =>
    match span.objectTable master distance with
    | .error _ => .error .objectNotFound
    | .ok (offset, header) =>
      let entries := (List.range header.count.toNat).filterMap fun index =>
        (span.objectEntry offset index).toOption
      match entries.find? fun entry => ObjectId.ofFirmware? entry.objectId = some id with
      | none => .error .objectNotFound
      | some entry => .ok (master.objectHeader.toNat + entry.recordOffset.toNat)

/-- The display path of an object. An encoder may also stand in the place of the connector. -/
def DisplayPath.find? (paths : List DisplayPath) (id : ObjectId) : Option DisplayPath :=
  let byEncoder := paths.find? fun path => ObjectId.ofFirmware? path.encoderObject = some id
  let byDisplay := paths.find? fun path => ObjectId.ofFirmware? path.displayObject = some id
  match id.objectType with
  | .encoder => byEncoder.or byDisplay
  | .connector | .generic => byDisplay
  | .gpu | .router | .unknown => none

/-- Where the records of an object on a display path start. -/
def Span.pathRecords (span : Span) (master : DisplayMasterList) (objects : DisplayObjectInfo)
    (id : ObjectId) : Except FirmwareError Nat :=
  match DisplayPath.find? (span.displayPaths master objects) id with
  | none => .error .objectNotFound
  | some path => .ok (master.displayObjectInfo.toNat + path.displayRecordOffset.toNat)

/-- The I2C wiring of an object. -/
def Context.i2cInfo (firmware : Context) (id : ObjectId) : Except FirmwareError Wiring :=
  let span := firmware.image.span
  match firmware.schema with
  | .objectTables master objects => do
    let records ← span.legacyRecords master objects id
    span.walkRecords (span.resolveLine master) records none
  | .displayPaths master objects => do
    let records ← span.pathRecords master objects id
    span.walkRecords (span.resolvePin master) records none

end GpuI2c.Firmware
