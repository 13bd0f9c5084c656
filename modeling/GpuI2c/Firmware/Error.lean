import GpuI2c.Text

/-!
# Table revisions and firmware errors

Every firmware table starts with a format and a content revision byte. Only their lower six bits
count; the upper two are reserved. Revisions are ordered by format, then by content.

A firmware error says why an image could not be opened, parsed or queried; one of them names the
revision of a table.
-/

namespace GpuI2c.Firmware

/-! ## Revisions -/

/-- The revision of a table. -/
structure Revision where
  major : UInt8
  minor : UInt8
  deriving DecidableEq

namespace Revision

/-- The revision in the two revision bytes of a table header. -/
def ofHeader (format content : UInt8) : Revision :=
  ⟨format &&& 0x3F, content &&& 0x3F⟩

/-- The lexicographic order of revisions. -/
def le (a b : Revision) : Bool :=
  a.major < b.major || (a.major == b.major && a.minor ≤ b.minor)

/-- A revision as text: the two numbers with a point between them. -/
def text (revision : Revision) : String :=
  toString revision.major.toNat ++ "." ++ toString revision.minor.toNat

end Revision

/-! ## Errors -/

/-- Why a firmware query failed. -/
inductive FirmwareError where
  /-- One of the three signatures is missing. -/
  | notRecognized
  /-- The image declares more bytes than were mapped. -/
  | sizeMismatch (declared mapped : Nat)
  /-- A table offset is zero, which stands for a table that the image does not have. -/
  | tableAbsent
  /-- A fetch would reach the end of the declared image. -/
  | outOfBounds (offset size : Nat)
  /-- No layout is known for a table of this revision. -/
  | unsupportedVersion (revision : Revision)
  /-- The object tables do not hold the object. -/
  | objectNotFound
  /-- A table is there but its structure is broken. -/
  | badTable
  /-- A content revision or feature that is not handled. -/
  | unsupported
  /-- The record list ended without an I2C record. -/
  | noRecord
  deriving DecidableEq

/-- The name of the kind of a firmware error, without its details. -/
def FirmwareError.kind : FirmwareError → String
  | .notRecognized => "NotRecognized"
  | .sizeMismatch .. => "SizeMismatch"
  | .tableAbsent => "TableAbsent"
  | .outOfBounds .. => "OutOfBounds"
  | .unsupportedVersion _ => "UnsupportedVersion"
  | .objectNotFound => "BadInput"
  | .badTable => "BadBiosTable"
  | .unsupported => "Unsupported"
  | .noRecord => "NoRecord"

/-- The text of a firmware error. -/
def FirmwareError.message : FirmwareError → String
  | .notRecognized => "not an ATOM BIOS"
  | .sizeMismatch declared mapped =>
    "declared size " ++ toString declared ++ " exceeds mapped size " ++ toString mapped
  | .tableAbsent => "table absent"
  | .outOfBounds offset size =>
    toString size ++ " bytes at " ++ Text.markedHex offset ++ " out of bounds"
  | .unsupportedVersion revision => "unsupported table revision " ++ revision.text
  | .objectNotFound => "object not found"
  | .badTable => "bad BIOS table"
  | .unsupported => "unsupported BIOS table"
  | .noRecord => "no I2C record"

end GpuI2c.Firmware
