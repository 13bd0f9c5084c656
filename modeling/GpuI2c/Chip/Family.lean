import GpuI2c.Chip.RegisterBlock

/-!
# Chip families

Which register block a family has, if its place is known, and how a bus adapter drives it.
-/

namespace GpuI2c.Chip

/-- A family of graphics chips. -/
inductive Family where
  | polaris10
  | polaris11
  | polaris12
  | vegaM
  | vega10
  | vega12
  | vega20
  | navi10
  deriving DecidableEq

namespace Family

/-- All families. -/
def all : List Family :=
  [.polaris10, .polaris11, .polaris12, .vegaM, .vega10, .vega12, .vega20, .navi10]

/-- The name of a family in messages. -/
def name : Family → String
  | .polaris10 => "Polaris10"
  | .polaris11 => "Polaris11"
  | .polaris12 => "Polaris12"
  | .vegaM => "VegaM"
  | .vega10 => "Vega10"
  | .vega12 => "Vega12"
  | .vega20 => "Vega20"
  | .navi10 => "Navi10"

/-- The register block of a family. On Vega 10, 12 and 20 the engine sits behind an aperture whose
place is not known. -/
def registerBlock? : Family → Option RegisterBlock
  | .polaris10 | .polaris11 | .polaris12 | .vegaM => some .polaris
  | .vega10 | .vega12 | .vega20 => none
  | .navi10 => some .navi

end Family

/-- How bus transfers become transactions of the engine. -/
inductive DriveMode where
  /-- The firmware tables describe the wiring, and a transfer is framed as an access to the
  numbered registers of a device: an offset byte, then data. -/
  | firmwareTable
  /-- Every message is one transaction. -/
  | directRegister
  deriving DecidableEq

/-- The name of a drive mode. -/
def DriveMode.name : DriveMode → String
  | .firmwareTable => "FirmwareTable"
  | .directRegister => "DirectRegister"

/-- The GPIO line of the bus that the lighting controller sits on. -/
def lightingBusLine : UInt8 := 6

/-- How a chip family is driven. -/
structure Profile where
  family : Family
  driveMode : DriveMode
  /-- The GPIO line of the bus. -/
  busLine : UInt8
  /-- Whether the device at the other end advances its register offset with every data byte, so
  that consecutive bytes may share one transaction. -/
  registerAutoIncrement : Bool
  deriving DecidableEq

/-- The profile of a family. -/
def Family.profile (family : Family) : Profile where
  family
  driveMode :=
    match family with
    | .navi10 => .directRegister
    | _ => .firmwareTable
  busLine := lightingBusLine
  registerAutoIncrement := false

end GpuI2c.Chip
