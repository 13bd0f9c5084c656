import GpuI2c.Chip.Family

/-!
# Supported boards

Graphics boards are told apart by the four identifiers of their PCI function. All four must match
an entry of the table.
-/

namespace GpuI2c

/-- The identity of a PCI function. -/
structure PciDevice where
  vendor : UInt16
  device : UInt16
  subsystemVendor : UInt16
  subsystemDevice : UInt16
  deriving DecidableEq

/-- A supported board. -/
structure Board where
  id : PciDevice
  family : Chip.Family
  name : String
  deriving DecidableEq

namespace Board

/-- The vendor of the supported chips. -/
def chipVendor : UInt16 := 0x1002

/-- The vendor of the supported boards. -/
def boardVendor : UInt16 := 0x1043

/-- The supported boards. -/
def table : List Board :=
  [⟨⟨chipVendor, 0x67df, boardVendor, 0x0517⟩, .polaris10, "ROG STRIX RX 580"⟩,
   ⟨⟨chipVendor, 0x687f, boardVendor, 0x0555⟩, .vega10, "ROG STRIX RX VEGA 56"⟩,
   ⟨⟨chipVendor, 0x687f, boardVendor, 0x04c4⟩, .vega10, "ROG STRIX RX VEGA 64"⟩,
   ⟨⟨chipVendor, 0x731f, boardVendor, 0x04e2⟩, .navi10, "ROG STRIX RX 5700 XT"⟩]

/-- The board with the given identity. -/
def find? (id : PciDevice) : Option Board :=
  table.find? fun board => board.id = id

/-- The first device that is a supported board, with its table entry. -/
def firstSupported? (devices : List PciDevice) : Option (PciDevice × Board) :=
  devices.findSome? fun device => (find? device).map fun board => (device, board)

end Board

end GpuI2c
