import GpuI2c.Register.Field

/-!
# Register blocks

Where a chip family keeps the eight registers of its I2C engine, by dword index.
-/

namespace GpuI2c.Chip

/-- The dword indices of the engine's registers, under the name of the block. -/
structure RegisterBlock where
  name : String
  control : UInt32
  interruptControl : UInt32
  status : UInt32
  speed : UInt32
  setup : UInt32
  transaction : UInt32
  data : UInt32
  pinSelection : UInt32
  deriving DecidableEq

namespace RegisterBlock

/-- The block of the Polaris chips and of Vega M. -/
def polaris : RegisterBlock where
  name := "polaris"
  control := 0x16f4
  interruptControl := 0x16f5
  status := 0x16f6
  speed := 0x16f7
  setup := 0x16f8
  transaction := 0x16f9
  data := 0x16fa
  pinSelection := 0x16fb

/-- The block of Navi 10. -/
def navi : RegisterBlock where
  name := "navi"
  control := 0x1eb8
  interruptControl := 0x1eb9
  status := 0x1eba
  speed := 0x1ebb
  setup := 0x1ebc
  transaction := 0x1ebd
  data := 0x1ebe
  pinSelection := 0x1ebf

/-- The registers of a block, under their short names. -/
def registers (block : RegisterBlock) : List (String × UInt32) :=
  [("control", block.control), ("interrupt_control", block.interruptControl),
   ("status", block.status), ("speed", block.speed), ("setup", block.setup),
   ("transaction", block.transaction), ("data", block.data),
   ("pin_selection", block.pinSelection)]

/-- The symbolic name of a register of the block, if the index is one of its eight. -/
def registerName? (block : RegisterBlock) (register : UInt32) : Option String :=
  if register = block.control then some "GENERIC_I2C_CONTROL"
  else if register = block.interruptControl then some "GENERIC_I2C_INTERRUPT_CONTROL"
  else if register = block.status then some "GENERIC_I2C_STATUS"
  else if register = block.speed then some "GENERIC_I2C_SPEED"
  else if register = block.setup then some "GENERIC_I2C_SETUP"
  else if register = block.transaction then some "GENERIC_I2C_TRANSACTION"
  else if register = block.data then some "GENERIC_I2C_DATA"
  else if register = block.pinSelection then some "GENERIC_I2C_PIN_SELECTION"
  else none

end RegisterBlock

end GpuI2c.Chip
