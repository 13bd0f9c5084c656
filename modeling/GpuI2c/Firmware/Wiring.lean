import GpuI2c.Firmware.Layout.Gpio

/-!
# Bus wiring

The I2C line of a display object, and the GPIO registers and bits behind it. A line is named by
one id byte: the line number in its lower four bits, the engine in the next three, and in the top
bit whether the hardware engine can drive it.
-/

namespace GpuI2c.Firmware

/-- The register and bit of one GPIO signal. -/
structure GpioLine where
  register : UInt32 := 0
  shift : UInt8 := 0
  mask : UInt32 := 0
  deriving DecidableEq

/-- The signal at bit `shift` of a register. A shift that leaves the register has an empty
mask. -/
def GpioLine.ofShift (register : UInt32) (shift : UInt8) : GpioLine where
  register
  shift
  mask := if shift < 32 then 1 <<< shift.toUInt32 else 0

/-- The GPIO signals of the clock and data pins. -/
structure GpioPins where
  clkMask : GpioLine := {}
  clkEn : GpioLine := {}
  clkY : GpioLine := {}
  clkA : GpioLine := {}
  dataMask : GpioLine := {}
  dataEn : GpioLine := {}
  dataY : GpioLine := {}
  dataA : GpioLine := {}
  deriving DecidableEq

/-- The signals that an entry of the legacy GPIO table describes. -/
def GpioPins.ofAssignment (pins : GpioAssignment) : GpioPins where
  clkMask := .ofShift pins.clkMaskRegister.toUInt32 pins.clkMaskShift
  clkEn := .ofShift pins.clkEnRegister.toUInt32 pins.clkEnShift
  clkY := .ofShift pins.clkYRegister.toUInt32 pins.clkYShift
  clkA := .ofShift pins.clkARegister.toUInt32 pins.clkAShift
  dataMask := .ofShift pins.dataMaskRegister.toUInt32 pins.dataMaskShift
  dataEn := .ofShift pins.dataEnRegister.toUInt32 pins.dataEnShift
  dataY := .ofShift pins.dataYRegister.toUInt32 pins.dataYShift
  dataA := .ofShift pins.dataARegister.toUInt32 pins.dataAShift

/-- The signals that an entry of the pin look-up table describes: the A register of the clock
pin alone. -/
def GpioPins.ofPin (pin : PinAssignment) : GpioPins where
  clkA := .ofShift pin.dataARegIndex pin.gpioBitshift

/-- The I2C wiring of a display object. -/
structure Wiring where
  /-- The GPIO line, an index of the pin multiplexer. -/
  line : UInt8
  /-- Whether the hardware engine can drive the line. -/
  hwAssist : Bool
  engine : UInt8
  slaveAddress : UInt8
  gpio : GpioPins
  deriving DecidableEq

/-- The bits of the line number in an id byte. -/
def lineMask : UInt8 :=
  0x0F

/-- The bits of the engine in an id byte. -/
def engineMask : UInt8 :=
  0x70

/-- The bit of an id byte that says whether the hardware engine can drive the line. -/
def hwCapable : UInt8 :=
  0x80

/-- The line number in an id byte. -/
def lineOfId (i2cId : UInt8) : UInt8 :=
  i2cId &&& lineMask

/-- The wiring that an id byte names. -/
def Wiring.ofId (i2cId slaveAddress : UInt8) (gpio : GpioPins) : Wiring where
  line := lineOfId i2cId
  hwAssist := i2cId &&& hwCapable != 0
  engine := (i2cId &&& engineMask) >>> 4
  slaveAddress
  gpio

end GpuI2c.Firmware
