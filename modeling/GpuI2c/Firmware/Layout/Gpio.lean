import GpuI2c.Firmware.Layout.Master

/-!
# GPIO tables

Entries of the two tables that say which GPIO registers and bits carry an I2C bus.
-/

namespace GpuI2c.Firmware

open Layout (byteAt wordAt dwordAt)

/-- An entry of the legacy GPIO table: the registers and bits behind one I2C line. -/
structure GpioAssignment where
  clkMaskRegister : UInt16
  clkEnRegister : UInt16
  clkYRegister : UInt16
  clkARegister : UInt16
  dataMaskRegister : UInt16
  dataEnRegister : UInt16
  dataYRegister : UInt16
  dataARegister : UInt16
  i2cId : UInt8
  clkMaskShift : UInt8
  clkEnShift : UInt8
  clkYShift : UInt8
  clkAShift : UInt8
  dataMaskShift : UInt8
  dataEnShift : UInt8
  dataYShift : UInt8
  dataAShift : UInt8
  reserved : List UInt8
  deriving DecidableEq

instance : Layout GpioAssignment where
  size := 27
  decode bytes :=
    { clkMaskRegister := wordAt bytes 0
      clkEnRegister := wordAt bytes 2
      clkYRegister := wordAt bytes 4
      clkARegister := wordAt bytes 6
      dataMaskRegister := wordAt bytes 8
      dataEnRegister := wordAt bytes 10
      dataYRegister := wordAt bytes 12
      dataARegister := wordAt bytes 14
      i2cId := byteAt bytes 16
      clkMaskShift := byteAt bytes 17
      clkEnShift := byteAt bytes 18
      clkYShift := byteAt bytes 19
      clkAShift := byteAt bytes 20
      dataMaskShift := byteAt bytes 21
      dataEnShift := byteAt bytes 22
      dataYShift := byteAt bytes 23
      dataAShift := byteAt bytes 24
      reserved := [byteAt bytes 25, byteAt bytes 26] }

/-- An entry of the pin look-up table: the A register and bit of one pin pair. -/
structure PinAssignment where
  dataARegIndex : UInt32
  gpioBitshift : UInt8
  gpioMaskBitshift : UInt8
  gpioId : UInt8
  reserved : UInt8
  deriving DecidableEq

instance : Layout PinAssignment where
  size := 8
  decode bytes :=
    { dataARegIndex := dwordAt bytes 0
      gpioBitshift := byteAt bytes 4
      gpioMaskBitshift := byteAt bytes 5
      gpioId := byteAt bytes 6
      reserved := byteAt bytes 7 }

end GpuI2c.Firmware
