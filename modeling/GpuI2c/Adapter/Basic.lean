import GpuI2c.Adapter.Direct
import GpuI2c.Adapter.Framed

/-!
# Bus adapters

An adapter offers the I2C bus of a graphics board as transfers of messages. The chip family
decides which kind of adapter a board gets.

Beside whole transfers there are the calls of a generic I2C bus: a read, a write, a write followed
by a read, and a transaction of several operations, all at one address.
-/

namespace GpuI2c

open Bus (Message)

/-! ## Errors -/

/-- Why an adapter could not be built or used. -/
inductive AdapterError where
  /-- The firmware image could not be parsed or queried. -/
  | firmware (cause : Firmware.FirmwareError)
  /-- A bus transfer failed. -/
  | bus (cause : Bus.BusError)
  /-- No device is in the table of supported boards. -/
  | deviceNotFound
  /-- The board is known, but the place of its I2C engine is not. -/
  | unsupportedFamily (family : Chip.Family)
  deriving DecidableEq

namespace AdapterError

/-- The name of the kind of an adapter error, after that of the layer it comes from. -/
def kind : AdapterError → String
  | .firmware cause => "Firmware." ++ cause.kind
  | .bus cause => "I2c." ++ cause.kind
  | .deviceNotFound => "DeviceNotFound"
  | .unsupportedFamily _ => "UnsupportedAsic"

/-- The text of an adapter error. -/
def message : AdapterError → String
  | .firmware cause => "firmware: " ++ cause.message
  | .bus cause => "i2c: " ++ cause.message
  | .deviceNotFound => "no supported GPU found"
  | .unsupportedFamily family => "unsupported ASIC " ++ family.name

/-- The class of an adapter error. -/
def errorClass : AdapterError → Bus.ErrorClass
  | .bus cause => cause.errorClass
  | .firmware _ | .deviceNotFound | .unsupportedFamily _ => .other

end AdapterError

/-! ## Adapters -/

/-- An adapter for the bus of a board. -/
inductive Adapter where
  | framed (adapter : FramedAdapter)
  | direct (adapter : DirectAdapter)
  deriving DecidableEq

/-- A read or a write within a transaction at one address. -/
inductive Operation where
  | read (buffer : List UInt8)
  | write (data : List UInt8)
  deriving DecidableEq

/-- The message of an operation at an address. -/
def Operation.toMessage (address : UInt8) : Operation → Message
  | .read buffer => .read address buffer
  | .write data => .write address data

namespace Adapter

def engine : Adapter → Engine
  | .framed adapter => adapter.engine
  | .direct adapter => adapter.engine

def profile : Adapter → Chip.Profile
  | .framed adapter => adapter.profile
  | .direct adapter => adapter.profile

/-- The parsed firmware of a framed adapter. -/
def firmware? : Adapter → Option Firmware.Context
  | .framed adapter => some adapter.firmware
  | .direct _ => none

/-- Run messages as one bus transfer. Returns the number of messages, or why the transfer failed,
and the messages with the buffers that were filled. -/
def transfer (adapter : Adapter) (messages : List Message) :
    Program (Except AdapterError Nat × List Message) := do
  let (result, filled) ←
    match adapter with
    | .framed adapter => adapter.transfer messages
    | .direct adapter => adapter.transfer messages
  return (result.mapError .bus, filled)

/-! ## Calls of a generic bus -/

/-- Run messages as one transfer; the result does not count them. -/
def complete (adapter : Adapter) (messages : List Message) :
    Program (Except AdapterError Unit × List Message) := do
  let (result, filled) ← adapter.transfer messages
  return (result.map fun _ => (), filled)

/-- Read from an address. -/
def read (adapter : Adapter) (address : UInt8) (buffer : List UInt8) :
    Program (Except AdapterError Unit × List Message) :=
  adapter.complete [.read address buffer]

/-- Write to an address. -/
def write (adapter : Adapter) (address : UInt8) (data : List UInt8) :
    Program (Except AdapterError Unit × List Message) :=
  adapter.complete [.write address data]

/-- Write to an address, then read from it. -/
def writeRead (adapter : Adapter) (address : UInt8) (data buffer : List UInt8) :
    Program (Except AdapterError Unit × List Message) :=
  adapter.complete [.write address data, .read address buffer]

/-- The most operations of one transaction. -/
def maxOperations : Nat := 8

/-- Do several operations at one address as one transfer. -/
def transaction (adapter : Adapter) (address : UInt8) (operations : List Operation) :
    Program (Except AdapterError Unit × List Message) := do
  let messages := operations.map (Operation.toMessage address)
  if messages.length > maxOperations then
    Program.log .warn
      ("transaction of " ++ toString messages.length ++ " operations exceeds " ++
        toString maxOperations)
    return (.error (.bus .invalidInput), messages)
  else adapter.complete messages

end Adapter

end GpuI2c
