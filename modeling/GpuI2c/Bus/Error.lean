/-!
# Bus errors

Why a bus transfer failed, and the coarse classes that generic device drivers tell apart.
-/

namespace GpuI2c.Bus

/-- Why a transaction or transfer failed. -/
inductive BusError where
  /-- The caller asked for something that the engine cannot express. -/
  | invalidInput
  /-- The engine never left its busy state. -/
  | engineBusy
  /-- The polls ran out, or the hardware flagged a bus timeout. -/
  | timeout
  /-- No device acknowledged. -/
  | noResponse
  /-- The hardware aborted the transaction. -/
  | aborted
  /-- The adapter does not support this pattern of messages. -/
  | unsupported
  deriving DecidableEq

namespace BusError

/-- All bus errors. -/
def all : List BusError :=
  [.invalidInput, .engineBusy, .timeout, .noResponse, .aborted, .unsupported]

/-- The name of a bus error. -/
def kind : BusError → String
  | .invalidInput => "InvalidInput"
  | .engineBusy => "EngineBusy"
  | .timeout => "Timeout"
  | .noResponse => "NoResponse"
  | .aborted => "Aborted"
  | .unsupported => "Unsupported"

/-- The text of a bus error. -/
def message : BusError → String
  | .invalidInput => "invalid input"
  | .engineBusy => "engine busy"
  | .timeout => "timeout"
  | .noResponse => "no response"
  | .aborted => "aborted"
  | .unsupported => "unsupported transfer"

end BusError

/-- The classes of errors that drivers for any I2C bus can tell apart. -/
inductive ErrorClass where
  /-- No acknowledge; whether of the address or of data is unknown. -/
  | noAcknowledge
  /-- A fault of the bus itself. -/
  | bus
  | other
  deriving DecidableEq

/-- The name of an error class. -/
def ErrorClass.name : ErrorClass → String
  | .noAcknowledge => "NoAcknowledge(Unknown)"
  | .bus => "Bus"
  | .other => "Other"

/-- The class of a bus error. -/
def BusError.errorClass : BusError → ErrorClass
  | .noResponse => .noAcknowledge
  | .aborted => .bus
  | .invalidInput | .engineBusy | .timeout | .unsupported => .other

end GpuI2c.Bus
