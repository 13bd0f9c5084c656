import GpuI2c.Bus.Error
import GpuI2c.Chip.Fields

/-!
# Channel status

What the status register says about the transaction that was submitted last. The engine is busy
while its state field is not zero or no completion bit is set. Of several completion bits the
worst one counts: a stop on a missing acknowledge, a timeout, an abort, then success, and at last
a missing acknowledge alone.
-/

namespace GpuI2c.Bus

/-- How a transaction ended, or that it has not. -/
inductive ChannelStatus where
  | succeeded
  /-- The hardware aborted the transaction. -/
  | failed
  | engineBusy
  | timeout
  | noResponse
  deriving DecidableEq

namespace ChannelStatus

/-- The bits of which one is set once a transaction has ended. -/
def completionMask : UInt32 :=
  Chip.done.mask ||| Chip.aborted.mask ||| Chip.timeout.mask ||| Chip.stoppedOnNack.mask |||
    Chip.nack.mask

/-- Whether a raw status value says that the transaction is still going on. -/
def isBusy (raw : UInt32) : Bool :=
  Chip.status.extract raw != 0 || raw &&& completionMask == 0

/-- The status that a raw status value stands for. -/
def ofRaw (raw : UInt32) : ChannelStatus :=
  if isBusy raw then .engineBusy
  else if raw &&& Chip.stoppedOnNack.mask != 0 then .noResponse
  else if raw &&& Chip.timeout.mask != 0 then .timeout
  else if raw &&& Chip.aborted.mask != 0 then .failed
  else if raw &&& Chip.done.mask != 0 then .succeeded
  else .noResponse

/-- The name of a status. -/
def name : ChannelStatus → String
  | .succeeded => "Succeeded"
  | .failed => "Failed"
  | .engineBusy => "EngineBusy"
  | .timeout => "Timeout"
  | .noResponse => "NoResponse"

/-- The result of a transaction that ended with this status. -/
def toResult : ChannelStatus → Except BusError Unit
  | .succeeded => .ok ()
  | .failed => .error .aborted
  | .engineBusy => .error .engineBusy
  | .timeout => .error .timeout
  | .noResponse => .error .noResponse

end ChannelStatus

end GpuI2c.Bus
