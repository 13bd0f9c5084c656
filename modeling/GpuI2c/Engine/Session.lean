import GpuI2c.Bus.Request
import GpuI2c.Bus.Status
import GpuI2c.Chip.Fields
import GpuI2c.Chip.RegisterBlock
import GpuI2c.Engine.Config
import GpuI2c.Register.Access
import GpuI2c.Text

/-!
# Engine sessions

The engine runs one transaction at a time: a transaction is programmed into its registers, started
by the GO bit, and polled until its status says how it ended. All this happens inside a session.
Opening one takes the engine lock, enables the engine and routes its pins. A session is shut down by
routing the pins away and by disabling and resetting the engine; it remembers that this was done.
When it is given up, it is shut down unless it was before, and releases the lock. To close a session
is to shut it down and then to give it up.

Each register access of a session is traced in the log, after the access.
-/

namespace GpuI2c

open Register (Field)
open Bus (BusError ChannelStatus Payload Request)

/-- An I2C engine: where its registers are, and its settings. -/
structure Engine where
  block : Chip.RegisterBlock
  config : Engine.Config
  deriving DecidableEq

namespace Engine

/-- An open session of an engine. -/
structure Session where
  /-- Whether it was shut down. -/
  closed : Bool
  deriving DecidableEq

/-! ## Traced access -/

/-- Log an access to a register with the value read or written. -/
def trace (engine : Engine) (verb : String) (register value : UInt32) : Program Unit :=
  let name := (engine.block.registerName? register).getD "?"
  Program.log .debug
    ("reg " ++ verb ++ " " ++ name ++ " (" ++ Text.markedPaddedHex 4 register.toNat ++ ") = " ++
      Text.markedPaddedHex 8 value.toNat)

/-- Read a register. -/
def read (engine : Engine) (register : UInt32) : Program UInt32 := do
  let value ← Register.read register
  engine.trace "read" register value
  return value

/-- Put `fields` in place in a register. -/
def update (engine : Engine) (register : UInt32) (fields : List Field) : Program Unit := do
  let value ← Register.update register fields
  engine.trace "write" register value

/-- Write a register that is zero but for `fields`. -/
def set (engine : Engine) (register : UInt32) (fields : List Field) : Program Unit := do
  let value ← Register.set register 0 fields
  engine.trace "write" register value

/-! ## Opening and closing -/

/-- Set the bus speed, if the clock divider is known. -/
def setSpeed (engine : Engine) : Program Unit :=
  match engine.config.prescale with
  | some divider =>
    engine.update engine.block.speed
      [Chip.prescale.holding divider.toUInt32, Chip.threshold.holding 2]
  | none => return ()

/-- Open a session. -/
def openSession (engine : Engine) : Program Session := do
  Program.give .lock
  engine.update engine.block.control [Chip.enable.holding 1]
  engine.update engine.block.pinSelection
    [Chip.clockPin.holding engine.config.clockPin.toUInt32,
     Chip.dataPin.holding engine.config.dataPin.toUInt32]
  engine.setSpeed
  return { closed := false }

/-- Shut a session down. The engine is disabled and its reset asserted in one write. -/
def shutdown (engine : Engine) (session : Session) : Program Session := do
  engine.update engine.block.pinSelection [Chip.clockPin.holding 0, Chip.dataPin.holding 0]
  engine.update engine.block.control [Chip.enable.holding 0, Chip.softReset.holding 1]
  engine.update engine.block.control [Chip.softReset.holding 0]
  return { session with closed := true }

/-- Give a session up: shut it down, unless that was done, and release the lock. -/
def dropSession (engine : Engine) (session : Session) : Program Unit := do
  let _ ← if session.closed then pure session else engine.shutdown session
  Program.give .unlock

/-- Close a session: shut it down, and give it up. -/
def closeSession (engine : Engine) (session : Session) : Program Unit := do
  let session ← engine.shutdown session
  engine.dropSession session

/-! ## Transactions -/

/-- Write bytes to the slots of the engine's buffer, from `slot` on. -/
def fillSlots (engine : Engine) (slot : UInt32) : List UInt8 → Program Unit
  | [] => return ()
  | byte :: rest => do
    engine.set engine.block.data [Chip.index.holding slot, Chip.data.holding byte.toUInt32]
    engine.fillSlots (slot + 1) rest

/-- Program a transaction and start it. The address byte goes to slot 0 of the buffer and the data
of a write to the slots after it. Refused if the number of bytes does not fit 32 bits. -/
def submit (engine : Engine) (request : Request) : Program (Except BusError Unit) :=
  if request.length < UInt32.size then do
    engine.update engine.block.transaction
      [Chip.readWrite.holding (if request.action.isRead then 1 else 0),
       Chip.stopOnNack.holding 1,
       Chip.ackOnRead.holding 0,
       Chip.start.holding 1,
       Chip.stop.holding 1,
       Chip.count.holding (UInt32.ofNat request.length)]
    engine.set engine.block.data
      [Chip.dataReadWrite.holding 0,
       Chip.data.holding request.addressByte.toUInt32,
       Chip.index.holding 0,
       Chip.indexWrite.holding 1]
    match request.payload with
    | .write data => engine.fillSlots 1 data
    | .empty | .read _ => pure ()
    engine.update engine.block.control [Chip.go.holding 1]
    return .ok ()
  else return .error .invalidInput

/-- Acknowledge that a transaction is done. -/
def acknowledge (engine : Engine) : Program Unit :=
  engine.update engine.block.interruptControl [Chip.doneAck.holding 1]

/-- Read the status until it is not busy, at most `polls` times, with a pause between two
reads. -/
def awaitStatus (engine : Engine) : Nat → Program ChannelStatus
  | 0 => return .timeout
  | polls + 1 => do
    let raw ← engine.read engine.block.status
    match ChannelStatus.ofRaw raw with
    | .engineBusy =>
      if polls ≠ 0 then Program.pause (.micros engine.config.pollDelay)
      engine.awaitStatus polls
    | status => return status

/-- Wait for the submitted transaction to end, and acknowledge it in any case. -/
def poll (engine : Engine) : Program ChannelStatus := do
  let status ← engine.awaitStatus engine.config.pollLimit
  engine.acknowledge
  return status

/-- Read `count` bytes from the engine's buffer; its index moves on with each read. -/
def drainSlots (engine : Engine) : Nat → Program (List UInt8)
  | 0 => return []
  | count + 1 => do
    let raw ← engine.read engine.block.data
    let rest ← engine.drainSlots count
    return (Chip.data.extract raw).toUInt8 :: rest

/-- Copy the bytes of a finished read out of the engine's buffer. Slot 0 holds the address byte,
so the data starts at slot 1. -/
def readReply (engine : Engine) (count : Nat) : Program (List UInt8) := do
  engine.set engine.block.data
    [Chip.dataReadWrite.holding 1, Chip.index.holding 1, Chip.indexWrite.holding 1]
  let bytes ← engine.drainSlots count
  engine.acknowledge
  return bytes

/-- Collect the reply of a transaction that succeeded: the payload, its buffer filled. -/
def collect (engine : Engine) : Payload → Program Payload
  | .read buffer => do
    let bytes ← engine.readReply buffer.length
    return .read bytes
  | payload => return payload

/-- Submit a transaction, wait for it, and collect the reply if it is a read. Returns how it ended
and the payload after it. -/
def transact (engine : Engine) (request : Request) : Program (Except BusError Unit × Payload) := do
  match ← engine.submit request with
  | .error error => return (.error error, request.payload)
  | .ok () =>
    let status ← engine.poll
    match status.toResult with
    | .error error => return (.error error, request.payload)
    | .ok () =>
      let payload ← engine.collect request.payload
      return (.ok (), payload)

/-- Do the transaction of a request that may have been refused when it was made. -/
def transact? (engine : Engine) :
    Except BusError Request → Program (Except BusError Unit × Option Payload)
  | .error error => return (.error error, none)
  | .ok request => do
    let (result, payload) ← engine.transact request
    return (result, some payload)

/-- Log a line while no session is open, under the engine lock. -/
def logIdle (level : LogLevel) (text : String) : Program Unit := do
  Program.give .lock
  Program.log level text
  Program.give .unlock

end Engine

end GpuI2c
